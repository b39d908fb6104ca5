import ClusterUpgrade.Http.DomainName.Direction
import ClusterUpgrade.Http.DomainName.Joining
import ClusterUpgrade.Http.DomainName.Mapping
import ClusterUpgrade.Http.DomainName.Punycode

/-!
Domain names. A name may be written in any script; `ascii?` gives the form that it has in a URL,
where labels with other characters are spelled in ASCII.
-/

namespace ClusterUpgrade.Http.DomainName

/-- The characters that no name holds. -/
def isForbidden (c : Char) : Bool :=
  c.toNat ≤ 0x20 || c.toNat = 0x7f || "#/:<>?@[\\]^|%".toList.contains c

def isAscii (label : List Char) : Bool := label.all (·.toNat < 0x80)

/-- What a label that is spelled in ASCII starts with. -/
def spelledMark : List Char := ['x', 'n', '-', '-']

/-- The longest label in any script that is spelled, and the longest spelling that is read. -/
def greatestLength : Nat := 1000
def greatestSpelling : Nat := 2000

/-- Whether a label is one that others stand for. -/
def isPlain (label : List Char) : Bool :=
  label.all (fun c => mapped? c == some [c]) && Text.Composition.composed label == label

/-- The label itself, in place of its spelling in ASCII, which is only used where it is needed. -/
def unspelled? (label : List Char) : Option (List Char) :=
  match Text.dropPrefix? spelledMark label with
  | none => some label
  | some spelling => do
    let label ← if spelling.length ≤ greatestSpelling then Punycode.decode? spelling else none
    if !isAscii label && isPlain label then some label else none

def spelled? (label : List Char) : Option (List Char) :=
  if isAscii label then some label
  else if label.length ≤ greatestLength then some (spelledMark ++ Punycode.encode label)
  else none

/-- Whether a label may stand in a name: it does not start with a mark. -/
def isLabel (label : List Char) : Bool :=
  !label.head?.any Text.isMark && joinersHaveEffect [] label

/-- Whether the labels of a name keep their order, if any is written from right to left. -/
def isOrdered (labels : List (List Char)) : Bool :=
  let directions := labels.map (·.map Direction.ofChar)
  !directions.any (·.any Direction.isRightToLeft) || directions.all Direction.isKept

/-- The form of a name in a URL. -/
def ascii? (text : List Char) : Option (List Char) := do
  let characters := (← text.mapM mapped?).flatten
  let labels ← (Text.splitOn '.' (Text.Composition.composed characters)).mapM unspelled?
  if labels.all isLabel && isOrdered labels then
    let name := Text.join '.' (← labels.mapM spelled?)
    if name.any isForbidden then none else some name
  else none

end ClusterUpgrade.Http.DomainName
