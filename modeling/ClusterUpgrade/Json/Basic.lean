import ClusterUpgrade.Number.Double

/-!
JSON values. An object keeps its entries in the order of the text, repeated names included;
`Json.canonical` is the value as it is kept: names sorted, the last of several equal names wins.
-/

namespace ClusterUpgrade

inductive Json where
  | null
  | bool (value : Bool)
  | integer (value : Int)
  | double (value : Double)
  | string (text : String)
  | array (elements : List Json)
  | object (entries : List (String × Json))
  /-- A literal or object of correct form that denotes no value; it may be skipped, never read. -/
  | unreadable
  deriving Repr, Inhabited, BEq

namespace Json

/-- Adds an entry to entries sorted by name; an entry of the same name is replaced. -/
def insertEntry (name : String) (value : Json) : List (String × Json) → List (String × Json)
  | [] => [(name, value)]
  | (other, kept) :: rest =>
    if name < other then (name, value) :: (other, kept) :: rest
    else if name = other then (name, value) :: rest
    else (other, kept) :: insertEntry name value rest

mutual
/-- The value with sorted, distinct names in every object; `none` if a part denotes no value. -/
def canonical : Json → Option Json
  | .unreadable => none
  | .array elements => (canonicalElements elements).map .array
  | .object entries => (canonicalEntries [] entries).map .object
  | scalar => some scalar

def canonicalElements : List Json → Option (List Json)
  | [] => some []
  | element :: rest => do
    let first ← canonical element
    let others ← canonicalElements rest
    return first :: others

/-- Enters the entries one after the other, so that a later one replaces an earlier one. -/
def canonicalEntries (sorted : List (String × Json)) :
    List (String × Json) → Option (List (String × Json))
  | [] => some sorted
  | (name, value) :: rest => do
    let kept ← canonical value
    canonicalEntries (insertEntry name kept sorted) rest
end

mutual
/-- How many arrays and objects enclose the innermost value, this one included. -/
def depth : Json → Nat
  | .array elements => 1 + depthOfElements elements
  | .object entries => 1 + depthOfEntries entries
  | _ => 0

def depthOfElements : List Json → Nat
  | [] => 0
  | element :: rest => max (depth element) (depthOfElements rest)

def depthOfEntries : List (String × Json) → Nat
  | [] => 0
  | (_, value) :: rest => max (depth value) (depthOfEntries rest)
end

end Json

end ClusterUpgrade
