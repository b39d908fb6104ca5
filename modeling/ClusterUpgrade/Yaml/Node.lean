import ClusterUpgrade.Yaml.Token

/-!
YAML documents as trees. `Document.parse?` reads a text that holds at most one document.
-/

namespace ClusterUpgrade.Yaml

inductive Node where
  | scalar (style : ScalarStyle) (tag : Option Tag) (text : String)
  | sequence (elements : List Node)
  | mapping (entries : List (Node × Node))
  /-- An alias, by the number of its anchor. -/
  | reference (anchor : Nat)
  deriving Repr, Inhabited

namespace Node

/-- The node of a place where nothing is written. -/
def empty (tag : Option Tag) : Node := .scalar .plain tag ""

end Node

structure Document where
  /-- The only node at the top; a text of comments alone has none. -/
  root : Option Node
  /-- What each anchor names, the latest first: a scalar, or `none` for a collection. -/
  anchored : List (Nat × Option Node) := []
  deriving Repr, Inhabited

/-- Follows an alias of a scalar. -/
def Document.resolve (document : Document) : Node → Node
  | .reference anchor => (document.anchored.lookup anchor).join.getD (.reference anchor)
  | node => node

/-- What is left of the tokens, with the names that are known at this place. -/
structure NodeReader where
  tokens : List Token
  /-- The number of the anchor that each name stands for, the latest first. -/
  anchors : List (String × Nat) := []
  anchored : List (Nat × Option Node) := []
  /-- What the tag handles of directives stand for. -/
  handles : List (String × Tag) := []

/-- The steps of reading a document; a step fails if the tokens make no document. -/
abbrev Read := StateT NodeReader Option

namespace Read

def fail {α : Type} : Read α := fun _ => none

def peek? : Read (Option Token) := do return (← get).tokens.head?

def skip : Read Unit := modify fun reader => { reader with tokens := reader.tokens.tail }

/-- Skips the token at the front if it is the given one. -/
def accept (token : Token) : Read Bool := do
  if (← peek?) = some token then skip; return true
  else return false

def expect (token : Token) : Read Unit := do
  if ← accept token then return () else fail

/-- Whether one of the given tokens, or the end, is in front. -/
def isAtAnyOf (ends : List Token) : Read Bool := do
  return (← peek?).all ends.contains

/-! ## Properties -/

/-- What the tags of the standard types start with. -/
def standardPrefix : Tag := Text.utf8 "tag:yaml.org,2002:"

/-- The handles that need no directive. -/
def standardHandles : List (String × Tag) :=
  [("", []), ("!", Scanner.bareTag), ("!!", standardPrefix)]

/-- The full tag of a handle and a suffix; fails for a handle that is not known. -/
def resolveTag (handle : String) (suffix : Tag) : Read Tag := do
  match ((← get).handles ++ standardHandles).lookup handle with
  | some target => return target ++ suffix
  | none => fail

def anchor? : Read (Option String) := do
  match ← peek? with
  | some (.anchor name) => skip; return some name
  | _ => return none

def tag? : Read (Option Tag) := do
  match ← peek? with
  | some (.tag handle suffix) =>
    skip
    return some (← resolveTag handle suffix)
  | _ => return none

/-- An anchor and a tag, in either order. -/
def properties : Read (Option String × Option Tag) := do
  match ← anchor? with
  | some name => return (some name, ← tag?)
  | none =>
    match ← tag? with
    | some tag => return (← anchor?, some tag)
    | none => return (none, none)

/-- Lets a name stand for a node. Anchors are numbered by how many names are in use, so one that
gives a new meaning to a name shares its number with the next new name. -/
def define (name : Option String) (node : Option Node) : Read Unit :=
  match name with
  | none => return ()
  | some name => modify fun reader =>
    let number := reader.anchors.length
    { reader with
      anchors := (name, number) :: reader.anchors.filter (·.1 != name)
      anchored := (number, node) :: reader.anchored }

/-! ## Nodes -/

/-- The places where a node may stand. -/
structure Place where
  /-- Block collections may stand here. -/
  isBlock : Bool
  /-- A block sequence may stand here without being indented. -/
  isEntry : Bool

mutual
/-- A node with its properties. A bare tag on a scalar that is written counts as none. -/
def node : (fuel : Nat) → Place → Read Node
  | 0, _ => fail
  | fuel + 1, place => do
    if let some (.alias name) ← peek? then
      skip
      match (← get).anchors.lookup name with
      | some anchor => return .reference anchor
      | none => fail
    else
      let (anchor, tag) ← properties
      let collection (read : Read Node) : Read Node := do
        define anchor none
        read
      match ← peek? with
      | some .blockEntry =>
        if place.isEntry then collection (return .sequence (← entries fuel))
        else empty anchor tag
      | some (.scalar style text) =>
        skip
        let node := Node.scalar style (tag.filter (· != Scanner.bareTag)) text
        define anchor (some node)
        return node
      | some .flowSequenceStart =>
        skip
        collection (return .sequence (← flowSequence fuel true))
      | some .flowMappingStart =>
        skip
        collection (return .mapping (← flowMapping fuel true))
      | some .sequenceStart =>
        if place.isBlock then
          skip
          collection do
            let elements ← entries fuel
            expect .blockEnd
            return .sequence elements
        else empty anchor tag
      | some .mappingStart =>
        if place.isBlock then
          skip
          collection (return .mapping (← blockMapping fuel))
        else empty anchor tag
      | _ => empty anchor tag

/-- A node of which nothing but its properties is written. -/
def empty (anchor : Option String) (tag : Option Tag) : Read Node := do
  if anchor.isNone && tag.isNone then fail
  else
    define anchor (some (.empty tag))
    return .empty tag

/-- A node, or nothing in front of one of the given tokens. -/
def nodeOr : (fuel : Nat) → Place → (ends : List Token) → Read Node
  | 0, _, _ => fail
  | fuel + 1, place, ends => do
    if ← isAtAnyOf ends then return .empty none else node fuel place

/-- The elements of a block sequence, as long as entries follow. -/
def entries : (fuel : Nat) → Read (List Node)
  | 0 => fail
  | fuel + 1 => do
    if ← accept .blockEntry then
      let element ← nodeOr fuel { isBlock := true, isEntry := false }
        [.blockEntry, .key, .value, .blockEnd]
      return element :: (← entries fuel)
    else return []

/-- The entries of a block mapping up to its end. -/
def blockMapping : (fuel : Nat) → Read (List (Node × Node))
  | 0 => fail
  | fuel + 1 => do
    let place : Place := { isBlock := true, isEntry := true }
    let ends : List Token := [.key, .value, .blockEnd]
    if ← accept .blockEnd then return []
    else
      expect .key
      let key ← nodeOr fuel place ends
      let value ← if ← accept .value then nodeOr fuel place ends else pure (.empty none)
      return (key, value) :: (← blockMapping fuel)

/-- One entry of a flow collection from its key on. -/
def flowPair : (fuel : Nat) → (close : Token) → Read (Node × Node)
  | 0, _ => fail
  | fuel + 1, close => do
    let place : Place := { isBlock := false, isEntry := false }
    let key ← nodeOr fuel place [.value, .flowEntry, close]
    let value ← if ← accept .value then nodeOr fuel place [.flowEntry, close]
      else pure (.empty none)
    return (key, value)

/-- The elements of a flow sequence up to its end; a pair is a mapping of one entry. -/
def flowSequence : (fuel : Nat) → (isFirst : Bool) → Read (List Node)
  | 0, _ => fail
  | fuel + 1, isFirst => do
    if ← accept .flowSequenceEnd then return []
    else
      if !isFirst then expect .flowEntry
      if ← accept .flowSequenceEnd then return []
      else
        let element ← if ← accept .key then
            pure (.mapping [← flowPair fuel .flowSequenceEnd])
          else node fuel { isBlock := false, isEntry := false }
        return element :: (← flowSequence fuel false)

/-- The entries of a flow mapping up to its end; a node without a value has an empty one. -/
def flowMapping : (fuel : Nat) → (isFirst : Bool) → Read (List (Node × Node))
  | 0, _ => fail
  | fuel + 1, isFirst => do
    if ← accept .flowMappingEnd then return []
    else
      if !isFirst then expect .flowEntry
      if ← accept .flowMappingEnd then return []
      else
        let entry ← if ← accept .key then flowPair fuel .flowMappingEnd
          else pure (← node fuel { isBlock := false, isEntry := false }, .empty none)
        return entry :: (← flowMapping fuel false)
end

/-! ## Documents -/

/-- The directives in front of a document: at most one version, of the first generation, and every
handle once. -/
def directives : (fuel : Nat) → (hasVersion : Bool) → Read Unit
  | 0, _ => fail
  | fuel + 1, hasVersion => do
    match ← peek? with
    | some (.versionDirective major minor) =>
      if hasVersion || major != 1 || (minor != 1 && minor != 2) then fail
      else
        skip
        directives fuel true
    | some (.tagDirective handle target) =>
      if ((← get).handles.lookup handle).isSome then fail
      else
        skip
        modify fun reader => { reader with handles := (handle, target) :: reader.handles }
        directives fuel hasVersion
    | _ => return ()

/-- The marks behind a document. -/
def documentEnds : (fuel : Nat) → Read Unit
  | 0 => return ()
  | fuel + 1 => do
    if ← accept .documentEnd then documentEnds fuel else return ()

/-- The only document of a text, `none` for a text without a document. -/
def document (fuel : Nat) : Read (Option Node) := do
  let place : Place := { isBlock := true, isEntry := false }
  match ← peek? with
  | none => return none
  | some token =>
    let root ← match token with
      | .versionDirective .. | .tagDirective .. | .documentStart =>
        directives fuel false
        expect .documentStart
        nodeOr fuel place [.documentEnd]
      | _ => node fuel place
    documentEnds fuel
    if (← peek?).isSome then fail else return some root

end Read

/-- The document of a text that is YAML and does not hold several documents. -/
def Document.parse? (text : String) : Option Document := do
  let tokens ← tokens? text
  let (root, reader) ← (Read.document (3 * tokens.length + 8)).run { tokens }
  return { root, anchored := reader.anchored }

end ClusterUpgrade.Yaml
