import ClusterUpgrade.Json.Writer
import ClusterUpgrade.Text.Escaped

/-!
Reading typed documents from JSON values. A document is an object, or an array of its fields in
their declared order; fields it does not know are skipped, and nothing is converted between types.
-/

namespace ClusterUpgrade.Wire

/-- Why a value is not of the type that is read. -/
inductive Mismatch where
  | wrongType (found : Json) (expected : String)
  | outOfRange (found : Int) (expected : String)
  | unknownName (found : String) (known : List String)
  | repeatedField (name : String)
  | missingField (name : String)
  | tooManyFields (found : Nat)
  deriving Repr, Inhabited, BEq

/-- How a message names a value that was not expected. -/
def describe : Json → String
  | .null => "null"
  | .bool value => "boolean `" ++ (if value then "true" else "false") ++ "`"
  | .integer value => "integer `" ++ Text.intText value ++ "`"
  | .double value => "floating point `" ++ String.ofList value.numeral ++ "`"
  | .string text => "string " ++ Text.escaped text
  | .array _ => "sequence"
  | .object _ => "map"
  | .unreadable => "invalid value"

def Mismatch.message : Mismatch → String
  | .wrongType found expected => "invalid type: " ++ describe found ++ ", expected " ++ expected
  | .outOfRange found expected =>
    "invalid value: integer `" ++ Text.intText found ++ "`, expected " ++ expected
  | .unknownName found known =>
    "unknown variant `" ++ found ++ "`, expected one of "
      ++ String.intercalate ", " (known.map fun name => "`" ++ name ++ "`")
  | .repeatedField name => "duplicate field `" ++ name ++ "`"
  | .missingField name => "missing field `" ++ name ++ "`"
  | .tooManyFields found =>
    "invalid length " ++ Text.natText found ++ ", expected fewer elements in array"

/-- A reader of one type of value. -/
abbrev Reader (α : Type) := Json → Except Mismatch α

/-! ## Scalars and lists -/

def string : Reader String
  | .string text => .ok text
  | found => .error (.wrongType found "a string")

def bool : Reader Bool
  | .bool value => .ok value
  | found => .error (.wrongType found "a boolean")

/-- An integer from zero up to the given bound, which itself is excluded. -/
def natBelow (bound : Nat) (expected : String) : Reader Nat
  | .integer value =>
    if 0 ≤ value ∧ value < bound then .ok value.toNat else .error (.outOfRange value expected)
  | found => .error (.wrongType found expected)

def nat32 : Reader Nat := natBelow Text.bound32 "u32"

/-- Null for an absent value. -/
def optional {α : Type} (reader : Reader α) : Reader (Option α)
  | .null => .ok none
  | value => (reader value).map some

def readAll {α : Type} (reader : Reader α) : List Json → Except Mismatch (List α)
  | [] => .ok []
  | element :: rest => do
    let first ← reader element
    let others ← readAll reader rest
    return first :: others

def list {α : Type} (expected : String) (reader : Reader α) : Reader (List α)
  | .array elements => readAll reader elements
  | found => .error (.wrongType found expected)

/-- One of a set of names: a string, or an object that gives null to the name. -/
def name : Reader String
  | .string text => .ok text
  | .object [(text, .null)] => .ok text
  | found => .error (.wrongType found "string or map")

/-! ## Documents -/

/-- The fields that a document gives, by name. -/
structure Document where
  fields : List (String × Json)
  deriving Repr, Inhabited

/-- The fields that a value gives, in its order. -/
def givenFields (known : List String) : Json → List (String × Json)
  | .object entries => entries
  | .array elements => known.zip elements
  | _ => []

/-- Whether some entry of an object repeats the name of an earlier one among the known names. -/
def repeatedName? (known : List String) : List (String × Json) → Option String
  | [] => none
  | (name, _) :: rest =>
    if known.contains name && (rest.map (·.1)).contains name then some name
    else repeatedName? known rest

/-- The known fields of a value. -/
def document (expected : String) (known : List String) : Reader Document
  | .object entries =>
    match repeatedName? known entries with
    | some name => .error (.repeatedField name)
    | none => .ok { fields := givenFields known (.object entries) }
  | .array elements =>
    if elements.length ≤ known.length then .ok { fields := givenFields known (.array elements) }
    else .error (.tooManyFields elements.length)
  | found => .error (.wrongType found expected)

namespace Document

variable {α : Type}

/-- A field that has to be given. -/
def required (fields : Document) (name : String) (reader : Reader α) : Except Mismatch α :=
  match fields.fields.lookup name with
  | some value => reader value
  | none => .error (.missingField name)

/-- A field that takes a default if it is not given. -/
def field (fields : Document) (name : String) (reader : Reader α) (default : α) :
    Except Mismatch α :=
  match fields.fields.lookup name with
  | some value => reader value
  | none => .ok default

/-- A field that may be absent or null. -/
def optionalField (fields : Document) (name : String) (reader : Reader α) :
    Except Mismatch (Option α) :=
  fields.field name (optional reader) none

def text (fields : Document) (name : String) : Except Mismatch String := fields.field name string ""

def flag (fields : Document) (name : String) : Except Mismatch Bool := fields.field name bool false

end Document

/-! ## Writing -/

/-- An object of the entries that are present. -/
def objectOf (entries : List (Option (String × Json))) : Json := .object (entries.filterMap id)

def present (name : String) (value : Json) : Option (String × Json) := some (name, value)

def presentIf {α : Type} (name : String) (write : α → Json) (value : Option α) :
    Option (String × Json) :=
  value.map fun value => (name, write value)

end ClusterUpgrade.Wire
