import ClusterUpgrade.Error
import ClusterUpgrade.Text.Numeral
import ClusterUpgrade.Yaml.Node

/-!
The settings file: a YAML mapping of a few named settings, each of which may be left out or have no
value.
-/

namespace ClusterUpgrade

/-- What a settings file says; what it leaves out is decided elsewhere. -/
structure FileSettings where
  url : Option String := none
  pageSize : Option Nat := none
  requestTimeout : Option Nat := none
  deriving Repr, DecidableEq, Inhabited

namespace FileSettings

open Yaml

/-- The names that a settings file may use. -/
def names : List String := ["url", "page_size", "request_timeout"]

/-! ## Values -/

def nullTag : Tag := Read.standardPrefix ++ Text.utf8 "null"
def integerTag : Tag := Read.standardPrefix ++ Text.utf8 "int"

/-- The words for no value. -/
def nullWords : List String := ["null", "Null", "NULL", "~"]

/-- The base that a numeral names in front of its digits, and the digits. -/
def cutBase : List Char → Nat × List Char
  | '0' :: 'x' :: rest => (16, rest)
  | '0' :: 'o' :: rest => (8, rest)
  | '0' :: 'b' :: rest => (2, rest)
  | text => (10, text)

/-- A number as settings write it: perhaps a plus sign, then a decimal numeral without leading zeros
or a numeral that names its base. -/
def number? (text : List Char) : Option Nat :=
  let (base, run) := cutBase ((Text.dropPrefix? ['+'] text).getD text)
  if base = 10 ∧ 1 < run.length ∧ run.head? = some '0' then none else Text.numeral? base run

/-- Reads the value of a setting if it has one; only a plain scalar can stand for no value. -/
def value? {α : Type} (read : Node → Option α) : Node → Option (Option α)
  | node@(.scalar .plain none text) =>
    if text.isEmpty || nullWords.contains text then some none else (read node).map some
  | node@(.scalar .plain (some tag) text) =>
    if tag != nullTag then (read node).map some
    else if nullWords.contains text then some none
    else none
  | node => (read node).map some

def text? : Node → Option String
  | .scalar _ _ text => some text
  | _ => none

/-- A number below a bound, in a plain scalar or a literal one with the tag of integers. -/
def numberBelow? (bound : Nat) : Node → Option Nat
  | .scalar style tag text =>
    if style = .plain ∨ style = .literal ∧ tag = some integerTag then
      (number? text.toList).filter (· < bound)
    else none
  | _ => none

/-! ## Settings -/

/-- The entries of a mapping by the texts of their keys. -/
def named (document : Document) (entries : List (Node × Node)) :
    Except SettingsFault (List (String × Node)) :=
  entries.mapM fun (key, value) =>
    match text? (document.resolve key) with
    | some name => .ok (name, document.resolve value)
    | none => .error .unnamedSetting

/-- Every name is known and stands once. -/
def checkNames (seen : List String) : List String → Except SettingsFault Unit
  | [] => .ok ()
  | name :: rest =>
    if !names.contains name then .error (.unknownSetting name)
    else if seen.contains name then .error (.repeatedSetting name)
    else checkNames (name :: seen) rest

/-- The value of a setting, if the file has it and gives it one. -/
def setting {α : Type} (read : Node → Option α) (name : String) (settings : List (String × Node)) :
    Except SettingsFault (Option α) :=
  match settings.lookup name with
  | none => .ok none
  | some node =>
    match value? read node with
    | some value => .ok value
    | none => .error (.wrongValue name)

def ofEntries (document : Document) (entries : List (Node × Node)) :
    Except SettingsFault FileSettings := do
  let settings ← named document entries
  checkNames [] (settings.map (·.1))
  return {
    url := ← setting text? "url" settings
    pageSize := ← setting (numberBelow? Text.bound32) "page_size" settings
    requestTimeout := ← setting (numberBelow? Text.bound64) "request_timeout" settings }

/-- Reads the contents of a settings file. One without contents says nothing. -/
def parse (content : String) : Except SettingsFault FileSettings :=
  if Text.isAllBlank content then .ok {}
  else
    match Document.parse? content with
    | none => .error .notYaml
    | some document =>
      match document.root with
      | none | some (.scalar .plain _ "") => .ok {}
      | some (.mapping entries) => ofEntries document entries
      | some _ => .error .notMapping

end FileSettings

end ClusterUpgrade
