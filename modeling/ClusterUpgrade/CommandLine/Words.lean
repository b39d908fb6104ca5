import ClusterUpgrade.CommandLine.Options

/-!
Reading the words of a command line. `Level.read` collects the options of one level; an option that
takes a value is settled only when the next option or the end of the level shows that its value is
complete.
-/

namespace ClusterUpgrade

/-- The forms of a word. A single dash is a plain word. -/
inductive Word where
  | endOfOptions
  | long (name : String) (value : Option String)
  | short (letters : List Char)
  | plain (text : String)
  deriving Repr, DecidableEq, Inhabited

def Word.ofText (text : String) : Word :=
  match text.toList with
  | ['-', '-'] => .endOfOptions
  | '-' :: '-' :: rest =>
    let (name, value) := Text.cutAt '=' rest
    .long (String.ofList name) (value.map String.ofList)
  | '-' :: c :: rest => .short (c :: rest)
  | _ => .plain text

/-- What an option word can mean. -/
inductive Switch where
  | help (isLong : Bool)
  | version
  | option (name : OptionName)
  deriving Repr, DecidableEq, Inhabited

namespace Level

/-- The long names of a level; the version of the program is asked for in front of a command. -/
def long? (level : Level) (name : String) : Option Switch :=
  match level.options.find? (·.long == name) with
  | some option => some (.option option)
  | none =>
    if name = "help" then some (.help true)
    else if name = "version" ∧ level = .program then some .version
    else none

/-- The letters of a level. -/
def short? (level : Level) (letter : Char) : Option Switch :=
  match level.options.find? (·.short? == some letter) with
  | some option => some (.option option)
  | none =>
    if letter = 'h' then some (.help false)
    else if letter = 'V' ∧ level = .program then some .version
    else none

end Level

/-- The options that have been read at a level. -/
structure OptionReading where
  settled : List (OptionName × OptionValue) := []
  /-- The latest option with a value of its own word, and the value once it has been read. -/
  pending : Option (OptionName × Option String) := none
  deriving Repr, Inhabited

namespace OptionReading

def isAwaiting (reading : OptionReading) : Bool := reading.pending.any (·.2.isNone)

/-- Adds an option with its value; an option may stand once at each level. -/
def add (reading : OptionReading) (option : OptionName) (text : String) :
    Except UsageError OptionReading := do
  if (reading.settled.lookup option).isSome then throw (.repeatedOption option)
  return { settled := reading.settled ++ [(option, ← option.read text)] }

/-- Settles the pending option. -/
def settle (reading : OptionReading) : Except UsageError OptionReading :=
  match reading.pending with
  | none => .ok reading
  | some (option, none) => .error (.missingValue option)
  | some (option, some text) => reading.add option text

/-- Settles the pending option, then gives the information that a switch asks for. -/
def inform (reading : OptionReading) (argument : String) (value : Option String)
    (information : UsageError) : Except UsageError OptionReading :=
  match value with
  | some text => .error (.unwantedValue argument text)
  | none => do
    let _ ← reading.settle
    throw information

/-- Acts on a switch of a level with the value that was attached to it. -/
def switch (level : Level) (reading : OptionReading) (argument : String) (value : Option String) :
    Switch → Except UsageError OptionReading
  | .option option =>
    match option.isFlag, value with
    | true, some text => .error (.unwantedValue argument text)
    | true, none => do (← reading.settle).add option ""
    | false, some text => do (← reading.settle).add option text
    | false, none => do return { (← reading.settle) with pending := some (option, none) }
  | .help isLong => reading.inform argument value (.helpWanted (.level level) isLong)
  | .version => reading.inform argument value .versionWanted

/-- Acts on letters behind one dash. What follows the letter of an option with a value is its value,
perhaps after an equals sign. -/
def letters (level : Level) (reading : OptionReading) : List Char → Except UsageError OptionReading
  | [] => .ok reading
  | c :: rest =>
    let argument := String.ofList ['-', c]
    match level.short? c with
    | none => .error (.unknownArgument argument)
    | some (.option option) =>
      if option.isFlag then do
        letters level (← reading.switch level argument none (.option option)) rest
      else
        let value := if rest.isEmpty then none
          else some (String.ofList ((Text.dropPrefix? ['='] rest).getD rest))
        reading.switch level argument value (.option option)
    | some other => reading.switch level argument none other

end OptionReading

namespace Level

/-- A word that is neither an option nor the value of one. -/
def refusal (level : Level) (isLiteral : Bool) (word : String) : UsageError :=
  match level with
  | .program =>
    if isLiteral && (word == "help" || (CommandName.ofText? word).isSome) then .unknownArgument word
    else .unknownCommand word
  | .command _ => .unknownArgument word

/-- What a word behind the command for help names. -/
def helpTopic? (word : String) : Option HelpTopic :=
  if word = "help" then some .help
  else (CommandName.ofText? word).map fun name => .level (.command name)

/-- Asks for help on the command that the words name. -/
def helpOn : List String → UsageError
  | [] => .helpWanted (.level .program) true
  | word :: rest =>
    match helpTopic? word with
    | none => .unknownCommand word
    | some topic => rest.head?.elim (.helpWanted topic true) .unknownCommand

/-- What the words of a level give: its options, and the command that ends it with its words. -/
structure Reading where
  options : OptionReading
  command : Option (CommandName × List String)

/-- Reads the words of a level; the flag says whether the end of options has been passed. -/
def read (level : Level) (isLiteral : Bool) (options : OptionReading) :
    List String → Except UsageError Reading
  | [] => .ok { options, command := none }
  | word :: rest =>
    if isLiteral then .error (level.refusal true word)
    else if level = .program && !options.isAwaiting && word == "help" then .error (helpOn rest)
    else
      let command :=
        if level = .program && !options.isAwaiting then CommandName.ofText? word else none
      match command with
      | some name => .ok { options, command := some (name, rest) }
      | none =>
        match Word.ofText word with
        | .endOfOptions => level.read true options rest
        | .long name value =>
          match level.long? name with
          | none => .error (.unknownArgument ("--" ++ name))
          | some switch => do
            level.read false (← options.switch level ("--" ++ name) value switch) rest
        | .short letters => do level.read false (← options.letters level letters) rest
        | .plain text =>
          match options.pending with
          | some (option, none) =>
            level.read false { options with pending := some (option, some text) } rest
          | _ => .error (level.refusal false word)

end Level

end ClusterUpgrade
