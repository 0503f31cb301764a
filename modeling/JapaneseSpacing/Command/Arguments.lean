import JapaneseSpacing.Text.Basic

/-!
# Options and positional arguments

Options and positional arguments may be mixed. A long option takes its value from behind an
equals sign or from the next argument, a short one from the rest of its argument or from
the next one, and several short options can share one argument. Behind two hyphens all
arguments are positional, and a single hyphen always is.
-/

namespace JapaneseSpacing

namespace Command

/-- The options of all commands. -/
inductive OptionName where
  | config
  | format
  | output
  | verbose
deriving Repr, DecidableEq

namespace OptionName

/-- The long name of an option. -/
def long : OptionName → Text
  | config => "--config".toList
  | format => "--format".toList
  | output => "--output".toList
  | verbose => "--verbose".toList

/-- The letter of an option. -/
def short : OptionName → Char
  | config => 'c'
  | format => 'f'
  | output => 'o'
  | verbose => 'v'

/-- Whether an option needs a value. -/
def takesValue : OptionName → Bool
  | verbose => false
  | _ => true

end OptionName

/-- Why arguments name nothing that can be done. -/
inductive UsageError where
  | missingCommand
  | unknownCommand (word : Text)
  | unknownOption (word : Text)
  | missingValue (option : OptionName)
  | unexpectedValue (option : OptionName)
  | unknownFormat (word : Text)
  | missingArgument
  | extraArgument (word : Text)
deriving Repr, DecidableEq

/-- What is wrong, in words. -/
def UsageError.explanation : UsageError → Text
  | .missingCommand => "Missing command.".toList
  | .unknownCommand word => "No such command: ".toList ++ word
  | .unknownOption word => "No such option: ".toList ++ word
  | .missingValue option => "Missing value of option ".toList ++ option.long
  | .unexpectedValue option => "Unexpected value of option ".toList ++ option.long
  | .unknownFormat word => "No such format: ".toList ++ word
  | .missingArgument => "Missing argument.".toList
  | .extraArgument word => "Unexpected argument: ".toList ++ word

/-- An option that was given, with its value if it needs one. -/
structure GivenOption where
  name : OptionName
  value : Text := []
deriving Repr, DecidableEq

/-- The options and the positional arguments of a command, each in the given order. -/
structure Arguments where
  options : List GivenOption := []
  positional : List Text := []
deriving Repr, DecidableEq

namespace Arguments

/-- The value of an option; of several the last. -/
def value? (arguments : Arguments) (name : OptionName) : Option Text :=
  (arguments.options.reverse.find? (·.name = name)).map (·.value)

/-- How often an option was given. -/
def count (arguments : Arguments) (name : OptionName) : Nat :=
  arguments.options.countP (·.name = name)

/-- The arguments behind some options. -/
def withOptions (options : List GivenOption) (arguments : Arguments) : Arguments :=
  { arguments with options := options ++ arguments.options }

/-- The arguments behind a positional one. -/
def withPositional (word : Text) (arguments : Arguments) : Arguments :=
  { arguments with positional := word :: arguments.positional }

end Arguments

/-- What one argument gives: some options, the last of which may wait for its value. -/
structure OptionWord where
  complete : List GivenOption
  waiting : Option OptionName := none
deriving Repr, DecidableEq

/-- Read the argument of a long option. -/
def readLong (known : List OptionName) (word : Text) : Except UsageError OptionWord :=
  let name := word.takeWhile (· != '=')
  match known.find? (·.long = name), word.drop name.length with
  | none, _ => .error (.unknownOption word)
  | some option, [] => .ok (if option.takesValue then ⟨[], some option⟩ else ⟨[⟨option, []⟩], none⟩)
  | some option, _ :: value =>
    if option.takesValue then .ok ⟨[⟨option, value⟩], none⟩ else .error (.unexpectedValue option)

/-- Read the letters of short options. -/
def readShort (known : List OptionName) : Text → Except UsageError OptionWord
  | [] => .ok ⟨[], none⟩
  | letter :: rest =>
    match known.find? (·.short = letter) with
    | none => .error (.unknownOption ['-', letter])
    | some option =>
      if option.takesValue then
        .ok (if rest.isEmpty then ⟨[], some option⟩ else ⟨[⟨option, rest⟩], none⟩)
      else do
        let word ← readShort known rest
        return { word with complete := ⟨option, []⟩ :: word.complete }

/-- Read an argument that is an option, if it is one. -/
def readOption? (known : List OptionName) : Text → Option (Except UsageError OptionWord)
  | '-' :: '-' :: name => some (readLong known ('-' :: '-' :: name))
  | '-' :: letter :: rest => some (readShort known (letter :: rest))
  | _ => none

/-- Read the arguments of a command that has some options. -/
def readArguments (known : List OptionName) : List Text → Except UsageError Arguments
  | [] => .ok {}
  | word :: rest =>
    if word = ['-', '-'] then .ok { positional := rest }
    else
      match readOption? known word with
      | none => do return (← readArguments known rest).withPositional word
      | some (.error problem) => .error problem
      | some (.ok ⟨complete, none⟩) => do return (← readArguments known rest).withOptions complete
      | some (.ok ⟨complete, some option⟩) =>
        match rest with
        | [] => .error (.missingValue option)
        | value :: behind => do
          return (← readArguments known behind).withOptions (complete ++ [⟨option, value⟩])

end Command

end JapaneseSpacing
