import JapaneseSpacing.Command.Arguments
import JapaneseSpacing.Files.Path
import JapaneseSpacing.Report.Format

/-!
# Requests

The first argument names a command, and the arguments behind it are those of the command.
One command lints Markdown files, the other one a text that is given as an argument or,
for a single hyphen, read from the input.
-/

namespace JapaneseSpacing

namespace Command

/-- What is asked of the command that lints files. -/
structure LintRequest where
  paths : List Path
  config : Option Path := none
  format : ReportFormat := .stylish
  output : Option Path := none
  verbosity : Nat := 0
deriving Repr, DecidableEq

/-- The text to check. -/
inductive TextSource where
  | given (text : Text)
  | input
deriving Repr, DecidableEq

/-- What is asked of the command that checks a text. -/
structure TextRequest where
  source : TextSource
  format : ReportFormat := .stylish
  verbosity : Nat := 0
deriving Repr, DecidableEq

/-- A command with all it needs to know. -/
inductive Request where
  | lint (request : LintRequest)
  | text (request : TextRequest)
deriving Repr, DecidableEq

/-- The format that arguments ask for. -/
def Arguments.format (arguments : Arguments) : Except UsageError ReportFormat :=
  match arguments.value? .format with
  | none => .ok .stylish
  | some word =>
    match ReportFormat.ofName? (String.ofList word) with
    | some format => .ok format
    | none => .error (.unknownFormat word)

/-- Read the arguments of the command that lints files. -/
def LintRequest.ofArguments (words : List Text) : Except UsageError LintRequest := do
  let arguments ← readArguments [.config, .format, .output, .verbose] words
  let format ← arguments.format
  if arguments.positional.isEmpty then throw .missingArgument
  return { paths := arguments.positional.map Path.ofText
           config := (arguments.value? .config).map Path.ofText
           format
           output := (arguments.value? .output).map Path.ofText
           verbosity := arguments.count .verbose }

/-- Read the arguments of the command that checks a text. -/
def TextRequest.ofArguments (words : List Text) : Except UsageError TextRequest := do
  let arguments ← readArguments [.format, .verbose] words
  let format ← arguments.format
  match arguments.positional with
  | [] => throw .missingArgument
  | [word] =>
    return { source := if word = ['-'] then .input else .given word
             format
             verbosity := arguments.count .verbose }
  | _ :: word :: _ => throw (.extraArgument word)

/-- Read the word that names a command and the arguments behind it. -/
def Request.ofCommand : List Text → Except UsageError Request
  | [] => .error .missingCommand
  | word :: rest =>
    if word = "lint".toList then Request.lint <$> LintRequest.ofArguments rest
    else if word = "text".toList then Request.text <$> TextRequest.ofArguments rest
    else .error (.unknownCommand word)

/-- Read all arguments. There are no options in front of the command. -/
def Request.ofArguments (words : List Text) : Except UsageError Request :=
  match words with
  | [] => .error .missingCommand
  | word :: rest =>
    if word = ['-', '-'] then Request.ofCommand rest
    else
      match readOption? [] word with
      | some _ => .error (.unknownOption word)
      | none => Request.ofCommand (word :: rest)

end Command

end JapaneseSpacing
