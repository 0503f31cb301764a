import JapaneseSpacing.Lint.Message
import JapaneseSpacing.Report.JsonText

/-!
# Reports in JSON

A report in JSON is the list of results, indented; a single result can also be written
on one line. What writes a value as a text is a parameter, `JsonWriter.standard` in the
program: either layout ends in one line feed, and an integer that does not fit into 64
bits is refused.
-/

namespace JapaneseSpacing

/-- Why no report can be written: an integer does not fit into 64 bits. -/
inductive ReportError where
  | integerTooLarge
deriving Repr, DecidableEq

/-- How the text of a value is laid out. -/
inductive JsonLayout where
  | oneLine
  | indented
deriving Repr, DecidableEq

/-- What writes values as texts. -/
structure JsonWriter where
  write : JsonLayout → JsonValue → Except ReportError Text

/-- The text of a value in a layout. -/
def JsonValue.laidOut (value : JsonValue) : JsonLayout → Text
  | .oneLine => value.compact
  | .indented => value.indented 0

/-- The writer of the program. -/
def JsonWriter.standard : JsonWriter where
  write layout value :=
    if value.fits then .ok (value.laidOut layout ++ ['\n']) else .error .integerTooLarge

/-- A fix as JSON. -/
def Fix.toJson (fix : Fix) : JsonValue :=
  .object [("range".toList, .array [.int fix.span.start, .int fix.span.stop]),
    ("text".toList, .string fix.text)]

/-- A message as JSON. -/
def Message.toJson (message : Message) : JsonValue :=
  .object [("rule_id".toList, .string message.ruleId), ("message".toList, .string message.message),
    ("index".toList, .int message.index), ("line".toList, .int message.line),
    ("column".toList, .int message.column),
    ("severity".toList, .string message.severity.name.toList),
    ("fix".toList, (message.fix.map Fix.toJson).getD .null)]

/-- A result as JSON. -/
def LintResult.toJson (result : LintResult) : JsonValue :=
  .object [("file_path".toList, .string result.filePath),
    ("messages".toList, .array (result.messages.map Message.toJson))]

/-- One result as one line. -/
def LintResult.toJsonLine (writer : JsonWriter) (result : LintResult) :
    Except ReportError Text :=
  writer.write .oneLine result.toJson

/-- The report of some results in JSON. -/
def jsonReport (writer : JsonWriter) (results : List LintResult) : Except ReportError Text :=
  writer.write .indented (.array (results.map LintResult.toJson))

end JapaneseSpacing
