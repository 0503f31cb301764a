import JapaneseSpacing.Lint.Message

/-!
# Reports in CSV

A header and one row per message. A field that holds a comma, a quote or a line feed is
quoted, and a quote inside it is written twice; every row ends in a line feed.
-/

namespace JapaneseSpacing

/-- Whether a field has to be quoted. -/
def csvNeedsQuotes (field : Text) : Bool :=
  field.any fun char => char == ',' || char == '"' || char == '\n'

/-- One field of a row. -/
def csvField (field : Text) : Text :=
  if csvNeedsQuotes field then
    ['"'] ++ field.flatMap (fun char => if char = '"' then ['"', '"'] else [char]) ++ ['"']
  else field

/-- One row with its line feed. -/
def csvRow (fields : List Text) : Text :=
  Text.join [','] (fields.map csvField) ++ ['\n']

/-- The names of the columns. -/
def csvHeader : List Text :=
  ["file_path".toList, "line".toList, "column".toList, "index".toList, "severity".toList,
    "rule_id".toList, "message".toList]

/-- The fields of a message about a file. -/
def csvFields (filePath : Text) (message : Message) : List Text :=
  [filePath, Text.ofInt message.line, Text.ofInt message.column, Text.ofInt message.index,
    message.severity.name.toList, message.ruleId, message.message]

/-- The report of some results in CSV. -/
def csvReport (results : List LintResult) : Text :=
  csvRow csvHeader ++ results.flatMap fun result =>
    result.messages.flatMap fun message => csvRow (csvFields result.filePath message)

end JapaneseSpacing
