import JapaneseSpacing.Lint.Message

/-!
# Reports for people

Messages are grouped by file, each on a line of its own, and a summary with the number
of problems comes last. Files without messages are not mentioned.
-/

namespace JapaneseSpacing

/-- The line about a message. -/
def stylishLine (message : Message) : Text :=
  "  ".toList ++ Text.ofInt message.line ++ [':'] ++ Text.ofInt message.column ++ "  ".toList
    ++ message.severity.name.toList ++ "  ".toList ++ message.message ++ "  ".toList
    ++ message.ruleId

/-- The lines about a file, an empty line last. -/
def stylishLines (result : LintResult) : List Text :=
  if result.messages.isEmpty then []
  else result.filePath :: result.messages.map stylishLine ++ [[]]

/-- The last line of a report with at least one problem. -/
def stylishSummary (total : Nat) : Text :=
  "✖ ".toList ++ Text.ofNat total ++ " problem".toList ++ (if total = 1 then [] else ['s'])

/-- The report of some results for people. -/
def stylishReport (results : List LintResult) : Text :=
  let total := (results.flatMap LintResult.messages).length
  Text.join ['\n']
    (results.flatMap stylishLines ++ if total = 0 then [] else [stylishSummary total])

end JapaneseSpacing
