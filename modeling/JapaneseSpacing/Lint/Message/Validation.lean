import JapaneseSpacing.Data.Validated
import JapaneseSpacing.Lint.Message

/-!
# Messages and results from plain data

Reading back what a report in JSON holds: missing optional fields take their defaults
and unknown fields are passed over. How single values are read is a parameter,
`ScalarReader.lenient` in the program.
-/

namespace JapaneseSpacing

/-- What reads texts and integers. -/
structure ScalarReader where
  text : Value → Validated Text
  int : Value → Validated Int

/-- The reader that takes some values for texts and integers that are none. -/
def ScalarReader.lenient : ScalarReader :=
  ⟨Value.asText, Value.asInt⟩

/-- Read a span, which is a list of two integers. -/
def Span.ofValue (scalars : ScalarReader) : Value → Validated Span
  | .list [] => .error [⟨[.index 0], .missing⟩, ⟨[.index 1], .missing⟩]
  | .list [start] =>
    match Validated.both ((scalars.int start).within (.index 0))
      ((Validated.fail .missing : Validated Int).within (.index 1)) with
    | .ok (start, stop) => .ok ⟨start, stop⟩
    | .error errors => .error errors
  | .list [start, stop] =>
    match Validated.both ((scalars.int start).within (.index 0))
      ((scalars.int stop).within (.index 1)) with
    | .ok (start, stop) => .ok ⟨start, stop⟩
    | .error errors => .error errors
  | .list _ => .fail .tooLong
  | _ => .fail .notATuple

/-- Read a fix from the fields of a record. -/
def Fix.ofFields (scalars : ScalarReader) (fields : Fields) : Validated Fix :=
  match Validated.both (fields.required "range" (Span.ofValue scalars))
    (fields.required "text" scalars.text) with
  | .ok (span, text) => .ok { span, text }
  | .error errors => .error errors

/-- Read a fix that may be absent. -/
def Fix.ofValue? (scalars : ScalarReader) : Value → Validated (Option Fix)
  | .null => .ok none
  | value =>
    match value.asRecord (Fix.ofFields scalars) with
    | .ok fix => .ok (some fix)
    | .error errors => .error errors

/-- Read a severity by its name. -/
def Severity.ofValue : Value → Validated Severity
  | .string text =>
    match Severity.ofName? (String.ofList text) with
    | some severity => .ok severity
    | none => .fail .notALiteral
  | _ => .fail .notALiteral

/-- Read a message from the fields of a record. -/
def Message.ofFields (scalars : ScalarReader) (fields : Fields) : Validated Message :=
  let ruleId := fields.optional "rule_id" JapaneseSpacing.ruleId scalars.text
  let message := fields.required "message" scalars.text
  let index := fields.required "index" scalars.int
  let line := fields.required "line" scalars.int
  let column := fields.required "column" scalars.int
  let severity := fields.optional "severity" Severity.error Severity.ofValue
  let fix := fields.optional "fix" none (Fix.ofValue? scalars)
  match ruleId.both (message.both (index.both (line.both (column.both (severity.both fix))))) with
  | .ok (ruleId, message, index, line, column, severity, fix) =>
    .ok { ruleId, message, index, line, column, severity, fix }
  | .error errors => .error errors

/-- Read a result from the fields of a record. -/
def LintResult.ofFields (scalars : ScalarReader) (fields : Fields) : Validated LintResult :=
  let filePath := fields.required "file_path" scalars.text
  let messages := fields.optional "messages" []
    (Value.asList fun value => value.asRecord (Message.ofFields scalars))
  match filePath.both messages with
  | .ok (filePath, messages) => .ok { filePath, messages }
  | .error errors => .error errors

/-- Read a result. -/
def LintResult.ofValue (scalars : ScalarReader) (value : Value) : Validated LintResult :=
  value.asRecord (LintResult.ofFields scalars)

end JapaneseSpacing
