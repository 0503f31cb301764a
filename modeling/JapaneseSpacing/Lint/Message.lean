import JapaneseSpacing.Spacing.Violation

/-!
# Lint messages

A message is a violation placed in the linted document: its offsets are absolute
and it carries the line and the column of its index.
-/

namespace JapaneseSpacing

/-- How serious a message is. -/
inductive Severity where
  | error
  | warning
deriving Repr, DecidableEq

/-- The word for a severity. -/
def Severity.name : Severity → String
  | .error => "error"
  | .warning => "warning"

/-- The severity of a given word. -/
def Severity.ofName? : String → Option Severity
  | "error" => some .error
  | "warning" => some .warning
  | _ => none

/-- The identifier of the spacing rule in reports. -/
def ruleId : Text := "ja-space-around-phrase".toList

/-- One reported violation, positioned in the linted document. -/
structure Message where
  ruleId : Text := JapaneseSpacing.ruleId
  message : Text
  index : Int
  line : Int
  column : Int
  severity : Severity := .error
  fix : Option Fix := none
deriving Repr, DecidableEq

/-- The messages about one file. -/
structure LintResult where
  filePath : Text
  messages : List Message := []
deriving Repr, DecidableEq

end JapaneseSpacing
