import JapaneseSpacing.Report.Csv
import JapaneseSpacing.Report.Json
import JapaneseSpacing.Report.Stylish

/-!
# Report formats

The three formats a report can be asked for.
-/

namespace JapaneseSpacing

/-- The formats of a report. -/
inductive ReportFormat where
  | stylish
  | json
  | csv
deriving Repr, DecidableEq

/-- The format of a given word. -/
def ReportFormat.ofName? : String → Option ReportFormat
  | "stylish" => some .stylish
  | "json" => some .json
  | "csv" => some .csv
  | _ => none

/-- The report of some results in a format. -/
def writeReport (writer : JsonWriter) (format : ReportFormat) (results : List LintResult) :
    Except ReportError Text :=
  match format with
  | .stylish => .ok (stylishReport results)
  | .json => jsonReport writer results
  | .csv => .ok (csvReport results)

end JapaneseSpacing
