import JapaneseSpacing.Text.Basic

/-!
# Log records

What a run has to tell besides its report. How many records are shown depends on how
verbose a run is.
-/

namespace JapaneseSpacing

/-- How important a record is. -/
inductive LogLevel where
  | debug
  | info
  | warning
deriving Repr, DecidableEq

namespace LogLevel

/-- The word for a level. -/
def name : LogLevel → Text
  | debug => "DEBUG".toList
  | info => "INFO".toList
  | warning => "WARNING".toList

/-- The place of a level among all levels, the least important first. -/
def rank : LogLevel → Nat
  | debug => 0
  | info => 1
  | warning => 2

/-- The least level that is shown at some verbosity. -/
def ofVerbosity : Nat → LogLevel
  | 0 => warning
  | 1 => info
  | _ => debug

end LogLevel

/-- One record. -/
structure LogRecord where
  level : LogLevel
  text : Text
deriving Repr, DecidableEq

namespace LogRecord

/-- The line that shows a record. -/
def line (record : LogRecord) : Text :=
  record.level.name ++ ":root:".toList ++ record.text

/-- Whether a record is shown at some verbosity. -/
def isShownAt (verbosity : Nat) (record : LogRecord) : Bool :=
  (LogLevel.ofVerbosity verbosity).rank ≤ record.level.rank

end LogRecord

end JapaneseSpacing
