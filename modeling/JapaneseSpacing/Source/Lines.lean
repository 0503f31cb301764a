import JapaneseSpacing.Spacing.Violation
import JapaneseSpacing.Text.Line

/-!
# A document by lines

The document text together with its lines and where they start. A line number below
zero counts from the last line, and `rangeSpan` widens a range of line numbers to
whole lines.
-/

namespace JapaneseSpacing

/-- A document text cut into lines. -/
structure SourceLines where
  text : Text
  lines : List Text
  starts : List Nat
deriving Repr, DecidableEq

/-- The lines of a text. -/
def SourceLines.ofText (text : Text) : SourceLines :=
  ⟨text, Text.lines text, Text.lineStarts text⟩

namespace SourceLines

/-- The offset at which a line starts. -/
def lineStart (source : SourceLines) (line : Int) : Except OffsetError Int :=
  match item? source.starts line with
  | some start => .ok start
  | none => .error .outOfRange

/-- The offset at which a line stops, in front of its line feed. -/
def lineStop (source : SourceLines) (line : Int) : Except OffsetError Int :=
  match item? source.starts line, item? source.lines line with
  | some start, some characters => .ok (start + characters.length)
  | _, _ => .error .outOfRange

/-- The span of the lines from `first` up to but not including `last`, which is at
least the line `first` and nothing behind the text's last line. -/
def rangeSpan (source : SourceLines) (first last : Int) : Except OffsetError Span := do
  let final := max first (min last source.lines.length - 1)
  return ⟨← source.lineStart first, ← source.lineStop final⟩

end SourceLines

end JapaneseSpacing
