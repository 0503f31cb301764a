import JapaneseSpacing.Text.Line

/-!
# From inline content to the document

Each line of an inline content was found somewhere in the document. An offset into
the content belongs to the last line that starts at or before it and keeps its
distance from that line's start.
-/

namespace JapaneseSpacing

/-- Where the lines of an inline content start in the content and in the document. -/
structure LineOffsets where
  content : List Int
  document : List Int
deriving Repr, DecidableEq

/-- The offset in the document of an offset into the content. -/
def LineOffsets.locate (offsets : LineOffsets) (offset : Int) : Except OffsetError Int :=
  let line : Int := (countUpTo offsets.content offset : Int) - 1
  match item? offsets.document line, item? offsets.content line with
  | some found, some start => .ok (found + (offset - start))
  | _, _ => .error .outOfRange

end JapaneseSpacing
