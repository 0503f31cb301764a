import JapaneseSpacing.Text.Basic

/-!
# Lines and positions

Lines end at line feeds only. `lineStarts` lists where each line begins and
`Position.ofOffset` turns an offset into a one-based line and column; an offset
before the text belongs to line 0 and counts from the last line's start.
-/

namespace JapaneseSpacing

/-- How many leading entries of an ascending list are at most `value`, by halving. -/
def countUpTo (entries : List Int) (value : Int) : Nat :=
  search 0 entries.length
where
  /-- The answer lies between `low` and `high`. -/
  search (low high : Nat) : Nat :=
    if low < high then
      let middle := (low + high) / 2
      if value < entries.getD middle 0 then search low middle
      else search (middle + 1) high
    else low
  termination_by high - low

namespace Text

/-- The lines of a text without their line feeds; a final line feed is followed by
an empty line. -/
def lines (text : Text) : List Text :=
  text.splitWhere (· == '\n')

/-- The offsets just after the line feeds of a text that begins at `offset`. -/
def offsetsAfterBreaks (offset : Nat) : Text → List Nat
  | [] => []
  | first :: rest =>
    if first = '\n' then (offset + 1) :: offsetsAfterBreaks (offset + 1) rest
    else offsetsAfterBreaks (offset + 1) rest

/-- The offset at which each line starts. -/
def lineStarts (text : Text) : List Nat :=
  0 :: offsetsAfterBreaks 0 text

/-- Every carriage return, with the line feed after it if there is one, becomes one
line feed. -/
def normalizeBreaks : Text → Text
  | [] => []
  | '\r' :: '\n' :: rest => '\n' :: normalizeBreaks rest
  | first :: rest => (if first = '\r' then '\n' else first) :: normalizeBreaks rest

end Text

/-- A line and a column, both counted from one. -/
structure Position where
  line : Int
  column : Int
deriving Repr, DecidableEq

/-- The address of an offset in the text whose lines start at `starts`. -/
def Position.ofOffset (starts : List Nat) (offset : Int) : Position :=
  let line : Int := (countUpTo (starts.map Int.ofNat) offset : Int) - 1
  let start : Int := ((item? starts line).getD 0 : Nat)
  ⟨line + 1, offset - start + 1⟩

end JapaneseSpacing
