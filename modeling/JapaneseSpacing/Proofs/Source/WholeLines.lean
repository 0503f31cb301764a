import JapaneseSpacing.Proofs.Source.Locate
import JapaneseSpacing.Source.Lines

/-!
# Ranges of whole lines

A block's line range is turned into a span with two lists that are made independently, the lines
of a text and the offsets at which they start. The span of a range takes whole lines, from the
start of its first line to the end of its last one (`rangeSpan_wholeLines`).
-/

namespace JapaneseSpacing

namespace Text

/-! ## Rows of lines -/

/-- Rows with a line feed behind each. -/
def rowsBefore (rows : List Text) : Text :=
  rows.flatMap (· ++ ['\n'])

/-- Rows with a line feed in front of each. -/
def rowsBehind (rows : List Text) : Text :=
  rows.flatMap ('\n' :: ·)

theorem join_cons (row : Text) (more : List Text) :
    join ['\n'] (row :: more) = row ++ rowsBehind more := by
  induction more generalizing row with
  | nil => simp [join, rowsBehind]
  | cons next others inductionHypothesis =>
    rw [join_cons_cons, inductionHypothesis, rowsBehind, rowsBehind, List.flatMap_cons]
    simp

/-- Some rows among others stand between the others and their line feeds. -/
theorem join_around (before after : List Text) {rows : List Text} (someRows : rows ≠ []) :
    join ['\n'] (before ++ rows ++ after)
      = rowsBefore before ++ join ['\n'] rows ++ rowsBehind after := by
  induction before with
  | nil =>
    obtain ⟨row, more, rfl⟩ := List.exists_cons_of_ne_nil someRows
    rw [List.nil_append, List.cons_append, join_cons, join_cons, rowsBehind, List.flatMap_append]
    simp [rowsBefore, rowsBehind]
  | cons first more inductionHypothesis =>
    obtain ⟨next, others, split⟩ : ∃ next others, more ++ rows ++ after = next :: others :=
      List.exists_cons_of_ne_nil (by simp [someRows])
    rw [List.cons_append, List.cons_append, split, join_cons_cons, ← split, inductionHypothesis,
      rowsBefore, rowsBefore, List.flatMap_cons]
    simp only [List.append_assoc]

/-- A row starts behind the rows before it. -/
theorem startsFrom_rowsBefore (offset : Nat) (before more : List Text) (row : Text) :
    (startsFrom offset (before ++ row :: more))[before.length]?
      = some (offset + (rowsBefore before).length) := by
  induction before generalizing offset with
  | nil => rfl
  | cons first others inductionHypothesis =>
    rw [List.cons_append, startsFrom, List.length_cons, List.getElem?_cons_succ,
      inductionHypothesis, rowsBefore, rowsBefore, List.flatMap_cons, List.length_append,
      List.length_append, List.length_singleton]
    congr 1
    omega

/-- What follows rows with their line feeds starts at the start of the text or behind one. -/
theorem rowsBefore_startsLine (rows : List Text) (behind : Text) :
    (rowsBefore rows).length = 0
      ∨ (rowsBefore rows ++ behind)[(rowsBefore rows).length - 1]? = some '\n' := by
  rcases List.eq_nil_or_concat rows with rfl | ⟨others, last, rfl⟩
  · exact .inl rfl
  · have shape : rowsBefore (others.concat last) = rowsBefore others ++ last ++ ['\n'] := by
      simp [rowsBefore]
    refine .inr ?_
    rw [shape, List.length_append, List.length_singleton, Nat.add_sub_cancel, List.append_assoc,
      List.getElem?_append_right (Nat.le_refl _), Nat.sub_self]
    rfl

/-- What rows with their line feeds follow stops at the end of the text or in front of one. -/
theorem rowsBehind_endsLine (front : Text) (rows : List Text) :
    front.length = (front ++ rowsBehind rows).length
      ∨ (front ++ rowsBehind rows)[front.length]? = some '\n' := by
  cases rows with
  | nil => exact .inl (by rw [rowsBehind, List.flatMap_nil, List.append_nil])
  | cons first more =>
    refine .inr ?_
    rw [List.getElem?_append_right (Nat.le_refl _), Nat.sub_self]
    rfl

/-! ## Slices that take whole lines -/

/-- A slice of a text takes whole rows: it reaches from the start of a line to the end of one, and
is made up of the rows with line feeds in between. -/
structure TakesRows (text : Text) (start stop : Nat) (rows : List Text) : Prop where
  order : start ≤ stop
  inside : stop ≤ text.length
  slice : text.slice start stop = join ['\n'] rows
  startsLine : start = 0 ∨ text[start - 1]? = some '\n'
  endsLine : stop = text.length ∨ text[stop]? = some '\n'

theorem takesRows_around (before after : List Text) {rows : List Text} (someRows : rows ≠ []) :
    (join ['\n'] (before ++ rows ++ after)).TakesRows (rowsBefore before).length
      ((rowsBefore before).length + (join ['\n'] rows).length) rows := by
  rw [join_around before after someRows]
  refine ⟨?order, ?inside, ?slice, ?startsLine, ?endsLine⟩
  case order => exact Nat.le_add_right _ _
  case inside =>
    simp only [List.length_append]
    omega
  case slice => exact slice_stretch _ _ _
  case startsLine =>
    rw [List.append_assoc]
    exact rowsBefore_startsLine before _
  case endsLine =>
    rw [← List.length_append]
    exact rowsBehind_endsLine _ after

end Text

/-! ## Ranges of lines -/

namespace SourceLines

variable {text : Text}

theorem lineStart_row {before more : List Text} {row : Text}
    (split : Text.lines text = before ++ row :: more) :
    (ofText text).lineStart before.length = .ok ((Text.rowsBefore before).length : Nat) := by
  have isStart := Text.startsFrom_rowsBefore 0 before more row
  rw [← split, ← Text.lineStarts_eq, Nat.zero_add] at isStart
  rw [lineStart, ofText]
  dsimp only
  rw [item?_natCast, isStart]

theorem lineStop_row {before more : List Text} {row : Text}
    (split : Text.lines text = before ++ row :: more) :
    (ofText text).lineStop before.length
      = .ok ((Text.rowsBefore before).length + row.length : Nat) := by
  have isStart := Text.startsFrom_rowsBefore 0 before more row
  rw [← split, ← Text.lineStarts_eq, Nat.zero_add] at isStart
  have isLine : (Text.lines text)[before.length]? = some row := by
    rw [split, List.getElem?_append_right (Nat.le_refl _), Nat.sub_self, List.getElem?_cons_zero]
  rw [lineStop, ofText]
  dsimp only
  rw [item?_natCast, item?_natCast, isStart, isLine]
  rfl

/-- The span of a range that covers some rows reaches over these rows. -/
theorem rangeSpan_rows {before rows after : List Text} (last : Int) (someRows : rows ≠ [])
    (split : Text.lines text = before ++ rows ++ after)
    (isFinal : max (before.length : Int) (min last (Text.lines text).length - 1)
      = (before.length + rows.length - 1 : Nat)) :
    (ofText text).rangeSpan before.length last
      = .ok ⟨(Text.rowsBefore before).length,
        ((Text.rowsBefore before).length + (Text.join ['\n'] rows).length : Nat)⟩ := by
  -- The span starts with the first row and stops with the last one, which may be the same.
  have start : (ofText text).lineStart before.length
      = .ok ((Text.rowsBefore before).length : Nat) := by
    obtain ⟨row, more, rfl⟩ := List.exists_cons_of_ne_nil someRows
    exact lineStart_row (split.trans (List.append_assoc ..))
  have stop : (ofText text).lineStop (before.length + rows.length - 1 : Nat)
      = .ok ((Text.rowsBefore before).length + (Text.join ['\n'] rows).length : Nat) := by
    obtain ⟨front, row, rfl⟩ := (List.eq_nil_or_concat rows).resolve_left someRows
    rw [List.concat_eq_append] at split ⊢
    have whole : Text.lines text = (before ++ front) ++ row :: after := by
      rw [split]
      simp
    have joined := Text.join_around front [] (List.cons_ne_nil row [])
    rw [List.append_nil] at joined
    have length : before.length + (front ++ [row]).length - 1 = (before ++ front).length := by
      simp only [List.length_append, List.length_singleton]
      omega
    rw [length, lineStop_row whole, joined]
    simp [Text.rowsBefore, Text.rowsBehind, Text.join, Nat.add_assoc]
  rw [rangeSpan, start]
  change (do return Span.mk (Text.rowsBefore before).length (← (ofText text).lineStop
    (max (before.length : Int) (min last (Text.lines text).length - 1)))) = _
  rw [isFinal, stop]
  rfl

/-- A range of lines whose first one exists takes the lines from there on, at least one, as far as
the range reaches and there are lines. -/
theorem exists_rangeSpan {first stop : Nat} {last : Int} (order : first < stop)
    (inside : stop ≤ (Text.lines text).length)
    (isStop : max (first + 1 : Int) (min last (Text.lines text).length) = stop) :
    ∃ start finish : Nat, (ofText text).rangeSpan first last = .ok ⟨start, finish⟩
      ∧ text.TakesRows start finish (((Text.lines text).take stop).drop first) := by
  have split : Text.lines text = (Text.lines text).take first
      ++ ((Text.lines text).take stop).drop first ++ (Text.lines text).drop stop := by
    have front := List.take_append_drop first ((Text.lines text).take stop)
    rw [List.take_take, Nat.min_eq_left (Nat.le_of_lt order)] at front
    rw [front, List.take_append_drop]
  have beforeLength : ((Text.lines text).take first).length = first :=
    List.length_take_of_le (Nat.le_trans (Nat.le_of_lt order) inside)
  have rowsLength : (((Text.lines text).take stop).drop first).length = stop - first := by
    rw [List.length_drop, List.length_take_of_le inside]
  have someRows : ((Text.lines text).take stop).drop first ≠ [] := by
    rw [← List.length_pos_iff, rowsLength]
    exact Nat.sub_pos_of_lt order
  have span := rangeSpan_rows last someRows split (by
    rw [beforeLength, rowsLength]
    omega)
  have takes := Text.takesRows_around ((Text.lines text).take first) ((Text.lines text).drop stop)
    someRows
  rw [← split, Text.join_lines] at takes
  rw [beforeLength] at span
  exact ⟨_, _, span, takes⟩

/-- Block ranges are whole lines. A range of lines whose first one exists has a span, and the span
takes the lines from the first one up to but not including the last one, as far as they exist and
at least the first; a range that ends where it begins, or before, takes this one line. The starts
of lines belong to the lines one by one: each line starts behind the line before it and that
line's line feed. -/
theorem rangeSpan_wholeLines (text : Text) :
    (∀ first last : Int, 0 ≤ first → first < (Text.lines text).length →
      ∃ start stop : Nat, (ofText text).rangeSpan first last = .ok ⟨start, stop⟩
        ∧ text.TakesRows start stop (((Text.lines text).take
          (max (first + 1) (min last (Text.lines text).length)).toNat).drop first.toNat)
        ∧ (last ≤ first → (Text.lines text)[first.toNat]? = some (text.slice start stop)))
    ∧ (Text.lineStarts text).length = (Text.lines text).length
    ∧ (Text.lineStarts text).Pairwise (· < ·)
    ∧ ∀ (number start next : Nat) (line : Text), (Text.lines text)[number]? = some line →
      (Text.lineStarts text)[number]? = some start →
      (Text.lineStarts text)[number + 1]? = some next → start + line.length + 1 = next := by
  refine ⟨fun first last fromStart inside => ?_, length_lineStarts_eq text, ?_, ?_⟩
  · obtain ⟨number, rfl⟩ := Int.eq_ofNat_of_zero_le fromStart
    have within : number < (Text.lines text).length := Int.ofNat_lt.1 inside
    obtain ⟨stop, isStop⟩ : ∃ stop : Nat,
        max (number + 1 : Int) (min last (Text.lines text).length) = stop :=
      Int.eq_ofNat_of_zero_le (by omega)
    obtain ⟨start, finish, span, takes⟩ := exists_rangeSpan (by omega) (by omega) isStop
    refine ⟨start, finish, span, ?_, fun backwards => ?_⟩
    · rw [isStop]
      exact takes
    · obtain rfl : stop = number + 1 := by omega
      have single : ((Text.lines text).take (number + 1)).drop number
          = [(Text.lines text)[number]] := by
        rw [List.drop_take, Nat.add_sub_cancel_left, List.drop_eq_getElem_cons within]
        rfl
      rw [takes.slice, single, Int.toNat_natCast, List.getElem?_eq_getElem within]
      rfl
  · rw [Text.lineStarts_eq]
    exact Text.startsFrom_ascending 0 _
  · intro number start next line isLine isStart isNext
    rw [Text.lineStarts_eq] at isStart isNext
    exact (Text.startsFrom_next isLine isStart isNext).symm

/-- A range that reaches beyond the last line of a text, which is empty, and begins with an empty
line as well. -/
theorem rangeSpan_wholeLines_emptyLines :
    let text : Text := "あ\n\nb c\n".toList
    (0 : Int) ≤ 1 ∧ (1 : Int) < (Text.lines text).length
    ∧ (ofText text).rangeSpan 1 9 = .ok ⟨2, 7⟩
    ∧ text.TakesRows 2 7 [[], "b c".toList, []] := by
  intro text
  have inside : (1 : Int) < (Text.lines text).length := by decide
  have isSpan : (ofText text).rangeSpan 1 9 = .ok ⟨2, 7⟩ := rfl
  refine ⟨by decide, inside, isSpan, ?_⟩
  obtain ⟨start, stop, span, takes, _⟩ := (rangeSpan_wholeLines text).1 1 9 (by decide) inside
  rw [isSpan, Except.ok.injEq, Span.mk.injEq] at span
  obtain rfl : start = 2 := by omega
  obtain rfl : stop = 7 := by omega
  exact takes

end SourceLines

end JapaneseSpacing
