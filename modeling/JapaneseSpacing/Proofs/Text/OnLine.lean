import JapaneseSpacing.Proofs.Text.Position

/-!
# The line of an offset

The line feeds in front of an offset number the line that it lies on (`exists_onLine`), so
offsets without a line feed between them lie on one line. A slice between such offsets is a
slice of their line, wherever the line stands (`slice_part`).
-/

namespace JapaneseSpacing.Text

theorem lines_head (text : Text) : (lines text)[0]? = some (text.takeWhile (· != '\n')) := by
  induction text with
  | nil => rfl
  | cons first rest inductionHypothesis =>
    by_cases isBreak : first = '\n'
    · subst isBreak
      rfl
    · obtain ⟨line, more, split⟩ := exists_lines_cons rest
      rw [split, List.getElem?_cons_zero, Option.some.injEq] at inductionHypothesis
      rw [lines_char isBreak split, inductionHypothesis, List.takeWhile_cons,
        if_pos (bne_iff_ne.2 isBreak)]
      rfl

/-- The line of an offset is made up of what stands in front of the offset and behind it. -/
theorem lines_front (front behind : Text) :
    (lines (front ++ behind))[front.count '\n']?
      = some (lastLine front ++ behind.takeWhile (· != '\n')) := by
  induction front with
  | nil => exact lines_head behind
  | cons first rest inductionHypothesis =>
    have last := lastLine_append [first] rest
    rw [List.singleton_append] at last
    rw [last, List.cons_append]
    by_cases isBreak : first = '\n'
    · subst isBreak
      rw [lines_break, List.count_cons_self, List.getElem?_cons_succ, inductionHypothesis]
      split <;> rfl
    · obtain ⟨line, more, split⟩ := exists_lines_cons (rest ++ behind)
      rw [split] at inductionHypothesis
      rw [lines_char isBreak split, List.count_cons_of_ne isBreak]
      cases count : rest.count '\n' with
      | zero =>
        rw [count, List.getElem?_cons_zero, Option.some.injEq] at inductionHypothesis
        have single : lastLine [first] = [first] := lastLine_char [] isBreak
        rw [List.getElem?_cons_zero, if_pos rfl, inductionHypothesis, single]
        rfl
      | succ number =>
        rw [count] at inductionHypothesis
        rw [if_neg (Nat.succ_ne_zero number)]
        exact inductionHypothesis

/-- An offset of a text lies on a line: inside it, or at its end. -/
structure OnLine (text : Text) (offset line start : Nat) (part : Text) : Prop where
  isLine : (lines text)[line]? = some part
  isStart : (lineStarts text)[line]? = some start
  behind : start ≤ offset
  before : offset ≤ start + part.length

/-- Every offset lies on the line that the line feeds in front of it number, and at the end of
the line only if no other character stands there than a line feed. -/
theorem exists_onLine {text : Text} {offset : Nat} (inside : offset ≤ text.length) :
    ∃ start part, text.OnLine offset ((text.take offset).count '\n') start part
      ∧ ∀ char ∈ text[offset]?, char ≠ '\n' → offset < start + part.length := by
  obtain ⟨start, isStart, length⟩ := lineStarts_last (text.take offset)
  rw [List.length_take_of_le inside] at length
  have isLine := lines_front (text.take offset) (text.drop offset)
  rw [List.take_append_drop] at isLine
  refine ⟨start, _, ⟨isLine, ?_, by omega, ?_⟩, fun char member noBreak => ?_⟩
  · have whole := lineStarts_append (text.take offset) (text.drop offset)
    rw [List.take_append_drop] at whole
    rw [whole, List.getElem?_append_left (List.getElem?_eq_some_iff.1 isStart).1, isStart]
  · rw [List.length_append]
    omega
  · have head : (text.drop offset).head? = some char := by rw [List.head?_drop, member]
    obtain ⟨rest, isBehind⟩ := List.head?_eq_some_iff.1 head
    have goesOn : (char != '\n') = true := bne_iff_ne.2 noBreak
    rw [isBehind, List.takeWhile_cons, if_pos goesOn, List.length_append, List.length_cons]
    omega

/-- A line ends in front of every later line. -/
theorem end_lt_start {text part : Text} {line later start next : Nat}
    (isLine : (lines text)[line]? = some part) (isStart : (lineStarts text)[line]? = some start)
    (isNext : (lineStarts text)[later]? = some next) (order : line < later) :
    start + part.length < next := by
  have ascending := startsFrom_ascending 0 (lines text)
  rw [lineStarts_eq] at isStart isNext
  obtain ⟨within, isThere⟩ := List.getElem?_eq_some_iff.1 isNext
  have between : line + 1 < (startsFrom 0 (lines text)).length := by omega
  have isAfter := startsFrom_next isLine isStart (List.getElem?_eq_getElem between)
  have notBefore : (startsFrom 0 (lines text))[line + 1] ≤ next := by
    rcases Nat.eq_or_lt_of_le (Nat.succ_le_of_lt order) with rfl | further
    · exact Nat.le_of_eq isThere
    · rw [← isThere]
      exact Nat.le_of_lt (List.pairwise_iff_getElem.1 ascending _ _ between within further)
  omega

/-! ## Slices -/

theorem slice_natCast {text : Text} {start stop : Nat} (order : start ≤ stop)
    (inside : stop ≤ text.length) : text.slice start stop = (text.take stop).drop start := by
  rw [slice, clipOffset_natCast inside, clipOffset_natCast (Nat.le_trans order inside)]

/-- The line feeds of a slice are those that lie between two offsets. -/
theorem count_take {text : Text} {start stop : Nat} (order : start ≤ stop)
    (inside : stop ≤ text.length) :
    (text.take stop).count '\n'
      = (text.take start).count '\n' + (text.slice start stop).count '\n' := by
  have split := List.take_append_drop start (text.take stop)
  rw [List.take_take, Nat.min_eq_left order, ← slice_natCast order inside] at split
  rw [← split, List.count_append]

/-- Offsets without a line feed between them lie on one line. -/
theorem exists_common_line {text : Text} {start stop : Nat} (order : start ≤ stop)
    (inside : stop ≤ text.length) (oneLine : '\n' ∉ text.slice start stop) :
    ∃ line lineStart part, text.OnLine start line lineStart part
      ∧ text.OnLine stop line lineStart part := by
  have count := count_take order inside
  rw [List.count_eq_zero.2 oneLine, Nat.add_zero] at count
  obtain ⟨lineStart, part, onLine, _⟩ := exists_onLine (Nat.le_trans order inside)
  obtain ⟨otherStart, otherPart, otherLine, _⟩ := exists_onLine inside
  rw [count] at otherLine
  obtain rfl : lineStart = otherStart :=
    Option.some.inj (onLine.isStart.symm.trans otherLine.isStart)
  obtain rfl : part = otherPart := Option.some.inj (onLine.isLine.symm.trans otherLine.isLine)
  exact ⟨_, lineStart, part, onLine, otherLine⟩

section Slices

variable {front part behind : Text}

/-- A slice inside a part of a text is a slice of the part. -/
theorem slice_part {start stop : Nat} (order : start ≤ stop) (inside : stop ≤ part.length) :
    (front ++ part ++ behind).slice (front.length + start : Nat) (front.length + stop : Nat)
      = (part.take stop).drop start := by
  have whole : front.length + stop ≤ (front ++ part ++ behind).length := by
    simp only [List.length_append]
    omega
  rw [slice_natCast (Nat.add_le_add_left order _) whole, List.append_assoc,
    List.take_length_add_append, List.drop_length_add_append, List.take_append_of_le_length inside]

theorem prefix_slice {stop : Nat} (order : front.length + part.length ≤ stop)
    (inside : stop ≤ (front ++ part ++ behind).length) :
    part <+: (front ++ part ++ behind).slice front.length stop := by
  have whole : (front ++ part).length ≤ stop := by rwa [List.length_append]
  rw [slice_natCast (by omega) inside, List.take_append, List.take_of_length_le whole,
    List.append_assoc, List.drop_left]
  exact List.prefix_append _ _

theorem suffix_slice {start : Nat} (order : start ≤ front.length) :
    part <:+ (front ++ part ++ behind).slice start (front.length + part.length : Nat) := by
  have whole : front.length + part.length ≤ (front ++ part ++ behind).length := by
    simp only [List.length_append]
    omega
  rw [slice_natCast (by omega) whole, ← List.length_append, List.take_left,
    List.drop_append_of_le_length order]
  exact List.suffix_append _ _

end Slices

end JapaneseSpacing.Text
