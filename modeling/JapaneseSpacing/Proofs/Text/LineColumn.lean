import JapaneseSpacing.Proofs.Text.OnLine

/-!
# Lines and columns as addresses

An offset on a line has the line's number and its distance from the line's start for its line and
its column (`Text.OnLine.position`). So lines and columns are addresses: every offset has one, in
the order of the offsets, and every place on a line is the address of an offset
(`Position.ofOffset_addresses`).
-/

namespace JapaneseSpacing

namespace Text

variable {text part other : Text} {offset line later start next : Nat}

theorem OnLine.inside (onLine : text.OnLine offset line start part) : offset ≤ text.length := by
  obtain ⟨front, behind, shape, isStart⟩ := exists_around_line onLine.isLine
  obtain rfl : start = front.length := Option.some.inj (onLine.isStart.symm.trans isStart)
  have before := onLine.before
  rw [shape, List.length_append, List.length_append]
  omega

/-- The position of an offset is the number of its line and how far behind the start of the line
it lies, both counted from one. -/
theorem OnLine.position (onLine : text.OnLine offset line start part) :
    Position.ofOffset (lineStarts text) offset = ⟨line + 1, offset - start + 1⟩ := by
  refine Position.ofOffset_between onLine.isStart onLine.behind fun next isNext => ?_
  have ends := end_lt_start onLine.isLine onLine.isStart isNext (Nat.lt_succ_self line)
  exact Nat.lt_of_le_of_lt onLine.before ends

/-- A place on a line, or right behind its last character, has an offset. -/
theorem exists_onLine_of_le {distance : Nat} (isLine : (lines text)[line]? = some part)
    (inside : distance ≤ part.length) :
    ∃ start, text.OnLine (start + distance) line start part := by
  obtain ⟨front, behind, _, isStart⟩ := exists_around_line isLine
  exact ⟨front.length, isLine, isStart, by omega, by omega⟩

end Text

namespace Position

/-- A position comes before another one: on an earlier line, or further to the left on its line. -/
def Before (first second : Position) : Prop :=
  first.line < second.line ∨ first.line = second.line ∧ first.column < second.column

/-- A position is on a line of a text: in front of one of its characters or behind the last. -/
def IsIn (position : Position) (text : Text) : Prop :=
  1 ≤ position.line ∧ ∃ part, (Text.lines text)[(position.line - 1).toNat]? = some part
    ∧ 1 ≤ position.column ∧ position.column ≤ 1 + part.length

theorem Before.ne {first second : Position} (before : first.Before second) : first ≠ second := by
  rintro rfl
  rcases before with onLine | ⟨_, inLine⟩
  · exact Int.lt_irrefl _ onLine
  · exact Int.lt_irrefl _ inLine

variable {text : Text}

/-- Positions are in the order of their offsets. -/
theorem ofOffset_before {first second : Nat} (order : first < second)
    (inside : second ≤ text.length) :
    (ofOffset (Text.lineStarts text) first).Before (ofOffset (Text.lineStarts text) second) := by
  obtain ⟨firstStart, _, onFirst, _⟩ := Text.exists_onLine (Nat.le_trans (Nat.le_of_lt order) inside)
  obtain ⟨secondStart, _, onSecond, _⟩ := Text.exists_onLine inside
  have count := Text.count_take (Nat.le_of_lt order) inside
  rw [onFirst.position, onSecond.position]
  -- Without a line feed between them both are on one line, with the same start.
  rcases Nat.eq_zero_or_pos ((text.slice first second).count '\n') with oneLine | further
  · rw [oneLine, Nat.add_zero] at count
    rw [count] at onSecond ⊢
    obtain rfl : firstStart = secondStart :=
      Option.some.inj (onFirst.isStart.symm.trans onSecond.isStart)
    exact .inr ⟨rfl, by dsimp only; omega⟩
  · exact .inl (by dsimp only; omega)

/-- The positions of a text are those of its offsets. -/
theorem exists_ofOffset_iff {position : Position} :
    (∃ offset : Nat, offset ≤ text.length ∧ ofOffset (Text.lineStarts text) offset = position)
      ↔ position.IsIn text := by
  constructor
  · rintro ⟨offset, inside, rfl⟩
    obtain ⟨start, part, onLine, _⟩ := Text.exists_onLine inside
    have behind := onLine.behind
    have before := onLine.before
    rw [onLine.position]
    refine ⟨by dsimp only; omega, part, ?_, by dsimp only; omega, by dsimp only; omega⟩
    rw [← onLine.isLine]
    congr 1
    dsimp only
    omega
  · obtain ⟨line, column⟩ := position
    rintro ⟨linePos, part, isLine, columnPos, inside⟩
    dsimp only at linePos isLine columnPos inside
    have distance : (column - 1).toNat ≤ part.length := by omega
    obtain ⟨start, onLine⟩ := Text.exists_onLine_of_le isLine distance
    refine ⟨_, onLine.inside, ?_⟩
    rw [onLine.position]
    congr 1 <;> omega

end Position

/-- Lines and columns are faithful addresses. The line of an offset is told by the line feeds in
front of it, and its column by the characters behind the last of them; they are a place on a line
of the text, from whose start the offset is found again. Positions are in the order of the
offsets, different ones for different offsets, and every place on a line is the position of one. -/
theorem Position.ofOffset_addresses (text : Text) :
    (∀ offset : Nat, offset ≤ text.length →
      let position := Position.ofOffset (Text.lineStarts text) offset
      position.line = 1 + (text.take offset).count '\n'
      ∧ position.column = 1 + (Text.lastLine (text.take offset)).length
      ∧ position.IsIn text
      ∧ ∃ start : Nat, (Text.lineStarts text)[(position.line - 1).toNat]? = some start
        ∧ start + position.column - 1 = offset)
    ∧ (∀ first second : Nat, first < second → second ≤ text.length →
      (Position.ofOffset (Text.lineStarts text) first).Before
        (Position.ofOffset (Text.lineStarts text) second))
    ∧ (∀ first second : Nat, first ≤ text.length → second ≤ text.length →
      Position.ofOffset (Text.lineStarts text) first
        = Position.ofOffset (Text.lineStarts text) second → first = second)
    ∧ ∀ position : Position,
      (∃ offset : Nat, offset ≤ text.length
        ∧ Position.ofOffset (Text.lineStarts text) offset = position) ↔ position.IsIn text := by
  refine ⟨fun offset inside => ?_, fun first second order inside => Position.ofOffset_before order inside,
    fun first second firstInside secondInside same => ?_, fun position => Position.exists_ofOffset_iff⟩
  · obtain ⟨start, part, onLine, _⟩ := Text.exists_onLine inside
    have told := Position.ofOffset_take (Int.natCast_nonneg offset) (Int.ofNat_le.2 inside)
    rw [Int.toNat_natCast] at told
    refine ⟨?_, ?_, Position.exists_ofOffset_iff.1 ⟨offset, inside, rfl⟩, start, ?_, ?_⟩
    · rw [told]
      exact Int.add_comm _ _
    · rw [told]
      exact Int.add_comm _ _
    · rw [onLine.position, ← onLine.isStart]
      congr 1
      dsimp only
      omega
    · rw [onLine.position]
      dsimp only
      omega
  · rcases Nat.lt_trichotomy first second with before | equal | behind
    · exact absurd same (Position.ofOffset_before before secondInside).ne
    · exact equal
    · exact absurd same.symm (Position.ofOffset_before behind firstInside).ne

/-- A text with an empty line, and at its end another one. -/
theorem Position.ofOffset_addresses_emptyLine :
    let text : Text := "あb\n\nc\n".toList
    let positions := (List.range 7).map fun offset : Nat =>
      Position.ofOffset (Text.lineStarts text) offset
    positions = [⟨1, 1⟩, ⟨1, 2⟩, ⟨1, 3⟩, ⟨2, 1⟩, ⟨3, 1⟩, ⟨3, 2⟩, ⟨4, 1⟩]
    ∧ 2 < 3 ∧ 3 ≤ text.length
    ∧ (Position.ofOffset (Text.lineStarts text) (2 : Nat)).Before
      (Position.ofOffset (Text.lineStarts text) (3 : Nat)) := by
  intro text positions
  refine ⟨by decide +kernel, by decide, by decide, ?_⟩
  exact (Position.ofOffset_addresses text).2.1 2 3 (by decide) (by decide)

end JapaneseSpacing
