import JapaneseSpacing.Proofs.Text.Pieces
import JapaneseSpacing.Text.Line

/-!
# Lines and their starts

The lines of a text and the offsets at which they start are found independently. They
agree: every line stands in the text where it is said to start, and the next one starts
behind its line feed (`exists_around_line`, `lineStarts_eq`).
-/

namespace JapaneseSpacing.Text

theorem lines_nil : lines [] = [[]] := rfl

theorem lines_ne_nil (text : Text) : lines text ≠ [] :=
  splitWhere_ne_nil _ text

/-- The first line of a text and the lines behind it. -/
theorem exists_lines_cons (text : Text) : ∃ first more, lines text = first :: more :=
  List.exists_cons_of_ne_nil (lines_ne_nil text)

theorem lines_break (rest : Text) : lines ('\n' :: rest) = [] :: lines rest := rfl

theorem lines_char {char : Char} {rest first : Text} {more : List Text} (noBreak : char ≠ '\n')
    (behind : lines rest = first :: more) :
    lines (char :: rest) = (char :: first) :: more := by
  have isFalse : (char == '\n') = false := beq_eq_false_iff_ne.2 noBreak
  have behind : splitWhere (· == '\n') rest = first :: more := behind
  rw [lines, splitWhere, isFalse, behind]

/-- A text without line feeds is one line. -/
theorem lines_of_noBreak {text : Text} (noBreak : '\n' ∉ text) : lines text = [text] := by
  induction text with
  | nil => rfl
  | cons first rest inductionHypothesis =>
    rw [List.mem_cons, not_or] at noBreak
    exact lines_char (Ne.symm noBreak.1) (inductionHypothesis noBreak.2)

/-- Where lines start that stand one after another from an offset on. -/
def startsFrom (offset : Nat) : List Text → List Nat
  | [] => []
  | line :: more => offset :: startsFrom (offset + line.length + 1) more

theorem offsetsAfterBreaks_eq {text first : Text} {more : List Text} {offset : Nat}
    (split : lines text = first :: more) :
    offsetsAfterBreaks offset text = startsFrom (offset + first.length + 1) more := by
  induction text generalizing first more offset with
  | nil =>
    rw [lines_nil, List.cons.injEq] at split
    obtain ⟨rfl, rfl⟩ := split
    rfl
  | cons char rest inductionHypothesis =>
    obtain ⟨next, behind, restSplit⟩ := exists_lines_cons rest
    rw [offsetsAfterBreaks, inductionHypothesis restSplit]
    by_cases isBreak : char = '\n'
    · rw [isBreak, lines_break, restSplit, List.cons.injEq] at split
      obtain ⟨rfl, rfl⟩ := split
      rw [if_pos isBreak]
      rfl
    · rw [lines_char isBreak restSplit, List.cons.injEq] at split
      obtain ⟨rfl, rfl⟩ := split
      rw [if_neg isBreak, List.length_cons]
      congr 1
      omega

/-- Lines start one behind the other, with room for a line feed in between. -/
theorem lineStarts_eq (text : Text) : lineStarts text = startsFrom 0 (lines text) := by
  obtain ⟨first, more, split⟩ := exists_lines_cons text
  rw [lineStarts, offsetsAfterBreaks_eq split, split]
  rfl

theorem length_startsFrom (offset : Nat) (parts : List Text) :
    (startsFrom offset parts).length = parts.length := by
  induction parts generalizing offset with
  | nil => rfl
  | cons line more inductionHypothesis => simp [startsFrom, inductionHypothesis]

theorem le_of_mem_startsFrom {offset start : Nat} {parts : List Text}
    (member : start ∈ startsFrom offset parts) : offset ≤ start := by
  induction parts generalizing offset with
  | nil => cases member
  | cons line more inductionHypothesis =>
    rcases List.mem_cons.1 member with rfl | later
    · exact Nat.le_refl _
    · have behind := inductionHypothesis later
      omega

/-- Lines start further and further back. -/
theorem startsFrom_ascending (offset : Nat) (parts : List Text) :
    (startsFrom offset parts).Pairwise (· < ·) := by
  induction parts generalizing offset with
  | nil => exact .nil
  | cons line more inductionHypothesis =>
    refine .cons (fun start member => ?_) (inductionHypothesis _)
    have behind := le_of_mem_startsFrom member
    omega

/-- The next line starts behind a line and its line feed. -/
theorem startsFrom_next {offset start next number : Nat} {part : Text} {parts : List Text}
    (isPart : parts[number]? = some part)
    (isStart : (startsFrom offset parts)[number]? = some start)
    (isNext : (startsFrom offset parts)[number + 1]? = some next) :
    next = start + part.length + 1 := by
  induction parts generalizing offset number with
  | nil => simp at isPart
  | cons line more inductionHypothesis =>
    cases number with
    | zero =>
      rw [List.getElem?_cons_zero, Option.some.injEq] at isPart
      rw [startsFrom, List.getElem?_cons_zero, Option.some.injEq] at isStart
      subst isPart isStart
      cases more with
      | nil => simp [startsFrom] at isNext
      | cons second others =>
        rw [startsFrom, List.getElem?_cons_succ, startsFrom, List.getElem?_cons_zero,
          Option.some.injEq] at isNext
        exact isNext.symm
    | succ number => exact inductionHypothesis isPart isStart isNext

/-- Lines with their line feeds in between make up the text. -/
theorem join_lines (text : Text) : join ['\n'] (lines text) = text :=
  join_splitWhere '\n' text

theorem noBreak_of_mem_lines {text line : Text} (member : line ∈ lines text) : '\n' ∉ line := by
  intro inLine
  have refused := missing_of_mem_splitWhere member '\n' inLine
  exact absurd refused (by decide)

/-- The lines behind a line, given what stands behind it: nothing or a line feed and more. -/
def linesBehind : Text → List Text
  | [] => []
  | _ :: rest => lines rest

/-- A line that a text begins with stands in front of the lines behind it. -/
theorem lines_line_behind {line behind : Text} (noBreak : '\n' ∉ line)
    (ends : ∀ char ∈ behind.head?, char = '\n') :
    lines (line ++ behind) = line :: linesBehind behind := by
  cases behind with
  | nil => rw [List.append_nil, lines_of_noBreak noBreak, linesBehind]
  | cons first rest =>
    obtain rfl : first = '\n' := ends first rfl
    refine splitWhere_separator rfl fun char member => ?_
    rw [beq_eq_false_iff_ne]
    rintro rfl
    exact noBreak member

/-- Lines joined in front of a line's end are lines of the text. -/
theorem lines_join_behind {parts : List Text} {behind : Text} (someParts : parts ≠ [])
    (noBreak : ∀ part ∈ parts, '\n' ∉ part) (ends : ∀ char ∈ behind.head?, char = '\n') :
    lines (join ['\n'] parts ++ behind) = parts ++ linesBehind behind := by
  induction parts with
  | nil => exact absurd rfl someParts
  | cons part more inductionHypothesis =>
    have noBreakPart := noBreak part List.mem_cons_self
    cases more with
    | nil => exact lines_line_behind noBreakPart ends
    | cons next others =>
      have later := inductionHypothesis (List.cons_ne_nil _ _)
        fun other member => noBreak other (List.mem_cons_of_mem _ member)
      have split : join ['\n'] (part :: next :: others) ++ behind
          = part ++ '\n' :: (join ['\n'] (next :: others) ++ behind) := by
        rw [join_cons_cons]
        simp
      rw [split, lines_line_behind noBreakPart (by simp), linesBehind, later]
      rfl

theorem lines_join {parts : List Text} (someParts : parts ≠ [])
    (noBreak : ∀ part ∈ parts, '\n' ∉ part) : lines (join ['\n'] parts) = parts := by
  have behind := @lines_join_behind parts [] someParts noBreak (by simp)
  rwa [List.append_nil, linesBehind, List.append_nil] at behind

/-- Joining lines with those behind their end is joining them in front of it. -/
theorem join_linesBehind {parts : List Text} {behind : Text} (someParts : parts ≠ [])
    (ends : ∀ char ∈ behind.head?, char = '\n') :
    join ['\n'] (parts ++ linesBehind behind) = join ['\n'] parts ++ behind := by
  cases behind with
  | nil => simp [linesBehind]
  | cons first rest =>
    obtain rfl : first = '\n' := ends first rfl
    rw [linesBehind, join_append someParts (lines_ne_nil rest), join_lines, List.append_assoc,
      List.singleton_append]

/-- Lines behind some others are the lines behind their end. -/
theorem exists_behind (parts : List Text) (noBreak : ∀ part ∈ parts, '\n' ∉ part) :
    ∃ behind, linesBehind behind = parts ∧ ∀ char ∈ behind.head?, char = '\n' := by
  cases parts with
  | nil => exact ⟨[], rfl, by simp⟩
  | cons first more =>
    exact ⟨'\n' :: join ['\n'] (first :: more), lines_join (List.cons_ne_nil _ _) noBreak, by simp⟩

/-- A line among others stands where it is said to start. -/
theorem exists_around_part {parts : List Text} {number : Nat} {part : Text}
    (isPart : parts[number]? = some part) (offset : Nat) :
    ∃ front behind, join ['\n'] parts = front ++ part ++ behind
      ∧ (startsFrom offset parts)[number]? = some (offset + front.length) := by
  induction parts generalizing number offset with
  | nil => simp at isPart
  | cons first more inductionHypothesis =>
    cases number with
    | zero =>
      rw [List.getElem?_cons_zero, Option.some.injEq] at isPart
      subst isPart
      cases more with
      | nil => exact ⟨[], [], by simp [join], rfl⟩
      | cons second others => exact ⟨[], ['\n'] ++ join ['\n'] (second :: others), by
          rw [join_cons_cons, List.append_assoc]; rfl, rfl⟩
    | succ number =>
      rw [List.getElem?_cons_succ] at isPart
      obtain ⟨front, behind, shape, start⟩ :=
        inductionHypothesis isPart (offset + first.length + 1)
      cases more with
      | nil => simp at isPart
      | cons second others =>
        refine ⟨first ++ ['\n'] ++ front, behind, ?_, ?_⟩
        · rw [join_cons_cons, shape]
          simp
        · rw [startsFrom, List.getElem?_cons_succ, start, List.length_append, List.length_append,
            List.length_singleton]
          congr 1
          omega

/-- A line stands in the text where it is said to start. -/
theorem exists_around_line {text : Text} {number : Nat} {line : Text}
    (isLine : (lines text)[number]? = some line) :
    ∃ front behind, text = front ++ line ++ behind
      ∧ (lineStarts text)[number]? = some front.length := by
  obtain ⟨front, behind, shape, start⟩ := exists_around_part isLine 0
  rw [join_lines] at shape
  rw [Nat.zero_add, ← lineStarts_eq] at start
  exact ⟨front, behind, shape, start⟩

end JapaneseSpacing.Text
