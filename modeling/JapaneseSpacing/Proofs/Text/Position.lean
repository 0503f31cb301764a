import JapaneseSpacing.Proofs.Source.Locate
import Mathlib.Data.List.DropRight

/-!
# Lines and columns

The line of an offset is found by halving the list of line starts. What comes out is said by
`Position.ofOffset_front`: the line feeds in front of the offset number its line, and the
characters behind the last of them its column. A text put in front of another adds its line
feeds to all lines and its last line to the columns of the first one
(`Position.ofOffset_behind`).
-/

namespace JapaneseSpacing

namespace Text

/-- The characters behind the last line feed of a text. -/
def lastLine (text : Text) : Text :=
  text.rtakeWhile (· != '\n')

theorem lastLine_break (text : Text) : lastLine (text ++ ['\n']) = [] :=
  List.rtakeWhile_concat_neg _ _ _ (by decide)

theorem lastLine_char (text : Text) {char : Char} (noBreak : char ≠ '\n') :
    lastLine (text ++ [char]) = lastLine text ++ [char] :=
  List.rtakeWhile_concat_pos _ _ _ (bne_iff_ne.2 noBreak)

theorem count_break (text : Text) : (text ++ ['\n']).count '\n' = text.count '\n' + 1 := by
  rw [List.count_append]
  rfl

theorem count_char (text : Text) {char : Char} (noBreak : char ≠ '\n') :
    (text ++ [char]).count '\n' = text.count '\n' := by
  have none : [char].count '\n' = 0 := List.count_eq_zero.2 (by simpa using noBreak.symm)
  rw [List.count_append, none, Nat.add_zero]

/-- The last line of a text is that of its back, and goes on in front of a back that is a single
line. -/
theorem lastLine_append (front back : Text) :
    lastLine (front ++ back)
      = if back.count '\n' = 0 then lastLine front ++ lastLine back else lastLine back := by
  induction back using List.reverseRecOn with
  | nil => simp [lastLine]
  | append_singleton back char inductionHypothesis =>
    rw [← List.append_assoc]
    by_cases isBreak : char = '\n'
    · subst isBreak
      rw [lastLine_break, lastLine_break, count_break, if_neg (Nat.succ_ne_zero _)]
    · rw [lastLine_char _ isBreak, lastLine_char _ isBreak, count_char _ isBreak,
        inductionHypothesis]
      split
      · rw [List.append_assoc]
      · rfl

/-! ## Line starts -/

theorem offsetsAfterBreaks_append (offset : Nat) (front back : Text) :
    offsetsAfterBreaks offset (front ++ back)
      = offsetsAfterBreaks offset front ++ offsetsAfterBreaks (offset + front.length) back := by
  induction front generalizing offset with
  | nil => rfl
  | cons first rest inductionHypothesis =>
    have further : offset + 1 + rest.length = offset + (first :: rest).length := by
      rw [List.length_cons]
      omega
    rw [List.cons_append, offsetsAfterBreaks, offsetsAfterBreaks, inductionHypothesis, further]
    split
    · rw [List.cons_append]
    · rfl

theorem lineStarts_append (front back : Text) :
    lineStarts (front ++ back) = lineStarts front ++ offsetsAfterBreaks front.length back := by
  rw [lineStarts, offsetsAfterBreaks_append, Nat.zero_add, lineStarts, List.cons_append]

theorem lt_of_mem_offsetsAfterBreaks {offset start : Nat} {text : Text}
    (member : start ∈ offsetsAfterBreaks offset text) : offset < start := by
  induction text generalizing offset with
  | nil => cases member
  | cons first rest inductionHypothesis =>
    rw [offsetsAfterBreaks] at member
    split at member
    · rcases List.mem_cons.1 member with rfl | later
      · exact Nat.lt_succ_self offset
      · exact Nat.lt_of_succ_lt (inductionHypothesis later)
    · exact Nat.lt_of_succ_lt (inductionHypothesis member)

/-- There is one line more than there are line feeds. -/
theorem length_lineStarts (text : Text) : (lineStarts text).length = text.count '\n' + 1 := by
  suffices breaks : ∀ offset, (offsetsAfterBreaks offset text).length = text.count '\n' by
    rw [lineStarts, List.length_cons, breaks]
  intro offset
  induction text generalizing offset with
  | nil => rfl
  | cons first rest inductionHypothesis =>
    rw [offsetsAfterBreaks, List.count_cons]
    by_cases isBreak : first = '\n'
    · rw [if_pos isBreak, List.length_cons, inductionHypothesis, if_pos (beq_iff_eq.2 isBreak)]
    · rw [if_neg isBreak, inductionHypothesis, if_neg (by simpa using isBreak)]
      rfl

theorem length_lines (text : Text) : (lines text).length = text.count '\n' + 1 := by
  rw [← length_startsFrom 0, ← lineStarts_eq, length_lineStarts]

/-- Joining parts puts a line feed between them and keeps those that they have. -/
theorem count_join {parts : List Text} (someParts : parts ≠ []) :
    (join ['\n'] parts).count '\n' + 1 = parts.length + parts.flatten.count '\n' := by
  induction parts with
  | nil => exact absurd rfl someParts
  | cons part more inductionHypothesis =>
    cases more with
    | nil => simp [join, Nat.add_comm]
    | cons next others =>
      have behind := inductionHypothesis (List.cons_ne_nil _ _)
      have separator : (['\n'] : Text).count '\n' = 1 := rfl
      rw [join_cons_cons, List.count_append, List.count_append, separator, List.flatten_cons,
        List.count_append, List.length_cons]
      omega

/-- Joined parts are as many lines as there are parts exactly if no part has a line feed. -/
theorem length_lines_join_iff {parts : List Text} (someParts : parts ≠ []) :
    (lines (join ['\n'] parts)).length = parts.length ↔ ∀ part ∈ parts, '\n' ∉ part := by
  have noBreak : parts.flatten.count '\n' = 0 ↔ ∀ part ∈ parts, '\n' ∉ part := by
    simp [List.count_eq_zero, List.mem_flatten]
  rw [length_lines, count_join someParts, ← noBreak]
  omega

/-- The line that a text ends with starts in front of its last line. -/
theorem lineStarts_last (text : Text) :
    ∃ start, (lineStarts text)[text.count '\n']? = some start
      ∧ start + (lastLine text).length = text.length := by
  induction text using List.reverseRecOn with
  | nil => exact ⟨0, rfl, rfl⟩
  | append_singleton text char inductionHypothesis =>
    obtain ⟨start, isStart, length⟩ := inductionHypothesis
    rw [lineStarts_append, List.length_append, List.length_singleton]
    by_cases isBreak : char = '\n'
    · subst isBreak
      refine ⟨text.length + 1, ?_, by rw [lastLine_break]; rfl⟩
      rw [count_break, ← length_lineStarts, List.getElem?_append_right (Nat.le_refl _),
        Nat.sub_self]
      rfl
    · refine ⟨start, ?_, ?_⟩
      · rw [count_char _ isBreak, List.getElem?_append_left, isStart]
        rw [length_lineStarts]
        exact Nat.lt_succ_self _
      · rw [lastLine_char _ isBreak, List.length_append, List.length_singleton]
        omega

end Text

/-! ## Positions -/

/-- An offset between the start of a line and that of the next one is on the line, as far behind
the line's start as its column says. -/
theorem Position.ofOffset_between {text : Text} {line start offset : Nat}
    (isStart : (Text.lineStarts text)[line]? = some start) (behind : start ≤ offset)
    (nextBehind : ∀ next, (Text.lineStarts text)[line + 1]? = some next → offset < next) :
    Position.ofOffset (Text.lineStarts text) offset = ⟨line + 1, offset - start + 1⟩ := by
  have ascending : ((Text.lineStarts text).map Int.ofNat).Pairwise (· < ·) := by
    rw [Text.lineStarts_eq]
    exact (Text.startsFrom_ascending 0 _).map _ fun _ _ order => Int.ofNat_lt.2 order
  have isEntry : ((Text.lineStarts text).map Int.ofNat)[line]? = some (start : Int) := by
    rw [List.getElem?_map, isStart]
    rfl
  have count : countUpTo ((Text.lineStarts text).map Int.ofNat) offset = line + 1 := by
    refine countUpTo_between ascending isEntry (Int.ofNat_le.2 behind) fun next isNext => ?_
    rw [List.getElem?_map] at isNext
    obtain ⟨nextStart, found, rfl⟩ := Option.map_eq_some_iff.1 isNext
    exact Int.ofNat_lt.2 (nextBehind nextStart found)
  have index : ((line + 1 : Nat) : Int) - 1 = (line : Nat) := by omega
  rw [Position.ofOffset, count, index, item?_natCast, isStart, Option.getD_some]

/-- The position of an offset tells what stands in front of it: one line feed for each line
before its own, and its line as far as it has come. -/
theorem Position.ofOffset_front (front behind : Text) :
    Position.ofOffset (Text.lineStarts (front ++ behind)) front.length
      = ⟨front.count '\n' + 1, (Text.lastLine front).length + 1⟩ := by
  obtain ⟨start, isStart, length⟩ := Text.lineStarts_last front
  have inside : front.count '\n' < (Text.lineStarts front).length := by
    rw [Text.length_lineStarts]
    exact Nat.lt_succ_self _
  have line : (Text.lineStarts (front ++ behind))[front.count '\n']? = some start := by
    rw [Text.lineStarts_append, List.getElem?_append_left inside, isStart]
  have between : Position.ofOffset (Text.lineStarts (front ++ behind)) front.length
      = ⟨front.count '\n' + 1, front.length - start + 1⟩ := by
    refine Position.ofOffset_between line (by omega) fun next isNext => ?_
    -- The next line starts behind the offset, since all starts in front of it are used up.
    rw [Text.lineStarts_append, ← Text.length_lineStarts,
      List.getElem?_append_right (Nat.le_refl _)] at isNext
    exact Text.lt_of_mem_offsetsAfterBreaks (List.mem_of_getElem? isNext)
  rw [between]
  congr 1
  omega

/-- The position of an offset of a text, told by the characters in front of it. -/
theorem Position.ofOffset_take {text : Text} {offset : Int} (first : 0 ≤ offset)
    (last : offset ≤ text.length) :
    Position.ofOffset (Text.lineStarts text) offset
      = ⟨(text.take offset.toNat).count '\n' + 1,
        (Text.lastLine (text.take offset.toNat)).length + 1⟩ := by
  have front := Position.ofOffset_front (text.take offset.toNat) (text.drop offset.toNat)
  rwa [List.take_append_drop, List.length_take_of_le (by omega), Int.toNat_of_nonneg first]
    at front

/-- The same place further back in a document that another text stands in front of: on its own
line, or on a line of which the text in front takes the beginning. -/
def Position.behind (before : Text) (position : Position) : Position where
  line := position.line + before.count '\n'
  column := if position.line = 1 then position.column + (Text.lastLine before).length
    else position.column

/-- Text in front of a document moves the positions in it. -/
theorem Position.ofOffset_behind (before : Text) {text : Text} {offset : Int}
    (first : 0 ≤ offset) (last : offset ≤ text.length) :
    Position.ofOffset (Text.lineStarts (before ++ text)) (before.length + offset)
      = (Position.ofOffset (Text.lineStarts text) offset).behind before := by
  obtain ⟨front, behind, rfl, rfl⟩ : ∃ front behind, text = front ++ behind
      ∧ offset = front.length :=
    ⟨text.take offset.toNat, text.drop offset.toNat, (List.take_append_drop _ text).symm, by
      rw [List.length_take_of_le (by omega)]
      omega⟩
  have whole := Position.ofOffset_front (before ++ front) behind
  rw [List.append_assoc, List.length_append, Int.natCast_add] at whole
  rw [whole, Position.ofOffset_front, Position.behind, Text.lastLine_append, List.count_append]
  dsimp only
  by_cases firstLine : front.count '\n' = 0
  · have isFirst : ((front.count '\n' : Nat) : Int) + 1 = 1 := by omega
    rw [if_pos firstLine, if_pos isFirst, List.length_append]
    congr 1
    · omega
    · omega
  · have notFirst : ¬ ((front.count '\n' : Nat) : Int) + 1 = 1 := by omega
    rw [if_neg firstLine, if_neg notFirst]
    congr 1
    omega

end JapaneseSpacing
