import JapaneseSpacing.Document.FrontMatter
import JapaneseSpacing.Proofs.Text.Lines
import JapaneseSpacing.Proofs.Text.Stretch

/-!
# Front matter and where it ends

Front matter is a block of lines between a line that opens it and one that closes it.
`blankFrontMatter_ends` says at which closing line the blanking of a text stops: at the
first one with a line in between, so at the first one of all unless that follows directly
on the opening line.
-/

namespace JapaneseSpacing

/-- A line that holds a mark and nothing behind it but spaces and tabs. -/
def IsMarked (mark line : Text) : Prop :=
  ∃ blanks, line = mark ++ blanks ∧ ∀ char ∈ blanks, char = ' ' ∨ char = '\t'

/-- A line that closes front matter. -/
def ClosesFrontMatter (line : Text) : Prop :=
  IsMarked "---".toList line ∨ IsMarked "...".toList line

/-- Front matter with the text behind it. -/
structure FrontMatter where
  opening : Text
  inner : List Text
  closing : Text
  body : Text
  opens : IsMarked "---".toList opening
  closes : ClosesFrontMatter closing
  inner_lines : ∀ line ∈ inner, '\n' ∉ line
  body_behind : ∀ char ∈ body.head?, char = '\n'

/-! ## Delimiters -/

/-- A mark that does not end in a blank is found on exactly the lines that are marked. -/
theorem isMarked_iff {mark line : Text}
    (solid : ∀ char ∈ mark.getLast?, (char == ' ' || char == '\t') = false) :
    Text.dropRightWhile (fun char => char == ' ' || char == '\t') line = mark
      ↔ IsMarked mark line := by
  have accepts : ∀ char : Char, (char == ' ' || char == '\t') = true ↔ char = ' ' ∨ char = '\t' := by
    simp
  constructor
  · intro dropped
    refine ⟨line.rtakeWhile fun char => char == ' ' || char == '\t', ?_, fun char member => ?_⟩
    · rw [← dropped]
      exact List.rdropWhile_append_rtakeWhile.symm
    · have taken : (char == ' ' || char == '\t') = true := by
        simpa using List.mem_rtakeWhile_imp member
      exact (accepts char).1 taken
  · rintro ⟨blanks, rfl, inside⟩
    rw [Text.dropRightWhile, List.reverse_append]
    rw [Text.dropWhile_stretch, List.reverse_reverse]
    · intro char member
      exact (accepts char).2 (inside char (List.mem_reverse.1 member))
    · simpa only [List.head?_reverse] using solid

theorem isDelimiterLine_opening_iff (line : Text) :
    isDelimiterLine [openingMark] line = true ↔ IsMarked "---".toList line := by
  rw [isDelimiterLine, List.contains_iff_mem, List.mem_singleton]
  exact isMarked_iff (by rintro _ ⟨⟩; rfl)

theorem isDelimiterLine_closing_iff (line : Text) :
    isDelimiterLine [openingMark, endMark] line = true ↔ ClosesFrontMatter line := by
  rw [isDelimiterLine, List.contains_iff_mem, List.mem_cons, List.mem_singleton]
  exact or_congr (isMarked_iff (by rintro _ ⟨⟩; rfl)) (isMarked_iff (by rintro _ ⟨⟩; rfl))

theorem IsMarked.noBreak {mark line : Text} (marked : IsMarked mark line) (solid : '\n' ∉ mark) :
    '\n' ∉ line := by
  obtain ⟨blanks, rfl, inside⟩ := marked
  intro member
  rcases List.mem_append.1 member with inMark | inBlanks
  · exact solid inMark
  · exact absurd (inside '\n' inBlanks) (by decide)

theorem ClosesFrontMatter.noBreak {line : Text} (closes : ClosesFrontMatter line) :
    '\n' ∉ line := by
  rcases closes with marked | marked
  · exact marked.noBreak (by decide)
  · exact marked.noBreak (by decide)

/-- A closing line does not consist of spaces. -/
theorem ClosesFrontMatter.not_spaces {line : Text} (closes : ClosesFrontMatter line) :
    line.map (fun _ => ' ') ≠ line := by
  intro same
  rcases closes with ⟨blanks, rfl, _⟩ | ⟨blanks, rfl, _⟩ <;>
    exact absurd (List.cons.inj same).1 (by decide)

namespace FrontMatter

/-- The lines of the block, delimiters included. -/
def block (matter : FrontMatter) : List Text :=
  matter.opening :: matter.inner ++ [matter.closing]

/-- The characters of the block. -/
def front (matter : FrontMatter) : Text :=
  Text.join ['\n'] matter.block

/-- The whole text. -/
def text (matter : FrontMatter) : Text :=
  matter.front ++ matter.body

/-- The text with every character of the block replaced by a space, line feeds left as they
are. -/
def blanked (matter : FrontMatter) : Text :=
  matter.front.map (fun char => if char = '\n' then '\n' else ' ') ++ matter.body

/-- No line in between closes the block. -/
def EndsAtFirst (matter : FrontMatter) : Prop :=
  ∀ line ∈ matter.inner, ¬ ClosesFrontMatter line

/-- There is a first line in between, whatever it holds, and none behind it closes the
block. -/
def EndsBehindLine (matter : FrontMatter) : Prop :=
  matter.inner ≠ [] ∧ ∀ line ∈ matter.inner.tail, ¬ ClosesFrontMatter line

variable (matter : FrontMatter)

theorem block_ne_nil : matter.block ≠ [] := by
  simp [block]

theorem block_noBreak : ∀ line ∈ matter.block, '\n' ∉ line := by
  intro line member
  rw [block, List.mem_append, List.mem_cons, List.mem_singleton] at member
  rcases member with (rfl | inInner) | rfl
  · exact matter.opens.noBreak (by decide)
  · exact matter.inner_lines line inInner
  · exact matter.closes.noBreak

theorem lines_text : Text.lines matter.text = matter.block ++ Text.linesBehind matter.body :=
  Text.lines_join_behind matter.block_ne_nil matter.block_noBreak matter.body_behind

/-- Blanking a block is blanking its lines. -/
theorem blanked_eq : matter.blanked
    = Text.join ['\n'] (matter.block.map (List.map fun _ => ' ')) ++ matter.body := by
  rw [blanked, front, Text.map_join]
  congr 2
  apply List.map_congr_left
  intro line member
  apply List.map_congr_left
  intro char inLine
  rw [if_neg]
  rintro rfl
  exact matter.block_noBreak line member inLine

theorem lines_blanked : Text.lines matter.blanked
    = matter.block.map (List.map fun _ => ' ') ++ Text.linesBehind matter.body := by
  rw [blanked_eq]
  refine Text.lines_join_behind (by simpa using matter.block_ne_nil) ?_ matter.body_behind
  intro line member
  obtain ⟨original, _, rfl⟩ := List.mem_map.1 member
  simp

/-- The first character of the block is blanked. -/
theorem blanked_ne_text : matter.blanked ≠ matter.text := by
  intro same
  have firstLine := congrArg Text.lines same
  rw [lines_blanked, lines_text] at firstLine
  have sameOpening : matter.opening.map (fun _ => ' ') = matter.opening :=
    (List.cons.inj firstLine).1
  exact ClosesFrontMatter.not_spaces (.inl matter.opens) sameOpening

end FrontMatter

/-! ## Where the blanking stops -/

theorem findIdx?_behind {α : Type} {accepts : α → Bool} {front rest : List α} {item : α}
    (refused : ∀ other ∈ front, accepts other = false) (accepted : accepts item = true) :
    (front ++ item :: rest).findIdx? accepts = some front.length := by
  have nothing : front.findIdx? accepts = none := List.findIdx?_eq_none_iff.2 refused
  simp [List.findIdx?_append, nothing, List.findIdx?_cons, accepted]

/-- A block that ends behind its first line is blanked and nothing else is. -/
theorem FrontMatter.blankFrontMatter_text (matter : FrontMatter) (ends : matter.EndsBehindLine) :
    blankFrontMatter matter.text = matter.blanked := by
  obtain ⟨someInner, laterOpen⟩ := ends
  obtain ⟨first, more, isInner⟩ := List.exists_cons_of_ne_nil someInner
  have isBlock : matter.block = matter.opening :: first :: more ++ [matter.closing] := by
    rw [block, isInner]
  have opening : isDelimiterLine [openingMark] matter.opening = true :=
    (isDelimiterLine_opening_iff _).2 matter.opens
  have found : (more ++ matter.closing :: Text.linesBehind matter.body).findIdx?
      (isDelimiterLine [openingMark, endMark]) = some more.length := by
    refine findIdx?_behind (fun line member => ?_) ((isDelimiterLine_closing_iff _).2 matter.closes)
    rw [← Bool.not_eq_true, isDelimiterLine_closing_iff]
    exact laterOpen line (by rw [isInner]; exact member)
  have rows : matter.block ++ Text.linesBehind matter.body
      = matter.opening :: first :: (more ++ matter.closing :: Text.linesBehind matter.body) := by
    rw [isBlock]
    simp
  have height : frontMatterHeight? (matter.block ++ Text.linesBehind matter.body)
      = some matter.block.length := by
    rw [rows, frontMatterHeight?, if_pos opening, found, isBlock]
    simp
  simp only [blankFrontMatter, matter.lines_text, height, List.take_left, List.drop_left]
  rw [Text.join_linesBehind (by simpa using matter.block_ne_nil) matter.body_behind,
    matter.blanked_eq]

/-- If anything is blanked it is a block that ends behind its first line. -/
theorem exists_frontMatter {text : Text} {height : Nat}
    (found : frontMatterHeight? (Text.lines text) = some height) :
    ∃ matter : FrontMatter, matter.text = text ∧ matter.EndsBehindLine := by
  have noBreak : ∀ line ∈ Text.lines text, '\n' ∉ line := fun line => Text.noBreak_of_mem_lines
  have whole := Text.join_lines text
  unfold frontMatterHeight? at found
  split at found
  · next opening first rest isLines =>
    rw [isLines] at noBreak whole
    split at found
    · next opens =>
      obtain ⟨place, isPlace, _⟩ := Option.map_eq_some_iff.1 found
      obtain ⟨within, closes, before⟩ := List.findIdx?_eq_some_iff_getElem.1 isPlace
      have rows : opening :: (first :: rest.take place) ++ [rest[place]] ++ rest.drop (place + 1)
          = opening :: first :: rest := by
        simp
      have inRest : ∀ line ∈ rest, '\n' ∉ line := fun line member =>
        noBreak line (List.mem_cons_of_mem _ (List.mem_cons_of_mem _ member))
      obtain ⟨body, isBody, bodyBehind⟩ := Text.exists_behind (rest.drop (place + 1))
        fun line member => inRest line (List.mem_of_mem_drop member)
      refine ⟨{
        opening
        inner := first :: rest.take place
        closing := rest[place]
        body
        opens := (isDelimiterLine_opening_iff _).1 opens
        closes := (isDelimiterLine_closing_iff _).1 closes
        inner_lines := ?_
        body_behind := bodyBehind }, ?_, by simp, ?_⟩
      · intro line member
        rcases List.mem_cons.1 member with rfl | later
        · exact noBreak _ (by simp)
        · exact inRest line (List.mem_of_mem_take later)
      · calc Text.join ['\n'] (opening :: (first :: rest.take place) ++ [rest[place]]) ++ body
          _ = Text.join ['\n'] (opening :: (first :: rest.take place) ++ [rest[place]]
              ++ rest.drop (place + 1)) := by
            rw [← isBody, Text.join_linesBehind (by simp) bodyBehind]
          _ = text := by rw [rows, whole]
      · intro line member closesLine
        obtain ⟨index, isBefore, rfl⟩ := List.getElem_of_mem member
        have isRest : index < place := by
          rw [List.tail_cons, List.length_take] at isBefore
          omega
        refine before index isRest ((isDelimiterLine_closing_iff _).2 ?_)
        simpa using closesLine
    · cases found
  · cases found

theorem blankFrontMatter_unchanged {text : Text}
    (noBlock : ∀ matter : FrontMatter, matter.text = text → ¬ matter.EndsBehindLine) :
    blankFrontMatter text = text := by
  cases found : frontMatterHeight? (Text.lines text) with
  | none => simp only [blankFrontMatter, found]
  | some height =>
    obtain ⟨matter, isText, ends⟩ := exists_frontMatter found
    exact absurd ends (noBlock matter isText)

/-- A closing line right behind the opening one is not where the blanking stops. -/
theorem FrontMatter.blankFrontMatter_ne_blanked (matter : FrontMatter)
    (noInner : matter.inner = []) : blankFrontMatter matter.text ≠ matter.blanked := by
  by_cases later : ∃ other : FrontMatter, other.text = matter.text ∧ other.EndsBehindLine
  · obtain ⟨other, isText, ends⟩ := later
    rw [← isText, other.blankFrontMatter_text ends]
    intro sameBlanked
    -- Both blocks have the same lines behind the first two; the other one blanks its closing line.
    obtain ⟨first, more, isInner⟩ := List.exists_cons_of_ne_nil ends.1
    have lines := congrArg (List.drop 2 ∘ Text.lines) isText
    have blankedLines := congrArg (List.drop 2 ∘ Text.lines) sameBlanked
    simp only [Function.comp_apply, lines_text, lines_blanked, block, isInner, noInner,
      List.cons_append, List.nil_append, List.append_assoc, List.map_cons, List.map_append,
      List.map_nil, List.drop_succ_cons, List.drop_zero] at lines blankedLines
    rw [← lines] at blankedLines
    have behind := (List.append_inj blankedLines (by simp)).2
    exact other.closes.not_spaces (List.cons.inj behind).1
  · rw [blankFrontMatter_unchanged fun other isText ends => later ⟨other, isText, ends⟩]
    exact matter.blanked_ne_text.symm

/-- Front matter that ends at its first closing line is blanked, and nothing behind that line
is, exactly if there is a line in between. In general the blanking stops at the first
closing line that has a line in front of it within the block, and a text without such a
block stays as it is. -/
theorem blankFrontMatter_ends (text : Text) :
    (∀ matter : FrontMatter, matter.text = text → matter.EndsAtFirst →
      (blankFrontMatter text = matter.blanked ↔ matter.inner ≠ []))
    ∧ (∀ matter : FrontMatter, matter.text = text → matter.EndsBehindLine →
      blankFrontMatter text = matter.blanked)
    ∧ ((∀ matter : FrontMatter, matter.text = text → matter.inner = []) →
      blankFrontMatter text = text) := by
  refine ⟨?_, ?_, fun allEmpty => ?_⟩
  · rintro matter rfl ends
    refine ⟨fun same noInner => matter.blankFrontMatter_ne_blanked noInner same, fun someInner => ?_⟩
    exact matter.blankFrontMatter_text
      ⟨someInner, fun line member => ends line (List.mem_of_mem_tail member)⟩
  · rintro matter rfl ends
    exact matter.blankFrontMatter_text ends
  · exact blankFrontMatter_unchanged fun matter isText ends => ends.1 (allEmpty matter isText)

/-- Front matter with a title, and with hyphens that close nothing. -/
def titleMatter : FrontMatter where
  opening := "--- ".toList
  inner := ["title: x".toList, "---- ".toList]
  closing := "...\t".toList
  body := "\n本文\n---".toList
  opens := ⟨[' '], rfl, by simp⟩
  closes := .inr ⟨['\t'], rfl, by simp⟩
  inner_lines := by decide
  body_behind := by rintro _ ⟨⟩; rfl

theorem titleMatter_endsAtFirst : titleMatter.EndsAtFirst := by
  intro line member closes
  rw [← isDelimiterLine_closing_iff] at closes
  have all : titleMatter.inner.all (!isDelimiterLine [openingMark, endMark] ·) = true := by decide
  simpa [closes] using List.all_eq_true.1 all line member

/-- The text behind the closing line stays. -/
theorem blankFrontMatter_ends_title : titleMatter.EndsAtFirst
    ∧ blankFrontMatter titleMatter.text = "    \n        \n     \n    \n本文\n---".toList := by
  refine ⟨titleMatter_endsAtFirst, ?_⟩
  rw [((blankFrontMatter_ends titleMatter.text).1 titleMatter rfl titleMatter_endsAtFirst).2
    (List.cons_ne_nil _ _)]
  decide

/-- An empty block, and further back a rule that looks like a delimiter. -/
def emptyMatter : FrontMatter where
  opening := "---".toList
  inner := []
  closing := "---".toList
  body := "\n本文\n---\n".toList
  opens := ⟨[], rfl, by simp⟩
  closes := .inl ⟨[], rfl, by simp⟩
  inner_lines := by simp
  body_behind := by rintro _ ⟨⟩; rfl

/-- The text behind an empty block is blanked up to the next rule. -/
theorem blankFrontMatter_hides_body :
    ¬ ((∀ matter : FrontMatter, matter.EndsAtFirst →
        blankFrontMatter matter.text = matter.blanked)
      ∧ ∀ text : Text, (∀ matter : FrontMatter, matter.text ≠ text) →
        blankFrontMatter text = text) := by
  rintro ⟨everywhere, _⟩
  have ends : emptyMatter.EndsAtFirst := fun line member => absurd member List.not_mem_nil
  have hidden : blankFrontMatter emptyMatter.text = "   \n   \n  \n   \n".toList := by decide
  have kept : emptyMatter.blanked = "   \n   \n本文\n---\n".toList := by decide
  rw [everywhere emptyMatter ends, kept] at hidden
  exact absurd hidden (by decide)

end JapaneseSpacing
