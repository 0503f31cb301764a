import JapaneseSpacing.Proofs.Document.FrontMatter
import JapaneseSpacing.Proofs.Markdown.Pattern

/-!
# Front matter by a pattern

Front matter can also be described by a pattern at the start of a text: an opening line, as few
characters as possible, a line feed, and a closing line with its own line feed unless the text
ends there. Blanking what the pattern prefers to match is the same as counting the lines up to
the closing one (`blankFrontMatter_eq_blankMatched`).
-/

namespace JapaneseSpacing

/-- Spaces and tabs, as many as there are. -/
def Pattern.lineBlanks : Pattern :=
  (char fun char => char == ' ' || char == '\t').many

/-- A line feed. -/
def Pattern.lineFeed : Pattern :=
  char (· == '\n')

open Pattern in
/-- Front matter at the start of a text. -/
def frontMatterPattern : Pattern :=
  sequence [word "---".toList, lineBlanks, lineFeed, fewest fun _ => true, lineFeed,
    (word "---".toList).either (word "...".toList), lineBlanks, lineFeed.either ending]

/-- The text with every character of the preferred match replaced by a space, line feeds left as
they are. -/
def blankMatched (text : Text) : Text :=
  match frontMatterPattern.length? text with
  | none => text
  | some length =>
    (text.take length).map (fun char => if char = '\n' then '\n' else ' ') ++ text.drop length

section FrontMatterPattern

open Pattern

variable {line behind mark : Text} {next : Pattern}

/-! ## Delimiters -/

theorem word_followedBy_append {rest : Text} :
    (word mark).followedBy next (mark ++ rest) = next rest := by
  simp [followedBy, word]

theorem either_followedBy {first second : Pattern} {text : Text} :
    (first.either second).followedBy next text
      = first.followedBy next text ++ second.followedBy next text :=
  List.flatMap_append

/-- Behind the mark and the blanks of a line goes on what only matches at the end of a line. -/
theorem marked_followedBy (marked : IsMarked mark line)
    (ends : ∀ char ∈ behind.head?, char = '\n')
    (atEnd : ∀ char rest, char ≠ '\n' → next (char :: rest) = []) :
    (word mark).followedBy (lineBlanks.followedBy next) (line ++ behind) = next behind := by
  obtain ⟨blanks, rfl, inside⟩ := marked
  rw [List.append_assoc, word_followedBy_append]
  refine many_followedBy_stretch (fun char member => ?_) (fun char member => ?_)
    fun char member rest => atEnd char rest ?_
  · simpa using inside char member
  · rw [ends char member]
    rfl
  · rintro rfl
    exact absurd (inside '\n' member) (by decide)

/-- A line that does not only hold a mark and blanks is refused. -/
theorem unmarked_followedBy (unmarked : ¬ IsMarked mark line) (noBreakMark : '\n' ∉ mark)
    (noBreak : '\n' ∉ line) (ends : ∀ char ∈ behind.head?, char = '\n')
    (atEnd : ∀ char rest, char ≠ '\n' → next (char :: rest) = []) :
    (word mark).followedBy (lineBlanks.followedBy next) (line ++ behind) = [] := by
  by_cases starts : mark <+: line ++ behind
  · obtain ⟨rest, split⟩ := starts
    rcases List.append_eq_append_iff.1 split with ⟨others, rfl, rfl⟩ | ⟨beyond, rfl, rfl⟩
    · obtain ⟨blanks, tail, rfl, blank, stops⟩ :=
        Text.exists_stretch (fun char => char == ' ' || char == '\t') others
      cases tail with
      | nil => exact absurd ⟨blanks, by simp, by simpa using blank⟩ unmarked
      | cons first tail =>
        have isOther : first ≠ '\n' := by
          rintro rfl
          exact noBreak (by simp)
        rw [← split, word_followedBy_append, List.append_assoc, List.cons_append]
        refine (many_followedBy_stretch blank (by simpa using stops) ?_).trans
          (atEnd first _ isOther)
        intro char member rest
        refine atEnd char rest ?_
        rintro rfl
        exact absurd (blank '\n' member) (by decide)
    · cases beyond with
      | nil => exact absurd ⟨[], by simp, by simp⟩ unmarked
      | cons first more =>
        obtain rfl : first = '\n' := ends first rfl
        exact absurd (by simp) noBreakMark
  · rw [followedBy, word, if_neg (by simpa using starts)]
    rfl

theorem lineFeed_atEnd (next : Pattern) (char : Char) (rest : Text) (isOther : char ≠ '\n') :
    lineFeed.followedBy next (char :: rest) = [] := by
  rw [lineFeed, char_followedBy_cons, if_neg (by simpa using isOther)]

theorem lineFeed_followedBy {rest : Text} :
    lineFeed.followedBy next ('\n' :: rest) = next rest := by
  rw [lineFeed, char_followedBy_cons]
  rfl

/-- The end of a line: its line feed or the end of the text. -/
def lineStop : Pattern :=
  sequence [lineFeed.either ending]

/-- A line that closes front matter, up to the start of the next one. -/
def closingPattern : Pattern :=
  sequence [(word "---".toList).either (word "...".toList), lineBlanks, lineFeed.either ending]

/-- The lines in between, as few as possible, and the closing line. -/
def innerPattern : Pattern :=
  (fewest fun _ => true).followedBy (lineFeed.followedBy closingPattern)

theorem frontMatterPattern_eq : frontMatterPattern = (word "---".toList).followedBy
    (lineBlanks.followedBy (lineFeed.followedBy innerPattern)) := rfl

theorem lineStop_atEnd (char : Char) (rest : Text) (isOther : char ≠ '\n') :
    lineStop (char :: rest) = [] := by
  rw [lineStop, Pattern.sequence, List.foldr, List.foldr, either_followedBy,
    lineFeed_atEnd _ _ _ isOther]
  rfl

theorem lineStop_behind (ends : ∀ char ∈ behind.head?, char = '\n') :
    lineStop behind = [behind.drop 1] := by
  cases behind with
  | nil => rfl
  | cons first rest =>
    obtain rfl : first = '\n' := ends first rfl
    rfl

theorem closingPattern_eq (text : Text) : closingPattern text
    = (word "---".toList).followedBy (lineBlanks.followedBy lineStop) text
      ++ (word "...".toList).followedBy (lineBlanks.followedBy lineStop) text :=
  either_followedBy

/-- A closing line is matched together with its line feed. -/
theorem closingPattern_closes (closes : ClosesFrontMatter line) (noBreak : '\n' ∉ line)
    (ends : ∀ char ∈ behind.head?, char = '\n') :
    (closingPattern (line ++ behind)).head? = some (behind.drop 1) := by
  have marked {mark : Text} (isMarked : IsMarked mark line) :
      (word mark).followedBy (lineBlanks.followedBy lineStop) (line ++ behind)
        = [behind.drop 1] := by
    rw [marked_followedBy isMarked ends lineStop_atEnd, lineStop_behind ends]
  rw [closingPattern_eq]
  by_cases isOpening : IsMarked "---".toList line
  · rw [marked isOpening]
    rfl
  · rw [unmarked_followedBy isOpening (by decide) noBreak ends lineStop_atEnd,
      marked (closes.resolve_left isOpening)]
    rfl

/-- No other line is matched as a closing one. -/
theorem closingPattern_open (isOpen : ¬ ClosesFrontMatter line) (noBreak : '\n' ∉ line)
    (ends : ∀ char ∈ behind.head?, char = '\n') : closingPattern (line ++ behind) = [] := by
  obtain ⟨noOpening, noEnd⟩ := not_or.1 isOpen
  rw [closingPattern_eq, unmarked_followedBy noOpening (by decide) noBreak ends lineStop_atEnd,
    unmarked_followedBy noEnd (by decide) noBreak ends lineStop_atEnd, List.append_nil]

/-! ## The lines in between -/

theorem innerPattern_nil : innerPattern [] = [] := rfl

theorem innerPattern_break (rest : Text) :
    innerPattern ('\n' :: rest) = closingPattern rest ++ innerPattern rest := by
  rw [innerPattern, fewest_followedBy_cons, lineFeed_followedBy]
  rfl

/-- Nothing is matched before the end of the first line. -/
theorem innerPattern_line (noBreak : '\n' ∉ line) :
    innerPattern (line ++ behind) = innerPattern behind := by
  induction line with
  | nil => rfl
  | cons first rest inductionHypothesis =>
    rw [List.mem_cons, not_or] at noBreak
    rw [List.cons_append, innerPattern, fewest_followedBy_cons,
      lineFeed_atEnd _ first _ (Ne.symm noBreak.1), List.nil_append]
    exact inductionHypothesis noBreak.2

/-- Behind the first of some lines stands a line feed, or else what stands behind all of them. -/
theorem exists_behind_first (first : Text) (more : List Text) {body : Text}
    (ends : ∀ char ∈ body.head?, char = '\n') :
    ∃ behind, Text.join ['\n'] (first :: more) ++ body = first ++ behind
      ∧ ∀ char ∈ behind.head?, char = '\n' := by
  cases more with
  | nil => exact ⟨body, rfl, ends⟩
  | cons second others =>
    refine ⟨'\n' :: (Text.join ['\n'] (second :: others) ++ body), ?_, by simp⟩
    rw [Text.join_cons_cons, List.append_assoc, List.append_assoc, List.singleton_append]

/-- Lines that do not close front matter are passed over, and the first one whatever it holds. -/
theorem innerPattern_lines {inner : List Text} (someInner : inner ≠ [])
    (noBreak : ∀ line ∈ inner, '\n' ∉ line)
    (isOpen : ∀ line ∈ inner.tail, ¬ ClosesFrontMatter line) (rest : Text) :
    innerPattern (Text.join ['\n'] inner ++ '\n' :: rest)
      = closingPattern rest ++ innerPattern rest := by
  induction inner with
  | nil => exact absurd rfl someInner
  | cons first more inductionHypothesis =>
    have noBreakFirst := noBreak first List.mem_cons_self
    cases more with
    | nil => exact (innerPattern_line noBreakFirst).trans (innerPattern_break rest)
    | cons second others =>
      have noBreakMore : ∀ line ∈ second :: others, '\n' ∉ line := fun line member =>
        noBreak line (List.mem_cons_of_mem _ member)
      obtain ⟨behind, split, ends⟩ :=
        @exists_behind_first second others ('\n' :: rest) (by simp)
      have later := inductionHypothesis (List.cons_ne_nil _ _) noBreakMore fun line member =>
        isOpen line (List.mem_cons_of_mem _ member)
      rw [split] at later
      -- Behind the first line the second one is tried as the closing line, and refused.
      rw [Text.join_cons_cons, List.append_assoc, List.append_assoc, split, List.singleton_append,
        innerPattern_line noBreakFirst, innerPattern_break,
        closingPattern_open (isOpen second List.mem_cons_self)
          (noBreakMore second List.mem_cons_self) ends, List.nil_append]
      exact later

/-- Nothing is matched if none of the lines behind the first one closes front matter. -/
theorem innerPattern_open {parts : List Text} (noBreak : ∀ line ∈ parts, '\n' ∉ line)
    (isOpen : ∀ line ∈ parts.tail, ¬ ClosesFrontMatter line) :
    innerPattern (Text.join ['\n'] parts) = [] := by
  rcases List.eq_nil_or_concat' parts with rfl | ⟨inner, last, rfl⟩
  · rfl
  · have noBreakLast := noBreak last List.mem_concat_self
    have passed : innerPattern last = [] := by
      rw [← List.append_nil last, innerPattern_line noBreakLast, innerPattern_nil]
    by_cases someInner : inner = []
    · subst someInner
      exact passed
    · rw [List.tail_append_of_ne_nil someInner] at isOpen
      have isInner : ∀ line ∈ inner.tail, ¬ ClosesFrontMatter line := fun line member =>
        isOpen line (List.mem_append_left _ member)
      have lastOpen := isOpen last List.mem_concat_self
      have refused := @closingPattern_open last [] lastOpen noBreakLast nofun
      rw [List.append_nil] at refused
      have noBreakInner : ∀ line ∈ inner, '\n' ∉ line := fun line member =>
        noBreak line (List.mem_append_left _ member)
      rw [Text.join_append someInner (List.cons_ne_nil _ _), List.append_assoc,
        List.singleton_append, innerPattern_lines someInner noBreakInner isInner, Text.join,
        refused, passed, List.append_nil]

/-! ## The whole block -/

/-- What the pattern prefers to match is the block up to the end of its closing line. -/
theorem FrontMatter.frontMatterPattern_text (matter : FrontMatter) (ends : matter.EndsBehindLine) :
    (frontMatterPattern matter.text).head? = some (matter.body.drop 1) := by
  have split : matter.text = matter.opening
      ++ '\n' :: (Text.join ['\n'] matter.inner ++ '\n' :: (matter.closing ++ matter.body)) := by
    have opened : Text.join ['\n'] (matter.opening :: matter.inner)
        = matter.opening ++ ['\n'] ++ Text.join ['\n'] matter.inner :=
      Text.join_append (List.cons_ne_nil _ []) ends.1
    rw [text, front, block, Text.join_append (List.cons_ne_nil _ _) (List.cons_ne_nil _ _), opened]
    simp [Text.join]
  rw [split, frontMatterPattern_eq, marked_followedBy matter.opens (by simp) (lineFeed_atEnd _),
    lineFeed_followedBy, innerPattern_lines ends.1 matter.inner_lines ends.2, List.head?_append,
    closingPattern_closes matter.closes matter.closes.noBreak matter.body_behind, Option.some_or]

/-- Behind an opening line and another one there is no closing line if no height is found. -/
theorem isOpen_of_no_height {opening line : Text} {more : List Text}
    (missing : frontMatterHeight? (opening :: more) = none) (opens : IsMarked "---".toList opening)
    (member : line ∈ more.tail) : ¬ ClosesFrontMatter line := by
  intro closes
  cases more with
  | nil => cases member
  | cons second others =>
    rw [frontMatterHeight?, if_pos ((isDelimiterLine_opening_iff _).2 opens),
      Option.map_eq_none_iff, List.findIdx?_eq_none_iff] at missing
    have refused := missing line member
    rw [(isDelimiterLine_closing_iff line).2 closes] at refused
    exact absurd refused.symm Bool.false_ne_true

/-- The pattern matches nothing if no line closes front matter. -/
theorem frontMatterPattern_eq_nil {text : Text}
    (missing : frontMatterHeight? (Text.lines text) = none) : frontMatterPattern text = [] := by
  obtain ⟨opening, more, isLines⟩ := Text.exists_lines_cons text
  have noBreak : ∀ line ∈ opening :: more, '\n' ∉ line := fun line member =>
    Text.noBreak_of_mem_lines (isLines ▸ member)
  rw [isLines] at missing
  rw [← Text.join_lines text, isLines, frontMatterPattern_eq]
  by_cases opens : IsMarked "---".toList opening
  · cases more with
    | nil =>
      have alone := @marked_followedBy opening [] _ _ opens nofun (lineFeed_atEnd innerPattern)
      rw [List.append_nil] at alone
      exact alone
    | cons second others =>
      rw [Text.join_cons_cons, List.append_assoc, List.singleton_append,
        marked_followedBy opens (by simp) (lineFeed_atEnd _), lineFeed_followedBy]
      exact innerPattern_open (fun line member => noBreak line (List.mem_cons_of_mem _ member))
        fun line member => isOpen_of_no_height missing opens member
  · obtain ⟨behind, split, ends⟩ := @exists_behind_first opening more [] nofun
    rw [List.append_nil] at split
    rw [split]
    exact unmarked_followedBy opens (by decide) (noBreak opening List.mem_cons_self) ends
      (lineFeed_atEnd _)

theorem FrontMatter.text_eq (matter : FrontMatter) :
    matter.text = matter.front ++ matter.body.take 1 ++ matter.body.drop 1 := by
  rw [List.append_assoc, List.take_append_drop, text]

/-- The preferred match takes the block and the line feed behind it. -/
theorem FrontMatter.length?_text (matter : FrontMatter) (ends : matter.EndsBehindLine) :
    frontMatterPattern.length? matter.text
      = some (matter.front ++ matter.body.take 1).length := by
  rw [length?, matter.frontMatterPattern_text ends, Option.map_some, text_eq,
    List.length_append, Nat.add_sub_cancel_right]

/-- Counting the lines of front matter blanks what the pattern prefers to match. -/
theorem blankFrontMatter_eq_blankMatched (text : Text) :
    blankFrontMatter text = blankMatched text := by
  cases found : frontMatterHeight? (Text.lines text) with
  | none =>
    simp only [blankFrontMatter, found, blankMatched, length?, frontMatterPattern_eq_nil found,
      List.head?_nil, Option.map_none]
  | some height =>
    obtain ⟨matter, rfl, ends⟩ := exists_frontMatter found
    have breakKept : (matter.body.take 1).map (fun char => if char = '\n' then '\n' else ' ')
        = matter.body.take 1 := by
      cases body : matter.body with
      | nil => rfl
      | cons first rest =>
        obtain rfl : first = '\n' := matter.body_behind first (by rw [body]; rfl)
        rfl
    simp only [blankMatched, matter.length?_text ends]
    rw [matter.blankFrontMatter_text ends, matter.text_eq, List.take_left, List.drop_left,
      List.map_append, breakKept, List.append_assoc, List.take_append_drop, FrontMatter.blanked]

end FrontMatterPattern

end JapaneseSpacing
