import JapaneseSpacing.Lint.Markdown
import JapaneseSpacing.Proofs.Document.FrontMatter
import JapaneseSpacing.Proofs.Text.LineEnd
import Mathlib.Data.List.Forall2

/-!
# Preparing moves nothing

Blanking front matter changes no line and no column, preparing a second time changes nothing, and
how the line ends of a document are written has no bearing on its messages
(`prepareSource_moves_nothing`).
-/

namespace JapaneseSpacing

/-! ## Blanked characters -/

namespace Text

/-- Some characters of a text are replaced by spaces, but no line feeds. -/
def Blanked (before after : Text) : Prop :=
  List.Forall₂ (fun old new => new = old ∨ old ≠ '\n' ∧ new = ' ') before after

namespace Blanked

variable {before after : Text}

theorem refl (text : Text) : Blanked text text :=
  List.forall₂_same.2 fun _ _ => .inl rfl

/-- A front of a text is blanked where it has no line feeds. -/
theorem front (front rest : Text) :
    Blanked (front ++ rest)
      (front.map (fun char => if char = '\n' then '\n' else ' ') ++ rest) := by
  refine List.rel_append ?_ (refl rest)
  refine List.forall₂_map_right_iff.2 (List.forall₂_same.2 fun char _ => ?_)
  split
  · next isBreak => exact .inl isBreak.symm
  · next noBreak => exact .inr ⟨noBreak, rfl⟩

theorem getElem? (blanked : Blanked before after) (place : Nat) :
    after[place]? = before[place]? ∨ before[place]? ≠ some '\n' ∧ after[place]? = some ' ' := by
  induction blanked generalizing place with
  | nil => exact .inl rfl
  | cons same rest inductionHypothesis =>
    cases place with
    | zero => simpa using same
    | succ place => simpa using inductionHypothesis place

theorem isBreak_iff (blanked : Blanked before after) (place : Nat) :
    after[place]? = some '\n' ↔ before[place]? = some '\n' := by
  rcases blanked.getElem? place with same | ⟨noBreak, isSpace⟩
  · rw [same]
  · rw [isSpace]
    exact iff_of_false (by decide) noBreak

/-- No character appears but the space. -/
theorem mem (blanked : Blanked before after) {char : Char} (member : char ∈ after) :
    char ∈ before ∨ char = ' ' := by
  obtain ⟨place, isThere⟩ := List.mem_iff_getElem?.1 member
  rcases blanked.getElem? place with same | ⟨_, isSpace⟩
  · exact .inl (List.mem_of_getElem? (same ▸ isThere))
  · exact .inr (Option.some.inj (isThere.symm.trans isSpace))

theorem offsetsAfterBreaks_eq (blanked : Blanked before after) (offset : Nat) :
    offsetsAfterBreaks offset after = offsetsAfterBreaks offset before := by
  induction blanked generalizing offset with
  | nil => rfl
  | @cons old new _ _ same rest inductionHypothesis =>
    have sameBreak : new = '\n' ↔ old = '\n' := by
      rcases same with rfl | ⟨noBreak, rfl⟩
      · rfl
      · exact iff_of_false (by decide) noBreak
    simp only [offsetsAfterBreaks, sameBreak, inductionHypothesis]

/-- Lines start where they started. -/
theorem lineStarts_eq (blanked : Blanked before after) : lineStarts after = lineStarts before := by
  rw [lineStarts, blanked.offsetsAfterBreaks_eq, lineStarts]

end Blanked

/-- Nothing is moved: a text keeps its length and its line feeds, what changes becomes a space, and
every offset keeps its line and its column. -/
structure KeepsPlaces (before after : Text) : Prop where
  length_eq : after.length = before.length
  isBreak_iff : ∀ place : Nat, after[place]? = some '\n' ↔ before[place]? = some '\n'
  isSpace : ∀ place : Nat, after[place]? ≠ before[place]? → after[place]? = some ' '
  lineStarts_eq : lineStarts after = lineStarts before
  position_eq : ∀ offset : Int, Position.ofOffset (lineStarts after) offset
    = Position.ofOffset (lineStarts before) offset

theorem Blanked.keepsPlaces {before after : Text} (blanked : Blanked before after) :
    KeepsPlaces before after where
  length_eq := (List.Forall₂.length_eq blanked).symm
  isBreak_iff := blanked.isBreak_iff
  isSpace := fun place changed => ((blanked.getElem? place).resolve_left changed).2
  lineStarts_eq := blanked.lineStarts_eq
  position_eq := fun offset => by rw [blanked.lineStarts_eq]

end Text

/-! ## Front matter -/

/-- A text is left as it is, or the front matter that it starts with is blanked. -/
theorem blankFrontMatter_cases (text : Text) : blankFrontMatter text = text
    ∨ ∃ matter : FrontMatter, matter.text = text ∧ blankFrontMatter text = matter.blanked := by
  cases found : frontMatterHeight? (Text.lines text) with
  | none => exact .inl (by simp only [blankFrontMatter, found])
  | some height =>
    obtain ⟨matter, rfl, ends⟩ := exists_frontMatter found
    exact .inr ⟨matter, rfl, matter.blankFrontMatter_text ends⟩

theorem blanked_blankFrontMatter (text : Text) : text.Blanked (blankFrontMatter text) := by
  rcases blankFrontMatter_cases text with same | ⟨matter, rfl, isBlanked⟩
  · rw [same]
    exact .refl text
  · rw [isBlanked]
    exact .front matter.front matter.body

/-- A blanked line opens no front matter. -/
theorem not_opens_spaces (line : Text) : ¬ IsMarked "---".toList (line.map fun _ => ' ') := by
  rintro ⟨blanks, isMarked, _⟩
  have isSpace : '-' ∈ line.map fun _ => ' ' := isMarked ▸ List.mem_cons_self
  obtain ⟨_, _, ⟨⟩⟩ := List.mem_map.1 isSpace

/-- Blanked front matter is none any more. -/
theorem FrontMatter.blankFrontMatter_blanked (matter : FrontMatter) :
    blankFrontMatter matter.blanked = matter.blanked := by
  have opening : isDelimiterLine [openingMark] (matter.opening.map fun _ => ' ') = false := by
    rw [← Bool.not_eq_true, isDelimiterLine_opening_iff]
    exact not_opens_spaces matter.opening
  -- The first line is blank now, so no other line is looked at.
  have height : frontMatterHeight? (Text.lines matter.blanked) = none := by
    rw [matter.lines_blanked, block, List.cons_append, List.map_cons, List.cons_append,
      frontMatterHeight?.eq_def]
    split
    · next isLines =>
      rw [← (List.cons.inj isLines).1, opening]
      rfl
    · rfl
  simp only [blankFrontMatter, height]

theorem blankFrontMatter_blankFrontMatter (text : Text) :
    blankFrontMatter (blankFrontMatter text) = blankFrontMatter text := by
  rcases blankFrontMatter_cases text with same | ⟨matter, _, isBlanked⟩
  · rw [same, same]
  · rw [isBlanked, matter.blankFrontMatter_blanked]

/-! ## Prepared documents -/

theorem not_mem_prepareSource (text : Text) : '\r' ∉ prepareSource text := by
  intro member
  rcases (blanked_blankFrontMatter (Text.normalizeBreaks text)).mem member with inText | isSpace
  · exact Text.not_mem_normalizeBreaks text inText
  · cases isSpace

/-- Preparing moves nothing. Blanking front matter keeps every place; no carriage returns are left
after normalizing; normalizing, blanking or preparing a second time changes nothing; and a text
without carriage returns is prepared and linted alike however its line ends are written, in
whatever way the prepared text is read as a tree. -/
theorem prepareSource_moves_nothing (text : Text) :
    text.KeepsPlaces (blankFrontMatter text)
    ∧ '\r' ∉ Text.normalizeBreaks text
    ∧ '\r' ∉ prepareSource text
    ∧ blankFrontMatter (blankFrontMatter text) = blankFrontMatter text
    ∧ Text.normalizeBreaks (Text.normalizeBreaks text) = Text.normalizeBreaks text
    ∧ prepareSource (prepareSource text) = prepareSource text
    ∧ ('\r' ∉ text → ∀ written, Text.WrittenAs text written →
      prepareSource written = prepareSource text
      ∧ ∀ parse settings,
        lintDocument parse written settings = lintDocument parse text settings) := by
  refine ⟨(blanked_blankFrontMatter text).keepsPlaces, Text.not_mem_normalizeBreaks text,
    not_mem_prepareSource text, blankFrontMatter_blankFrontMatter text,
    Text.normalizeBreaks_of_not_mem (Text.not_mem_normalizeBreaks text), ?_,
    fun noReturn written writtenAs => ?_⟩
  · calc prepareSource (prepareSource text)
      _ = blankFrontMatter (prepareSource text) := by
        rw [prepareSource, Text.normalizeBreaks_of_not_mem (not_mem_prepareSource text)]
      _ = prepareSource text := blankFrontMatter_blankFrontMatter _
  · have samePrepared : prepareSource written = prepareSource text := by
      rw [prepareSource, prepareSource, writtenAs.normalizeBreaks_eq noReturn,
        Text.normalizeBreaks_of_not_mem noReturn]
    exact ⟨samePrepared, fun parse settings => by rw [lintDocument, lintDocument, samePrepared]⟩

/-- Front matter and a line of words, with line ends of all kinds. -/
theorem prepareSource_moves_nothing_mixed :
    let text : Text := "---\nx\n---\n\nあ a\n".toList
    let written : Text := "---\r\nx\r---\n\r\nあ a\r".toList
    '\r' ∉ text ∧ Text.WrittenAs text written
    ∧ prepareSource text = "   \n \n   \n\nあ a\n".toList
    ∧ prepareSource written = prepareSource text
    ∧ ∀ settings, lintMarkdown written settings = lintMarkdown text settings := by
  intro text written
  have noReturn : '\r' ∉ text := by decide
  have writtenAs : Text.WrittenAs text written :=
    (Text.normalizeBreaks_eq_iff.1 (by decide)).2
  obtain ⟨samePrepared, sameMessages⟩ :=
    (prepareSource_moves_nothing text).2.2.2.2.2.2 noReturn written writtenAs
  exact ⟨noReturn, writtenAs, by decide, samePrepared, fun settings => sameMessages _ settings⟩

end JapaneseSpacing
