import JapaneseSpacing.Proofs.Spacing.Convention

/-!
# What complaints show

The complaint about a word shows the word and its neighbour, which have no line feed in them. The
complaint about a phrase shows the beginning or the end of the phrase as it stands, line feeds
included: `exists_break_in_message_iff` says in which texts a complaint has a line feed.
-/

namespace JapaneseSpacing

namespace CoreSpan

variable {span : CoreSpan} {text : Text} {side : Side} {neighbour : Char}

/-- The part of a phrase that the complaint about a side of it shows. -/
def shown (span : CoreSpan) (text : Text) : Side → Text
  | .before => (span.body text).take previewLength
  | .after => (span.body text).drop ((span.body text).length - previewLength)

theorem Breaks.neighbour_ne_break (breaks : span.Breaks text side neighbour) :
    '\n' ≠ neighbour := by
  rintro rfl
  exact absurd breaks.2.1 (by decide)

/-- A word has no blanks, and so no line feed. -/
theorem noBreak_body (word : ¬ isPhraseText (span.body text) = true) : '\n' ∉ span.body text := by
  intro member
  have blank : (span.body text).any isBlank = true := List.any_eq_true.2 ⟨'\n', member, rfl⟩
  refine word ?_
  rw [isPhraseText, blank, Bool.true_or, Bool.true_or]

/-- A complaint has a line feed where the part of a phrase has one that it shows. -/
theorem Breaks.break_mem_report_iff (breaks : span.Breaks text side neighbour) :
    '\n' ∈ (span.report text side neighbour).message
      ↔ isPhraseText (span.body text) = true ∧ '\n' ∈ span.shown text side := by
  have noNeighbour := breaks.neighbour_ne_break
  have required : '\n' ∉ spaceRequiredWording := by decide +kernel
  have forbidden : '\n' ∉ spaceForbiddenWording := by decide +kernel
  by_cases phrase : isPhraseText (span.body text) = true
  · rw [report, if_pos phrase]
    cases side <;> simp [phraseContext, shown, phrase, required, noNeighbour]
  · have noBody := noBreak_body phrase
    rw [report, if_neg phrase]
    cases side <;> simp [wordContext, phrase, forbidden, noNeighbour, noBody]

end CoreSpan

/-- A text is complained about at a phrase with a line feed among the characters that the complaint
shows: the first ones of the phrase, or the last ones. -/
def Text.ShowsBreak (text : Text) : Prop :=
  ∃ (span : CoreSpan) (side : Side) (neighbour : Char), span.IsCore text
    ∧ span.IsReported text side neighbour ∧ isPhraseText (span.body text) = true
    ∧ '\n' ∈ span.shown text side

/-- Some complaint about a text has a line feed. -/
theorem exists_break_in_message_iff {text : Text} :
    (∃ violation ∈ checkText text, '\n' ∈ violation.message) ↔ text.ShowsBreak := by
  constructor
  · rintro ⟨violation, member, hasBreak⟩
    obtain ⟨span, side, neighbour, isCore, isReported, rfl⟩ := mem_checkText_iff.1 member
    exact ⟨span, side, neighbour, isCore, isReported, isReported.1.break_mem_report_iff.1 hasBreak⟩
  · rintro ⟨span, side, neighbour, isCore, isReported, shows⟩
    exact ⟨_, mem_checkText_iff.2 ⟨span, side, neighbour, isCore, isReported, rfl⟩,
      isReported.1.break_mem_report_iff.2 shows⟩

end JapaneseSpacing
