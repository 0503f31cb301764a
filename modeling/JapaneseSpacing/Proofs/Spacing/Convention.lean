import JapaneseSpacing.Proofs.HalfWidth.Extraction
import JapaneseSpacing.Proofs.Spacing.Context

/-!
# What is said about a text

What the check says, told by the places of the text alone. Each run with a letter or digit
has a row of violations: none if its core follows a symbol, and otherwise one for each side
on which the convention is broken. `checkText_convention` says that the rows of all runs,
in order, are what is said, and that their indexes rise.
-/

namespace JapaneseSpacing

namespace CoreSpan

section Sides

variable (span : CoreSpan) (text : Text)

/-- The characters from the first letter or digit of a core to the last one. -/
def body : Text :=
  (text.take span.stop).drop span.start

/-- The blanks on a side of a core. -/
def blanks : Side → Span
  | .before => ⟨span.outerStart, span.start⟩
  | .after => ⟨span.stop, span.outerStop⟩

/-- The end of a core on a side. -/
def edge : Side → Int
  | .before => span.start
  | .after => span.stop

/-- The character just outside the blanks on a side of a core. -/
def neighbour? : Side → Option Char
  | .before => if span.outerStart = 0 then none else text[span.outerStart - 1]?
  | .after => text[span.outerStop]?

/-- What a message shows of a side of a phrase. -/
def phraseContext (neighbour : Char) : Side → Text
  | .before => neighbour :: (span.body text).take previewLength ++ "...".toList
  | .after => "...".toList ++ (span.body text).drop ((span.body text).length - previewLength)
      ++ [neighbour]

/-- What a message shows of a side of a single word. -/
def wordContext (neighbour : Char) : Side → Text
  | .before => neighbour :: ' ' :: span.body text
  | .after => span.body text ++ [' ', neighbour]

/-- A side of a core breaks the convention: the convention reacts to the neighbour, and
there are blanks in between although the core is a word or none although it is a phrase. -/
def Breaks (side : Side) (neighbour : Char) : Prop :=
  span.neighbour? text side = some neighbour ∧ isSpacingTarget neighbour = true
    ∧ ¬ (isPhraseText (span.body text) = true
      ↔ (span.blanks side).start < (span.blanks side).stop)

/-- The complaint about a side of a core. A space is asked for at the edge of a phrase; all
blanks beside a word should go. -/
def report (side : Side) (neighbour : Char) : Violation :=
  if isPhraseText (span.body text) then
    { message := spaceRequiredWording ++ ['"'] ++ span.phraseContext text neighbour side ++ ['"']
      index := span.edge side
      fix := some ⟨⟨span.edge side, span.edge side⟩, [' ']⟩ }
  else
    { message := spaceForbiddenWording ++ ['"'] ++ span.wordContext text neighbour side ++ ['"']
      index := (span.blanks side).start
      fix := some ⟨span.blanks side, []⟩ }

/-- What is said about a side is the complaint about it, if the side breaks the convention. -/
def IsVerdict (side : Side) (verdict : Option Violation) : Prop :=
  ∀ violation : Violation, verdict = some violation
    ↔ ∃ neighbour, span.Breaks text side neighbour ∧ violation = span.report text side neighbour

/-- A side of a core is complained about: it breaks the convention, and the core does not follow a
symbol. -/
def IsReported (side : Side) (neighbour : Char) : Prop :=
  span.Breaks text side neighbour
    ∧ ∀ char, span.neighbour? text .before = some char → isSymbol char = false

/-- A span is that of the letters and digits of a maximal run. -/
def IsCore : Prop :=
  ∃ first last, IsMaximalRun text first last ∧ span.Of text first last

/-- A row of violations is what is said about a core. -/
structure Says (row : List Violation) : Prop where
  behind_symbol : (∃ char, span.neighbour? text .before = some char ∧ isSymbol char = true) →
    row = []
  sides : (∀ char, span.neighbour? text .before = some char → isSymbol char = false) →
    ∃ left right : Option Violation, row = left.toList ++ right.toList
      ∧ span.IsVerdict text .before left ∧ span.IsVerdict text .after right

end Sides

variable {span : CoreSpan} {text : Text}

theorem charBefore?_core : charBefore? text (span.core text) = span.neighbour? text .before := by
  have outerStart : (span.core text).outerStart = span.outerStart := rfl
  rw [charBefore?, outerStart, neighbour?]
  by_cases atStart : span.outerStart = 0
  · rw [if_neg (by omega), if_pos atStart]
  · rw [if_pos (by omega), if_neg atStart]
    congr 1
    omega

theorem charAfter?_core : charAfter? text (span.core text) = span.neighbour? text .after := rfl

theorem hasBlankBefore_core : (span.core text).hasBlankBefore
    = decide ((span.blanks .before).start < (span.blanks .before).stop) := by
  simp [core, blanks]

theorem hasBlankAfter_core : (span.core text).hasBlankAfter
    = decide ((span.blanks .after).start < (span.blanks .after).stop) := by
  simp [core, blanks]

/-- The complaint in the words of the check. -/
theorem report_eq (side : Side) (neighbour : Char) : span.report text side neighbour
    = if isPhraseText (span.body text) then
        spaceRequired (span.phraseContext text neighbour side) (span.edge side)
      else spaceForbidden (span.wordContext text neighbour side) (span.blanks side).start
        (span.blanks side) := rfl

/-- Blanks beside a core are out of place exactly if they are not what its kind calls for. -/
theorem decide_eq_not_iff {isPhrase : Bool} {apart : Prop} [Decidable apart] :
    decide apart = !isPhrase ↔ ¬ (isPhrase = true ↔ apart) := by
  by_cases between : apart <;> cases isPhrase <;> simp [between]

/-- A neighbour calls for the complaint about its side exactly if the side breaks the
convention. -/
theorem violationBeside?_core_iff {side : Side} {neighbour : Char} {violation : Violation} :
    violationBeside? side neighbour (span.core text) = some violation ↔
      isSpacingTarget neighbour = true
        ∧ ¬ (isPhraseText (span.body text) = true
          ↔ (span.blanks side).start < (span.blanks side).stop)
        ∧ violation = span.report text side neighbour := by
  rw [report_eq, ← decide_eq_not_iff]
  cases side with
  | before =>
    rw [← hasBlankBefore_core]
    exact violationBefore?_eq_some_iff
  | after =>
    rw [← hasBlankAfter_core]
    exact violationAfter?_eq_some_iff

theorem isVerdict (side : Side) : span.IsVerdict text side
    ((span.neighbour? text side).bind (violationBeside? side · (span.core text))) := by
  intro violation
  rw [Option.bind_eq_some_iff]
  refine exists_congr fun neighbour => ?_
  rw [violationBeside?_core_iff, Breaks, and_assoc, and_assoc]

/-- The check says about a core what is to be said about it. -/
theorem says_coreViolations : span.Says text (coreViolations text (span.core text)) where
  behind_symbol := by
    rintro ⟨char, isLeft, isOne⟩
    rw [coreViolations, followsSymbol, charBefore?_core, isLeft, Option.any_some, if_pos isOne]
  sides := by
    intro noSymbol
    have follows : followsSymbol text (span.core text) = false := by
      rw [followsSymbol, charBefore?_core, Option.any_eq_false]
      intro char isLeft
      simp [noSymbol char isLeft]
    refine ⟨_, _, ?_, span.isVerdict .before, span.isVerdict .after⟩
    rw [coreViolations, follows, charBefore?_core, charAfter?_core]
    rfl

/-- The complaints about a core are those about its sides that break the convention. -/
theorem mem_coreViolations_iff {violation : Violation} :
    violation ∈ coreViolations text (span.core text)
      ↔ ∃ side neighbour, span.IsReported text side neighbour
        ∧ violation = span.report text side neighbour := by
  have told : span.Says text (coreViolations text (span.core text)) := says_coreViolations
  by_cases symbol : ∃ char, span.neighbour? text .before = some char ∧ isSymbol char = true
  · rw [told.behind_symbol symbol]
    refine iff_of_false List.not_mem_nil ?_
    rintro ⟨side, neighbour, ⟨_, noSymbol⟩, _⟩
    obtain ⟨char, isLeft, isOne⟩ := symbol
    rw [noSymbol char isLeft] at isOne
    cases isOne
  · have noSymbol : ∀ char, span.neighbour? text .before = some char → isSymbol char = false :=
      fun char isLeft => Bool.eq_false_iff.2 fun isOne => symbol ⟨char, isLeft, isOne⟩
    obtain ⟨left, right, row, leftVerdict, rightVerdict⟩ := told.sides noSymbol
    rw [row, List.mem_append, Option.mem_toList, Option.mem_toList, leftVerdict violation,
      rightVerdict violation]
    constructor
    · rintro (⟨neighbour, breaks, isReport⟩ | ⟨neighbour, breaks, isReport⟩)
      · exact ⟨.before, neighbour, ⟨breaks, noSymbol⟩, isReport⟩
      · exact ⟨.after, neighbour, ⟨breaks, noSymbol⟩, isReport⟩
    · rintro ⟨side, neighbour, ⟨breaks, _⟩, isReport⟩
      cases side with
      | before => exact .inl ⟨neighbour, breaks, isReport⟩
      | after => exact .inr ⟨neighbour, breaks, isReport⟩

end CoreSpan

/-- The complaints about a text are those about the sides of its cores that break the
convention. -/
theorem mem_checkText_iff {text : Text} {violation : Violation} :
    violation ∈ checkText text
      ↔ ∃ (span : CoreSpan) (side : Side) (neighbour : Char), span.IsCore text
        ∧ span.IsReported text side neighbour ∧ violation = span.report text side neighbour := by
  obtain ⟨runs, all, paired⟩ := extracts_halfWidthCores text
  rw [checkText, List.mem_flatMap]
  constructor
  · rintro ⟨core, isCore, ofCore⟩
    obtain ⟨index, within, rfl⟩ := List.getElem_of_mem isCore
    have isRun : index < runs.length := paired.length_eq ▸ within
    obtain ⟨span, ofRun, isSpan⟩ := paired.get isRun within
    rw [List.get_eq_getElem] at isSpan
    rw [isSpan] at ofCore
    obtain ⟨side, neighbour, isReported, isReport⟩ := CoreSpan.mem_coreViolations_iff.1 ofCore
    obtain ⟨_, maximal, _⟩ := (all.complete _).1 (List.getElem_mem isRun)
    exact ⟨span, side, neighbour, ⟨_, _, maximal, ofRun⟩, isReported, isReport⟩
  · rintro ⟨span, side, neighbour, ⟨first, last, maximal, ofRun⟩, isReported, isReport⟩
    have isMember : (first, last) ∈ runs :=
      (all.complete (first, last)).2 ⟨Nat.zero_le _, maximal, ofRun.hasAlphanumeric⟩
    obtain ⟨index, within, isRun⟩ := List.getElem_of_mem isMember
    have isCore : index < (halfWidthCores text).length := paired.length_eq ▸ within
    obtain ⟨other, otherOfRun, isOther⟩ := paired.get within isCore
    simp only [List.get_eq_getElem, isRun] at otherOfRun isOther
    refine ⟨_, List.getElem_mem isCore, ?_⟩
    rw [isOther, ← ofRun.unique otherOfRun]
    exact CoreSpan.mem_coreViolations_iff.2 ⟨side, neighbour, isReported, isReport⟩

/-! ## The order of the violations -/

section Order

variable {text : Text} {core : HalfWidthCore} {left right : Option Char} {violation : Violation}
  {first last : Int}

theorem index_of_mem_leftViolations (between : core.Between first last)
    (member : violation ∈ leftViolations left core) :
    core.outerStart ≤ violation.index ∧ violation.index ≤ core.start := by
  obtain ⟨neighbour, _, found⟩ := Option.bind_eq_some_iff.1 (Option.mem_toList.1 member)
  obtain ⟨_, _, rfl⟩ := violationBefore?_eq_some_iff.1 found
  have ordered := between.outerStart_le
  cases core.isPhrase with
  | true => exact ⟨ordered, Int.le_refl _⟩
  | false => exact ⟨Int.le_refl _, ordered⟩

theorem index_of_mem_rightViolations (member : violation ∈ rightViolations right core) :
    violation.index = core.stop := by
  obtain ⟨neighbour, _, found⟩ := Option.bind_eq_some_iff.1 (Option.mem_toList.1 member)
  obtain ⟨_, _, rfl⟩ := violationAfter?_eq_some_iff.1 found
  cases core.isPhrase <;> rfl

/-- What is said about a core points into its outer span. -/
theorem index_of_mem_neighbourViolations (between : core.Between first last)
    (member : violation ∈ neighbourViolations left right core) :
    core.outerStart ≤ violation.index ∧ violation.index ≤ core.outerStop := by
  have start := between.start_lt
  have stop := between.stop_le
  have outerStart := between.outerStart_le
  rw [neighbourViolations] at member
  split at member
  · exact absurd member List.not_mem_nil
  · rcases List.mem_append.1 member with isLeft | isRight
    · have index := index_of_mem_leftViolations between isLeft
      omega
    · have index := index_of_mem_rightViolations isRight
      omega

/-- The left side of a core is said to be wrong further in front than the right one. -/
theorem neighbourViolations_ascending (between : core.Between first last) :
    (neighbourViolations left right core).Pairwise fun one other => one.index < other.index := by
  have single : ∀ verdict : Option Violation,
      verdict.toList.Pairwise fun one other => one.index < other.index := by
    rintro (_ | violation) <;> simp
  rw [neighbourViolations]
  split
  · exact List.Pairwise.nil
  · refine List.pairwise_append.2 ⟨single _, single _, fun one isLeft other isRight => ?_⟩
    have before := index_of_mem_leftViolations between isLeft
    have behind := index_of_mem_rightViolations isRight
    have start := between.start_lt
    omega

/-- The violations of a text are found from left to right. -/
theorem checkText_ascending (text : Text) :
    (checkText text).Pairwise fun left right => left.index < right.index := by
  refine List.pairwise_flatMap.2 ⟨fun core member => ?_, ?_⟩
  · exact neighbourViolations_ascending (halfWidthCores_between member)
  · -- Between two cores there is a character outside every run, and so outside both spans.
    refine (extracts_halfWidthCores text).gaps.imp_of_mem ?_
    rintro left right leftMember rightMember ⟨gap, behindLeft, beforeRight, _⟩ one isOne other isOther
    have leftBounds := index_of_mem_neighbourViolations (halfWidthCores_between leftMember) isOne
    have rightBounds := index_of_mem_neighbourViolations (halfWidthCores_between rightMember) isOther
    omega

end Order

/-- The check decides the convention. The maximal runs with a letter or digit have one row of
violations each, in order, which is what is to be said about the core of the run, and the
rows one after another are what is said. The indexes of the violations rise strictly. -/
theorem checkText_convention (text : Text) :
    (∃ (runs : List (Nat × Nat)) (rows : List (List Violation)),
      runs.Pairwise (fun left right => left.2 < right.1)
      ∧ (∀ run, run ∈ runs
        ↔ IsMaximalRun text run.1 run.2 ∧ HasAlphanumeric text run.1 run.2)
      ∧ List.Forall₂ (fun run row =>
        ∃ span : CoreSpan, span.Of text run.1 run.2 ∧ span.Says text row) runs rows
      ∧ checkText text = rows.flatten)
    ∧ (checkText text).Pairwise fun left right => left.index < right.index := by
  refine ⟨?_, checkText_ascending text⟩
  obtain ⟨runs, all, paired⟩ := extracts_halfWidthCores text
  refine ⟨runs, (halfWidthCores text).map (coreViolations text), all.ordered, fun run => ?_, ?_,
    List.flatMap_def⟩
  · rw [all.complete run]
    simp
  · rw [List.forall₂_map_right_iff]
    refine paired.imp ?_
    rintro run core ⟨span, ofRun, rfl⟩
    exact ⟨span, ofRun, CoreSpan.says_coreViolations⟩

/-- Blanks beside a word, a word behind a symbol, and a phrase without blanks. -/
example : (checkText "あ a い、b うab cえ".toList).map (·.index) = [1, 3, 9, 13] := by
  decide +kernel

end JapaneseSpacing
