import JapaneseSpacing.Proofs.Spacing.Fix

/-!
# Fixes settle what they are suggested for

Carrying out one suggested fix changes only the blanks on one side of one core. No run
is joined, split or read differently by that, so exactly the violation of the fix is
gone and all others stay, moved along if they are further back: `exists_settling_fix`.
-/

namespace JapaneseSpacing

/-- Carrying out the fix takes one violation out of a list, `before` and `after` being the
others, and keeps every character that is no blank. -/
structure Fix.Settles (check : Text → List Violation) (text : Text)
    (before after : List Violation) (fix : Fix) : Prop where
  first : 0 ≤ fix.span.start
  ordered : fix.span.start ≤ fix.span.stop
  last : fix.span.stop ≤ text.length
  violations : check (fix.applyTo text) = before ++ after.map (·.shift fix.growth)
  solid : (fix.applyTo text).filter (!isBlank ·) = text.filter (!isBlank ·)

/-! ## One side of a core -/

/-- What is said about the left side of a core, and how it is mended. -/
theorem violationBefore?_eq_some {neighbour : Char} {core : HalfWidthCore}
    {violation : Violation} (found : violationBefore? neighbour core = some violation) :
    isSpacingTarget neighbour = true ∧ core.hasBlankBefore = !core.isPhrase
      ∧ violation.fix = some (if core.isPhrase then .insertSpace core.start
        else .remove ⟨core.outerStart, core.start⟩) := by
  obtain ⟨target, blank, rfl⟩ := violationBefore?_eq_some_iff.1 found
  refine ⟨target, blank, ?_⟩
  cases core.isPhrase <;> rfl

/-- What is said about the right side of a core, and how it is mended. -/
theorem violationAfter?_eq_some {neighbour : Char} {core : HalfWidthCore}
    {violation : Violation} (found : violationAfter? neighbour core = some violation) :
    isSpacingTarget neighbour = true ∧ core.hasBlankAfter = !core.isPhrase
      ∧ violation.fix = some (if core.isPhrase then .insertSpace core.stop
        else .remove ⟨core.stop, core.outerStop⟩) := by
  obtain ⟨target, blank, rfl⟩ := violationAfter?_eq_some_iff.1 found
  refine ⟨target, blank, ?_⟩
  cases core.isPhrase <;> rfl

/-- The left side of a core does not depend on what stands behind the core. -/
theorem leftViolations_congr (left : Option Char) {core other : HalfWidthCore}
    (text : other.text = core.text) (isPhrase : other.isPhrase = core.isPhrase)
    (blank : other.hasBlankBefore = core.hasBlankBefore) (start : other.start = core.start)
    (outerStart : other.outerStart = core.outerStart) :
    leftViolations left other = leftViolations left core := by
  simp only [leftViolations, violationBefore?, text, isPhrase, blank, start, outerStart]

/-- The right side of a core does not depend on what stands in front of the core. -/
theorem rightViolations_congr (right : Option Char) {core other : HalfWidthCore}
    (text : other.text = core.text) (isPhrase : other.isPhrase = core.isPhrase)
    (blank : other.hasBlankAfter = core.hasBlankAfter) (stop : other.stop = core.stop)
    (outerStop : other.outerStop = core.outerStop) :
    rightViolations right other = rightViolations right core := by
  simp only [rightViolations, violationAfter?, text, isPhrase, blank, stop, outerStop]

theorem leftViolations_eq_nil {left : Option Char} {core : HalfWidthCore}
    (agrees : core.hasBlankBefore = core.isPhrase) : leftViolations left core = [] := by
  cases left with
  | none => rfl
  | some neighbour =>
    cases phrase : core.isPhrase <;> simp [leftViolations, violationBefore?, agrees, phrase]

theorem rightViolations_eq_nil {right : Option Char} {core : HalfWidthCore}
    (agrees : core.hasBlankAfter = core.isPhrase) : rightViolations right core = [] := by
  cases right with
  | none => rfl
  | some neighbour =>
    cases phrase : core.isPhrase <;> simp [rightViolations, violationAfter?, agrees, phrase]

/-! ## One run -/

namespace RunParts

/-- The blanks that belong between a core and a character the convention reacts to. -/
def dueBlanks (parts : RunParts) : Text :=
  if isPhraseText parts.core then [' '] else []

theorem dueBlanks_blank (parts : RunParts) :
    ∀ char ∈ parts.dueBlanks, isBlank char = true := by
  intro char member
  rw [dueBlanks] at member
  split at member
  · rw [List.mem_singleton.1 member]
    rfl
  · contradiction

theorem hasBlank_dueBlanks (parts : RunParts) :
    decide (0 < parts.dueBlanks.length) = isPhraseText parts.core := by
  cases phrase : isPhraseText parts.core <;> simp [dueBlanks, phrase]

/-- The run with the blanks in front of its core put right. -/
def settleBefore (parts : RunParts) : RunParts :=
  { parts with
    blanksBefore := parts.dueBlanks
    blanksBefore_blank := parts.dueBlanks_blank }

/-- The run with the blanks behind its core put right. -/
def settleAfter (parts : RunParts) : RunParts :=
  { parts with
    blanksAfter := parts.dueBlanks
    blanksAfter_blank := parts.dueBlanks_blank }

/-- The fix for the left side of a core puts the blanks there right. -/
theorem fix_before (parts : RunParts) {neighbour : Char} {violation : Violation}
    (found : violationBefore? neighbour (parts.coreAt 0) = some violation) :
    violation.fix = some ⟨⟨parts.lead.length,
      (parts.lead.length + parts.blanksBefore.length : Nat)⟩, parts.dueBlanks⟩ := by
  obtain ⟨target, blank, fix⟩ := violationBefore?_eq_some found
  rw [fix]
  cases phrase : isPhraseText parts.core with
  | true =>
    have noBlank : parts.blanksBefore = [] := by simpa [coreAt, phrase] using blank
    simp [coreAt, dueBlanks, phrase, noBlank, Fix.insertSpace]
  | false => simp [coreAt, dueBlanks, phrase, Fix.remove]

/-- The fix for the right side of a core puts the blanks there right. -/
theorem fix_after (parts : RunParts) {neighbour : Char} {violation : Violation}
    (found : violationAfter? neighbour (parts.coreAt 0) = some violation) :
    violation.fix = some ⟨⟨(parts.lead ++ parts.blanksBefore ++ parts.core).length,
      ((parts.lead ++ parts.blanksBefore ++ parts.core).length + parts.blanksAfter.length : Nat)⟩,
      parts.dueBlanks⟩ := by
  obtain ⟨target, blank, fix⟩ := violationAfter?_eq_some found
  rw [fix]
  cases phrase : isPhraseText parts.core with
  | true =>
    have noBlank : parts.blanksAfter = [] := by simpa [coreAt, phrase] using blank
    simp [coreAt, dueBlanks, phrase, noBlank, Fix.insertSpace, Int.add_assoc]
  | false => simp [coreAt, dueBlanks, phrase, Fix.remove, Int.add_assoc]

/-- Replacing blanks by blanks keeps all other characters. -/
theorem filter_blanks {front blanks others back : Text}
    (blank : ∀ char ∈ blanks, isBlank char = true) (blank' : ∀ char ∈ others, isBlank char = true) :
    (front ++ others ++ back).filter (!isBlank ·)
      = (front ++ blanks ++ back).filter (!isBlank ·) := by
  have nothing : ∀ stretch : Text, (∀ char ∈ stretch, isBlank char = true) →
      stretch.filter (!isBlank ·) = [] := by
    intro stretch allBlank
    rw [List.filter_eq_nil_iff]
    intro char member
    simp [allBlank char member]
  rw [List.filter_append, List.filter_append, List.filter_append, List.filter_append,
    nothing blanks blank, nothing others blank']

/-- The left side of a core is settled by its fix, and the right side stays as it was. -/
theorem settles_before (parts : RunParts) {previous next : Option Char} {neighbour : Char}
    {violation : Violation} (left : parts.lead.getLast?.or previous = some neighbour)
    (found : violationBefore? neighbour (parts.coreAt 0) = some violation) :
    ∃ fix, violation.fix = some fix ∧ fix.applyTo parts.text = parts.settleBefore.text
      ∧ fix.Settles (runViolations previous next) parts.text []
        (rightViolations (parts.tail.head?.or next) (parts.coreAt 0)) := by
  refine ⟨_, parts.fix_before found, ?_⟩
  generalize fixed : (⟨⟨_, _⟩, _⟩ : Fix) = fix
  have start : fix.span.start = parts.lead.length := by rw [← fixed]
  have stop : fix.span.stop = (parts.lead.length + parts.blanksBefore.length : Nat) := by
    rw [← fixed]
  have text : parts.text = parts.lead ++ parts.blanksBefore
      ++ (parts.core ++ parts.blanksAfter ++ parts.tail) := by
    simp [RunParts.text]
  have settled : parts.settleBefore.text = parts.lead ++ parts.dueBlanks
      ++ (parts.core ++ parts.blanksAfter ++ parts.tail) := by
    simp [RunParts.text, settleBefore]
  have applied : fix.applyTo parts.text = parts.settleBefore.text := by
    rw [text, Fix.applyTo_middle start stop, settled, ← fixed]
  have growth : fix.growth = (parts.dueBlanks.length : Int) - parts.blanksBefore.length := by
    have fixText : fix.text = parts.dueBlanks := by rw [← fixed]
    rw [Fix.growth, start, stop, fixText]
    omega
  have noSymbol : isSymbol neighbour = false :=
    ((isSpacingTarget_iff neighbour).1 (violationBefore?_eq_some found).1).2
  have quiet : leftViolations (some neighbour) (parts.settleBefore.coreAt 0) = [] :=
    leftViolations_eq_nil parts.hasBlank_dueBlanks
  have kept : rightViolations (parts.tail.head?.or next) (parts.settleBefore.coreAt 0)
      = (rightViolations (parts.tail.head?.or next) (parts.coreAt 0)).map
        (·.shift fix.growth) := by
    rw [← rightViolations_shift]
    refine rightViolations_congr _ rfl rfl rfl ?_ ?_ <;>
      simp only [settleBefore, coreAt, HalfWidthCore.shift, growth] <;> omega
  refine ⟨applied, ?_⟩
  constructor
  · omega
  · omega
  · rw [stop, text]
    simp only [List.length_append]
    omega
  · rw [applied, runViolations_text]
    change neighbourViolations (parts.lead.getLast?.or previous) (parts.tail.head?.or next) _ = _
    rw [left, neighbourViolations, Option.any_some, noSymbol, quiet, kept]
    rfl
  · rw [applied, settled, text, filter_blanks parts.blanksBefore_blank parts.dueBlanks_blank]

/-- The right side of a core is settled by its fix, and the left side stays as it was. -/
theorem settles_after (parts : RunParts) {previous next : Option Char} {neighbour : Char}
    {violation : Violation} (noSymbol : (parts.lead.getLast?.or previous).any isSymbol = false)
    (right : parts.tail.head?.or next = some neighbour)
    (found : violationAfter? neighbour (parts.coreAt 0) = some violation) :
    ∃ fix, violation.fix = some fix ∧ fix.applyTo parts.text = parts.settleAfter.text
      ∧ fix.Settles (runViolations previous next) parts.text
        (leftViolations (parts.lead.getLast?.or previous) (parts.coreAt 0)) [] := by
  refine ⟨_, parts.fix_after found, ?_⟩
  generalize fixed : (⟨⟨_, _⟩, _⟩ : Fix) = fix
  have start : fix.span.start = (parts.lead ++ parts.blanksBefore ++ parts.core).length := by
    rw [← fixed]
  have stop : fix.span.stop = ((parts.lead ++ parts.blanksBefore ++ parts.core).length
      + parts.blanksAfter.length : Nat) := by
    rw [← fixed]
  have settled : parts.settleAfter.text
      = parts.lead ++ parts.blanksBefore ++ parts.core ++ parts.dueBlanks ++ parts.tail := rfl
  have applied : fix.applyTo parts.text = parts.settleAfter.text := by
    rw [RunParts.text, Fix.applyTo_middle start stop, settled, ← fixed]
  have kept : leftViolations (parts.lead.getLast?.or previous) (parts.settleAfter.coreAt 0)
      = leftViolations (parts.lead.getLast?.or previous) (parts.coreAt 0) :=
    leftViolations_congr _ rfl rfl rfl rfl rfl
  have quiet : rightViolations (some neighbour) (parts.settleAfter.coreAt 0) = [] :=
    rightViolations_eq_nil parts.hasBlank_dueBlanks
  refine ⟨applied, ?_⟩
  constructor
  · omega
  · omega
  · rw [stop, RunParts.text]
    simp only [List.length_append]
    omega
  · rw [applied, runViolations_text]
    change neighbourViolations (parts.lead.getLast?.or previous) (parts.tail.head?.or next) _ = _
    rw [right, neighbourViolations, noSymbol, quiet, kept]
    rfl
  · rw [applied, settled, RunParts.text,
      filter_blanks parts.blanksAfter_blank parts.dueBlanks_blank]

end RunParts

/-- An item of two lists in a row is an item of the first or of the second. -/
theorem append_eq_append_cons {α : Type} {first second before after : List α} {item : α}
    (split : first ++ second = before ++ item :: after) :
    (∃ rest, first = before ++ item :: rest ∧ after = rest ++ second)
      ∨ ∃ front, second = front ++ item :: after ∧ before = first ++ front := by
  rcases List.append_eq_append_iff.1 split with ⟨front, front', second'⟩ | ⟨rest, first', rest'⟩
  · exact .inr ⟨front, second', front'⟩
  · cases rest with
    | nil =>
      refine .inr ⟨[], ?_, ?_⟩
      · simpa using rest'.symm
      · simpa using first'.symm
    | cons head rest =>
      rw [List.cons_append, List.cons.injEq] at rest'
      obtain ⟨rfl, rfl⟩ := rest'
      exact .inl ⟨rest, first', rfl⟩

theorem toList_eq_append_cons {α : Type} {option : Option α} {before after : List α} {item : α}
    (split : option.toList = before ++ item :: after) :
    before = [] ∧ after = [] ∧ option = some item := by
  cases option with
  | none => simp at split
  | some value =>
    rw [Option.toList_some, List.singleton_eq_append_iff] at split
    rcases split with ⟨rfl, rest⟩ | ⟨front, rest⟩
    · simp_all
    · simp at rest

/-- In a run between two neighbours every violation is settled by its fix. -/
theorem exists_settling_fix_run {previous next : Option Char} {run : Text} (inside : IsRun run)
    {violation : Violation} {before after : List Violation}
    (found : runViolations previous next run = before ++ violation :: after) :
    ∃ fix, violation.fix = some fix ∧ IsRun (fix.applyTo run)
      ∧ fix.Settles (runViolations previous next) run before after := by
  by_cases alphanumeric : ∃ char ∈ run, isAsciiAlphanumeric char = true
  · obtain ⟨parts, rfl⟩ := RunParts.exists_of_run inside alphanumeric
    rw [parts.runViolations_text, neighbourViolations] at found
    split at found
    · simp at found
    · next noSymbol =>
      rw [Bool.not_eq_true] at noSymbol
      rcases append_eq_append_cons found with ⟨rest, left, rfl⟩ | ⟨front, right, rfl⟩
      · obtain ⟨rfl, rfl, leftFound⟩ := toList_eq_append_cons left
        obtain ⟨neighbour, beside, complaint⟩ := Option.bind_eq_some_iff.1 leftFound
        obtain ⟨fix, isFix, applied, settles⟩ := parts.settles_before beside complaint
        exact ⟨fix, isFix, applied ▸ parts.settleBefore.text_run, settles⟩
      · obtain ⟨rfl, rfl, rightFound⟩ := toList_eq_append_cons right
        obtain ⟨neighbour, beside, complaint⟩ := Option.bind_eq_some_iff.1 rightFound
        obtain ⟨fix, isFix, applied, settles⟩ := parts.settles_after noSymbol beside complaint
        refine ⟨fix, isFix, applied ▸ parts.settleAfter.text_run, ?_⟩
        rwa [List.append_nil]
  · rw [runViolations_bare (by simpa using alphanumeric)] at found
    simp at found

/-! ## A whole text -/

/-- A fix that settles a violation of the first run settles it in the whole text. -/
theorem Fix.Settles.append {fix : Fix} {previous : Option Char} {outside : Char}
    {run rest : Text} {before after : List Violation}
    (notInside : isRunChar outside = false) (stillRun : IsRun (fix.applyTo run))
    (settles : fix.Settles (runViolations previous (some outside)) run before after) :
    fix.Settles (violationsBehind previous) (run ++ outside :: rest) before
      (after ++ (violationsBehind (some outside) rest).map (·.shift (run.length + 1 : Nat))) := by
  have applied : fix.applyTo (run ++ outside :: rest) = fix.applyTo run ++ outside :: rest :=
    fix.applyTo_append_left _ settles.ordered settles.last
  have length := length_applyTo settles.first settles.ordered settles.last
  constructor
  · exact settles.first
  · exact settles.ordered
  · have last := settles.last
    simp only [List.length_append, List.length_cons]
    omega
  · rw [applied, violationsBehind_cut stillRun notInside, settles.violations, List.map_append,
      List.map_map, List.append_assoc]
    congr 3
    funext violation
    rw [Function.comp_apply, Violation.shift_shift]
    congr 1
    omega
  · rw [applied, List.filter_append, settles.solid, List.filter_append]

/-- A fix that settles a violation behind the first run settles it in the whole text. -/
theorem Fix.Settles.behind {fix : Fix} {previous : Option Char} {outside : Char}
    {run rest : Text} {before after : List Violation} (inside : IsRun run)
    (notInside : isRunChar outside = false)
    (settles : fix.Settles (violationsBehind (some outside)) rest before after) :
    (fix.shift (run.length + 1 : Nat)).Settles (violationsBehind previous)
      (run ++ outside :: rest)
      (runViolations previous (some outside) run
        ++ before.map (·.shift (run.length + 1 : Nat)))
      (after.map (·.shift (run.length + 1 : Nat))) := by
  have front : run ++ outside :: rest = (run ++ [outside]) ++ rest := by simp
  have length : run.length + 1 = (run ++ [outside]).length := by simp
  have applied : (fix.shift (run.length + 1 : Nat)).applyTo (run ++ outside :: rest)
      = run ++ outside :: fix.applyTo rest := by
    rw [front, length, Fix.applyTo_append_right _ _ settles.first settles.ordered]
    simp
  have first := settles.first
  have ordered := settles.ordered
  have last := settles.last
  constructor
  · rw [shift_start]
    omega
  · rw [shift_start, shift_stop]
    omega
  · rw [shift_stop]
    simp only [List.length_append, List.length_cons]
    omega
  · rw [applied, violationsBehind_cut inside notInside, settles.violations, List.map_append,
      List.append_assoc, shift_growth, List.map_map, List.map_map]
    congr 3
    funext violation
    simp only [Function.comp_apply, Violation.shift_shift, Int.add_comm]
  · rw [applied, List.filter_append, List.filter_append, List.filter_cons, List.filter_cons,
      settles.solid]

/-- Every violation of a text is settled by its fix. -/
theorem exists_settling_fix {previous : Option Char} {text : Text} {violation : Violation}
    {before after : List Violation}
    (found : violationsBehind previous text = before ++ violation :: after) :
    ∃ fix, violation.fix = some fix
      ∧ fix.Settles (violationsBehind previous) text before after := by
  induction text using Text.runInduction generalizing previous violation before after with
  | run run inside =>
    rw [violationsBehind_run inside] at found
    obtain ⟨fix, isFix, stillRun, settles⟩ := exists_settling_fix_run inside found
    refine ⟨fix, isFix, { settles with violations := ?_ }⟩
    rw [violationsBehind_run stillRun, settles.violations]
  | cut run outside rest inside notInside inductionHypothesis =>
    rw [violationsBehind_cut inside notInside] at found
    rcases append_eq_append_cons found with ⟨others, inRun, rfl⟩ | ⟨front, inRest, rfl⟩
    · obtain ⟨fix, isFix, stillRun, settles⟩ := exists_settling_fix_run inside inRun
      exact ⟨fix, isFix, settles.append notInside stillRun⟩
    · obtain ⟨before, later, restFound, rfl, shifted⟩ := List.map_eq_append_iff.1 inRest
      obtain ⟨original, after, rfl, rfl, rfl⟩ := List.map_eq_cons_iff.1 shifted
      obtain ⟨fix, isFix, settles⟩ := inductionHypothesis restFound
      refine ⟨fix.shift (run.length + 1 : Nat), ?_, settles.behind inside notInside⟩
      simp [Violation.shift, isFix]

end JapaneseSpacing
