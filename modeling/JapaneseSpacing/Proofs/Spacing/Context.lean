import JapaneseSpacing.Proofs.HalfWidth.Parts
import JapaneseSpacing.Spacing.Boundary

/-!
# Checking a text run by run

What is said about a core depends on the core and on the characters next to its
outer span. So a text can be checked run by run, each run between the characters
that stand in front of it and behind it: `violationsBehind_cut` splits a text at a
character outside every run, and `runViolations_text` reads the check of one run
off its parts.
-/

namespace JapaneseSpacing

/-- The same violation in a text that begins `distance` characters earlier. -/
def Violation.shift (violation : Violation) (distance : Int) : Violation :=
  { violation with
    index := distance + violation.index
    fix := violation.fix.map (·.shift distance) }

@[simp]
theorem Fix.shift_shift (fix : Fix) (first second : Int) :
    (fix.shift first).shift second = fix.shift (second + first) := by
  simp [Fix.shift, Span.shift, Int.add_assoc]

@[simp]
theorem Violation.shift_shift (violation : Violation) (first second : Int) :
    (violation.shift first).shift second = violation.shift (second + first) := by
  cases found : violation.fix <;> simp [Violation.shift, found, Int.add_assoc]

/-- Both sides of a core are decided in the same way. -/
theorem choice_eq_some_iff {isTarget isPhrase hasBlank : Bool}
    {required forbidden violation : Violation} :
    (if !isTarget then none
      else if isPhrase && !hasBlank then some required
      else if !isPhrase && hasBlank then some forbidden
      else none) = some violation
    ↔ isTarget = true ∧ hasBlank = !isPhrase
      ∧ violation = if isPhrase then required else forbidden := by
  cases isTarget <;> cases isPhrase <;> cases hasBlank <;> simp [eq_comm]

/-- What is said about the left side of a core. -/
theorem violationBefore?_eq_some_iff {neighbour : Char} {core : HalfWidthCore}
    {violation : Violation} : violationBefore? neighbour core = some violation
      ↔ isSpacingTarget neighbour = true ∧ core.hasBlankBefore = !core.isPhrase
        ∧ violation = if core.isPhrase then
            spaceRequired (neighbour :: core.text.take previewLength ++ "...".toList) core.start
          else spaceForbidden (neighbour :: ' ' :: core.text) core.outerStart
            ⟨core.outerStart, core.start⟩ :=
  choice_eq_some_iff

/-- What is said about the right side of a core. -/
theorem violationAfter?_eq_some_iff {neighbour : Char} {core : HalfWidthCore}
    {violation : Violation} : violationAfter? neighbour core = some violation
      ↔ isSpacingTarget neighbour = true ∧ core.hasBlankAfter = !core.isPhrase
        ∧ violation = if core.isPhrase then
            spaceRequired ("...".toList ++ core.text.drop (core.text.length - previewLength)
              ++ [neighbour]) core.stop
          else spaceForbidden (core.text ++ [' ', neighbour]) core.stop
            ⟨core.stop, core.outerStop⟩ :=
  choice_eq_some_iff

/-- What the left neighbour of a core says about it. -/
def leftViolations (left : Option Char) (core : HalfWidthCore) : List Violation :=
  (left.bind (violationBefore? · core)).toList

/-- What the right neighbour of a core says about it. -/
def rightViolations (right : Option Char) (core : HalfWidthCore) : List Violation :=
  (right.bind (violationAfter? · core)).toList

/-- What the two neighbours of a core say about it, the left one first. -/
def neighbourViolations (left right : Option Char) (core : HalfWidthCore) : List Violation :=
  if left.any isSymbol then [] else leftViolations left core ++ rightViolations right core

theorem coreViolations_eq (text : Text) (core : HalfWidthCore) :
    coreViolations text core
      = neighbourViolations (charBefore? text core) (charAfter? text core) core := rfl

/-! ## Checking one side -/

/-- The neighbour of a core on a side. -/
def neighbourBeside? (text : Text) (core : HalfWidthCore) : Side → Option Char
  | .before => charBefore? text core
  | .after => charAfter? text core

/-- A side of a core that lies inside the text can be checked, and the neighbour on that side
decides. -/
theorem checkBoundary_of_between {text : Text} {core : HalfWidthCore}
    (between : core.Between 0 text.length) (side : Side) :
    checkBoundary text core side
      = .ok ((neighbourBeside? text core side).bind (violationBeside? side · core)) := by
  obtain ⟨fromStart, leStart, ltStop, leOuter, toEnd⟩ := between
  cases side with
  | before =>
    rw [checkBoundary, neighbourBeside?, charBefore?]
    by_cases atStart : core.outerStart = 0
    · rw [if_pos (by rw [atStart]; rfl), if_neg (by omega)]
      rfl
    · have inside : (core.outerStart - 1).toNat < text.length := by omega
      rw [if_neg (by rw [decide_eq_true_iff]; omega), if_pos (by omega), item?, if_pos (by omega),
        List.getElem?_eq_getElem inside]
      rfl
  | after =>
    rw [checkBoundary, neighbourBeside?, charAfter?]
    by_cases atEnd : (text.length : Int) ≤ core.outerStop
    · rw [if_pos (decide_eq_true atEnd), List.getElem?_eq_none (by omega)]
      rfl
    · have inside : core.outerStop.toNat < text.length := by omega
      rw [if_neg (by rw [decide_eq_true_iff]; exact atEnd), item?, if_pos (by omega),
        List.getElem?_eq_getElem inside]
      rfl

/-- A text is checked by checking both sides of each core that follows no symbol. -/
theorem checkText_eq_flatMap_sides (text : Text) :
    checkText text = (halfWidthCores text).flatMap fun core =>
      if followsSymbol text core then []
      else [Side.before, .after].flatMap fun side =>
        ((checkBoundary text core side).toOption.bind id).toList := by
  refine List.flatMap_congr fun core member => ?_
  have sides := checkBoundary_of_between (halfWidthCores_between member)
  rw [coreViolations, List.flatMap_cons, List.flatMap_singleton, sides, sides]
  rfl

/-! ## Shifted cores -/

@[simp]
theorem spaceRequired_shift (context : Text) (index distance : Int) :
    (spaceRequired context index).shift distance = spaceRequired context (distance + index) := rfl

@[simp]
theorem spaceForbidden_shift (context : Text) (index distance : Int) (span : Span) :
    (spaceForbidden context index span).shift distance
      = spaceForbidden context (distance + index) (span.shift distance) := rfl

theorem violationBefore?_shift (neighbour : Char) (core : HalfWidthCore) (distance : Int) :
    violationBefore? neighbour (core.shift distance)
      = (violationBefore? neighbour core).map (·.shift distance) := by
  obtain ⟨text, start, stop, outerStart, outerStop, isPhrase, before, after⟩ := core
  cases target : isSpacingTarget neighbour <;> cases isPhrase <;> cases before <;>
    simp [violationBefore?, HalfWidthCore.shift, target, Span.shift]

theorem violationAfter?_shift (neighbour : Char) (core : HalfWidthCore) (distance : Int) :
    violationAfter? neighbour (core.shift distance)
      = (violationAfter? neighbour core).map (·.shift distance) := by
  obtain ⟨text, start, stop, outerStart, outerStop, isPhrase, before, after⟩ := core
  cases target : isSpacingTarget neighbour <;> cases isPhrase <;> cases after <;>
    simp [violationAfter?, HalfWidthCore.shift, target, Span.shift]

theorem leftViolations_shift (left : Option Char) (core : HalfWidthCore) (distance : Int) :
    leftViolations left (core.shift distance)
      = (leftViolations left core).map (·.shift distance) := by
  cases left with
  | none => rfl
  | some neighbour =>
    rw [leftViolations, leftViolations, Option.bind_some, Option.bind_some,
      violationBefore?_shift]
    cases violationBefore? neighbour core <;> rfl

theorem rightViolations_shift (right : Option Char) (core : HalfWidthCore) (distance : Int) :
    rightViolations right (core.shift distance)
      = (rightViolations right core).map (·.shift distance) := by
  cases right with
  | none => rfl
  | some neighbour =>
    rw [rightViolations, rightViolations, Option.bind_some, Option.bind_some,
      violationAfter?_shift]
    cases violationAfter? neighbour core <;> rfl

/-- Moving a core moves what its neighbours say about it. -/
theorem neighbourViolations_shift (left right : Option Char) (core : HalfWidthCore)
    (distance : Int) : neighbourViolations left right (core.shift distance)
      = (neighbourViolations left right core).map (·.shift distance) := by
  unfold neighbourViolations
  split
  · rfl
  · rw [leftViolations_shift, rightViolations_shift, List.map_append]

/-- The character in front of a core's outer span, in a text that `previous` stands
in front of. -/
def charBeforeBehind? (previous : Option Char) (text : Text) (core : HalfWidthCore) :
    Option Char :=
  if 0 < core.outerStart then charBefore? text core else previous

/-- The violations of a text that `previous` stands in front of. -/
def violationsBehind (previous : Option Char) (text : Text) : List Violation :=
  (halfWidthCores text).flatMap fun core =>
    neighbourViolations (charBeforeBehind? previous text core) (charAfter? text core) core

theorem checkText_eq (text : Text) : checkText text = violationsBehind none text := by
  rw [checkText, violationsBehind]
  congr 1
  funext core
  rw [coreViolations_eq, charBeforeBehind?]
  split
  · rfl
  · next atStart => rw [charBefore?, if_neg atStart]

/-- Text behind a core's neighbour does not matter to the core's left side. -/
theorem charBeforeBehind?_append {previous : Option Char} {text more : Text}
    {core : HalfWidthCore} (within : core.outerStart ≤ text.length) :
    charBeforeBehind? previous (text ++ more) core = charBeforeBehind? previous text core := by
  unfold charBeforeBehind? charBefore?
  split
  · rw [List.getElem?_append_left (by omega)]
  · rfl

/-- The right neighbour of a core at the end of a text is the character behind the text. -/
theorem charAfter?_append_cons {text more : Text} {next : Char} {core : HalfWidthCore}
    (within : core.outerStop ≤ text.length) :
    charAfter? (text ++ next :: more) core = (charAfter? text core).or (some next) := by
  unfold charAfter?
  rcases Nat.lt_or_ge core.outerStop.toNat text.length with inside | atEnd
  · rw [List.getElem?_append_left inside, List.getElem?_eq_getElem inside, Option.some_or]
  · have exact : core.outerStop.toNat = text.length := by omega
    rw [exact, List.getElem?_append_right (Nat.le_refl _), List.getElem?_eq_none (Nat.le_refl _)]
    simp

/-- A core further back in a text sees the same characters there. -/
theorem charAfter?_shift {front text : Text} {core : HalfWidthCore} (within : 0 ≤ core.outerStop) :
    charAfter? (front ++ text) (core.shift front.length) = charAfter? text core := by
  have place : (core.shift front.length).outerStop.toNat
      = front.length + core.outerStop.toNat := by
    simp only [HalfWidthCore.shift]
    omega
  rw [charAfter?, place, List.getElem?_append_right (by omega), charAfter?]
  congr 1
  omega

theorem charBeforeBehind?_shift {previous : Option Char} {outside : Char}
    {front text : Text}
    {core : HalfWidthCore} (within : 0 ≤ core.outerStart) (last : front.getLast? = some outside) :
    charBeforeBehind? previous (front ++ text) (core.shift front.length)
      = charBeforeBehind? (some outside) text core := by
  have frontLength : 0 < front.length := by
    apply List.length_pos_of_ne_nil
    rintro rfl
    simp at last
  have moved : (core.shift front.length).outerStart = front.length + core.outerStart := rfl
  simp only [charBeforeBehind?, charBefore?, moved]
  rw [if_pos (by omega), if_pos (by omega)]
  split
  · rw [List.getElem?_append_right (by omega)]
    congr 1
    omega
  · next atStart =>
    rw [List.getElem?_append_left (by omega), ← last, List.getLast?_eq_getElem?]
    congr 1
    omega

/-- The violations of one run between two neighbours. -/
def runViolations (previous next : Option Char) (run : Text) : List Violation :=
  (HalfWidthCore.ofRun? 0 run).toList.flatMap fun core =>
    neighbourViolations (charBeforeBehind? previous run core) ((charAfter? run core).or next) core

/-- A text that is one run is checked at the end of the text. -/
theorem violationsBehind_run {previous : Option Char} {run : Text} (inside : IsRun run) :
    violationsBehind previous run = runViolations previous none run := by
  rw [violationsBehind, runViolations, halfWidthCores_run inside]
  simp

/-- A text is checked run by run: the character between two runs is the neighbour of
both, and what stands behind it is a text of its own. -/
theorem violationsBehind_cut {previous : Option Char} {run rest : Text} {outside : Char}
    (inside : IsRun run) (notInside : isRunChar outside = false) :
    violationsBehind previous (run ++ outside :: rest)
      = runViolations previous (some outside) run
        ++ (violationsBehind (some outside) rest).map (·.shift (run.length + 1 : Nat)) := by
  rw [violationsBehind, halfWidthCores_cut inside notInside, List.flatMap_append, runViolations]
  congr 1
  · cases found : HalfWidthCore.ofRun? 0 run with
    | none => rfl
    | some core =>
      obtain ⟨parts, rfl, rfl⟩ := HalfWidthCore.exists_parts inside found
      have between := parts.coreAt_between 0
      simp only [Option.toList_some, List.flatMap_singleton]
      rw [charBeforeBehind?_append, charAfter?_append_cons]
      · have last := between.outerStop_le
        omega
      · have first := between.outerStart_le
        have middle := between.start_lt
        have stop := between.stop_le
        have last := between.outerStop_le
        omega
  · rw [List.flatMap_map, violationsBehind, List.map_flatMap]
    apply List.flatMap_congr
    intro core member
    have between := halfWidthCores_between member
    have front : run ++ outside :: rest = (run ++ [outside]) ++ rest := by simp
    have length : run.length + 1 = (run ++ [outside]).length := by simp
    have outerStop : 0 ≤ core.outerStop := by
      obtain ⟨first, outerStart, start, stop, last⟩ := between
      omega
    rw [front, length, charBeforeBehind?_shift between.first_le List.getLast?_concat,
      charAfter?_shift outerStop, neighbourViolations_shift]

/-- A run without a letter or digit is never complained about. -/
theorem runViolations_bare {previous next : Option Char} {run : Text}
    (bare : ∀ char ∈ run, isAsciiAlphanumeric char = false) :
    runViolations previous next run = [] := by
  rw [runViolations, HalfWidthCore.ofRun?_bare 0 bare]
  rfl

namespace RunParts

theorem charBeforeBehind?_text (parts : RunParts) (previous : Option Char) :
    charBeforeBehind? previous parts.text (parts.coreAt 0)
      = parts.lead.getLast?.or previous := by
  have outerStart : (parts.coreAt 0).outerStart = parts.lead.length := by simp [coreAt]
  simp only [charBeforeBehind?, charBefore?, outerStart]
  cases found : parts.lead.getLast? with
  | none =>
    rw [List.getLast?_eq_none_iff.1 found]
    simp
  | some last =>
    have leadLength : 0 < parts.lead.length := by
      apply List.length_pos_of_ne_nil
      intro empty
      simp [empty] at found
    rw [if_pos (by omega), if_pos (by omega), text, List.append_assoc, List.append_assoc,
      List.append_assoc, List.getElem?_append_left (by omega), Option.some_or, ← found,
      List.getLast?_eq_getElem?]
    congr 1
    omega

theorem charAfter?_text (parts : RunParts) :
    charAfter? parts.text (parts.coreAt 0) = parts.tail.head? := by
  have outerStop : (parts.coreAt 0).outerStop.toNat
      = (parts.lead ++ parts.blanksBefore ++ parts.core ++ parts.blanksAfter).length := by
    simp only [coreAt, List.length_append]
    omega
  rw [charAfter?, outerStop, text, List.getElem?_append_right (Nat.le_refl _), Nat.sub_self,
    List.head?_eq_getElem?]

/-- The neighbours of a core are the nearest characters beyond the blanks beside it, in
the run or else next to the run. -/
theorem runViolations_text (parts : RunParts) (previous next : Option Char) :
    runViolations previous next parts.text
      = neighbourViolations (parts.lead.getLast?.or previous) (parts.tail.head?.or next)
        (parts.coreAt 0) := by
  rw [runViolations, parts.ofRun?_text, Option.toList_some, List.flatMap_singleton,
    parts.charBeforeBehind?_text, parts.charAfter?_text]

end RunParts

end JapaneseSpacing
