import JapaneseSpacing.Proofs.HalfWidth.Run

/-!
# The parts of a run

A run with a letter or digit falls into five parts: what stands in front of the
blanks before its core, those blanks, the core, the blanks behind it, and the rest.
`RunParts` carries the conditions that make the five unique, and
`RunParts.ofRun?_text` says that they are what the extractor finds.
-/

namespace JapaneseSpacing

/-- A half-width run taken apart around its core. -/
structure RunParts where
  lead : Text
  blanksBefore : Text
  core : Text
  blanksAfter : Text
  tail : Text
  lead_run : IsRun lead
  lead_bare : ∀ char ∈ lead, isAsciiAlphanumeric char = false
  lead_closes : ∀ char ∈ lead.getLast?, isBlank char = false
  blanksBefore_blank : ∀ char ∈ blanksBefore, isBlank char = true
  core_run : IsRun core
  core_opens : ∃ char ∈ core.head?, isAsciiAlphanumeric char = true
  core_closes : ∃ char ∈ core.getLast?, isAsciiAlphanumeric char = true
  blanksAfter_blank : ∀ char ∈ blanksAfter, isBlank char = true
  tail_run : IsRun tail
  tail_bare : ∀ char ∈ tail, isAsciiAlphanumeric char = false
  tail_opens : ∀ char ∈ tail.head?, isBlank char = false

namespace RunParts

/-- The run that the parts make up. -/
def text (parts : RunParts) : Text :=
  parts.lead ++ parts.blanksBefore ++ parts.core ++ parts.blanksAfter ++ parts.tail

/-- The core of a run that begins at `offset`. -/
def coreAt (parts : RunParts) (offset : Nat) : HalfWidthCore where
  text := parts.core
  start := offset + parts.lead.length + parts.blanksBefore.length
  stop := offset + parts.lead.length + parts.blanksBefore.length + parts.core.length
  outerStart := offset + parts.lead.length
  outerStop := offset + parts.lead.length + parts.blanksBefore.length + parts.core.length
    + parts.blanksAfter.length
  isPhrase := isPhraseText parts.core
  hasBlankBefore := 0 < parts.blanksBefore.length
  hasBlankAfter := 0 < parts.blanksAfter.length

theorem core_ne_nil (parts : RunParts) : parts.core ≠ [] := by
  obtain ⟨char, member, _⟩ := parts.core_opens
  exact List.ne_nil_of_mem (List.mem_of_mem_head? member)

theorem text_run (parts : RunParts) : IsRun parts.text := by
  have before : IsRun parts.blanksBefore := fun char member =>
    isRunChar_of_isBlank (parts.blanksBefore_blank char member)
  have after : IsRun parts.blanksAfter := fun char member =>
    isRunChar_of_isBlank (parts.blanksAfter_blank char member)
  exact (((parts.lead_run.append before).append parts.core_run).append after).append parts.tail_run

/-- A blank is no letter or digit. -/
theorem blanks_bare {blanks : Text} (blank : ∀ char ∈ blanks, isBlank char = true) :
    ∀ char ∈ blanks, isAsciiAlphanumeric char = false := by
  intro char member
  cases alphanumeric : isAsciiAlphanumeric char with
  | false => rfl
  | true =>
    have notBlank := isBlank_eq_false_of_isAsciiAlphanumeric alphanumeric
    rw [blank char member] at notBlank
    exact notBlank

theorem front_bare (parts : RunParts) :
    ∀ char ∈ parts.lead ++ parts.blanksBefore, isAsciiAlphanumeric char = false := by
  intro char member
  rcases List.mem_append.1 member with inLead | inBlanks
  · exact parts.lead_bare char inLead
  · exact blanks_bare parts.blanksBefore_blank char inBlanks

theorem back_run (parts : RunParts) : IsRun (parts.blanksAfter ++ parts.tail) :=
  IsRun.append (fun char member => isRunChar_of_isBlank (parts.blanksAfter_blank char member))
    parts.tail_run

theorem back_bare (parts : RunParts) :
    ∀ char ∈ parts.blanksAfter ++ parts.tail, isAsciiAlphanumeric char = false := by
  intro char member
  rcases List.mem_append.1 member with inBlanks | inTail
  · exact blanks_bare parts.blanksAfter_blank char inBlanks
  · exact parts.tail_bare char inTail

theorem length_text (parts : RunParts) : parts.text.length = parts.lead.length
    + parts.blanksBefore.length + parts.core.length + parts.blanksAfter.length
    + parts.tail.length := by
  simp [text, Nat.add_assoc]

theorem lead_stops_blanks (parts : RunParts) {front : Text}
    (frontStops : ∀ char ∈ front.getLast?, isRunChar char = false) :
    ∀ char ∈ (front ++ parts.lead).getLast?, isBlank char = false := by
  intro char member
  rw [List.getLast?_append] at member
  cases isLast : parts.lead.getLast? with
  | none =>
    rw [isLast, Option.none_or] at member
    exact isBlank_eq_false_of_not_isRunChar (frontStops char member)
  | some last =>
    rw [isLast, Option.some_or] at member
    exact parts.lead_closes char (by rw [isLast]; exact member)

theorem tail_stops_blanks (parts : RunParts) {rest : Text}
    (stops : ∀ char ∈ rest.head?, isRunChar char = false) :
    ∀ char ∈ (parts.tail ++ rest).head?, isBlank char = false := by
  intro char member
  cases tail : parts.tail with
  | nil =>
    rw [tail, List.nil_append] at member
    exact isBlank_eq_false_of_not_isRunChar (stops char member)
  | cons first behind =>
    rw [tail, List.cons_append, List.head?_cons] at member
    exact parts.tail_opens char (by rw [tail]; exact member)

theorem core_stops_blanks (parts : RunParts) {rest : Text} :
    ∀ char ∈ (parts.core ++ rest).head?, isBlank char = false := by
  intro char member
  obtain ⟨first, isFirst, opens⟩ := parts.core_opens
  rw [Option.mem_def] at isFirst
  rw [List.head?_append, isFirst, Option.some_or, Option.mem_some_iff] at member
  rw [← member]
  exact isBlank_eq_false_of_isAsciiAlphanumeric opens

/-- The extractor takes a run apart in exactly this way. -/
theorem ofRun?_text (parts : RunParts) (offset : Nat) :
    HalfWidthCore.ofRun? offset parts.text = some (parts.coreAt offset) := by
  obtain ⟨opens, opensAt, opensWith⟩ := parts.core_opens
  obtain ⟨closes, closesAt, closesWith⟩ := parts.core_closes
  rw [Option.mem_def] at opensAt closesAt
  have front : parts.text.takeWhile (fun char => !isAsciiAlphanumeric char)
      = parts.lead ++ parts.blanksBefore := by
    rw [text, List.append_assoc, List.append_assoc]
    apply Text.takeWhile_stretch
    · intro char member
      simp [parts.front_bare char member]
    · intro char member
      rw [List.head?_append, opensAt, Option.some_or, Option.mem_some_iff] at member
      simp [← member, opensWith]
  have back : parts.text.reverse.takeWhile (fun char => !isAsciiAlphanumeric char)
      = (parts.blanksAfter ++ parts.tail).reverse := by
    rw [text, List.append_assoc, List.reverse_append]
    apply Text.takeWhile_stretch
    · intro char member
      simp [parts.back_bare char (List.mem_reverse.1 member)]
    · intro char member
      rw [List.head?_reverse, List.getLast?_append, closesAt, Option.some_or,
        Option.mem_some_iff] at member
      simp [← member, closesWith]
  have before : (parts.lead ++ parts.blanksBefore).reverse.takeWhile isBlank
      = parts.blanksBefore.reverse := by
    rw [List.reverse_append]
    apply Text.takeWhile_stretch
    · simpa using parts.blanksBefore_blank
    · simpa using parts.lead_closes
  have after : (parts.blanksAfter ++ parts.tail).takeWhile isBlank = parts.blanksAfter :=
    Text.takeWhile_stretch parts.blanksAfter_blank parts.tail_opens
  have coreLength : 0 < parts.core.length := List.length_pos_of_ne_nil parts.core_ne_nil
  have middle : (parts.text.drop (parts.lead ++ parts.blanksBefore).length).take
      parts.core.length = parts.core := by
    rw [text, List.append_assoc, List.append_assoc, List.drop_left, List.take_left]
  simp only [HalfWidthCore.ofRun?, front, back, List.reverse_reverse, before, after,
    List.length_reverse]
  rw [if_neg (by rw [length_text, List.length_append]; omega)]
  rw [show parts.text.length - (parts.lead ++ parts.blanksBefore).length
      - (parts.blanksAfter ++ parts.tail).length = parts.core.length by
    rw [length_text, List.length_append, List.length_append]; omega]
  rw [middle]
  simp only [coreAt, length_text, List.length_append, Option.some.injEq, HalfWidthCore.mk.injEq,
    true_and, and_true]
  omega

/-- Every run with a letter or digit has such parts. -/
theorem exists_of_run {run : Text} (inside : IsRun run)
    (alphanumeric : ∃ char ∈ run, isAsciiAlphanumeric char = true) :
    ∃ parts : RunParts, parts.text = run := by
  obtain ⟨front, rest, rfl, frontBare, restOpens⟩ :=
    Text.exists_stretch (fun char => !isAsciiAlphanumeric char) run
  obtain ⟨core, back, rfl, backBare, coreCloses⟩ :=
    Text.exists_final_stretch (fun char => !isAsciiAlphanumeric char) rest
  obtain ⟨lead, blanksBefore, rfl, beforeBlank, leadCloses⟩ :=
    Text.exists_final_stretch isBlank front
  obtain ⟨blanksAfter, tail, rfl, afterBlank, tailOpens⟩ := Text.exists_stretch isBlank back
  simp only [Bool.not_eq_true', Bool.not_eq_false'] at frontBare restOpens backBare coreCloses
  -- The letter or digit that the run has can only stand in the core.
  have coreFull : core ≠ [] := by
    rintro rfl
    obtain ⟨char, member, isOne⟩ := alphanumeric
    have bare : isAsciiAlphanumeric char = false := by
      rcases List.mem_append.1 member with inFront | inBack
      · exact frontBare char inFront
      · exact backBare char inBack
    rw [bare] at isOne
    exact Bool.false_ne_true isOne
  exact ⟨{
    lead, blanksBefore, core, blanksAfter, tail
    lead_run := fun char member => inside char (by simp [member])
    lead_bare := fun char member => frontBare char (by simp [member])
    lead_closes := leadCloses
    blanksBefore_blank := beforeBlank
    core_run := fun char member => inside char (by simp [member])
    core_opens := ⟨core.head coreFull, List.head?_eq_some_head coreFull,
      restOpens _ (by simp [List.head?_append, List.head?_eq_some_head coreFull])⟩
    core_closes := ⟨core.getLast coreFull, List.getLast?_eq_some_getLast coreFull,
      coreCloses _ (List.getLast?_eq_some_getLast coreFull)⟩
    blanksAfter_blank := afterBlank
    tail_run := fun char member => inside char (by simp [member])
    tail_bare := fun char member => backBare char (by simp [member])
    tail_opens := tailOpens }, by simp [text]⟩

end RunParts

/-- A run without a letter or digit has no core. -/
theorem HalfWidthCore.ofRun?_bare {run : Text} (offset : Nat)
    (bare : ∀ char ∈ run, isAsciiAlphanumeric char = false) :
    HalfWidthCore.ofRun? offset run = none := by
  have all : run.takeWhile (fun char => !isAsciiAlphanumeric char) = run :=
    List.takeWhile_eq_self_iff.2 (by simpa using bare)
  simp [HalfWidthCore.ofRun?, all]

/-- What the extractor finds in a run comes from the parts of that run. -/
theorem HalfWidthCore.exists_parts {run : Text} {offset : Nat} {core : HalfWidthCore}
    (inside : IsRun run) (found : HalfWidthCore.ofRun? offset run = some core) :
    ∃ parts : RunParts, parts.text = run ∧ core = parts.coreAt offset := by
  by_cases alphanumeric : ∃ char ∈ run, isAsciiAlphanumeric char = true
  · obtain ⟨parts, rfl⟩ := RunParts.exists_of_run inside alphanumeric
    rw [parts.ofRun?_text, Option.some.injEq] at found
    exact ⟨parts, rfl, found.symm⟩
  · rw [HalfWidthCore.ofRun?_bare offset (by simpa using alphanumeric)] at found
    contradiction

/-- The offsets of a core lie in order between two places of its text. -/
structure HalfWidthCore.Between (core : HalfWidthCore) (first last : Int) : Prop where
  first_le : first ≤ core.outerStart
  outerStart_le : core.outerStart ≤ core.start
  start_lt : core.start < core.stop
  stop_le : core.stop ≤ core.outerStop
  outerStop_le : core.outerStop ≤ last

theorem RunParts.coreAt_between (parts : RunParts) (offset : Nat) :
    (parts.coreAt offset).Between offset (offset + parts.text.length) := by
  have coreLength : 0 < parts.core.length := List.length_pos_of_ne_nil parts.core_ne_nil
  constructor <;> simp only [RunParts.coreAt, RunParts.length_text] <;> omega

/-- The cores of a text lie inside it. -/
theorem halfWidthCores_between {text : Text} {core : HalfWidthCore}
    (member : core ∈ halfWidthCores text) : core.Between 0 text.length := by
  induction text using Text.runInduction generalizing core with
  | run run inside =>
    rw [halfWidthCores_run inside, Option.mem_toList] at member
    obtain ⟨parts, rfl, rfl⟩ := HalfWidthCore.exists_parts inside member
    simpa using parts.coreAt_between 0
  | cut run outside rest inside notInside inductionHypothesis =>
    rw [halfWidthCores_cut inside notInside, List.mem_append, Option.mem_toList,
      List.mem_map] at member
    rcases member with inRun | ⟨later, inRest, rfl⟩
    · obtain ⟨parts, rfl, rfl⟩ := HalfWidthCore.exists_parts inside inRun
      have between := parts.coreAt_between 0
      exact { between with
        outerStop_le := by
          have last := between.outerStop_le
          simp only [List.length_append]
          omega }
    · obtain ⟨first, outerStart, start, stop, last⟩ := inductionHypothesis inRest
      constructor <;>
        simp only [HalfWidthCore.shift, List.length_append, List.length_cons] <;> omega

theorem RunParts.length_core_le (parts : RunParts) : parts.core.length ≤ parts.text.length := by
  rw [RunParts.length_text]
  omega

/-- No core reaches over a character outside every run. -/
theorem halfWidthCores_length_cut {run rest : Text} {outside : Char} {core : HalfWidthCore}
    (inside : IsRun run) (notInside : isRunChar outside = false)
    (restCores : ∀ core ∈ halfWidthCores rest, core.text.length ≤ rest.length)
    (member : core ∈ halfWidthCores (run ++ outside :: rest)) :
    core.text.length < (run ++ outside :: rest).length := by
  rw [halfWidthCores_cut inside notInside, List.mem_append, Option.mem_toList,
    List.mem_map] at member
  rw [List.length_append, List.length_cons]
  rcases member with inRun | ⟨later, inRest, rfl⟩
  · obtain ⟨parts, rfl, rfl⟩ := HalfWidthCore.exists_parts inside inRun
    have within := parts.length_core_le
    simp only [RunParts.coreAt]
    omega
  · have within := restCores later inRest
    simp only [HalfWidthCore.shift]
    omega

theorem halfWidthCores_length_le (text : Text) :
    ∀ core ∈ halfWidthCores text, core.text.length ≤ text.length := by
  induction text using Text.runInduction with
  | run run inside =>
    intro core member
    rw [halfWidthCores_run inside, Option.mem_toList] at member
    obtain ⟨parts, rfl, rfl⟩ := HalfWidthCore.exists_parts inside member
    exact parts.length_core_le
  | cut run outside rest inside notInside inductionHypothesis =>
    intro core member
    exact Nat.le_of_lt (halfWidthCores_length_cut inside notInside inductionHypothesis member)

/-- Beside a core that is the whole run there is nothing. -/
theorem RunParts.alone (parts : RunParts) (isCore : parts.core = parts.text) :
    parts.lead = [] ∧ parts.blanksBefore = [] ∧ parts.blanksAfter = [] ∧ parts.tail = [] := by
  have lengths := congrArg List.length isCore
  rw [RunParts.length_text] at lengths
  refine ⟨?_, ?_, ?_, ?_⟩ <;> exact List.eq_nil_of_length_eq_zero (by omega)

/-- A text that is all one core is a run of nothing but that core. -/
theorem RunParts.exists_of_whole {text : Text}
    (whole : (halfWidthCores text).map (·.text) = [text]) :
    ∃ parts : RunParts, parts.text = text ∧ parts.core = text := by
  obtain ⟨core, single, isCore⟩ := List.map_eq_singleton_iff.1 whole
  have member : core ∈ halfWidthCores text := by simp [single]
  cases text using Text.runInduction with
  | run run inside =>
    rw [halfWidthCores_run inside, Option.mem_toList] at member
    obtain ⟨parts, rfl, rfl⟩ := HalfWidthCore.exists_parts inside member
    exact ⟨parts, rfl, isCore⟩
  | cut run outside rest inside notInside _ =>
    have shorter :=
      halfWidthCores_length_cut inside notInside (halfWidthCores_length_le rest) member
    rw [isCore] at shorter
    exact absurd shorter (Nat.lt_irrefl _)

end JapaneseSpacing
