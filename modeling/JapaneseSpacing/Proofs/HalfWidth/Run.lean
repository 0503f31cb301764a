import JapaneseSpacing.HalfWidth.Core
import JapaneseSpacing.Proofs.Text.Stretch

/-!
# Texts as rows of runs

A text is a row of half-width runs, any of them possibly empty, with one
character outside every run between two neighbours. `Text.runInduction` follows
that row, and `halfWidthCores_cut` says that the cores of a text are found run by run.
-/

namespace JapaneseSpacing

/-- A stretch of run characters, possibly empty and not necessarily maximal. -/
def IsRun (stretch : Text) : Prop :=
  ∀ char ∈ stretch, isRunChar char = true

theorem IsRun.append {first second : Text} (left : IsRun first) (right : IsRun second) :
    IsRun (first ++ second) := by
  intro char member
  rcases List.mem_append.1 member with inFirst | inSecond
  · exact left char inFirst
  · exact right char inSecond

theorem isRunChar_of_isBlank {char : Char} (blank : isBlank char = true) :
    isRunChar char = true := by
  simp [isRunChar, blank]

theorem isRunChar_of_isAsciiAlphanumeric {char : Char}
    (alphanumeric : isAsciiAlphanumeric char = true) : isRunChar char = true := by
  simp [isRunChar, alphanumeric]

/-- Blanks and alphanumerics are disjoint classes. -/
theorem isBlank_eq_false_of_isAsciiAlphanumeric {char : Char}
    (alphanumeric : isAsciiAlphanumeric char = true) : isBlank char = false := by
  rw [isAsciiAlphanumeric_iff] at alphanumeric
  simp only [isBlank, Bool.or_eq_false_iff, Bool.and_eq_false_iff, decide_eq_false_iff_not,
    beq_eq_false_iff_ne]
  omega

theorem isBlank_eq_false_of_not_isRunChar {char : Char} (outside : isRunChar char = false) :
    isBlank char = false := by
  simp only [isRunChar, Bool.or_eq_false_iff] at outside
  exact outside.1.2

theorem isAsciiAlphanumeric_eq_false_of_not_isRunChar {char : Char}
    (outside : isRunChar char = false) : isAsciiAlphanumeric char = false := by
  simp only [isRunChar, Bool.or_eq_false_iff] at outside
  exact outside.1.1

/-- Every text is a run, or a run with an outside character behind it and a text
behind that. -/
@[elab_as_elim]
theorem Text.runInduction {motive : Text → Prop} (text : Text)
    (run : ∀ run, IsRun run → motive run)
    (cut : ∀ run outside rest, IsRun run → isRunChar outside = false → motive rest →
      motive (run ++ outside :: rest)) : motive text := by
  induction length : text.length using Nat.strongRecOn generalizing text with
  | ind length inductionHypothesis =>
    obtain ⟨stretch, behind, rfl, inside, stops⟩ := Text.exists_stretch isRunChar text
    cases behind with
    | nil => simpa using run stretch inside
    | cons outside rest =>
      refine cut stretch outside rest inside (stops outside rfl)
        (inductionHypothesis rest.length ?_ rest rfl)
      simp only [List.length_append, List.length_cons] at length
      omega

/-- The same core in a text that begins `distance` characters earlier. -/
def HalfWidthCore.shift (core : HalfWidthCore) (distance : Int) : HalfWidthCore :=
  { core with
    start := distance + core.start
    stop := distance + core.stop
    outerStart := distance + core.outerStart
    outerStop := distance + core.outerStop }

@[simp]
theorem HalfWidthCore.shift_shift (core : HalfWidthCore) (first second : Int) :
    (core.shift first).shift second = core.shift (second + first) := by
  simp [HalfWidthCore.shift, Int.add_assoc]

theorem HalfWidthCore.ofRun?_shift (offset : Nat) (run : Text) :
    HalfWidthCore.ofRun? offset run = (HalfWidthCore.ofRun? 0 run).map (·.shift offset) := by
  have tailWithin := (run.reverse.takeWhile_prefix fun char =>
    !isAsciiAlphanumeric char).length_le
  rw [List.length_reverse] at tailWithin
  simp only [HalfWidthCore.ofRun?, List.length_reverse]
  split
  · rfl
  · simp only [Option.map_some, HalfWidthCore.shift, Option.some.injEq, HalfWidthCore.mk.injEq,
      true_and, and_true]
    omega

@[simp]
theorem HalfWidthCore.ofRun?_nil (offset : Nat) : HalfWidthCore.ofRun? offset [] = none := rfl

/-- The cores of a text that begins at `offset`. -/
def coresFrom (offset : Nat) (text : Text) : List HalfWidthCore :=
  (halfWidthRuns offset text).filterMap fun run => HalfWidthCore.ofRun? run.1 run.2

theorem halfWidthRuns_cons {offset : Nat} {first : Char} {tail rest : Text}
    (inside : IsRun (first :: tail)) (ends : ∀ char ∈ rest.head?, isRunChar char = false) :
    halfWidthRuns offset (first :: tail ++ rest)
      = (offset, first :: tail) :: halfWidthRuns (offset + (first :: tail).length) rest := by
  have tailInside : ∀ char ∈ tail, isRunChar char = true := fun char member =>
    inside char (List.mem_cons_of_mem _ member)
  have taken : (tail ++ rest).takeWhile isRunChar = tail :=
    Text.takeWhile_stretch tailInside ends
  have firstInside : isRunChar first = true := inside first List.mem_cons_self
  rw [List.cons_append, halfWidthRuns, if_pos firstInside]
  simp only [taken, List.drop_left, List.length_cons]
  rw [show offset + 1 + tail.length = offset + (tail.length + 1) by omega]

theorem halfWidthRuns_outside {offset : Nat} {outside : Char} {rest : Text}
    (notInside : isRunChar outside = false) :
    halfWidthRuns offset (outside :: rest) = halfWidthRuns (offset + 1) rest := by
  rw [halfWidthRuns, if_neg (by simp [notInside])]

theorem coresFrom_run {offset : Nat} {run : Text} (inside : IsRun run) :
    coresFrom offset run = (HalfWidthCore.ofRun? offset run).toList := by
  cases run with
  | nil => simp [coresFrom, halfWidthRuns]
  | cons first tail =>
    have alone := @halfWidthRuns_cons offset first tail [] inside (by simp)
    rw [List.append_nil] at alone
    rw [coresFrom, alone]
    cases found : HalfWidthCore.ofRun? offset (first :: tail) <;> simp [halfWidthRuns, found]

theorem coresFrom_cut {offset : Nat} {run rest : Text} {outside : Char}
    (inside : IsRun run) (notInside : isRunChar outside = false) :
    coresFrom offset (run ++ outside :: rest)
      = (HalfWidthCore.ofRun? offset run).toList ++ coresFrom (offset + (run.length + 1)) rest := by
  cases run with
  | nil =>
    simp only [List.nil_append, coresFrom, halfWidthRuns_outside notInside]
    simp
  | cons first tail =>
    rw [coresFrom, halfWidthRuns_cons inside (by simp [notInside]), halfWidthRuns_outside notInside]
    rw [show offset + (first :: tail).length + 1 = offset + ((first :: tail).length + 1) by omega]
    cases found : HalfWidthCore.ofRun? offset (first :: tail) <;> simp [coresFrom, found]

/-- Searching a text that begins later finds the same cores further on. -/
theorem coresFrom_shift (offset distance : Nat) (text : Text) :
    coresFrom (distance + offset) text = (coresFrom offset text).map (·.shift distance) := by
  induction text using Text.runInduction generalizing offset with
  | run run inside =>
    rw [coresFrom_run inside, coresFrom_run inside, HalfWidthCore.ofRun?_shift,
      HalfWidthCore.ofRun?_shift offset]
    cases HalfWidthCore.ofRun? 0 run <;> simp [HalfWidthCore.shift_shift]
  | cut run outside rest inside notInside inductionHypothesis =>
    rw [coresFrom_cut inside notInside, coresFrom_cut inside notInside, Nat.add_assoc,
      inductionHypothesis, HalfWidthCore.ofRun?_shift, HalfWidthCore.ofRun?_shift offset]
    cases HalfWidthCore.ofRun? 0 run <;> simp [HalfWidthCore.shift_shift]

/-- A text that is one run has at most one core. -/
theorem halfWidthCores_run {run : Text} (inside : IsRun run) :
    halfWidthCores run = (HalfWidthCore.ofRun? 0 run).toList :=
  coresFrom_run inside

/-- The cores of a text are that of its first run and those of the text behind it. -/
theorem halfWidthCores_cut {run rest : Text} {outside : Char} (inside : IsRun run)
    (notInside : isRunChar outside = false) :
    halfWidthCores (run ++ outside :: rest) = (HalfWidthCore.ofRun? 0 run).toList
      ++ (halfWidthCores rest).map (·.shift (run.length + 1 : Nat)) := by
  have cut := @coresFrom_cut 0 run rest outside inside notInside
  rwa [Nat.zero_add, ← Nat.add_zero (run.length + 1), coresFrom_shift] at cut

end JapaneseSpacing
