import JapaneseSpacing.Proofs.HalfWidth.Span
import JapaneseSpacing.Proofs.HalfWidth.Token
import Mathlib.Data.List.Forall2

/-!
# What the extractor finds

The cores of a text, told by the places of the text alone: one core for each maximal
run with a letter or digit, in order, from the first such place of the run to the last
one. `halfWidthCores_exact` is the whole account.
-/

namespace JapaneseSpacing

/-- A core is that of a run of a text. -/
def IsCoreOf (text : Text) (run : Nat × Nat) (core : HalfWidthCore) : Prop :=
  ∃ span : CoreSpan, span.Of text run.1 run.2 ∧ core = span.core text

/-- The cores of all runs from `offset` on, one for each. -/
def Extracts (text : Text) (offset : Nat) (cores : List HalfWidthCore) : Prop :=
  ∃ runs, RunsFrom text offset runs ∧ List.Forall₂ (IsCoreOf text) runs cores

section Rows

variable {front run rest : Text} {later : List HalfWidthCore}

/-- The core of a run comes in front of those of the runs behind it. -/
theorem extracts_run (inside : IsRun run)
    (frontStops : ∀ char ∈ front.getLast?, isRunChar char = false)
    (restStops : ∀ char ∈ rest.head?, isRunChar char = false)
    (behind : Extracts (front ++ run ++ rest) (front.length + run.length) later) :
    Extracts (front ++ run ++ rest) front.length
      ((HalfWidthCore.ofRun? front.length run).toList ++ later) := by
  obtain ⟨runs, runsBehind, paired⟩ := behind
  cases empty : run with
  | nil =>
    subst empty
    exact ⟨runs, runsBehind, paired⟩
  | cons first tail =>
    rw [← empty]
    have maximal := isMaximalRun_segment (by simp [empty]) inside frontStops restStops
    by_cases alphanumeric : ∃ char ∈ run, isAsciiAlphanumeric char = true
    · obtain ⟨parts, rfl⟩ := RunParts.exists_of_run inside alphanumeric
      have ofParts := parts.spanAt_of frontStops restStops
      rw [parts.ofRun?_text]
      exact ⟨_, runsBehind.cons maximal ofParts.hasAlphanumeric,
        List.Forall₂.cons ⟨_, ofParts, parts.spanAt_core.symm⟩ paired⟩
    · have bare : ∀ char ∈ run, isAsciiAlphanumeric char = false := by simpa using alphanumeric
      have noneHas : ¬ HasAlphanumeric (front ++ run ++ rest) front.length
          (front.length + run.length) := by
        rintro ⟨place, lower, upper, has⟩
        exact Text.not_has_stretch bare lower upper has
      rw [HalfWidthCore.ofRun?_bare _ bare]
      exact ⟨runs, runsBehind.skip maximal noneHas, paired⟩

/-- The cores from the end of a front are those of the runs from there on. -/
theorem extracts_coresFrom (front text : Text)
    (frontStops : ∀ char ∈ front.getLast?, isRunChar char = false) :
    Extracts (front ++ text) front.length (coresFrom front.length text) := by
  induction text using Text.runInduction generalizing front with
  | run run inside =>
    have atEnd : Extracts (front ++ run ++ []) (front.length + run.length) [] := by
      refine ⟨[], ?_, List.Forall₂.nil⟩
      have nothing := @RunsFrom.nil (front ++ run ++ [])
      simpa using nothing
    have whole := extracts_run inside frontStops (by simp) atEnd
    rw [coresFrom_run inside]
    simpa using whole
  | cut run outside rest inside notInside inductionHypothesis =>
    have behind := inductionHypothesis (front ++ run ++ [outside]) (by simpa using notInside)
    have split : front ++ run ++ [outside] ++ rest = front ++ run ++ outside :: rest := by simp
    have length : (front ++ run ++ [outside]).length = front.length + run.length + 1 := by
      simp [Nat.add_assoc]
    rw [split, length] at behind
    obtain ⟨runs, runsBehind, paired⟩ := behind
    have notHas : ¬ (front ++ run ++ outside :: rest).Has isRunChar
        (front.length + run.length) := by
      rw [← List.length_append]
      exact Text.not_has_head (by simpa using notInside)
    have whole := extracts_run inside frontStops (by simpa using notInside)
      ⟨runs, runsBehind.outside notHas, paired⟩
    rw [coresFrom_cut inside notInside, ← List.append_assoc, ← Nat.add_assoc]
    exact whole

end Rows

theorem extracts_halfWidthCores (text : Text) : Extracts text 0 (halfWidthCores text) :=
  extracts_coresFrom [] text (by simp)

section Consequences

variable {text : Text}

variable {cores : List HalfWidthCore}

/-- Every letter or digit lies in a core. -/
theorem Extracts.exists_core (extracts : Extracts text 0 cores) {place : Nat}
    (has : text.Has isAsciiAlphanumeric place) :
    ∃ core ∈ cores, core.start ≤ place ∧ place < core.stop := by
  obtain ⟨runs, all, paired⟩ := extracts
  obtain ⟨first, last, maximal, lower, upper⟩ :=
    exists_maximalRun (has.mono fun _ => isRunChar_of_isAsciiAlphanumeric)
  have member := (all.complete (first, last)).2
    ⟨Nat.zero_le _, maximal, place, lower, upper, has⟩
  obtain ⟨index, within, found⟩ := List.getElem_of_mem member
  have withinCores : index < cores.length := by rw [← paired.length_eq]; exact within
  obtain ⟨span, ofRun, isCore⟩ := paired.get within withinCores
  simp only [List.get_eq_getElem, found] at ofRun isCore
  refine ⟨cores[index], List.getElem_mem withinCores, ?_⟩
  rw [isCore]
  -- Before and behind the core of its run no place has a letter or digit.
  have notBefore : ¬ place < span.start := fun before =>
    ofRun.before_bare place lower before has
  have notBehind : ¬ span.stop ≤ place := fun behind =>
    ofRun.behind_bare place behind upper has
  simp only [CoreSpan.core]
  omega

/-- Somewhere between two cores stands a character outside every run. -/
def HasGap (text : Text) (left right : HalfWidthCore) : Prop :=
  ∃ place : Nat, left.outerStop ≤ place ∧ place < right.outerStart
    ∧ ∃ char, text[place]? = some char ∧ isRunChar char = false

theorem Extracts.gaps (extracts : Extracts text 0 cores) : cores.Pairwise (HasGap text) := by
  obtain ⟨runs, all, paired⟩ := extracts
  have ordered := all.ordered
  rw [List.pairwise_iff_getElem] at ordered ⊢
  intro left right leftWithin rightWithin before
  have length := paired.length_eq
  have leftRun : left < runs.length := by omega
  have rightRun : right < runs.length := by omega
  obtain ⟨leftSpan, leftOf, leftCore⟩ := paired.get leftRun leftWithin
  obtain ⟨rightSpan, rightOf, rightCore⟩ := paired.get rightRun rightWithin
  simp only [List.get_eq_getElem] at leftOf leftCore rightOf rightCore
  obtain ⟨_, leftMaximal, _⟩ := (all.complete _).1 (List.getElem_mem leftRun)
  obtain ⟨_, rightMaximal, _⟩ := (all.complete _).1 (List.getElem_mem rightRun)
  have apart := ordered left right leftRun rightRun before
  have leftBetween := leftOf.between leftMaximal
  have rightBetween := rightOf.between rightMaximal
  rw [← leftCore] at leftBetween
  rw [← rightCore] at rightBetween
  have within : runs[left].2 < text.length := Nat.lt_trans apart
    (rightMaximal.inside _ (Nat.le_refl _) rightMaximal.nonempty).lt_length
  have found : text[runs[left].2]? = some text[runs[left].2] := List.getElem?_eq_getElem within
  refine ⟨runs[left].2, leftBetween.outerStop_le, ?_, text[runs[left].2], found, ?_⟩
  · have first := rightBetween.first_le
    omega
  · rw [← Bool.not_eq_true]
    exact fun accepted => leftMaximal.behind ⟨_, found, accepted⟩

/-- Two cores with the same place between their ends are one. -/
theorem Extracts.core_unique (extracts : Extracts text 0 cores)
    (between : ∀ core ∈ cores, core.Between 0 text.length) {left right : HalfWidthCore}
    (leftMember : left ∈ cores) (rightMember : right ∈ cores) {place : Nat}
    (inLeft : left.start ≤ place ∧ place < left.stop)
    (inRight : right.start ≤ place ∧ place < right.stop) : left = right := by
  have gaps := extracts.gaps
  rw [List.pairwise_iff_getElem] at gaps
  obtain ⟨leftIndex, leftWithin, rfl⟩ := List.getElem_of_mem leftMember
  obtain ⟨rightIndex, rightWithin, rfl⟩ := List.getElem_of_mem rightMember
  have leftBetween := between _ leftMember
  have rightBetween := between _ rightMember
  have leftStart := leftBetween.outerStart_le
  have leftStop := leftBetween.stop_le
  have rightStart := rightBetween.outerStart_le
  have rightStop := rightBetween.stop_le
  rcases Nat.lt_trichotomy leftIndex rightIndex with before | same | behind
  · obtain ⟨gap, lower, upper, _⟩ := gaps leftIndex rightIndex leftWithin rightWithin before
    omega
  · simp only [same]
  · obtain ⟨gap, lower, upper, _⟩ := gaps rightIndex leftIndex rightWithin leftWithin behind
    omega

end Consequences

/-- The extractor is exact. It gives one core for each maximal run with a letter or digit,
in order; the core reaches from the first letter or digit of the run to the last one, and
its outer span takes in the blanks beside it. So each letter or digit lies in exactly one
core, and a character outside every run stands between two cores. A search for tokens from
left to right finds the same. -/
theorem halfWidthCores_exact (text : Text) :
    (∃ runs : List (Nat × Nat),
      runs.Pairwise (fun left right => left.2 < right.1)
      ∧ (∀ run, run ∈ runs
        ↔ IsMaximalRun text run.1 run.2 ∧ HasAlphanumeric text run.1 run.2)
      ∧ List.Forall₂ (IsCoreOf text) runs (halfWidthCores text))
    ∧ (∀ place, text.Has isAsciiAlphanumeric place →
      ∃! core, core ∈ halfWidthCores text ∧ core.start ≤ place ∧ place < core.stop)
    ∧ (∀ core ∈ halfWidthCores text, core.Between 0 text.length)
    ∧ (halfWidthCores text).Pairwise (HasGap text)
    ∧ coresOfTokens 0 text = halfWidthCores text := by
  have extracts := extracts_halfWidthCores text
  have between : ∀ core ∈ halfWidthCores text, core.Between 0 text.length :=
    fun core member => halfWidthCores_between member
  refine ⟨?_, ?_, between, extracts.gaps, coresOfTokens_eq 0 text⟩
  · obtain ⟨runs, all, paired⟩ := extracts
    refine ⟨runs, all.ordered, fun run => ?_, paired⟩
    rw [all.complete run]
    simp
  · intro place has
    obtain ⟨core, member, inside⟩ := extracts.exists_core has
    refine ⟨core, ⟨member, inside⟩, ?_⟩
    rintro other ⟨otherMember, inOther⟩
    exact extracts.core_unique between otherMember member inOther inside

/-- The letter behind an ideographic space lies in one core. -/
theorem halfWidthCores_exact_letter :
    Text.Has "あ.　b\n-c、".toList isAsciiAlphanumeric 3
    ∧ ∃! core, core ∈ halfWidthCores "あ.　b\n-c、".toList ∧ core.start ≤ 3 ∧ 3 < core.stop := by
  have has : Text.Has "あ.　b\n-c、".toList isAsciiAlphanumeric 3 := ⟨'b', by decide, by decide⟩
  exact ⟨has, (halfWidthCores_exact "あ.　b\n-c、".toList).2.1 3 has⟩

end JapaneseSpacing
