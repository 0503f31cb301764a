import JapaneseSpacing.Proofs.HalfWidth.Run
import JapaneseSpacing.Proofs.Text.Place

/-!
# Maximal runs

The maximal runs of a text, told by its places alone. Two of them never touch, so
`RunsFrom` lists those with a letter or digit in order, and the lemmas about it follow a
text from run to run.
-/

namespace JapaneseSpacing

/-- The places from `first` up to `last` are a run that cannot be made longer. -/
structure IsMaximalRun (text : Text) (first last : Nat) : Prop where
  nonempty : first < last
  inside : ∀ place, first ≤ place → place < last → text.Has isRunChar place
  before : ∀ place, place + 1 = first → ¬ text.Has isRunChar place
  behind : ¬ text.Has isRunChar last

/-- Some place from `first` up to `last` has a letter or digit. -/
def HasAlphanumeric (text : Text) (first last : Nat) : Prop :=
  ∃ place, first ≤ place ∧ place < last ∧ text.Has isAsciiAlphanumeric place

section MaximalRuns

variable {text : Text} {first last otherFirst otherLast : Nat}

/-- Where a maximal run begins decides where it ends. -/
theorem IsMaximalRun.last_eq (one : IsMaximalRun text first last)
    (other : IsMaximalRun text first otherLast) : last = otherLast := by
  rcases Nat.lt_trichotomy last otherLast with shorter | same | longer
  · exact absurd (other.inside last (Nat.le_of_lt one.nonempty) shorter) one.behind
  · exact same
  · exact absurd (one.inside otherLast (Nat.le_of_lt other.nonempty) longer) other.behind

/-- A maximal run that begins behind the start of another one begins behind its end. -/
theorem IsMaximalRun.lt_of_lt (one : IsMaximalRun text first last)
    (other : IsMaximalRun text otherFirst otherLast) (later : first < otherFirst) :
    last < otherFirst := by
  by_contra notBehind
  rcases Nat.eq_or_lt_of_le (Nat.le_of_not_lt notBehind) with touches | overlaps
  · exact one.behind (touches ▸ other.inside otherFirst (Nat.le_refl _) other.nonempty)
  · exact other.before (otherFirst - 1) (by omega)
      (one.inside (otherFirst - 1) (by omega) (by omega))

/-- The maximal runs with a letter or digit that begin at `offset` or behind it, in order. -/
structure RunsFrom (text : Text) (offset : Nat) (runs : List (Nat × Nat)) : Prop where
  ordered : runs.Pairwise fun left right => left.2 < right.1
  complete : ∀ run, run ∈ runs
    ↔ offset ≤ run.1 ∧ IsMaximalRun text run.1 run.2 ∧ HasAlphanumeric text run.1 run.2

theorem RunsFrom.nil : RunsFrom text text.length [] where
  ordered := List.Pairwise.nil
  complete := by
    refine fun run => ⟨by simp, ?_⟩
    rintro ⟨behind, -, place, lower, -, has⟩
    have within := has.lt_length
    omega

/-- A maximal run is followed by the runs that begin behind it. -/
theorem IsMaximalRun.le_iff {run : Nat × Nat} (maximal : IsMaximalRun text first last)
    (other : IsMaximalRun text run.1 run.2) :
    first ≤ run.1 ↔ run = (first, last) ∨ last ≤ run.1 := by
  constructor
  · intro behind
    rcases Nat.eq_or_lt_of_le behind with same | later
    · left
      rw [← same] at other
      rw [maximal.last_eq other, same]
    · exact Or.inr (Nat.le_of_lt (maximal.lt_of_lt other later))
  · rintro (rfl | behind)
    · exact Nat.le_refl _
    · exact Nat.le_trans (Nat.le_of_lt maximal.nonempty) behind

theorem RunsFrom.cons {runs : List (Nat × Nat)} (maximal : IsMaximalRun text first last)
    (alphanumeric : HasAlphanumeric text first last) (rest : RunsFrom text last runs) :
    RunsFrom text first ((first, last) :: runs) where
  ordered := by
    refine List.Pairwise.cons (fun run member => ?_) rest.ordered
    obtain ⟨behind, other, _⟩ := (rest.complete run).1 member
    exact maximal.lt_of_lt other (Nat.lt_of_lt_of_le maximal.nonempty behind)
  complete := by
    intro run
    rw [List.mem_cons, rest.complete run]
    constructor
    · rintro (rfl | ⟨behind, other, has⟩)
      · exact ⟨Nat.le_refl _, maximal, alphanumeric⟩
      · exact ⟨(maximal.le_iff other).2 (Or.inr behind), other, has⟩
    · rintro ⟨behind, other, has⟩
      exact ((maximal.le_iff other).1 behind).imp_right fun later =>
        ⟨later, other, has⟩

/-- A maximal run without a letter or digit is passed over. -/
theorem RunsFrom.skip {runs : List (Nat × Nat)} (maximal : IsMaximalRun text first last)
    (bare : ¬ HasAlphanumeric text first last) (rest : RunsFrom text last runs) :
    RunsFrom text first runs where
  ordered := rest.ordered
  complete := by
    intro run
    rw [rest.complete run]
    constructor
    · rintro ⟨behind, other, has⟩
      exact ⟨(maximal.le_iff other).2 (Or.inr behind), other, has⟩
    · rintro ⟨behind, other, has⟩
      rcases (maximal.le_iff other).1 behind with rfl | later
      · exact absurd has bare
      · exact ⟨later, other, has⟩

/-- No run begins at a character outside every run. -/
theorem RunsFrom.outside {runs : List (Nat × Nat)} (notInside : ¬ text.Has isRunChar first)
    (rest : RunsFrom text (first + 1) runs) : RunsFrom text first runs where
  ordered := rest.ordered
  complete := by
    intro run
    rw [rest.complete run]
    constructor
    · rintro ⟨behind, other⟩
      exact ⟨Nat.le_of_succ_le behind, other⟩
    · rintro ⟨behind, maximal, has⟩
      refine ⟨Nat.lt_of_le_of_ne behind ?_, maximal, has⟩
      rintro rfl
      exact notInside (maximal.inside run.1 (Nat.le_refl _) maximal.nonempty)

/-- A run between characters outside every run is maximal. -/
theorem isMaximalRun_segment {front run rest : Text} (nonempty : run ≠ []) (inside : IsRun run)
    (frontStops : ∀ char ∈ front.getLast?, isRunChar char = false)
    (restStops : ∀ char ∈ rest.head?, isRunChar char = false) :
    IsMaximalRun (front ++ run ++ rest) front.length (front.length + run.length) where
  nonempty := by
    have length := List.length_pos_of_ne_nil nonempty
    omega
  inside := fun place lower upper => Text.has_stretch inside lower upper
  before := by
    intro place isLast
    rw [List.append_assoc]
    exact Text.not_has_getLast isLast frontStops
  behind := by
    rw [← List.length_append]
    exact Text.not_has_head restStops

/-- Every run character belongs to a maximal run. -/
theorem exists_maximalRun {place : Nat} (has : text.Has isRunChar place) :
    ∃ first last, IsMaximalRun text first last ∧ first ≤ place ∧ place < last := by
  obtain ⟨front, before, frontSplit, beforeInside, frontStops⟩ :=
    Text.exists_final_stretch isRunChar (text.take place)
  obtain ⟨behind, rest, restSplit, behindInside, restStops⟩ :=
    Text.exists_stretch isRunChar (text.drop place)
  have whole : text = front ++ (before ++ behind) ++ rest := by
    rw [← List.take_append_drop place text, frontSplit, restSplit]
    simp
  have length : front.length + before.length = place := by
    have taken := congrArg List.length frontSplit
    rw [List.length_take_of_le (Nat.le_of_lt has.lt_length), List.length_append] at taken
    exact taken.symm
  have nonempty : behind ≠ [] := by
    rintro rfl
    obtain ⟨char, found, accepted⟩ := has
    have isHead : char ∈ rest.head? := by
      rw [List.nil_append] at restSplit
      rw [← restSplit, List.head?_drop]
      exact found
    rw [restStops char isHead] at accepted
    exact Bool.false_ne_true accepted
  have maximal := isMaximalRun_segment (by simp [nonempty]) (IsRun.append beforeInside behindInside)
    frontStops restStops
  rw [← whole] at maximal
  refine ⟨_, _, maximal, by omega, ?_⟩
  have behindLength := List.length_pos_of_ne_nil nonempty
  rw [List.length_append]
  omega

end MaximalRuns

end JapaneseSpacing
