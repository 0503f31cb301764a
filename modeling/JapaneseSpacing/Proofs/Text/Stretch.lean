import JapaneseSpacing.Text.Basic
import Mathlib.Data.List.DropRight

/-!
# Stretches at the front of a text

A stretch of accepted characters that is not continued behind it is what
`takeWhile` takes. Every character class of the library is read in this way.
-/

namespace JapaneseSpacing.Text

variable {accepts : Char → Bool} {stretch rest : Text}

theorem takeWhile_stopped (stops : ∀ char ∈ rest.head?, accepts char = false) :
    rest.takeWhile accepts = [] := by
  cases rest with
  | nil => rfl
  | cons first more => simp [stops first rfl]

/-- Reading stops at the end of a stretch that the rest does not continue. -/
theorem takeWhile_stretch (inside : ∀ char ∈ stretch, accepts char = true)
    (stops : ∀ char ∈ rest.head?, accepts char = false) :
    (stretch ++ rest).takeWhile accepts = stretch := by
  rw [List.takeWhile_append_of_pos inside, takeWhile_stopped stops, List.append_nil]

/-- A text that goes on with a refused character is read as far as without it. -/
theorem takeWhile_append_stop {text : Text}
    (stops : ∀ char ∈ rest.head?, accepts char = false) :
    (text ++ rest).takeWhile accepts = text.takeWhile accepts := by
  rw [List.takeWhile_append, takeWhile_stopped stops, List.append_nil]
  split
  · next all => exact ((text.takeWhile_prefix accepts).eq_of_length all).symm
  · rfl

/-- What a reading of the stretch leaves behind. -/
theorem dropWhile_stretch (inside : ∀ char ∈ stretch, accepts char = true)
    (stops : ∀ char ∈ rest.head?, accepts char = false) :
    (stretch ++ rest).dropWhile accepts = rest := by
  rw [List.dropWhile_append_of_pos inside]
  cases rest with
  | nil => rfl
  | cons first more => simp [stops first rfl]

/-- A text starts with a stretch of accepted characters that the rest does not continue. -/
theorem exists_stretch (accepts : Char → Bool) (text : Text) :
    ∃ stretch rest, text = stretch ++ rest ∧ (∀ char ∈ stretch, accepts char = true)
      ∧ ∀ char ∈ rest.head?, accepts char = false := by
  refine ⟨text.takeWhile accepts, text.dropWhile accepts,
    List.takeWhile_append_dropWhile.symm, fun char member => List.mem_takeWhile_imp member, ?_⟩
  intro char member
  have present : text.dropWhile accepts ≠ [] := by
    intro absent
    simp [absent] at member
  have head := List.head_dropWhile_not accepts present
  rw [List.head?_eq_some_head present, Option.mem_some_iff] at member
  rwa [member] at head

/-- A text ends with a stretch of accepted characters that the front does not continue. -/
theorem exists_final_stretch (accepts : Char → Bool) (text : Text) :
    ∃ front stretch, text = front ++ stretch ∧ (∀ char ∈ stretch, accepts char = true)
      ∧ ∀ char ∈ front.getLast?, accepts char = false := by
  obtain ⟨stretch, rest, split, inside, stops⟩ := exists_stretch accepts text.reverse
  refine ⟨rest.reverse, stretch.reverse, ?_, ?_, ?_⟩
  · rw [← List.reverse_append, ← split, List.reverse_reverse]
  · simpa using inside
  · simpa using stops

end JapaneseSpacing.Text
