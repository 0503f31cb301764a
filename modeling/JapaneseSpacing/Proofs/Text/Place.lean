import JapaneseSpacing.Text.Basic

/-!
# Places of a text

`Has` speaks of the character at a place. For a text written as `before ++ stretch ++
behind` the lemmas read it off the stretch or off the characters beside a boundary.
-/

namespace JapaneseSpacing.Text

/-- There is a character at a place, and it is one of a class. -/
def Has (text : Text) (accepts : Char → Bool) (place : Nat) : Prop :=
  ∃ char, text[place]? = some char ∧ accepts char = true

variable {accepts : Char → Bool} {before stretch behind : Text} {place : Nat}

theorem Has.lt_length {text : Text} (has : text.Has accepts place) : place < text.length := by
  obtain ⟨char, found, _⟩ := has
  exact (List.getElem?_eq_some_iff.1 found).1

/-- A character of a class is one of every wider class. -/
theorem Has.mono {text : Text} {admits : Char → Bool} (has : text.Has accepts place)
    (wider : ∀ char, accepts char = true → admits char = true) : text.Has admits place := by
  obtain ⟨char, found, accepted⟩ := has
  exact ⟨char, found, wider char accepted⟩

theorem getElem?_stretch (lower : before.length ≤ place)
    (upper : place < before.length + stretch.length) :
    (before ++ stretch ++ behind)[place]? = stretch[place - before.length]? := by
  rw [List.append_assoc, List.getElem?_append_right lower, List.getElem?_append_left (by omega)]

/-- Inside a stretch of accepted characters every place has one. -/
theorem has_stretch (inside : ∀ char ∈ stretch, accepts char = true)
    (lower : before.length ≤ place) (upper : place < before.length + stretch.length) :
    (before ++ stretch ++ behind).Has accepts place := by
  have within : place - before.length < stretch.length := by omega
  refine ⟨stretch[place - before.length], ?_, inside _ (List.getElem_mem within)⟩
  rw [getElem?_stretch lower upper, List.getElem?_eq_getElem within]

/-- Inside a stretch without accepted characters no place has one. -/
theorem not_has_stretch (outside : ∀ char ∈ stretch, accepts char = false)
    (lower : before.length ≤ place) (upper : place < before.length + stretch.length) :
    ¬ (before ++ stretch ++ behind).Has accepts place := by
  rintro ⟨char, found, accepted⟩
  rw [getElem?_stretch lower upper] at found
  rw [outside char (List.mem_of_getElem? found)] at accepted
  exact Bool.false_ne_true accepted

/-- What stands right behind a front is the first character of the rest. -/
theorem has_head : (before ++ behind).Has accepts before.length
    ↔ ∃ char ∈ behind.head?, accepts char = true := by
  simp only [Has, List.getElem?_append_right (Nat.le_refl _), Nat.sub_self,
    ← List.head?_eq_getElem?, Option.mem_def]

/-- What stands right before the rest is the last character of the front. -/
theorem has_getLast (isLast : place + 1 = before.length) : (before ++ behind).Has accepts place
    ↔ ∃ char ∈ before.getLast?, accepts char = true := by
  have within : place < before.length := by omega
  have lastPlace : before.length - 1 = place := by omega
  simp only [Has, List.getElem?_append_left within, Option.mem_def, List.getLast?_eq_getElem?,
    lastPlace]

theorem not_has_head (stops : ∀ char ∈ behind.head?, accepts char = false) :
    ¬ (before ++ behind).Has accepts before.length := by
  rw [has_head]
  rintro ⟨char, member, accepted⟩
  rw [stops char member] at accepted
  exact Bool.false_ne_true accepted

theorem not_has_getLast (isLast : place + 1 = before.length)
    (stops : ∀ char ∈ before.getLast?, accepts char = false) :
    ¬ (before ++ behind).Has accepts place := by
  rw [has_getLast isLast]
  rintro ⟨char, member, accepted⟩
  rw [stops char member] at accepted
  exact Bool.false_ne_true accepted

end JapaneseSpacing.Text
