import JapaneseSpacing.Text.Basic

/-!
# Occurrences in a text

A search that starts where a part stands finds it there (`find?_here`). A character is
found behind a stretch without it (`find?_char`). A stretch is the slice between its ends. Of
all places between its bounds a search finds the first one (`find?_eq_some`), or it finds none
because there is none (`find?_eq_none`).
-/

namespace JapaneseSpacing.Text

theorem occurrence?_here (part rest : Text) : occurrence? part (part ++ rest) = some 0 := by
  cases part with
  | nil => cases rest <;> rfl
  | cons first more =>
    have begins : (first :: more).isPrefixOf (first :: (more ++ rest)) = true :=
      List.isPrefixOf_iff_prefix.2 ⟨rest, rfl⟩
    rw [List.cons_append, occurrence?, if_pos begins]

theorem clipOffset_natCast {length offset : Nat} (inside : offset ≤ length) :
    clipOffset length offset = offset := by
  rw [clipOffset, if_neg (by omega), Int.toNat_natCast, Nat.min_eq_left inside]

/-- The slice between the ends of a stretch is the stretch. -/
theorem slice_stretch (before stretch behind : Text) :
    (before ++ stretch ++ behind).slice before.length (before.length + stretch.length : Nat)
      = stretch := by
  have within : (before ++ stretch).length ≤ (before ++ stretch ++ behind).length :=
    (List.prefix_append _ behind).length_le
  rw [slice, ← List.length_append, clipOffset_natCast within, List.take_left,
    clipOffset_natCast (by simp only [List.length_append]; omega), List.drop_left]

/-- A part of a text is found where the search for it starts. -/
theorem find?_here {before part behind : Text} {upper : Nat}
    (inside : before.length + part.length ≤ upper)
    (within : upper ≤ (before ++ part ++ behind).length) :
    (before ++ part ++ behind).find? part before.length upper = some before.length := by
  have lower : clipOffset (before ++ part ++ behind).length before.length = before.length :=
    clipOffset_natCast (by omega)
  have window : ((before ++ part ++ behind).take upper).drop before.length
      = part ++ behind.take (upper - (before ++ part).length) := by
    rw [List.take_append, List.take_of_length_le (by rwa [List.length_append]),
      List.append_assoc, List.drop_left]
  simp only [find?, lower, clipOffset_natCast within, window, occurrence?_here, Option.map_some,
    Nat.zero_add]

theorem occurrence?_char {stretch : Text} {char : Char} (missing : char ∉ stretch) (rest : Text) :
    occurrence? [char] (stretch ++ char :: rest) = some stretch.length := by
  induction stretch with
  | nil => exact occurrence?_here [char] rest
  | cons first more inductionHypothesis =>
    rw [List.mem_cons, not_or] at missing
    have differs : [char].isPrefixOf (first :: (more ++ char :: rest)) = false := by
      simp [List.isPrefixOf, missing.1]
    rw [List.cons_append, occurrence?, differs, inductionHypothesis missing.2]
    rfl

/-- A character is found behind a stretch without it. -/
theorem find?_char {before stretch behind : Text} {char : Char} (missing : char ∉ stretch) :
    (before ++ (stretch ++ char :: behind)).find? [char] before.length
        (before ++ (stretch ++ char :: behind)).length
      = some (before.length + stretch.length) := by
  have lower : clipOffset (before ++ (stretch ++ char :: behind)).length before.length
      = before.length :=
    clipOffset_natCast (by rw [List.length_append]; omega)
  simp only [find?, lower, clipOffset_natCast (Nat.le_refl _), List.take_length, List.drop_left,
    occurrence?_char missing, Option.map_some, Nat.add_comm]

/-! ## First occurrences -/

/-- The search for a part stops at the first offset at which it stands. -/
theorem occurrence?_eq_some {part text : Text} {place : Nat}
    (found : occurrence? part text = some place) :
    part <+: text.drop place ∧ ∀ earlier < place, ¬ part <+: text.drop earlier := by
  induction text generalizing place with
  | nil =>
    rw [occurrence?] at found
    split at found
    · next isEmpty =>
      obtain rfl := Option.some.inj found
      rw [List.isEmpty_iff.1 isEmpty]
      exact ⟨List.nil_prefix, fun earlier before => absurd before (Nat.not_lt_zero _)⟩
    · cases found
  | cons first rest inductionHypothesis =>
    rw [occurrence?] at found
    split at found
    · next begins =>
      obtain rfl := Option.some.inj found
      exact ⟨List.isPrefixOf_iff_prefix.1 begins,
        fun earlier before => absurd before (Nat.not_lt_zero _)⟩
    · next differs =>
      obtain ⟨further, isFurther, rfl⟩ := Option.map_eq_some_iff.1 found
      obtain ⟨stands, least⟩ := inductionHypothesis isFurther
      refine ⟨stands, fun earlier before => ?_⟩
      cases earlier with
      | zero => exact fun begins => differs (List.isPrefixOf_iff_prefix.2 begins)
      | succ earlier => exact least earlier (Nat.lt_of_succ_lt_succ before)

/-- A part that is not found stands nowhere. -/
theorem occurrence?_eq_none {part text : Text} (missing : occurrence? part text = none)
    (place : Nat) : ¬ part <+: text.drop place := by
  induction text generalizing place with
  | nil =>
    rw [occurrence?] at missing
    split at missing
    · cases missing
    · next someChars =>
      rw [List.drop_nil, List.prefix_nil]
      exact fun none => someChars (List.isEmpty_iff.2 none)
  | cons first rest inductionHypothesis =>
    rw [occurrence?] at missing
    split at missing
    · cases missing
    · next differs =>
      cases place with
      | zero => exact fun begins => differs (List.isPrefixOf_iff_prefix.2 begins)
      | succ place => exact inductionHypothesis (Option.map_eq_none_iff.1 missing) place

/-- A part of a text stands at an offset between two bounds. -/
structure OccursBetween (text part : Text) (lower upper place : Int) : Prop where
  lower : lower ≤ place
  upper : place + part.length ≤ upper
  stands : part <+: text.drop place.toNat

section Window

variable {text part : Text} {lower upper : Int}

theorem clipOffset_of_nonneg {length : Nat} {offset : Int} (inside : 0 ≤ offset) :
    clipOffset length offset = min offset.toNat length := by
  rw [clipOffset, if_neg (by omega)]

/-- Nothing that a search finds lies in front of its lower bound. -/
theorem le_find? {found : Nat} (someChars : part ≠ [])
    (isFound : text.find? part lower upper = some found) : lower ≤ found := by
  obtain ⟨distance, isDistance, rfl⟩ := Option.map_eq_some_iff.1 isFound
  have room := (occurrence?_eq_some isDistance).1.length_le
  have chars := List.length_pos_iff.2 someChars
  rw [List.length_drop, List.length_drop, List.length_take] at room
  rcases Int.lt_or_le lower 0 with before | first
  · omega
  · rw [clipOffset_of_nonneg first] at room ⊢
    omega

/-- What a search finds lies inside the text. -/
theorem find?_add_length_le {found : Nat} (someChars : part ≠ [])
    (isFound : text.find? part lower upper = some found) : found + part.length ≤ text.length := by
  obtain ⟨distance, isDistance, rfl⟩ := Option.map_eq_some_iff.1 isFound
  have room := (occurrence?_eq_some isDistance).1.length_le
  have chars := List.length_pos_iff.2 someChars
  rw [List.length_drop, List.length_drop, List.length_take] at room
  omega

/-- What stands in the window of a search stands in the text between its bounds. -/
theorem prefix_window_iff (someChars : part ≠ []) (first : 0 ≤ lower) (inside : 0 ≤ upper)
    (last : upper ≤ text.length) (distance : Nat) :
    part <+: ((text.take (clipOffset text.length upper)).drop (clipOffset text.length lower)).drop
        distance
      ↔ text.OccursBetween part lower upper (distance + clipOffset text.length lower : Nat) := by
  have chars := List.length_pos_iff.2 someChars
  rw [List.drop_drop, List.drop_take, List.prefix_take_iff, clipOffset_of_nonneg first,
    clipOffset_of_nonneg inside, Nat.add_comm _ distance]
  constructor
  · rintro ⟨stands, room⟩
    have length := stands.length_le
    rw [List.length_drop] at length
    exact ⟨by omega, by omega, stands⟩
  · rintro ⟨_, room, stands⟩
    exact ⟨stands, by omega⟩

/-- Every place between the bounds of a search lies in its window. -/
theorem OccursBetween.exists_distance {place : Int} (first : 0 ≤ lower)
    (occurs : text.OccursBetween part lower upper place) :
    ∃ distance : Nat, place = (distance + clipOffset text.length lower : Nat) := by
  have behind := occurs.lower
  have clipped : clipOffset text.length lower = min lower.toNat text.length :=
    clipOffset_of_nonneg first
  exact ⟨(place - clipOffset text.length lower).toNat, by omega⟩

/-- A search between two bounds finds the first place at which the part stands there. -/
theorem find?_eq_some {found : Nat} (someChars : part ≠ []) (first : 0 ≤ lower)
    (inside : 0 ≤ upper) (last : upper ≤ text.length)
    (isFound : text.find? part lower upper = some found) :
    text.OccursBetween part lower upper found
      ∧ ∀ place, text.OccursBetween part lower upper place → found ≤ place := by
  obtain ⟨distance, isDistance, rfl⟩ := Option.map_eq_some_iff.1 isFound
  obtain ⟨stands, least⟩ := occurrence?_eq_some isDistance
  refine ⟨(prefix_window_iff someChars first inside last distance).1 stands, ?_⟩
  intro place occurs
  obtain ⟨other, rfl⟩ := occurs.exists_distance first
  have notEarlier : ¬ other < distance := fun earlier =>
    least other earlier ((prefix_window_iff someChars first inside last other).2 occurs)
  omega

/-- Where a search finds nothing, the part does not stand between its bounds. -/
theorem find?_eq_none (someChars : part ≠ []) (first : 0 ≤ lower)
    (inside : 0 ≤ upper) (last : upper ≤ text.length)
    (missing : text.find? part lower upper = none) (place : Int) :
    ¬ text.OccursBetween part lower upper place := by
  intro occurs
  obtain ⟨distance, rfl⟩ := occurs.exists_distance first
  exact occurrence?_eq_none (Option.map_eq_none_iff.1 missing) distance
    ((prefix_window_iff someChars first inside last distance).2 occurs)

end Window

end JapaneseSpacing.Text
