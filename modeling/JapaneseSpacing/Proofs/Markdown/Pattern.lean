import JapaneseSpacing.Markdown.Pattern

/-!
# Searching with patterns

What a pattern can match (`mem_sequence_cons`, `mem_many_char`), and which of its ways to match
it prefers, for repetitions of a character class: `many_followedBy_stretch` when the next pattern
cannot start inside the repetition, `many_followedBy_front` when it can, and
`fewest_followedBy_cons` for repetitions that prefer to be short. `findAll` searches a whole text.
-/

namespace JapaneseSpacing.Pattern

/-- As few characters of a class as possible, or more. -/
def fewest (accepts : Char → Bool) : Pattern
  | [] => [[]]
  | first :: rest => (first :: rest) :: if accepts first then fewest accepts rest else []

/-- The end of a text. -/
def ending : Pattern := fun text =>
  if text.isEmpty then [text] else []

variable {accepts : Char → Bool}

theorem many_char_nil : (char accepts).many [] = [[]] := by
  rw [many]
  simp [char]

theorem many_char_cons (first : Char) (rest : Text) :
    (char accepts).many (first :: rest)
      = (if accepts first then (char accepts).many rest else []) ++ [first :: rest] := by
  rw [many]
  cases accepted : accepts first <;> simp [char, accepted]

/-! ## What a pattern can match -/

theorem mem_char {text rest : Text} :
    rest ∈ char accepts text ↔ ∃ first, text = first :: rest ∧ accepts first = true := by
  cases text with
  | nil => simp [char]
  | cons first behind =>
    rw [char]
    constructor
    · intro member
      split at member
      · next accepted => exact ⟨first, by rw [List.mem_singleton.1 member], accepted⟩
      · cases member
    · rintro ⟨taken, split, accepted⟩
      obtain ⟨rfl, rfl⟩ := List.cons.inj split
      rw [if_pos accepted]
      exact List.mem_cons_self

theorem mem_sequence_nil {text rest : Text} : rest ∈ sequence [] text ↔ rest = text :=
  List.mem_singleton

theorem mem_sequence_cons {first : Pattern} {others : List Pattern} {text rest : Text} :
    rest ∈ sequence (first :: others) text ↔ ∃ middle ∈ first text, rest ∈ sequence others middle :=
  List.mem_flatMap

/-- A repetition can stop behind any characters of the class. -/
theorem mem_many_char {text rest : Text} :
    rest ∈ (char accepts).many text
      ↔ ∃ front, text = front ++ rest ∧ ∀ char ∈ front, accepts char = true := by
  induction text with
  | nil =>
    rw [many_char_nil, List.mem_singleton]
    constructor
    · rintro rfl
      exact ⟨[], rfl, by simp⟩
    · rintro ⟨front, split, -⟩
      exact (List.append_eq_nil_iff.1 split.symm).2
  | cons first behind inductionHypothesis =>
    rw [many_char_cons, List.mem_append, List.mem_singleton]
    constructor
    · rintro (further | rfl)
      · split at further
        · next accepted =>
          obtain ⟨front, rfl, inside⟩ := inductionHypothesis.1 further
          exact ⟨first :: front, rfl, by simpa [accepted] using inside⟩
        · cases further
      · exact ⟨[], rfl, by simp⟩
    · rintro ⟨front, split, inside⟩
      cases front with
      | nil => exact .inr split.symm
      | cons taken front =>
        obtain ⟨rfl, rfl⟩ := List.cons.inj split
        rw [if_pos (inside first List.mem_cons_self)]
        exact .inl (inductionHypothesis.2
          ⟨front, rfl, fun char member => inside char (List.mem_cons_of_mem _ member)⟩)

theorem mem_oneOrMore_char {text rest : Text} :
    rest ∈ (char accepts).oneOrMore text
      ↔ ∃ front, text = front ++ rest ∧ front ≠ [] ∧ ∀ char ∈ front, accepts char = true := by
  rw [oneOrMore, followedBy, List.mem_flatMap]
  constructor
  · rintro ⟨middle, isFirst, further⟩
    obtain ⟨first, rfl, accepted⟩ := mem_char.1 isFirst
    obtain ⟨front, rfl, inside⟩ := mem_many_char.1 further
    exact ⟨first :: front, rfl, List.cons_ne_nil _ _, by simpa [accepted] using inside⟩
  · rintro ⟨front, rfl, someFront, inside⟩
    obtain ⟨first, more, rfl⟩ := List.exists_cons_of_ne_nil someFront
    have insideMore : ∀ char ∈ more, accepts char = true := fun char member =>
      inside char (List.mem_cons_of_mem _ member)
    exact ⟨more ++ rest, mem_char.2 ⟨first, rfl, inside first List.mem_cons_self⟩,
      mem_many_char.2 ⟨more, rfl, insideMore⟩⟩

/-! ## Which match is preferred -/

theorem many_followedBy_cons {next : Pattern} {first : Char} {rest : Text} :
    followedBy (char accepts).many next (first :: rest)
      = (if accepts first then followedBy (char accepts).many next rest else [])
        ++ next (first :: rest) := by
  cases accepted : accepts first <;> simp [followedBy, many_char_cons, accepted]

/-- Behind the characters that a repetition may take, the next pattern is tried first. -/
theorem many_followedBy_stretch {next : Pattern} {stretch rest : Text}
    (inside : ∀ char ∈ stretch, accepts char = true)
    (stops : ∀ char ∈ rest.head?, accepts char = false)
    (refuses : ∀ char ∈ stretch, ∀ behind, next (char :: behind) = []) :
    followedBy (char accepts).many next (stretch ++ rest) = next rest := by
  induction stretch with
  | nil =>
    cases rest with
    | nil => simp [followedBy, many_char_nil]
    | cons first behind => simp [many_followedBy_cons, stops first rfl]
  | cons first behind inductionHypothesis =>
    have taken := inductionHypothesis (fun char member => inside char (by simp [member]))
      (fun char member => refuses char (by simp [member]))
    rw [List.cons_append, many_followedBy_cons, if_pos (inside first (by simp)), taken,
      refuses first (by simp), List.append_nil]

/-- A repetition prefers what it matches behind the characters at its front. -/
theorem many_followedBy_front {next : Pattern} {front rest : Text}
    (inside : ∀ char ∈ front, accepts char = true) :
    ∃ later, followedBy (char accepts).many next (front ++ rest)
      = followedBy (char accepts).many next rest ++ later := by
  induction front with
  | nil => exact ⟨[], by simp⟩
  | cons first behind inductionHypothesis =>
    obtain ⟨later, split⟩ := inductionHypothesis fun char member => inside char (by simp [member])
    refine ⟨later ++ next (first :: (behind ++ rest)), ?_⟩
    rw [List.cons_append, many_followedBy_cons, if_pos (inside first (by simp)), split,
      List.append_assoc]

/-- What follows a short repetition is tried in front of every character of the class. -/
theorem fewest_followedBy_cons {next : Pattern} {first : Char} {rest : Text} :
    followedBy (fewest accepts) next (first :: rest)
      = next (first :: rest)
        ++ if accepts first then followedBy (fewest accepts) next rest else [] := by
  cases accepted : accepts first <;> simp [followedBy, fewest, accepted]

theorem char_followedBy_cons {next : Pattern} {first : Char} {rest : Text} :
    (char accepts).followedBy next (first :: rest) = if accepts first then next rest else [] := by
  cases accepted : accepts first <;> simp [followedBy, char, accepted]

theorem char_followedBy_refuses {next : Pattern} {text : Text}
    (refused : ∀ char ∈ text.head?, accepts char = false) :
    (char accepts).followedBy next text = [] := by
  cases text with
  | nil => rfl
  | cons first behind => rw [char_followedBy_cons, refused first rfl, if_neg Bool.false_ne_true]

/-! ## Searching a whole text -/

/-- The preferred matches of a pattern from left to right, each with its offset. The
search goes on behind a match, and a match of nothing is passed over. -/
def findAll (pattern : Pattern) (offset : Nat) (text : Text) : List (Nat × Text) :=
  match text with
  | [] => []
  | first :: rest =>
    match pattern.length? (first :: rest) with
    | some (length + 1) =>
      (offset, (first :: rest).take (length + 1))
        :: findAll pattern (offset + (length + 1)) (rest.drop length)
    | _ => findAll pattern (offset + 1) rest
termination_by text.length
decreasing_by
  · simp only [List.length_drop, List.length_cons]; omega
  · simp

/-- A search passes over a character where the pattern does not match. -/
theorem findAll_refused {pattern : Pattern} {offset : Nat} {first : Char} {rest : Text}
    (refused : pattern (first :: rest) = []) :
    pattern.findAll offset (first :: rest) = pattern.findAll (offset + 1) rest := by
  rw [findAll, length?, refused]
  rfl

/-- A search takes the preferred match and goes on behind it. -/
theorem findAll_matched {pattern : Pattern} {offset : Nat} {taken rest : Text}
    (nonempty : taken ≠ []) (matched : (pattern (taken ++ rest)).head? = some rest) :
    pattern.findAll offset (taken ++ rest)
      = (offset, taken) :: pattern.findAll (offset + taken.length) rest := by
  cases taken with
  | nil => exact absurd rfl nonempty
  | cons first behind =>
    have length : pattern.length? (first :: (behind ++ rest)) = some (behind.length + 1) := by
      rw [List.cons_append] at matched
      rw [length?, matched, Option.map_some]
      simp only [List.length_cons, List.length_append, Option.some.injEq]
      omega
    rw [List.cons_append, findAll, length]
    simp [List.take_succ_cons]

end JapaneseSpacing.Pattern
