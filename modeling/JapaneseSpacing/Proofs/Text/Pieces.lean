import JapaneseSpacing.Text.Basic

/-!
# Splitting a text and joining it again

Pieces without a separator, joined with that separator, are what splitting gives back
(`splitWhere_join`), and no piece that splitting gives has a separator. The other way round
the pieces of a text make up the text (`join_splitWhere`).
-/

namespace JapaneseSpacing.Text

section Splitting

variable {isSeparator : Char → Bool} {part rest : Text}

theorem splitWhere_of_missing (missing : ∀ char ∈ part, isSeparator char = false) :
    splitWhere isSeparator part = [part] := by
  induction part with
  | nil => rfl
  | cons first rest inductionHypothesis =>
    rw [splitWhere, missing first List.mem_cons_self,
      inductionHypothesis fun char member => missing char (List.mem_cons_of_mem _ member)]

theorem splitWhere_separator {separator : Char} (separates : isSeparator separator = true)
    (missing : ∀ char ∈ part, isSeparator char = false) :
    splitWhere isSeparator (part ++ separator :: rest)
      = part :: splitWhere isSeparator rest := by
  induction part with
  | nil => rw [List.nil_append, splitWhere, separates]
  | cons first more inductionHypothesis =>
    rw [List.cons_append, splitWhere, missing first List.mem_cons_self,
      inductionHypothesis fun char member => missing char (List.mem_cons_of_mem _ member)]

theorem splitWhere_ne_nil (isSeparator : Char → Bool) (text : Text) :
    splitWhere isSeparator text ≠ [] := by
  cases text with
  | nil => simp [splitWhere]
  | cons first rest =>
    rw [splitWhere]
    split <;> simp

/-- No piece has a separator. -/
theorem missing_of_mem_splitWhere (member : part ∈ splitWhere isSeparator rest) :
    ∀ char ∈ part, isSeparator char = false := by
  induction rest generalizing part with
  | nil =>
    rw [splitWhere, List.mem_singleton] at member
    simp [member]
  | cons first more inductionHypothesis =>
    rw [splitWhere] at member
    split at member
    · rcases List.mem_cons.1 member with rfl | later
      · simp
      · exact inductionHypothesis later
    · next piece pieces isSeparated split =>
      rcases List.mem_cons.1 member with rfl | later
      · intro char inPiece
        rcases List.mem_cons.1 inPiece with rfl | inRest
        · exact isSeparated
        · exact inductionHypothesis (split ▸ List.mem_cons_self) char inRest
      · exact inductionHypothesis (split ▸ List.mem_cons_of_mem _ later)
    · next isSeparated split =>
      rw [List.mem_singleton] at member
      simpa [member] using isSeparated

end Splitting

section Joining

variable {separator : Text}

theorem join_cons_cons (separator first second : Text) (more : List Text) :
    join separator (first :: second :: more)
      = first ++ separator ++ join separator (second :: more) := rfl

/-- Between two rows of pieces stands one separator. -/
theorem join_append {front back : List Text} (someFront : front ≠ []) (someBack : back ≠ []) :
    join separator (front ++ back) = join separator front ++ separator ++ join separator back := by
  induction front with
  | nil => exact absurd rfl someFront
  | cons part more inductionHypothesis =>
    cases more with
    | nil =>
      obtain ⟨next, others, rfl⟩ := List.exists_cons_of_ne_nil someBack
      rfl
    | cons next others =>
      have joined := inductionHypothesis (List.cons_ne_nil _ _)
      rw [List.cons_append, List.cons_append, join_cons_cons, ← List.cons_append, joined,
        join_cons_cons]
      simp only [List.append_assoc]

/-- What is joined first stands at the start. -/
theorem join_prefix_append {front : List Text} (someFront : front ≠ []) (back : List Text) :
    join separator front <+: join separator (front ++ back) := by
  cases back with
  | nil => exact ⟨[], by rw [List.append_nil, List.append_nil]⟩
  | cons part more =>
    rw [join_append someFront (List.cons_ne_nil _ _), List.append_assoc]
    exact List.prefix_append _ _

theorem mem_join {parts : List Text} {char : Char} (member : char ∈ join separator parts) :
    char ∈ separator ∨ ∃ part ∈ parts, char ∈ part := by
  induction parts with
  | nil => cases member
  | cons part more inductionHypothesis =>
    cases more with
    | nil => exact .inr ⟨part, List.mem_cons_self, member⟩
    | cons next others =>
      rw [join_cons_cons, List.mem_append, List.mem_append] at member
      rcases member with (inPart | inSeparator) | later
      · exact .inr ⟨part, List.mem_cons_self, inPart⟩
      · exact .inl inSeparator
      · rcases inductionHypothesis later with inSeparator | ⟨other, isOther, inOther⟩
        · exact .inl inSeparator
        · exact .inr ⟨other, List.mem_cons_of_mem _ isOther, inOther⟩

/-- Replacing characters piece by piece replaces them in the whole. -/
theorem map_join (replace : Char → Char) (parts : List Text) :
    (join separator parts).map replace
      = join (separator.map replace) (parts.map (·.map replace)) := by
  induction parts with
  | nil => rfl
  | cons part more inductionHypothesis =>
    cases more with
    | nil => rfl
    | cons next others =>
      rw [join_cons_cons, List.map_append, List.map_append, inductionHypothesis]
      rfl

/-- Pieces without the separator are what lies between the separators. -/
theorem splitWhere_join {separator : Char} {parts : List Text} (someParts : parts ≠ [])
    (missing : ∀ part ∈ parts, ∀ char ∈ part, (char == separator) = false) :
    splitWhere (· == separator) (join [separator] parts) = parts := by
  induction parts with
  | nil => exact absurd rfl someParts
  | cons part more inductionHypothesis =>
    have missingPart := missing part List.mem_cons_self
    cases more with
    | nil => exact splitWhere_of_missing missingPart
    | cons next others =>
      have read := inductionHypothesis (List.cons_ne_nil _ _)
        fun other member => missing other (List.mem_cons_of_mem _ member)
      have cut := @splitWhere_separator (· == separator) part
        (join [separator] (next :: others)) separator (beq_self_eq_true separator) missingPart
      rw [join_cons_cons, List.append_assoc, List.singleton_append, cut, read]

/-- The pieces of a text with their separators in between make up the text. -/
theorem join_splitWhere (separator : Char) (text : Text) :
    join [separator] (splitWhere (· == separator) text) = text := by
  induction text with
  | nil => rfl
  | cons first rest inductionHypothesis =>
    obtain ⟨piece, pieces, split⟩ :=
      List.exists_cons_of_ne_nil (splitWhere_ne_nil (· == separator) rest)
    rw [splitWhere, split]
    rw [split] at inductionHypothesis
    cases separates : first == separator with
    | true =>
      rw [join_cons_cons, inductionHypothesis, ← beq_iff_eq.1 separates]
      rfl
    | false =>
      rw [← inductionHypothesis]
      cases pieces with
      | nil => rfl
      | cons next others => rfl

end Joining

end JapaneseSpacing.Text
