import JapaneseSpacing.Text.Line

/-!
# Line ends

A line feed can be written as it is, as a carriage return, or as both. Normalizing reads all ways
to write a text back to the text, and it reads nothing else (`normalizeBreaks_eq_iff`).
-/

namespace JapaneseSpacing.Text

/-- A text with each of its line feeds written as a line feed, as a carriage return, or as both.
No carriage return alone stands right in front of a line feed alone, since these two would be one
line end. -/
inductive WrittenAs : Text → Text → Prop where
  | nil : WrittenAs [] []
  | char {char : Char} {text written : Text} (noBreak : char ≠ '\n')
      (rest : WrittenAs text written) : WrittenAs (char :: text) (char :: written)
  | lineFeed {text written : Text} (rest : WrittenAs text written) :
      WrittenAs ('\n' :: text) ('\n' :: written)
  | both {text written : Text} (rest : WrittenAs text written) :
      WrittenAs ('\n' :: text) ('\r' :: '\n' :: written)
  | carriageReturn {text written : Text} (apart : written.head? ≠ some '\n')
      (rest : WrittenAs text written) : WrittenAs ('\n' :: text) ('\r' :: written)

/-! ## What normalizing reads -/

section Reading

variable {char : Char} {text written rest : Text}

theorem normalizeBreaks_char (noReturn : char ≠ '\r') :
    normalizeBreaks (char :: rest) = char :: normalizeBreaks rest := by
  rw [normalizeBreaks, if_neg noReturn]
  intro more isReturn
  exact absurd isReturn noReturn

theorem normalizeBreaks_both :
    normalizeBreaks ('\r' :: '\n' :: rest) = '\n' :: normalizeBreaks rest := rfl

theorem normalizeBreaks_alone (apart : rest.head? ≠ some '\n') :
    normalizeBreaks ('\r' :: rest) = '\n' :: normalizeBreaks rest := by
  rw [normalizeBreaks, if_pos rfl]
  intro more _ isBoth
  exact apart (by rw [isBoth, List.head?_cons])

theorem not_mem_normalizeBreaks (text : Text) : '\r' ∉ normalizeBreaks text := by
  fun_induction normalizeBreaks text with
  | case1 => exact List.not_mem_nil
  | case2 rest inductionHypothesis => simpa using inductionHypothesis
  | case3 char rest _ inductionHypothesis =>
    rw [List.mem_cons, not_or]
    refine ⟨?_, inductionHypothesis⟩
    split
    · decide
    · next noReturn => exact Ne.symm noReturn

/-- However its line ends are written, a text is read back. -/
theorem WrittenAs.normalizeBreaks_eq (writtenAs : WrittenAs text written)
    (noReturn : '\r' ∉ text) : normalizeBreaks written = text := by
  induction writtenAs with
  | nil => rfl
  | char noBreak rest inductionHypothesis =>
    rw [List.mem_cons, not_or] at noReturn
    rw [normalizeBreaks_char (Ne.symm noReturn.1), inductionHypothesis noReturn.2]
  | lineFeed rest inductionHypothesis =>
    rw [normalizeBreaks_char (by decide), inductionHypothesis (List.not_mem_of_not_mem_cons noReturn)]
  | both rest inductionHypothesis =>
    rw [normalizeBreaks_both, inductionHypothesis (List.not_mem_of_not_mem_cons noReturn)]
  | carriageReturn apart rest inductionHypothesis =>
    rw [normalizeBreaks_alone apart, inductionHypothesis (List.not_mem_of_not_mem_cons noReturn)]

/-- What is read is written in the way that is read. -/
theorem writtenAs_normalizeBreaks (written : Text) : WrittenAs (normalizeBreaks written) written := by
  fun_induction normalizeBreaks written with
  | case1 => exact .nil
  | case2 rest inductionHypothesis => exact .both inductionHypothesis
  | case3 char rest noBoth inductionHypothesis =>
    split
    · next isReturn =>
      subst isReturn
      refine .carriageReturn (fun isBreak => ?_) inductionHypothesis
      obtain ⟨more, rfl⟩ := List.head?_eq_some_iff.1 isBreak
      exact noBoth more rfl rfl
    · by_cases isBreak : char = '\n'
      · subst isBreak
        exact .lineFeed inductionHypothesis
      · exact .char isBreak inductionHypothesis

/-- Normalizing gives a text back from exactly the ways to write its line ends, and it gives no
text that has a carriage return. -/
theorem normalizeBreaks_eq_iff :
    normalizeBreaks written = text ↔ '\r' ∉ text ∧ WrittenAs text written := by
  constructor
  · rintro rfl
    exact ⟨not_mem_normalizeBreaks written, writtenAs_normalizeBreaks written⟩
  · rintro ⟨noReturn, writtenAs⟩
    exact writtenAs.normalizeBreaks_eq noReturn

theorem WrittenAs.refl (text : Text) : WrittenAs text text := by
  induction text with
  | nil => exact .nil
  | cons char rest inductionHypothesis =>
    by_cases isBreak : char = '\n'
    · subst isBreak
      exact .lineFeed inductionHypothesis
    · exact .char isBreak inductionHypothesis

/-- Without carriage returns there is nothing to normalize. -/
theorem normalizeBreaks_of_not_mem (noReturn : '\r' ∉ text) : normalizeBreaks text = text :=
  (WrittenAs.refl text).normalizeBreaks_eq noReturn

end Reading

end JapaneseSpacing.Text
