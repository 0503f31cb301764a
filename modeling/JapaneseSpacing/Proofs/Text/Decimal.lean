import JapaneseSpacing.Text.Basic

/-!
# Integers in decimal digits

An integer is written in digits, with a minus sign in front if it is below zero
(`ofInt_cases`), and in nothing else (`isDigit_of_mem_ofInt`).
-/

namespace JapaneseSpacing.Text

/-- An integer is written in digits, behind a minus sign if it is below zero. -/
theorem ofInt_cases (value : Int) :
    (∃ size : Nat, value = size ∧ ofInt value = Nat.toDigits 10 size)
      ∨ ∃ size : Nat, value = -(size : Int) ∧ ofInt value = '-' :: Nat.toDigits 10 size := by
  cases value with
  | ofNat size =>
    refine .inl ⟨size, rfl, ?_⟩
    change (Nat.repr size).toList = _
    rw [Nat.repr_eq_ofList_toDigits, String.toList_ofList]
  | negSucc size =>
    refine .inr ⟨size + 1, rfl, ?_⟩
    change ("-" ++ Nat.repr (size + 1)).toList = _
    simp [Nat.repr_eq_ofList_toDigits]

theorem isDigit_of_mem_ofInt {value : Int} {char : Char} (member : char ∈ ofInt value) :
    char.isDigit = true ∨ char = '-' := by
  have digit : ∀ size, char ∈ Nat.toDigits 10 size → char.isDigit = true := fun size inDigits =>
    Nat.isDigit_of_mem_toDigits (by decide) (by decide) inDigits
  rcases ofInt_cases value with ⟨size, _, digits⟩ | ⟨size, _, digits⟩
  · exact .inl (digit size (digits ▸ member))
  · rw [digits, List.mem_cons] at member
    exact member.symm.imp_left (digit size)

theorem noBreak_ofInt (value : Int) : '\n' ∉ ofInt value := by
  intro member
  rcases isDigit_of_mem_ofInt member with isDigit | isMinus
  · exact absurd isDigit (by decide)
  · exact absurd isMinus (by decide)

theorem noBreak_ofNat (value : Nat) : '\n' ∉ ofNat value :=
  noBreak_ofInt value

end JapaneseSpacing.Text
