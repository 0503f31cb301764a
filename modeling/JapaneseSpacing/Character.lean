import JapaneseSpacing.Text.Basic

/-!
# Full-width characters and symbols

The spacing convention looks at the character next to a half-width run.
Full-width and symbol are independent properties: the ideographic comma is both.
`isSpacingTarget` is the one neighbour the convention reacts to, full-width and
no symbol.
-/

namespace JapaneseSpacing

/-- Inclusive ranges of code points: Japanese punctuation, hiragana, katakana, the
unified ideographs, and the halfwidth and fullwidth forms. -/
def fullWidthRanges : List (Nat × Nat) :=
  [(0x3000, 0x303F), (0x3040, 0x309F), (0x30A0, 0x30FF), (0x4E00, 0x9FFF), (0xFF00, 0xFFEF)]

/-- A character in one of the full-width ranges. -/
def isFullWidth (char : Char) : Bool :=
  fullWidthRanges.any fun range => range.1 ≤ char.toNat && char.toNat ≤ range.2

/-- Full-width characters by their code points. -/
theorem isFullWidth_iff (char : Char) : isFullWidth char = true
    ↔ (0x3000 ≤ char.toNat ∧ char.toNat ≤ 0x30FF) ∨ (0x4E00 ≤ char.toNat ∧ char.toNat ≤ 0x9FFF)
      ∨ (0xFF00 ≤ char.toNat ∧ char.toNat ≤ 0xFFEF) := by
  simp only [isFullWidth, fullWidthRanges, List.any_cons, List.any_nil, Bool.or_eq_true,
    Bool.and_eq_true, decide_eq_true_eq, Bool.false_eq_true, or_false]
  omega

/-- Punctuation of ASCII, currency signs, brackets and quotes, Japanese punctuation,
arrows, geometric marks, operators, and miscellaneous signs. -/
def symbols : List Char :=
  ".,;:!?()[]\x7b\x7d<>'\"\x60-=+*/\\|~@#$%^&_".toList
    ++ "¥$€£".toList
    ++ "（）「」『』【】〈〉《》〔〕［］｛｝〝〟≪≫".toList
    ++ "、。！？：；・…‥〜～※".toList
    ++ "→←↑↓⇒⇐⇔".toList
    ++ "●○◎◆◇■□▲△▼▽★☆".toList
    ++ "×÷±".toList
    ++ "°′″®™©§¶〒♪♫".toList

/-- A punctuation mark or sign beside which no spacing is asked for. -/
def isSymbol (char : Char) : Bool :=
  symbols.contains char

/-- A full-width character that is no symbol. -/
def isSpacingTarget (char : Char) : Bool :=
  isFullWidth char && !isSymbol char

/-- The spacing convention reacts to exactly the full-width characters that are no symbols. -/
theorem isSpacingTarget_iff (char : Char) :
    isSpacingTarget char = true ↔ isFullWidth char = true ∧ isSymbol char = false := by
  simp [isSpacingTarget]

/-- A letter or digit of ASCII. -/
def isAsciiAlphanumeric (char : Char) : Bool :=
  char.isAlphanum

/-- Letters and digits of ASCII by their code points. -/
theorem isAsciiAlphanumeric_iff (char : Char) : isAsciiAlphanumeric char = true
    ↔ ((65 ≤ char.toNat ∧ char.toNat ≤ 90) ∨ (97 ≤ char.toNat ∧ char.toNat ≤ 122))
      ∨ (48 ≤ char.toNat ∧ char.toNat ≤ 57) := by
  change ((decide (char.val ≥ 'A'.val ∧ char.val ≤ 'Z'.val)
    || (decide (char.val ≥ 'a'.val) && decide (char.val ≤ 'z'.val)))
    || (decide (char.val ≥ '0'.val) && decide (char.val ≤ '9'.val))) = true ↔ _
  simp only [Bool.or_eq_true, Bool.and_eq_true, decide_eq_true_eq, ge_iff_le,
    UInt32.le_iff_toNat_le]
  rfl

end JapaneseSpacing
