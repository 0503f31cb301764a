import JapaneseSpacing.Text.Punctuation

/-!
# Separators and control characters

The general categories that end an address in running text: separators (all
categories Z), control characters (Cc) and, of the punctuation, everything.
-/

namespace JapaneseSpacing

/-- A space, line or paragraph separator. -/
def isSeparator (char : Char) : Bool :=
  let code := char.toNat
  code == 0x20 || code == 0xA0 || code == 0x1680 || (0x2000 ≤ code && code ≤ 0x200A)
    || code == 0x2028 || code == 0x2029 || code == 0x202F || code == 0x205F || code == 0x3000

/-- A control character of ASCII or Latin-1. -/
def isControl (char : Char) : Bool :=
  let code := char.toNat
  code < 0x20 || (0x7F ≤ code && code ≤ 0x9F)

/-- A separator or a control character. -/
def isGap (char : Char) : Bool :=
  isSeparator char || isControl char

/-- A character that stands between words: a gap or punctuation. -/
def isWordBoundary (char : Char) : Bool :=
  isGap char || isPunctuation char

end JapaneseSpacing
