import JapaneseSpacing.Text.Basic

/-!
# Blank characters

A blank is a white space character of Unicode or one of the four information
separators U+001C to U+001F. The ideographic space U+3000 is a blank, the
zero-width space U+200B is none.
-/

namespace JapaneseSpacing

/-- White space in the widest sense, line breaks and the ideographic space included. -/
def isBlank (char : Char) : Bool :=
  let code := char.toNat
  (0x09 ≤ code && code ≤ 0x0D) || (0x1C ≤ code && code ≤ 0x20) || code == 0x85 || code == 0xA0
    || code == 0x1680 || (0x2000 ≤ code && code ≤ 0x200A) || code == 0x2028 || code == 0x2029
    || code == 0x202F || code == 0x205F || code == 0x3000

namespace Text

/-- The text without the blanks it starts with. -/
def trimStart (text : Text) : Text :=
  text.dropWhile isBlank

/-- The text without the trailing characters that `drops` accepts. -/
def dropRightWhile (drops : Char → Bool) (text : Text) : Text :=
  (text.reverse.dropWhile drops).reverse

/-- The text without the blanks it ends with. -/
def trimEnd (text : Text) : Text :=
  text.dropRightWhile isBlank

/-- The text without the blanks at both ends. -/
def trim (text : Text) : Text :=
  (Text.trimStart text).trimEnd

end Text

end JapaneseSpacing
