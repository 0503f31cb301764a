import JapaneseSpacing.Text.Punctuation

/-!
# Character classes of Markdown

Indentation is made of spaces and tabs. Which way emphasis faces is decided by white
space and punctuation, where a sign such as `+` counts as punctuation. Names are
compared without regard to case in a sense that also identifies four letters outside
ASCII with the ASCII letters they resemble.
-/

namespace JapaneseSpacing

/-- A space or a tab. -/
def isIndentation (char : Char) : Bool :=
  char = ' ' || char = '\t'

/-- The punctuation and the signs of ASCII, all of which a backslash can escape. -/
def isAsciiPunctuation (char : Char) : Bool :=
  let code := char.toNat
  (0x21 ≤ code && code ≤ 0x2F) || (0x3A ≤ code && code ≤ 0x40) || (0x5B ≤ code && code ≤ 0x60)
    || (0x7B ≤ code && code ≤ 0x7E)

/-- White space beside a run of emphasis markers. -/
def isFlankingSpace (char : Char) : Bool :=
  let code := char.toNat
  (0x09 ≤ code && code ≤ 0x0D) || code == 0x20 || code == 0xA0 || code == 0x1680
    || (0x2000 ≤ code && code ≤ 0x200A) || code == 0x202F || code == 0x205F || code == 0x3000

/-- Punctuation beside a run of emphasis markers. -/
def isFlankingPunctuation (char : Char) : Bool :=
  isPunctuation char || isSign char

/-- The lower-case ASCII letter that a character stands for, or the character itself. -/
def foldLetter (char : Char) : Char :=
  match char.toNat with
  | 0x17F => 's'
  | 0x212A => 'k'
  | 0x130 => 'i'
  | 0x131 => 'i'
  | _ => char.toLower

/-- A letter that stands for a letter of ASCII. -/
def foldsToAsciiLetter (char : Char) : Bool :=
  let folded := foldLetter char
  'a' ≤ folded && folded ≤ 'z'

/-- A decimal digit of ASCII. -/
def isAsciiDigit (char : Char) : Bool :=
  '0' ≤ char && char ≤ '9'

/-- A hexadecimal digit. -/
def isHexDigit (char : Char) : Bool :=
  isAsciiDigit char || ('a' ≤ char && char ≤ 'f') || ('A' ≤ char && char ≤ 'F')

/-- The value of a hexadecimal digit. -/
def hexDigitValue (char : Char) : Nat :=
  if isAsciiDigit char then char.toNat - '0'.toNat
  else if 'a' ≤ char then char.toNat - 'a'.toNat + 10
  else char.toNat - 'A'.toNat + 10

/-- The number that digits to a base of at most sixteen denote. -/
def digitsValue (base : Nat) (digits : List Char) : Nat :=
  digits.foldl (fun value digit => value * base + hexDigitValue digit) 0

end JapaneseSpacing
