import JapaneseSpacing.Text.Basic
import JapaneseSpacing.Text.Printable

/-!
# Quoted texts in log records

Log records show a text between quotes: single ones unless the text holds a single
quote and no double one. Line breaks, tabs, backslashes and characters that are not
printable are written as escapes.
-/

namespace JapaneseSpacing

/-- A number in hexadecimal digits, filled up with zeros to a width. -/
def hexDigits (width code : Nat) : Text :=
  let digits := Nat.toDigits 16 code
  List.replicate (width - digits.length) '0' ++ digits

/-- A character as it is shown between quotes. -/
def quotedChar (quote char : Char) : Text :=
  if char = quote ∨ char = '\\' then ['\\', char]
  else if char = '\n' then ['\\', 'n']
  else if char = '\r' then ['\\', 'r']
  else if char = '\t' then ['\\', 't']
  else if isPrintable char then [char]
  else if char.toNat < 0x100 then '\\' :: 'x' :: hexDigits 2 char.toNat
  else if char.toNat < 0x10000 then '\\' :: 'u' :: hexDigits 4 char.toNat
  else '\\' :: 'U' :: hexDigits 8 char.toNat

/-- A text between quotes. -/
def Text.quoted (text : Text) : Text :=
  let quote := if text.contains '\'' && !text.contains '"' then '"' else '\''
  [quote] ++ text.flatMap (quotedChar quote) ++ [quote]

end JapaneseSpacing
