import JapaneseSpacing.Markdown.Character
import JapaneseSpacing.Markdown.Entity.Table
import JapaneseSpacing.Text.Basic

/-!
# Character references

A character reference is an ampersand, a name of the table or a number behind a hash,
and a semicolon. `unescape` replaces the references and the escaped punctuation of a
text by the characters they stand for.
-/

namespace JapaneseSpacing

/-- The words of a table as pairs of a name and its characters. -/
def namedCharacterPairs : List Text → List (Text × Text)
  | name :: codes :: rest =>
    (name, (codes.splitWhere (· = '.')).map fun code => Char.ofNat (digitsValue 16 code))
      :: namedCharacterPairs rest
  | _ => []

/-- The names of character references and what they stand for. -/
def namedCharacters : List (Text × Text) :=
  namedCharacterPairs (namedCharacterLines.flatMap fun line => Text.splitWhere (· = ' ') line.toList)

/-- The characters that a name stands for. -/
def namedCharacter? (name : Text) : Option Text :=
  namedCharacters.lookup name

/-- Whether a number may refer to a character: no surrogate, no code point that is
reserved for internal use and no control character but white space. -/
def isReferableCode (code : Nat) : Bool :=
  !((0xD800 ≤ code && code ≤ 0xDFFF) || (0xFDD0 ≤ code && code ≤ 0xFDEF)
    || 0xFFFE ≤ code % 0x10000 || code ≤ 0x08 || code == 0x0B || (0x0E ≤ code && code ≤ 0x1F)
    || (0x7F ≤ code && code ≤ 0x9F) || 0x10FFFF < code)

/-- The digits in front of a semicolon and what follows it, if there are between one and
`most` of them. -/
def digitsBeforeSemicolon? (isDigit : Char → Bool) (most : Nat) (text : Text) :
    Option (Text × Text) :=
  let digits := text.takeWhile isDigit
  match text.dropWhile isDigit with
  | ';' :: rest => if 1 ≤ digits.length && digits.length ≤ most then some (digits, rest) else none
  | _ => none

/-- The number of a numeric reference behind its hash, of at most so many hexadecimal or
decimal digits, and what follows. -/
def referenceCode? (mostHex mostDecimal : Nat) : Text → Option (Nat × Text)
  | 'x' :: rest | 'X' :: rest =>
    (digitsBeforeSemicolon? isHexDigit mostHex rest).map fun (digits, after) =>
      (digitsValue 16 digits, after)
  | text =>
    (digitsBeforeSemicolon? isAsciiDigit mostDecimal text).map fun (digits, after) =>
      (digitsValue 10 digits, after)

/-- What follows the character reference at the start of a text. -/
def afterReference? : Text → Option Text
  | '&' :: '#' :: rest => (referenceCode? 6 7 rest).map (·.2)
  | '&' :: rest =>
    let name := rest.takeWhile (· ≠ ';')
    match rest.dropWhile (· ≠ ';') with
    | _ :: after => (namedCharacter? name).map fun _ => after
    | [] => none
  | _ => none

/-- The characters that the reference behind an ampersand stands for, and what follows.
A number has up to eight digits here. -/
def referenced? : Text → Option (Text × Text)
  | '#' :: rest =>
    match referenceCode? 8 8 rest with
    | some (code, after) => if isReferableCode code then some ([Char.ofNat code], after) else none
    | none => none
  | rest =>
    let name := rest.takeWhile (· ≠ ';')
    match rest.dropWhile (· ≠ ';') with
    | _ :: after => (namedCharacter? name).map fun characters => (characters, after)
    | [] => none

/-- The text with escapes and references resolved, where `skip` characters are still part
of the last one. -/
def unescapeFrom (skip : Nat) : Text → Text
  | [] => []
  | first :: rest =>
    match skip with
    | skip + 1 => unescapeFrom skip rest
    | 0 =>
      match first, rest.head? with
      | '\\', some escaped =>
        if isAsciiPunctuation escaped then escaped :: unescapeFrom 1 rest
        else first :: unescapeFrom 0 rest
      | '&', _ =>
        match referenced? rest with
        | some (characters, after) => characters ++ unescapeFrom (rest.length - after.length) rest
        | none => first :: unescapeFrom 0 rest
      | _, _ => first :: unescapeFrom 0 rest

/-- The text with its escapes and character references resolved. -/
def unescape (text : Text) : Text :=
  unescapeFrom 0 text

end JapaneseSpacing
