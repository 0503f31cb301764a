import JapaneseSpacing.Text.Basic

/-!
# Characters of YAML

A YAML text holds printable characters and white space only. Besides the line feed three
other characters end a line, of which one reads as a line feed. The functions on optional
characters look at the next character of a text, which may be missing at its end.
-/

namespace JapaneseSpacing

namespace Yaml

/-- Why a text gives no plain data. All but two of the reasons are faults of the document's form. -/
inductive Error where
  /-- A control character or another character that no document may hold. -/
  | forbiddenCharacter
  /-- A character that starts or continues nothing at its place. -/
  | unexpectedCharacter
  /-- A quoted text that is not closed. -/
  | unclosedQuote
  | unknownEscape
  /-- An escape of a code point beyond the last one. -/
  | badCodePoint
  /-- A key that is not followed by its colon on its line. -/
  | missingColon
  /-- An entry, a key or a value where the line does not allow one. -/
  | misplacedIndicator
  | unexpectedToken
  | badDirective
  | undefinedHandle
  | undefinedAlias
  | duplicateAnchor
  | severalDocuments
  | unknownTag
  /-- A tag that does not go with the kind of its node. -/
  | badContent
  /-- A scalar that does not spell a value of its type. -/
  | badScalar
  /-- A merge of something that is no mapping. -/
  | badMerge
  /-- A key that is a collection. -/
  | unusableKey
deriving Repr, DecidableEq

/-- Whether the form of the document is at fault. Otherwise it is a value that does not exist. -/
def Error.isMalformed : Error → Bool
  | .badCodePoint | .badScalar => false
  | _ => true

/-- A character that may stand in a document. -/
def isAllowed (char : Char) : Bool :=
  let code := char.toNat
  code == 0x09 || code == 0x0A || code == 0x0D || (0x20 ≤ code && code ≤ 0x7E) || code == 0x85
    || (0xA0 ≤ code && code ≤ 0xFFFD) || 0x10000 ≤ code

/-- The mark that may stand in front of a document. -/
def byteOrderMark : Char := Char.ofNat 0xFEFF

/-- A character that ends a line. -/
def isBreak (char : Char) : Bool :=
  char = '\n' || char.toNat = 0x85 || char.toNat = 0x2028 || char.toNat = 0x2029

/-- What the end of a line reads as. -/
def breakText (char : Char) : Char :=
  if char.toNat = 0x85 then '\n' else char

/-- A space or a tab. -/
def isSpaceOrTab (char : Char) : Bool :=
  char = ' ' || char = '\t'

/-- Whether a line or the text ends here. -/
def atLineEnd (next : Option Char) : Bool :=
  next.all isBreak

/-- Whether a word ends here that spaces, but no tabs, may follow. -/
def atSpace (next : Option Char) : Bool :=
  next.all fun char => char = ' ' || isBreak char

/-- Whether a word ends here. -/
def atGap (next : Option Char) : Bool :=
  next.all fun char => isSpaceOrTab char || isBreak char

/-- A letter or a digit of ASCII, a hyphen or an underscore. -/
def isNameCharacter (char : Char) : Bool :=
  ('0' ≤ char && char ≤ '9') || ('A' ≤ char && char ≤ 'Z') || ('a' ≤ char && char ≤ 'z')
    || char = '-' || char = '_'

/-- Whether a line that starts a document, or one that ends it, starts here. -/
def startsMarker (text : Text) : Bool :=
  (['-', '-', '-'].isPrefixOf text || ['.', '.', '.'].isPrefixOf text) && atGap (text.drop 3).head?

/-- The text behind the end of a line, if the line ends here. -/
def afterBreak (text : Text) : Text :=
  if text.head?.any isBreak then text.drop 1 else text

/-- The text behind spaces, a comment and the end of the line, if nothing else is left on
the line. -/
def afterLine (text : Text) : Except Error Text :=
  let rest := text.dropWhile (· = ' ')
  let rest := if rest.head? = some '#' then rest.dropWhile (!isBreak ·) else rest
  if atLineEnd rest.head? then .ok (afterBreak rest) else .error .unexpectedCharacter

end Yaml

end JapaneseSpacing
