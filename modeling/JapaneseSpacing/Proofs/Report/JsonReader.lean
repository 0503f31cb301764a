import JapaneseSpacing.Character
import JapaneseSpacing.Data.Value
import JapaneseSpacing.Text.PercentEncoding
import JapaneseSpacing.Text.Utf8

/-!
# Reading JSON texts

A text in JSON is read in two steps. Its characters make up tokens: marks, strings, and words,
which are numbers or one of three names. The tokens make up the data: a value, a list between
brackets, or a record between braces. Both steps refuse whatever the grammar of JSON does not
allow.
-/

namespace JapaneseSpacing

/-! ## Tokens -/

/-- The tokens of a text in JSON. -/
inductive JsonToken where
  | listStart
  | listEnd
  | recordStart
  | recordEnd
  | colon
  | comma
  /-- A string, a number or a name. -/
  | scalar (value : Value)

/-- A character that has no meaning between tokens. -/
def isJsonBlank (char : Char) : Bool :=
  char == ' ' || char == '\t' || char == '\n' || char == '\r'

/-- A character of a number or a name. -/
def isJsonWordChar (char : Char) : Bool :=
  isAsciiAlphanumeric char || char == '-' || char == '+' || char == '.'

/-- The token that a mark stands for. -/
def JsonToken.ofMark? (char : Char) : Option JsonToken :=
  if char = '[' then some .listStart
  else if char = ']' then some .listEnd
  else if char = '\x7b' then some .recordStart
  else if char = '\x7d' then some .recordEnd
  else if char = ':' then some .colon
  else if char = ',' then some .comma
  else none

namespace JsonWord

/-- The value of at least one digit. -/
def digits? (text : Text) : Option Nat :=
  if text ≠ [] ∧ text.all Char.isDigit then some (Nat.ofDigitChars 10 text 0) else none

/-- The value of digits that do not begin with a needless zero. -/
def natural? (text : Text) : Option Nat :=
  if text.head? = some '0' ∧ text ≠ ['0'] then none else digits? text

/-- A minus sign, if there is one, and what follows it. -/
def sign (text : Text) : Bool × Text :=
  match text with
  | '-' :: rest => (true, rest)
  | _ => (false, text)

/-- The exponent of a number, which may be missing. -/
def exponent? : Text → Option Int
  | [] => some 0
  | mark :: rest =>
    if mark = 'e' ∨ mark = 'E' then
      match rest with
      | '+' :: digits => (digits? digits).map Int.ofNat
      | '-' :: digits => (digits? digits).map fun value => -(value : Int)
      | digits => (digits? digits).map Int.ofNat
    else none

/-- A number in decimal notation. -/
def decimal (negative : Bool) (digits : Nat) (exponent : Int) : Float :=
  let value := Float.ofScientific digits (exponent < 0) exponent.natAbs
  if negative then -value else value

/-- The number that a word stands for. Only digits stand for an integer. -/
def number? (word : Text) : Option Value := do
  let (negative, unsigned) := sign word
  let whole := unsigned.takeWhile Char.isDigit
  let value ← natural? whole
  match unsigned.drop whole.length with
  | [] => return .int (if negative then -(value : Int) else value)
  | '.' :: rest =>
    let fraction := rest.takeWhile Char.isDigit
    let _ ← digits? fraction
    let exponent ← exponent? (rest.drop fraction.length)
    return .float (decimal negative (Nat.ofDigitChars 10 (whole ++ fraction) 0)
      (exponent - fraction.length))
  | rest => return .float (decimal negative value (← exponent? rest))

/-- The value that a word stands for. -/
def value? (word : Text) : Option Value :=
  if word = "null".toList then some .null
  else if word = "true".toList then some (.bool true)
  else if word = "false".toList then some (.bool false)
  else number? word

end JsonWord

namespace JsonString

/-- The code unit that a character stands for behind a backslash. -/
def escapedUnit? (char : Char) : Option Nat :=
  if char = '"' ∨ char = '\\' ∨ char = '/' then some char.toNat
  else if char = 'b' then some 0x08
  else if char = 't' then some 0x09
  else if char = 'n' then some 0x0A
  else if char = 'f' then some 0x0C
  else if char = 'r' then some 0x0D
  else none

/-- The text of some code units, where two surrogates make up one character. -/
def text? : List Nat → Option Text
  | [] => some []
  | [unit] => (charOfCode? 0 unit).map fun char => [char]
  | high :: low :: rest => do
    if 0xD800 ≤ high ∧ high < 0xDC00 ∧ 0xDC00 ≤ low ∧ low < 0xE000 then
      let char ← charOfCode? 0 (0x10000 + (high - 0xD800) * 0x400 + (low - 0xDC00))
      return char :: (← text? rest)
    else return (← charOfCode? 0 high) :: (← text? (low :: rest))

end JsonString

/-- Where a reader stands in a token. -/
inductive JsonPlace where
  | between
  /-- In a word, of which some characters have been read. -/
  | word (chars : Text)
  /-- In a string, of which some code units have been read. -/
  | string (units : List Nat)
  /-- Behind a backslash in a string. -/
  | escape (units : List Nat)
  /-- In an escaped code unit, of which some hexadecimal digits have been read. -/
  | code (units : List Nat) (count value : Nat)
deriving Repr, DecidableEq

/-- The tokens that have been read, and where the reader stands in the next one. -/
structure JsonLexer where
  tokens : List JsonToken := []
  place : JsonPlace := .between

namespace JsonLexer

/-- Read a full token. -/
def put (lexer : JsonLexer) (token : JsonToken) : JsonLexer :=
  ⟨lexer.tokens ++ [token], .between⟩

/-- End the word that the reader stands in. -/
def settle (lexer : JsonLexer) : Option JsonLexer :=
  match lexer.place with
  | .between => some lexer
  | .word chars => (JsonWord.value? chars).map fun value => lexer.put (.scalar value)
  | _ => none

/-- Read a character between tokens. -/
def outside (lexer : JsonLexer) (char : Char) : Option JsonLexer :=
  if isJsonBlank char then some lexer
  else if char = '"' then some { lexer with place := .string [] }
  else (JsonToken.ofMark? char).map lexer.put

/-- Read a character inside a string. -/
def inside (lexer : JsonLexer) (units : List Nat) (char : Char) : Option JsonLexer :=
  if char = '"' then (JsonString.text? units).map fun text => lexer.put (.scalar (.string text))
  else if char = '\\' then some { lexer with place := .escape units }
  else if char.toNat < 0x20 then none
  else some { lexer with place := .string (units ++ [char.toNat]) }

/-- Read one character. -/
def step (lexer : JsonLexer) (char : Char) : Option JsonLexer :=
  match lexer.place with
  | .between =>
    if isJsonWordChar char then some { lexer with place := .word [char] }
    else lexer.outside char
  | .word chars =>
    if isJsonWordChar char then some { lexer with place := .word (chars ++ [char]) }
    else lexer.settle.bind (·.outside char)
  | .string units => lexer.inside units char
  | .escape units =>
    if char = 'u' then some { lexer with place := .code units 0 0 }
    else (JsonString.escapedUnit? char).map fun unit =>
      { lexer with place := .string (units ++ [unit]) }
  | .code units count value =>
    (hexDigit? char).map fun digit =>
      { lexer with
        place := if count = 3 then .string (units ++ [value * 16 + digit])
          else .code units (count + 1) (value * 16 + digit) }

end JsonLexer

/-- The tokens of a text in JSON. -/
def jsonTokens (text : Text) : Option (List JsonToken) :=
  ((text.foldlM JsonLexer.step {}).bind JsonLexer.settle).map JsonLexer.tokens

/-! ## Data -/

/-- A list or a record that is being read, with what has been read of it. -/
inductive OpenData where
  | list (items : List Value)
  /-- A record, with the key whose value is being read. -/
  | record (entries : List (Value × Value)) (key : Text)

/-- What the next token has to be, or the value that has just been read. -/
inductive DataPlace where
  | value
  | itemOrEnd
  | keyOrEnd
  | key (entries : List (Value × Value))
  | colon (entries : List (Value × Value)) (key : Text)
  | behind (value : Value)

/-- The lists and records that are being read, the innermost first, and the place in it. -/
structure DataReader where
  outer : List OpenData := []
  place : DataPlace := .value

namespace DataReader

/-- Read the first token of a value. -/
def startValue (outer : List OpenData) : JsonToken → Option DataReader
  | .scalar value => some ⟨outer, .behind value⟩
  | .listStart => some ⟨outer, .itemOrEnd⟩
  | .recordStart => some ⟨outer, .keyOrEnd⟩
  | _ => none

/-- Read the token behind a value. -/
def endValue (value : Value) : List OpenData → JsonToken → Option DataReader
  | .list items :: outer, .comma => some ⟨.list (items ++ [value]) :: outer, .value⟩
  | .list items :: outer, .listEnd => some ⟨outer, .behind (.list (items ++ [value]))⟩
  | .record entries key :: outer, .comma => some ⟨outer, .key (entries ++ [(.string key, value)])⟩
  | .record entries key :: outer, .recordEnd =>
    some ⟨outer, .behind (.mapping (entries ++ [(.string key, value)]))⟩
  | _, _ => none

/-- Read one token. -/
def step (reader : DataReader) (token : JsonToken) : Option DataReader :=
  match reader.place, token with
  | .value, token => startValue reader.outer token
  | .itemOrEnd, .listEnd => some { reader with place := .behind (.list []) }
  | .itemOrEnd, token => startValue (.list [] :: reader.outer) token
  | .keyOrEnd, .recordEnd => some { reader with place := .behind (.mapping []) }
  | .keyOrEnd, .scalar (.string key) => some { reader with place := .colon [] key }
  | .key entries, .scalar (.string key) => some { reader with place := .colon entries key }
  | .colon entries key, .colon => some ⟨.record entries key :: reader.outer, .value⟩
  | .behind value, token => endValue value reader.outer token
  | _, _ => none

/-- The data at the end of the text, where nothing may be left open. -/
def finish : DataReader → Option Value
  | ⟨[], .behind value⟩ => some value
  | _ => none

end DataReader

/-- The data of a text in JSON, if it is one. -/
def readJson (text : Text) : Option Value := do
  let tokens ← jsonTokens text
  let reader ← tokens.foldlM DataReader.step {}
  reader.finish

end JapaneseSpacing
