import JapaneseSpacing.Text.Basic
import JapaneseSpacing.Text.Quoted

/-!
# JSON texts

A JSON value is written either on one line without spaces or indented by two spaces.
Quotes, backslashes and control characters are escaped, everything else stands as it
is. Integers must fit into 64 bits, signed or unsigned.
-/

namespace JapaneseSpacing

/-- The JSON values that reports consist of. -/
inductive JsonValue where
  | null
  | int (value : Int)
  | string (text : Text)
  | array (items : List JsonValue)
  | object (entries : List (Text × JsonValue))

namespace JsonValue

/-- A character as it stands in a JSON string. -/
def escapedChar (char : Char) : Text :=
  if char = '"' then ['\\', '"']
  else if char = '\\' then ['\\', '\\']
  else if char = '\n' then ['\\', 'n']
  else if char = '\r' then ['\\', 'r']
  else if char = '\t' then ['\\', 't']
  else if char = '\x08' then ['\\', 'b']
  else if char = '\x0c' then ['\\', 'f']
  else if char.toNat < 0x20 then '\\' :: 'u' :: hexDigits 4 char.toNat
  else [char]

/-- A JSON string. -/
def quote (text : Text) : Text :=
  ['"'] ++ text.flatMap escapedChar ++ ['"']

/-- An integer that fits into 64 bits, signed or unsigned. -/
def intFits (value : Int) : Bool :=
  -9223372036854775808 ≤ value && value ≤ 18446744073709551615

mutual

/-- Whether every integer of a value fits into 64 bits. -/
def fits : JsonValue → Bool
  | null => true
  | int value => intFits value
  | string _ => true
  | array items => fitsItems items
  | object entries => fitsEntries entries

/-- Whether every integer of some values fits into 64 bits. -/
def fitsItems : List JsonValue → Bool
  | [] => true
  | item :: rest => fits item && fitsItems rest

/-- Whether every integer of some entries fits into 64 bits. -/
def fitsEntries : List (Text × JsonValue) → Bool
  | [] => true
  | (_, value) :: rest => fits value && fitsEntries rest

end

mutual

/-- The value on one line without spaces. -/
def compact : JsonValue → Text
  | null => "null".toList
  | int value => Text.ofInt value
  | string text => quote text
  | array items => ['['] ++ Text.join [','] (compactItems items) ++ [']']
  | object entries => ['\x7b'] ++ Text.join [','] (compactEntries entries) ++ ['\x7d']

/-- Each of some values on one line. -/
def compactItems : List JsonValue → List Text
  | [] => []
  | item :: rest => compact item :: compactItems rest

/-- Each of some entries on one line. -/
def compactEntries : List (Text × JsonValue) → List Text
  | [] => []
  | (key, value) :: rest => (quote key ++ [':'] ++ compact value) :: compactEntries rest

end

/-- A new line, indented by two spaces a level. -/
def newLine (depth : Nat) : Text :=
  '\n' :: List.replicate (2 * depth) ' '

/-- The parts of a list or an object between brackets, each on a line of its own. -/
def bracketed (depth : Nat) (opening closing : Char) (parts : List Text) : Text :=
  if parts.isEmpty then [opening, closing]
  else
    [opening] ++ newLine (depth + 1) ++ Text.join (',' :: newLine (depth + 1)) parts
      ++ newLine depth ++ [closing]

mutual

/-- The value on several lines, indented from the level `depth` on. -/
def indented (depth : Nat) : JsonValue → Text
  | null => "null".toList
  | int value => Text.ofInt value
  | string text => quote text
  | array items => bracketed depth '[' ']' (indentedItems (depth + 1) items)
  | object entries => bracketed depth '\x7b' '\x7d' (indentedEntries (depth + 1) entries)

/-- Each of some values on several lines. -/
def indentedItems (depth : Nat) : List JsonValue → List Text
  | [] => []
  | item :: rest => indented depth item :: indentedItems depth rest

/-- Each of some entries on several lines. -/
def indentedEntries (depth : Nat) : List (Text × JsonValue) → List Text
  | [] => []
  | (key, value) :: rest =>
    (quote key ++ [':', ' '] ++ indented depth value) :: indentedEntries depth rest

end

end JsonValue

end JapaneseSpacing
