import JapaneseSpacing.Data.Value
import JapaneseSpacing.Markdown.Character
import JapaneseSpacing.Text.Blank
import JapaneseSpacing.Yaml.Character

/-!
# Types of scalars

An unquoted scalar is a flag, a number, a date, nothing or a merge by the form of its
text, and a text otherwise. The same forms give the values of scalars whose tag names
the type.
-/

namespace JapaneseSpacing

namespace Yaml

/-- The type of a node. -/
inductive Tag where
  | null
  | bool
  | int
  | float
  | binary
  | timestamp
  | pairs
  | set
  | string
  | sequence
  | mapping
  /-- The key whose value is merged into a mapping. -/
  | merge
  /-- The key of a mapping's own value. -/
  | default
  | unknown
deriving Repr, DecidableEq

namespace Tag

/-- How the names of the known tags start. -/
def start : Text := "tag:yaml.org,2002:".toList

/-- The known tags by the rest of their names. -/
def known : List (Text × Tag) :=
  [("null", null), ("bool", bool), ("int", int), ("float", float), ("binary", binary),
    ("timestamp", timestamp), ("omap", pairs), ("pairs", pairs), ("set", set), ("str", string),
    ("seq", sequence), ("map", mapping), ("merge", merge), ("value", default)].map
      fun (name, tag) => (name.toList, tag)

/-- The tag of a name. -/
def ofName (name : Text) : Tag :=
  if start.isPrefixOf name then (known.lookup (name.drop start.length)).getD unknown else unknown

end Tag

/-! ## Forms -/

/-- The words that stand for flags. -/
def flagWords : List (Text × Bool) :=
  [("yes", true), ("no", false), ("true", true), ("false", false), ("on", true),
    ("off", false)].map fun (word, flag) => (word.toList, flag)

/-- Whether a word is written in lower case, in upper case or with a capital. -/
def isWordOf (word text : Text) : Bool :=
  text = word || text = word.map Char.toUpper
    || text = (word.take 1).map Char.toUpper ++ word.drop 1

/-- The flag that a text stands for. -/
def flagOf? (text : Text) : Option Bool :=
  (flagWords.find? fun (word, _) => isWordOf word text).map (·.2)

/-- Whether a text stands for nothing. -/
def isNull (text : Text) : Bool :=
  text.isEmpty || text = ['~'] || isWordOf "null".toList text

/-- Whether a number is negative, and the text behind its sign. -/
def splitSign : Text → Bool × Text
  | '-' :: rest => (true, rest)
  | '+' :: rest => (false, rest)
  | text => (false, text)

/-- The text without the underscores that group digits. -/
def withoutUnderscores (text : Text) : Text :=
  text.filter (· ≠ '_')

/-- Whether a text consists of digits of a base and underscores, with at least one
character. -/
def isDigits (isDigit : Char → Bool) (text : Text) : Bool :=
  !text.isEmpty && text.all fun char => isDigit char || char = '_'

/-- Whether a text is one or two digits of a number below sixty. -/
def isSixtieth : Text → Bool
  | [digit] => isAsciiDigit digit
  | [tens, digit] => '0' ≤ tens && tens ≤ '5' && isAsciiDigit digit
  | _ => false

/-- The number whose digits to the base of sixty are given, the highest first. -/
def sixtieths (digits : List Nat) : Nat :=
  digits.foldl (fun value digit => value * 60 + digit) 0

/-- Whether digits start with a digit that is not an underscore. -/
def startsWithDigit (text : Text) : Bool :=
  text.head?.any isAsciiDigit

/-- How many decimal digits are read as a number at most. -/
def mostDigits : Nat := 4300

/-- The value of the text of a natural number: binary, octal, hexadecimal, decimal, or to
the base of sixty. Without digits, or with too many decimal ones, it has no value. -/
def naturalOf? (text : Text) : Option (Option Nat) :=
  let value (base : Nat) (digits : Text) : Option Nat :=
    let digits := withoutUnderscores digits
    if digits.isEmpty || (base = 10 && mostDigits < digits.length) then none
    else some (digitsValue base digits)
  match text with
  | ['0'] => some (some 0)
  | '0' :: 'b' :: digits =>
    if isDigits (fun char => char = '0' || char = '1') digits then some (value 2 digits) else none
  | '0' :: 'x' :: digits => if isDigits isHexDigit digits then some (value 16 digits) else none
  | '0' :: digits =>
    if isDigits (fun char => '0' ≤ char && char ≤ '7') digits then some (value 8 ('0' :: digits))
    else none
  | _ =>
    match Text.splitWhere (· = ':') text with
    | [] => none
    | [digits] =>
      if startsWithDigit digits && isDigits isAsciiDigit digits then some (value 10 digits)
      else none
    | first :: rest =>
      if startsWithDigit first && isDigits isAsciiDigit first && rest.all isSixtieth then
        some (((first :: rest).mapM (value 10)).map sixtieths)
      else none

/-- The value of the text of an integer. -/
def integerOf? (text : Text) : Option (Option Int) :=
  let (isNegative, digits) := splitSign text
  (naturalOf? digits).map fun value =>
    value.map fun value => if isNegative then -(value : Int) else value

/-- The value of a decimal fraction in digits, with an exponent. -/
def decimalValue (whole fraction : Text) (exponent : Int) : Float :=
  let digits := withoutUnderscores (whole ++ fraction)
  let scale := exponent - (withoutUnderscores fraction).length
  Float.ofScientific (digitsValue 10 digits) (scale < 0) scale.natAbs

/-- The exponent at the end of a number, which has a sign. -/
def exponentOf? : Text → Option Int
  | [] => some 0
  | mark :: sign :: digits =>
    if (mark = 'e' ∨ mark = 'E') ∧ (sign = '+' ∨ sign = '-') ∧ !digits.isEmpty
        ∧ digits.all isAsciiDigit then
      let value : Int := digitsValue 10 digits
      some (if sign = '-' then -value else value)
    else none
  | _ => none

/-- The value of digits around a point, with an exponent behind them. -/
def fractionOf? (text : Text) : Option Float := do
  let isPart (char : Char) : Bool := isAsciiDigit char || char = '_'
  let whole := text.takeWhile isPart
  match text.drop whole.length with
  | '.' :: rest =>
    let fraction := rest.takeWhile isPart
    let exponent ← exponentOf? (rest.drop fraction.length)
    if startsWithDigit whole || (whole.isEmpty && startsWithDigit fraction) then
      return decimalValue whole fraction exponent
    else none
  | _ => none

/-- The value of digits to the base of sixty with a fraction. -/
def sixtiethFractionOf? (text : Text) : Option Float :=
  match Text.splitWhere (· = ':') text with
  | first :: second :: more =>
    let parts := second :: more
    let last := parts.getLast?.getD []
    let whole := last.takeWhile isAsciiDigit
    match last.drop whole.length with
    | '.' :: fraction =>
      if startsWithDigit first && isDigits isAsciiDigit first && parts.dropLast.all isSixtieth
          && isSixtieth whole && fraction.all (fun char => isAsciiDigit char || char = '_') then
        let higher := sixtieths ((first :: parts.dropLast).map fun part =>
          digitsValue 10 (withoutUnderscores part))
        some (decimalValue whole fraction 0 + Float.ofNat (higher * 60))
      else none
    | _ => none
  | _ => none

/-- The value of the text of a floating point number. -/
def floatOf? (text : Text) : Option Float :=
  let (isNegative, rest) := splitSign text
  let signed (value : Float) : Float := if isNegative then -value else value
  if rest.head? = some '.' ∧ isWordOf "inf".toList (rest.drop 1) then some (signed (1.0 / 0.0))
  else if [".nan", ".NaN", ".NAN"].any (·.toList = text) then some (0.0 / 0.0)
  else if rest.head? = some '.' then if rest = text then fractionOf? rest else none
  else (fractionOf? rest <|> sixtiethFractionOf? rest).map signed

/-! ## Dates -/

/-- The number of days of a month. -/
def daysOfMonth (year month : Nat) : Nat :=
  if month = 2 then
    if year % 4 = 0 ∧ (year % 100 ≠ 0 ∨ year % 400 = 0) then 29 else 28
  else if [4, 6, 9, 11].contains month then 30
  else 31

/-- The text of a date or of a point in time, by its parts. -/
structure TimeText where
  year : Nat
  month : Nat
  day : Nat
  /-- Hours, minutes and seconds. -/
  time : Option (Nat × Nat × Nat)
  /-- Whether month and day have two digits. -/
  isWide : Bool
  /-- How many minutes the time zone is ahead or behind. -/
  zone : Nat := 0
deriving Repr, DecidableEq

namespace TimeText

/-- Between `least` and `most` digits at the start of a text, and what follows. -/
def digits? (least most : Nat) (text : Text) : Option (Text × Text) :=
  let digits := (text.take most).takeWhile isAsciiDigit
  if least ≤ digits.length then some (digits, text.drop digits.length) else none

/-- The text behind a character that it must start with. -/
def after? (char : Char) (text : Text) : Option Text :=
  if text.head? = some char then some (text.drop 1) else none

/-- How many minutes the time zone that a text spells is ahead or behind. No text spells none. -/
def zoneOf? (text : Text) : Option Nat :=
  match text.dropWhile isSpaceOrTab with
  | [] => if text.isEmpty then some 0 else none
  | ['Z'] => some 0
  | sign :: rest =>
    if sign = '+' ∨ sign = '-' then
      match digits? 1 2 rest with
      | some (hours, []) => some (60 * digitsValue 10 hours)
      | some (hours, ':' :: minutes) =>
        if minutes.length = 2 ∧ minutes.all isAsciiDigit then
          some (60 * digitsValue 10 hours + digitsValue 10 minutes)
        else none
      | _ => none
    else none

/-- The time of day at the start of a text and the time zone behind it, if nothing else follows. -/
def timeOf? (text : Text) : Option ((Nat × Nat × Nat) × Nat) := do
  let (hour, rest) ← digits? 1 2 text
  let (minute, rest) ← digits? 2 2 (← after? ':' rest)
  let (second, rest) ← digits? 2 2 (← after? ':' rest)
  let rest := if rest.head? = some '.' then (rest.drop 1).dropWhile isAsciiDigit else rest
  return ((digitsValue 10 hour, digitsValue 10 minute, digitsValue 10 second), ← zoneOf? rest)

/-- The parts of a text. -/
def ofText? (text : Text) : Option TimeText := do
  let (year, rest) ← digits? 4 4 text
  let (month, rest) ← digits? 1 2 (← after? '-' rest)
  let (day, rest) ← digits? 1 2 (← after? '-' rest)
  let date : TimeText :=
    { year := digitsValue 10 year, month := digitsValue 10 month, day := digitsValue 10 day
      time := none, isWide := month.length = 2 && day.length = 2 }
  match rest with
  | [] => return date
  | first :: behind =>
    let (time, zone) ←
      if first = 'T' ∨ first = 't' then timeOf? behind
      else if isSpaceOrTab first then timeOf? (behind.dropWhile isSpaceOrTab)
      else none
    return { date with time := some time, zone }

/-- Whether an unquoted text has this form: a date without a time has wide parts. -/
def isImplicit (parts : TimeText) : Bool :=
  parts.time.isSome || parts.isWide

/-- Whether the parts are those of a day, a time and a time zone that exist. -/
def isValid (parts : TimeText) : Bool :=
  1 ≤ parts.year && 1 ≤ parts.month && parts.month ≤ 12 && 1 ≤ parts.day
    && parts.day ≤ daysOfMonth parts.year parts.month
    && parts.time.all (fun (hour, minute, second) => hour < 24 && minute < 60 && second < 60)
    && parts.zone < 24 * 60

end TimeText

/-! ## Types and values -/

/-- The type of an unquoted scalar. -/
def Tag.implicit (text : Text) : Tag :=
  if (flagOf? text).isSome then .bool
  else if (floatOf? text).isSome then .float
  else if (integerOf? text).isSome then .int
  else if text = ['<', '<'] then .merge
  else if isNull text then .null
  else if (TimeText.ofText? text).any TimeText.isImplicit then .timestamp
  else if text = ['='] then .default
  else .string

/-- The sextet that a character of encoded bytes stands for. -/
def sextet? (char : Char) : Option Nat :=
  if 'A' ≤ char ∧ char ≤ 'Z' then some (char.toNat - 'A'.toNat)
  else if 'a' ≤ char ∧ char ≤ 'z' then some (char.toNat - 'a'.toNat + 26)
  else if '0' ≤ char ∧ char ≤ '9' then some (char.toNat - '0'.toNat + 52)
  else if char = '+' then some 62
  else if char = '/' then some 63
  else none

/-- The bytes of sextets, four for three bytes. -/
def bytesOfSextets : List Nat → List UInt8
  | a :: b :: c :: d :: rest =>
    (a * 4 + b / 16).toUInt8 :: (b % 16 * 16 + c / 4).toUInt8 :: (c % 4 * 64 + d).toUInt8
      :: bytesOfSextets rest
  | [a, b, c] => [(a * 4 + b / 16).toUInt8, (b % 16 * 16 + c / 4).toUInt8]
  | [a, b] => [(a * 4 + b / 16).toUInt8]
  | _ => []

/-- The bytes that a text encodes. Characters of no meaning are passed over, and the last
group of four is filled up with equals signs. -/
def bytesOf? (text : Text) : Option (List UInt8) :=
  if text.any fun char => 0x7F < char.toNat then none
  else
    let data := text.filter fun char => char = '=' || (sextet? char).isSome
    let sextets := (data.takeWhile (· ≠ '=')).filterMap sextet?
    let filling := (data.drop sextets.length).takeWhile (· = '=')
    let extra := sextets.length % 4
    if extra = 0 ∨ (extra ≠ 1 ∧ 4 ≤ extra + filling.length) then some (bytesOfSextets sextets)
    else none

/-- The value of a scalar of a type. -/
def scalarValue (tag : Tag) (text : Text) : Except Error Value :=
  match tag with
  | .null => .ok .null
  | .string => .ok (.string text)
  | .bool =>
    match flagWords.lookup (text.map Char.toLower) with
    | some flag => .ok (.bool flag)
    | none => .error .badScalar
  | .int =>
    match integerOf? text with
    | some (some value) => .ok (.int value)
    | _ => .error .badScalar
  | .float =>
    match floatOf? text, integerOf? text with
    | some value, _ => .ok (.float value)
    | none, some (some value) => .ok (.float (Float.ofInt value))
    | none, _ => .error .badScalar
  | .timestamp =>
    match TimeText.ofText? text with
    | some parts =>
      if parts.isValid then .ok (if parts.time.isSome then .timestamp else .date)
      else .error .badScalar
    | none => .error .badScalar
  | .binary =>
    match bytesOf? text with
    | some bytes => .ok (.bytes bytes)
    | none => .error .badContent
  | .unknown | .merge | .default => .error .unknownTag
  | .pairs | .set | .sequence | .mapping => .error .badContent

end Yaml

end JapaneseSpacing
