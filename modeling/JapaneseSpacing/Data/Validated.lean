import JapaneseSpacing.Data.Value
import JapaneseSpacing.Text.Blank
import JapaneseSpacing.Text.Utf8

/-!
# Reading plain data

Data is read leniently: a flag may be spelled as a word, a number as digits. Each
problem is reported with the place where it was found, and all problems of a record
are gathered in the order of its fields.
-/

namespace JapaneseSpacing

/-- One step down into a value. -/
inductive PathStep where
  | field (name : String)
  | index (position : Nat)
deriving Repr, DecidableEq

/-- What can be wrong with a value. -/
inductive Problem where
  | missing
  | notAnOption
  | notALiteral
  | notAList
  | notATuple
  | tooLong
  | notAString
  | badStringBytes
  | notABool
  | unreadableBool
  | notAnInt
  | unreadableInt
  | notFinite
  | notWhole
  | tooManyDigits
  | notARecord
  | refused
deriving Repr, DecidableEq

/-- The word for a problem. -/
def Problem.name : Problem → String
  | .missing => "missing"
  | .notAnOption => "enum"
  | .notALiteral => "literal_error"
  | .notAList => "list_type"
  | .notATuple => "tuple_type"
  | .tooLong => "too_long"
  | .notAString => "string_type"
  | .badStringBytes => "string_unicode"
  | .notABool => "bool_type"
  | .unreadableBool => "bool_parsing"
  | .notAnInt => "int_type"
  | .unreadableInt => "int_parsing"
  | .notFinite => "finite_number"
  | .notWhole => "int_from_float"
  | .tooManyDigits => "int_parsing_size"
  | .notARecord => "model_type"
  | .refused => "value_error"

/-- A problem and where it was found. -/
structure FieldError where
  path : List PathStep
  problem : Problem
deriving Repr, DecidableEq

/-- A value that was read, or everything that is wrong with it. -/
abbrev Validated (α : Type) := Except (List FieldError) α

namespace Validated

/-- A value with one problem. -/
def fail {α : Type} (problem : Problem) : Validated α :=
  .error [⟨[], problem⟩]

/-- Problems of a part, told from the whole. -/
def within {α : Type} (step : PathStep) : Validated α → Validated α
  | .ok value => .ok value
  | .error errors => .error (errors.map fun error => { error with path := step :: error.path })

/-- Two parts together. The problems of the first come first. -/
def both {α β : Type} : Validated α → Validated β → Validated (α × β)
  | .ok first, .ok second => .ok (first, second)
  | .ok _, .error errors => .error errors
  | .error errors, .ok _ => .error errors
  | .error first, .error second => .error (first ++ second)

/-- The parts of a list, from the position `index` on. -/
def each {α : Type} (read : Value → Validated α) (index : Nat) : List Value → Validated (List α)
  | [] => .ok []
  | item :: rest =>
    match both ((read item).within (.index index)) (each read (index + 1) rest) with
    | .ok (first, others) => .ok (first :: others)
    | .error errors => .error errors

end Validated

/-- The fields of a record. -/
abbrev Fields := List (Text × Value)

/-- The value of a field; of several with one name the last. -/
def Fields.get? (fields : Fields) (name : String) : Option Value :=
  List.lookup name.toList fields.reverse

/-- Read a field that must be there. -/
def Fields.required {α : Type} (fields : Fields) (name : String) (read : Value → Validated α) :
    Validated α :=
  Validated.within (.field name) <|
    match fields.get? name with
    | some value => read value
    | none => .fail .missing

/-- Read a field that has a default. -/
def Fields.optional {α : Type} (fields : Fields) (name : String) (default : α)
    (read : Value → Validated α) : Validated α :=
  match fields.get? name with
  | some value => (read value).within (.field name)
  | none => .ok default

namespace Value

/-- Read a list; a set is as good. -/
def asList {α : Type} (read : Value → Validated α) : Value → Validated (List α)
  | list items => Validated.each read 0 items
  | set items => Validated.each read 0 items
  | _ => .fail .notAList

/-- Read a text. -/
def asText : Value → Validated Text
  | string text => .ok text
  | bytes content =>
    match decodeUtf8 content with
    | some text => .ok text
    | none => .fail .badStringBytes
  | _ => .fail .notAString

/-- The words that stand for a flag. -/
def flagWords : List (Text × Bool) :=
  [("0".toList, false), ("off".toList, false), ("f".toList, false), ("false".toList, false),
    ("n".toList, false), ("no".toList, false), ("1".toList, true), ("on".toList, true),
    ("t".toList, true), ("true".toList, true), ("y".toList, true), ("yes".toList, true)]

/-- The flag that a word stands for, in any letter case of ASCII. -/
def flagOfWord (word : Text) : Validated Bool :=
  match flagWords.lookup (word.map Char.toLower) with
  | some flag => .ok flag
  | none => .fail .unreadableBool

/-- Read a flag. -/
def asBool : Value → Validated Bool
  | bool value => .ok value
  | int value =>
    if value = 0 then .ok false
    else if value = 1 then .ok true
    else if -9223372036854775808 ≤ value ∧ value ≤ 9223372036854775807 then .fail .unreadableBool
    else .fail .notABool
  | float value =>
    if value == 0 then .ok false else if value == 1 then .ok true else .fail .notABool
  | string text => flagOfWord text
  | bytes content =>
    match decodeUtf8 content with
    | some text => flagOfWord text
    | none => .fail .unreadableBool
  | _ => .fail .notABool

/-- The value of decimal digits with single underscores between them. -/
def digitsValue? (accumulated : Nat) : Text → Option Nat
  | [] => none
  | [digit] => if digit.isDigit then some (accumulated * 10 + (digit.toNat - 48)) else none
  | digit :: '_' :: rest =>
    if digit.isDigit then digitsValue? (accumulated * 10 + (digit.toNat - 48)) rest else none
  | digit :: rest =>
    if digit.isDigit then digitsValue? (accumulated * 10 + (digit.toNat - 48)) rest else none

/-- The value of digits behind which a decimal point and zeros may stand. -/
def wholeValue? (text : Text) : Option Nat :=
  let whole := text.takeWhile (· != '.')
  match text.drop whole.length with
  | [] => digitsValue? 0 whole
  | _ :: decimals => if decimals.all (· == '0') then digitsValue? 0 whole else none

/-- The integer that a text spells, blanks at its ends left aside. -/
def intOfText? (text : Text) : Option Int :=
  match Text.trim text with
  | '-' :: digits => (wholeValue? digits).map fun value => -(value : Int)
  | '+' :: digits => (wholeValue? digits).map Int.ofNat
  | digits => (wholeValue? digits).map Int.ofNat

/-- Read a floating point number as an integer. It must be whole and fit into 64 bits. -/
def intOfFloat (value : Float) : Validated Int :=
  if value.isNaN || value.isInf then .fail .notFinite
  else if value != value.floor then .fail .notWhole
  else if -9223372036854775808.0 ≤ value && value < 9223372036854775808.0 then
    .ok value.toInt64.toInt
  else .fail .tooManyDigits

/-- Read an integer. -/
def asInt : Value → Validated Int
  | bool value => .ok (if value then 1 else 0)
  | int value => .ok value
  | float value => intOfFloat value
  | string text =>
    match intOfText? text with
    | some value => .ok value
    | none => .fail .unreadableInt
  | _ => .fail .notAnInt

/-- The fields of a mapping whose keys are all texts. -/
def fields? : Value → Option Fields
  | mapping entries => entries.mapM fun
    | (string name, value) => some (name, value)
    | _ => none
  | _ => none

/-- Read a record. -/
def asRecord {α : Type} (read : Fields → Validated α) (value : Value) : Validated α :=
  match value.fields? with
  | some fields => read fields
  | none => .fail .notARecord

end Value

end JapaneseSpacing
