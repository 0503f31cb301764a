import JapaneseSpacing.Text.Basic

/-!
# Plain data

The values that a configuration file or an exchanged record can hold. A mapping keeps
its entries in order, and its keys may be any values. A format of plain data reads a text
as such a value.
-/

namespace JapaneseSpacing

/-- A plain data value. -/
inductive Value where
  | null
  | bool (value : Bool)
  | int (value : Int)
  | float (value : Float)
  | string (text : Text)
  | bytes (content : List UInt8)
  | date
  | timestamp
  | list (items : List Value)
  | set (items : List Value)
  | mapping (entries : List (Value × Value))
deriving Inhabited

namespace Value

/-- The word for the type of a value. -/
def typeName : Value → String
  | null => "NoneType"
  | bool _ => "bool"
  | int _ => "int"
  | float _ => "float"
  | string _ => "str"
  | bytes _ => "bytes"
  | date => "date"
  | timestamp => "datetime"
  | list _ => "list"
  | set _ => "set"
  | mapping _ => "dict"

end Value

/-- Why a format finds no value in a text. -/
inductive DataError where
  /-- The text is not written in the format. -/
  | malformed
  /-- Reading the text fails in any other way. -/
  | unexpected
deriving Repr, DecidableEq

/-- A format of plain data. -/
abbrev DataFormat := Text → Except DataError Value

end JapaneseSpacing
