import JapaneseSpacing.Text.Basic

/-!
# UTF-8

Files hold bytes. Decoding refuses stray and missing continuation bytes, forms that
are longer than needed, surrogates, and numbers beyond the last code point; encoding
is its inverse on texts.
-/

namespace JapaneseSpacing

/-- The payload of a continuation byte. -/
def continuation? (byte : UInt8) : Option Nat :=
  if 0x80 ≤ byte.toNat ∧ byte.toNat < 0xC0 then some (byte.toNat - 0x80) else none

/-- The character of a code point that needs at least `least`. -/
def charOfCode? (least code : Nat) : Option Char :=
  if least ≤ code ∧ code.isValidChar then some (Char.ofNat code) else none

/-- The text that bytes encode, if they are well-formed. -/
def decodeUtf8 : List UInt8 → Option Text
  | [] => some []
  | first :: rest =>
    let lead := first.toNat
    if lead < 0x80 then do
      return Char.ofNat lead :: (← decodeUtf8 rest)
    else if 0xC0 ≤ lead ∧ lead < 0xE0 then
      match rest with
      | second :: rest => do
        let char ← charOfCode? 0x80 ((lead - 0xC0) * 0x40 + (← continuation? second))
        return char :: (← decodeUtf8 rest)
      | _ => none
    else if 0xE0 ≤ lead ∧ lead < 0xF0 then
      match rest with
      | second :: third :: rest => do
        let code := (lead - 0xE0) * 0x1000 + (← continuation? second) * 0x40 + (← continuation? third)
        let char ← charOfCode? 0x800 code
        return char :: (← decodeUtf8 rest)
      | _ => none
    else if 0xF0 ≤ lead ∧ lead < 0xF8 then
      match rest with
      | second :: third :: fourth :: rest => do
        let code := (lead - 0xF0) * 0x40000 + (← continuation? second) * 0x1000
          + (← continuation? third) * 0x40 + (← continuation? fourth)
        let char ← charOfCode? 0x10000 code
        return char :: (← decodeUtf8 rest)
      | _ => none
    else none

/-- The bytes of one character. -/
def encodeCharUtf8 (char : Char) : List UInt8 :=
  let code := char.toNat
  if code < 0x80 then [code.toUInt8]
  else if code < 0x800 then [(0xC0 + code / 0x40).toUInt8, (0x80 + code % 0x40).toUInt8]
  else if code < 0x10000 then
    [(0xE0 + code / 0x1000).toUInt8, (0x80 + code / 0x40 % 0x40).toUInt8,
      (0x80 + code % 0x40).toUInt8]
  else
    [(0xF0 + code / 0x40000).toUInt8, (0x80 + code / 0x1000 % 0x40).toUInt8,
      (0x80 + code / 0x40 % 0x40).toUInt8, (0x80 + code % 0x40).toUInt8]

/-- The bytes of a text. -/
def encodeUtf8 (text : Text) : List UInt8 :=
  text.flatMap encodeCharUtf8

end JapaneseSpacing
