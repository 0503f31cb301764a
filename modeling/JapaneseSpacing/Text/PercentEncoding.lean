import JapaneseSpacing.Text.Utf8

/-!
# Percent encoding

A percent sign and two hexadecimal digits stand for a byte, and a run of them for the
characters that the bytes encode. Bytes that encode nothing become replacement
characters, one for each byte.
-/

namespace JapaneseSpacing

/-- The value of a hexadecimal digit. -/
def hexDigit? (char : Char) : Option Nat :=
  if '0' ≤ char ∧ char ≤ '9' then some (char.toNat - '0'.toNat)
  else if 'a' ≤ char ∧ char ≤ 'f' then some (char.toNat - 'a'.toNat + 10)
  else if 'A' ≤ char ∧ char ≤ 'F' then some (char.toNat - 'A'.toNat + 10)
  else none

/-- A digit of a number to the base sixteen. -/
def upperHexDigit (value : Nat) : Char :=
  Char.ofNat (if value < 10 then value + '0'.toNat else value - 10 + 'A'.toNat)

/-- How many bytes a character takes that starts with a byte, if the byte says so. -/
def encodedLength (lead : Nat) : Nat :=
  if 0xC0 ≤ lead ∧ lead < 0xE0 then 2
  else if 0xE0 ≤ lead ∧ lead < 0xF0 then 3
  else if 0xF0 ≤ lead ∧ lead < 0xF8 then 4
  else 1

/-- The character that stands for what no bytes encode. -/
def replacementCharacter : Char := Char.ofNat 0xFFFD

/-- The bytes that belong to the character at the start of some bytes: as many as the
first one announces if so many follow and all of them are continuations, or one. -/
def characterBytes (lead : Nat) (rest : List Nat) : List Nat :=
  let more := rest.take (encodedLength lead - 1)
  if more.length = encodedLength lead - 1 ∧ more.all (fun byte => 0x80 ≤ byte && byte < 0xC0) then
    lead :: more
  else [lead]

/-- The characters of some bytes. An ASCII character that `keeps` selects stays encoded. -/
def decodedBytes (keeps : Char → Bool) (skip : Nat) : List Nat → Text
  | [] => []
  | lead :: rest =>
    match skip with
    | skip + 1 => decodedBytes keeps skip rest
    | 0 =>
      let bytes := characterBytes lead rest
      let characters :=
        if lead < 0x80 then
          if keeps (Char.ofNat lead) then
            ['%', upperHexDigit (lead / 16), upperHexDigit (lead % 16)]
          else [Char.ofNat lead]
        else
          (decodeUtf8 (bytes.map Nat.toUInt8)).getD
            (List.replicate bytes.length replacementCharacter)
      characters ++ decodedBytes keeps (bytes.length - 1) rest

/-- The text with its percent sequences decoded. `bytes` are those that stand directly in
front of it. -/
def decodePercentAfter (keeps : Char → Bool) (bytes : List Nat) : Text → Text
  | '%' :: high :: low :: rest =>
    match hexDigit? high, hexDigit? low with
    | some high, some low => decodePercentAfter keeps (bytes ++ [high * 16 + low]) rest
    | _, _ =>
      decodedBytes keeps 0 bytes ++ '%' :: decodePercentAfter keeps [] (high :: low :: rest)
  | first :: rest => decodedBytes keeps 0 bytes ++ first :: decodePercentAfter keeps [] rest
  | [] => decodedBytes keeps 0 bytes

/-- The text with its percent sequences decoded, but for those of the ASCII characters
that `keeps` selects. -/
def Text.decodePercent (keeps : Char → Bool) (text : Text) : Text :=
  decodePercentAfter keeps [] text

end JapaneseSpacing
