import JapaneseSpacing.Text.Basic

/-!
# Punycode

A label with characters outside ASCII is written as its ASCII characters, a hyphen, and
the positions and code points of the others as differences in a base of thirty-six with
digits of varying weight.
-/

namespace JapaneseSpacing

namespace Punycode

/-- The value of a digit, which is a letter in any case or a decimal digit. -/
def digit? (char : Char) : Option Nat :=
  if 'a' ≤ char ∧ char ≤ 'z' then some (char.toNat - 'a'.toNat)
  else if 'A' ≤ char ∧ char ≤ 'Z' then some (char.toNat - 'A'.toNat)
  else if '0' ≤ char ∧ char ≤ '9' then some (char.toNat - '0'.toNat + 26)
  else none

/-- The least value of the digit at a place that is not the last one of its number. -/
def threshold (place bias : Nat) : Nat :=
  min 26 (max 1 (36 * (place + 1) - bias))

/-- The number at the start of a text and what follows. -/
def number? (bias place weight value : Nat) : Text → Option (Nat × Text)
  | [] => none
  | first :: rest => do
    let digit ← digit? first
    let value := value + digit * weight
    let least := threshold place bias
    if digit < least then return (value, rest)
    else number? bias (place + 1) (weight * (36 - least)) value rest

/-- How often a difference is to be divided to make it small, and what is left of it. -/
def shrink (steps delta : Nat) : Nat × Nat :=
  if 455 < delta then shrink (steps + 1) (delta / 35) else (steps, delta)
termination_by delta
decreasing_by omega

/-- The bias behind a difference, which is the first one or not, in a label that now has
`length` characters. -/
def adapt (delta : Nat) (isFirst : Bool) (length : Nat) : Nat :=
  let delta := if isFirst then delta / 700 else delta / 2
  let (steps, delta) := shrink 0 (delta + delta / length)
  36 * steps + 36 * delta / (delta + 38)

/-- Insert the characters that the digits describe into a label. `fuel` is at least the
number of digits. -/
def insertAll (fuel : Nat) (isFirst : Bool) (bias code place : Nat) (label digits : Text) :
    Option Text :=
  match fuel, digits with
  | _, [] => some label
  | 0, _ => none
  | fuel + 1, digits => do
    let (delta, rest) ← number? bias 0 1 0 digits
    let length := label.length + 1
    let code := code + (place + delta) / length
    let place := (place + delta) % length
    if 0x10FFFF < code then none
    else
      insertAll fuel false (adapt delta isFirst length) code (place + 1)
        (label.take place ++ Char.ofNat code :: label.drop place) rest

/-- The label that a text of ASCII characters encodes. -/
def decode? (text : Text) : Option Text :=
  if text.any fun char => 0x7F < char.toNat then none
  else
    let digits := (text.reverse.takeWhile (· ≠ '-')).reverse
    let base := text.take (text.length - digits.length - 1)
    insertAll digits.length true 72 0x80 0 base digits

end Punycode

end JapaneseSpacing
