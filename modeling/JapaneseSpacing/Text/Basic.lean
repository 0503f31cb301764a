/-!
# Texts and offsets into them

A text is the list of its characters, so an offset counts characters and never
bytes or code units. Offsets are integers: one below zero counts from the end,
`slice` clips whatever lies outside, and `item?` refuses it.
-/

namespace JapaneseSpacing

/-- A text is the list of its characters. -/
abbrev Text := List Char

/-- An offset that should point into a text or a list lies outside it. -/
inductive OffsetError where
  | outOfRange
deriving Repr, DecidableEq

/-- The place in `0 … length` that a signed offset stands for, clipped at both ends. -/
def clipOffset (length : Nat) (offset : Int) : Nat :=
  if offset < 0 then (offset + length).toNat else min offset.toNat length

/-- The item at a signed offset, where `-1` is the last one. -/
def item? {α : Type} (items : List α) (offset : Int) : Option α :=
  if 0 ≤ offset then items[offset.toNat]?
  else if 0 ≤ offset + items.length then items[(offset + items.length).toNat]?
  else none

namespace Text

/-- The characters from `start` up to but not including `stop`. -/
def slice (text : Text) (start stop : Int) : Text :=
  (text.take (clipOffset text.length stop)).drop (clipOffset text.length start)

/-- Where `part` occurs first in a text. -/
def occurrence? (part : Text) : Text → Option Nat
  | [] => if part.isEmpty then some 0 else none
  | first :: rest =>
    if part.isPrefixOf (first :: rest) then some 0
    else (occurrence? part rest).map (· + 1)

/-- Where `part` occurs first between two offsets, as an offset of the whole text. -/
def find? (text part : Text) (lower upper : Int) : Option Nat :=
  let start := clipOffset text.length lower
  (occurrence? part ((text.take (clipOffset text.length upper)).drop start)).map (· + start)

/-- The pieces of a text between the characters that `isSeparator` accepts: one
more than there are separators. -/
def splitWhere (isSeparator : Char → Bool) : Text → List Text
  | [] => [[]]
  | first :: rest =>
    match isSeparator first, splitWhere isSeparator rest with
    | true, pieces => [] :: pieces
    | false, piece :: pieces => (first :: piece) :: pieces
    | false, [] => [[first]]

/-- The texts written one after another with a separator between them. -/
def join (separator : Text) : List Text → Text
  | [] => []
  | [piece] => piece
  | piece :: pieces => piece ++ separator ++ join separator pieces

/-- An integer in decimal digits. -/
def ofInt (value : Int) : Text :=
  (toString value).toList

/-- A natural number in decimal digits. -/
def ofNat (value : Nat) : Text :=
  (toString value).toList

end Text

end JapaneseSpacing
