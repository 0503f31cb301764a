import JapaneseSpacing.Text.Basic

/-!
# Bracketed source

The end of a link or an image in its source is found by counting brackets, where a
backslash takes the next character out of the count. An unclosed bracket reaches to
the end of the source.
-/

namespace JapaneseSpacing

/-- How many characters it takes to close the brackets that are open, `depth` of them,
or the whole length if they are never closed. -/
def balancedLength (opening closing : Char) (depth : Int) : Text → Nat
  | [] => 0
  | '\\' :: [] => 1
  | '\\' :: _ :: rest => balancedLength opening closing depth rest + 2
  | first :: rest =>
    if first = opening then balancedLength opening closing (depth + 1) rest + 1
    else if first = closing then
      if depth = 1 then 1 else balancedLength opening closing (depth - 1) rest + 1
    else balancedLength opening closing depth rest + 1

/-- The offset just past the bracket that closes the one at `position`, or the length
of the source. A position below zero counts from the end and reads on at the start. -/
def skipBalanced (source : Text) (position : Int) (opening closing : Char) :
    Except OffsetError Int :=
  if (source.length : Int) ≤ position then .ok source.length
  else if 0 ≤ position then
    .ok (position + balancedLength opening closing 0 (source.drop position.toNat))
  else if 0 ≤ position + source.length then
    .ok (position
      + balancedLength opening closing 0
          (source.drop (position + source.length).toNat ++ source))
  else .error .outOfRange

/-- Where a link or an image ends whose label opens at `position`: behind the target
in parentheses or the second label in brackets, or else behind the label. -/
def linkSourceEnd (source : Text) (position : Int) : Except OffsetError Int := do
  let stop ← skipBalanced source position '[' ']'
  match if stop < source.length then item? source stop else none with
  | some '(' => skipBalanced source stop '(' ')'
  | some '[' => skipBalanced source stop '[' ']'
  | _ => return stop

end JapaneseSpacing
