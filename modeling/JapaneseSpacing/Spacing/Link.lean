import JapaneseSpacing.HalfWidth.Address
import JapaneseSpacing.Spacing.Violation

/-!
# Outer boundaries of links

A link written with brackets is exempt. Any other link needs a blank between
itself and a full-width neighbour that is no symbol. Text that was absorbed into
the link behind its address is set apart first, and a violation it causes is
anchored to the link itself, at the end of the address.
-/

namespace JapaneseSpacing

/-- A link whose source does not open with a bracket. -/
def isAutoLink (source : Text) : Bool :=
  source.head? != some '['

/-- A blank is missing in front of a link. -/
def leadingSpaceRequired (label : Text) (index : Int) : Violation where
  message := "全角文字と".toList ++ label ++ "の間にはスペースを入れる必要があります".toList
  index
  anchor := .parent
  fix := some (.insertSpace index)

/-- A blank is missing behind a link's address. -/
def trailingSpaceRequired (label : Text) (index : Int) (anchor : Anchor) : Violation where
  message := label ++ "と全角文字の間にはスペースを入れる必要があります".toList
  index
  anchor
  fix := some (.insertSpace index)

/-- The violation in front of a link that starts at `start` of its parent's text. -/
def leadingLinkViolation? (label : Text) (start : Int) (parentText : Text) : Option Violation :=
  if 0 < start ∧ start ≤ parentText.length
      ∧ parentText[(start - 1).toNat]?.any isSpacingTarget then
    some (leadingSpaceRequired label start)
  else none

/-- The violation behind a link that stops at `stop` of its parent's text. The text
absorbed into the link decides, or else the parent's character behind it. -/
def trailingLinkViolation? (address : LeadingAddress) (stop : Int) (parentText : Text) :
    Option Violation :=
  match address.trailing with
  | absorbed :: _ =>
    if isSpacingTarget absorbed then
      some (trailingSpaceRequired address.kind.label address.content.length .node)
    else none
  | [] =>
    if 0 ≤ stop ∧ parentText[stop.toNat]?.any isSpacingTarget then
      some (trailingSpaceRequired address.kind.label stop .parent)
    else none

/-- The violations at both outer boundaries of a link, given its source and where it
starts and stops in its parent's text. -/
def checkLink (source : Text) (start stop : Int) (parentText : Text) : List Violation :=
  if isAutoLink source then
    let address := LeadingAddress.ofText source
    (leadingLinkViolation? address.kind.label start parentText).toList
      ++ (trailingLinkViolation? address stop parentText).toList
  else []

end JapaneseSpacing
