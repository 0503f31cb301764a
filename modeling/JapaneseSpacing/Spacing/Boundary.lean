import JapaneseSpacing.HalfWidth.Core
import JapaneseSpacing.Spacing.Violation

/-!
# Boundaries of half-width cores

The neighbour just outside a core's outer span decides. Beside a full-width
character that is no symbol, a phrase must be separated by a blank and a single
word must not be; beside anything else there is nothing to say. A core that
directly follows a symbol is skipped on both sides.
-/

namespace JapaneseSpacing

/-- How many characters of a phrase a message shows. -/
def previewLength : Nat := 10

/-- The wording of the complaint about a phrase. -/
def spaceRequiredWording : Text :=
  "全角文字とスペースを含む半角文字列の間にはスペースを入れる必要があります: ".toList

/-- The wording of the complaint about a single word. -/
def spaceForbiddenWording : Text :=
  "全角文字とスペースを含まない半角文字列の間にはスペースを入れないでください: ".toList

/-- A blank is missing at `index`. -/
def spaceRequired (context : Text) (index : Int) : Violation where
  message := spaceRequiredWording ++ ['"'] ++ context ++ ['"']
  index
  fix := some (.insertSpace index)

/-- The blanks of `span` should not be there. -/
def spaceForbidden (context : Text) (index : Int) (span : Span) : Violation where
  message := spaceForbiddenWording ++ ['"'] ++ context ++ ['"']
  index
  fix := some (.remove span)

/-- A side of a core. -/
inductive Side where
  | before
  | after
deriving Repr, DecidableEq

/-- What a character in front of a core's outer span says about the core. -/
def violationBefore? (neighbour : Char) (core : HalfWidthCore) : Option Violation :=
  if !isSpacingTarget neighbour then none
  else if core.isPhrase && !core.hasBlankBefore then
    some (spaceRequired (neighbour :: core.text.take previewLength ++ "...".toList) core.start)
  else if !core.isPhrase && core.hasBlankBefore then
    some (spaceForbidden (neighbour :: ' ' :: core.text) core.outerStart
      ⟨core.outerStart, core.start⟩)
  else none

/-- What a character behind a core's outer span says about the core. -/
def violationAfter? (neighbour : Char) (core : HalfWidthCore) : Option Violation :=
  if !isSpacingTarget neighbour then none
  else if core.isPhrase && !core.hasBlankAfter then
    some (spaceRequired
      ("...".toList ++ core.text.drop (core.text.length - previewLength) ++ [neighbour]) core.stop)
  else if !core.isPhrase && core.hasBlankAfter then
    some (spaceForbidden (core.text ++ [' ', neighbour]) core.stop ⟨core.stop, core.outerStop⟩)
  else none

/-- What a neighbour on a given side says about a core. -/
def violationBeside? (side : Side) (neighbour : Char) (core : HalfWidthCore) : Option Violation :=
  match side with
  | .before => violationBefore? neighbour core
  | .after => violationAfter? neighbour core

/-- Check one side of a core that need not come from the text. An offset beyond the
far end is refused on the left side and means the text's end on the right side. -/
def checkBoundary (text : Text) (core : HalfWidthCore) (side : Side) :
    Except OffsetError (Option Violation) :=
  let index := match side with
    | .before => core.outerStart - 1
    | .after => core.outerStop
  let isEdge := match side with
    | .before => decide (index < 0)
    | .after => decide ((text.length : Int) ≤ index)
  if isEdge then .ok none
  else
    match item? text index with
    | some neighbour => .ok (violationBeside? side neighbour core)
    | none => .error .outOfRange

/-- The character in front of a core's outer span. -/
def charBefore? (text : Text) (core : HalfWidthCore) : Option Char :=
  if 0 < core.outerStart then text[(core.outerStart - 1).toNat]? else none

/-- The character behind a core's outer span. -/
def charAfter? (text : Text) (core : HalfWidthCore) : Option Char :=
  text[core.outerStop.toNat]?

/-- A core directly behind a symbol is left alone. -/
def followsSymbol (text : Text) (core : HalfWidthCore) : Bool :=
  (charBefore? text core).any isSymbol

/-- The violations at one core, the left side first. -/
def coreViolations (text : Text) (core : HalfWidthCore) : List Violation :=
  if followsSymbol text core then []
  else
    ((charBefore? text core).bind (violationBefore? · core)).toList
      ++ ((charAfter? text core).bind (violationAfter? · core)).toList

/-- The violations of a plain text, with offsets into it, from left to right. -/
def checkText (text : Text) : List Violation :=
  (halfWidthCores text).flatMap (coreViolations text)

/-- The cores of a text that are left alone because they follow a symbol. -/
def skippedCores (text : Text) : List HalfWidthCore :=
  (halfWidthCores text).filter (followsSymbol text)

end JapaneseSpacing
