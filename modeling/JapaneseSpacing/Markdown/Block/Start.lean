import JapaneseSpacing.Markdown.Block.Context
import JapaneseSpacing.Markdown.HtmlTag

/-!
# How blocks start

Which lines start a block of each kind, and which of them may do so in the middle of a
paragraph, a quote or a list.
-/

namespace JapaneseSpacing

/-! ## Fences -/

/-- The line that opens a fence. -/
structure FenceOpening where
  marker : Char
  length : Nat
deriving Repr, DecidableEq

/-- The fence that a line opens. Behind backticks no other backtick may follow. -/
def fenceOpening? (context : BlockContext) (line : BlockLine) : Option FenceOpening :=
  match line.body with
  | [] => none
  | marker :: rest =>
    let length := (rest.takeWhile (· = marker)).length + 1
    if context.isCode line ∨ (marker ≠ '~' ∧ marker ≠ '\x60') ∨ length < 3
        ∨ (marker = '\x60' ∧ (rest.dropWhile (· = marker)).contains marker) then none
    else some ⟨marker, length⟩

/-- Whether a line closes a fence: with at least as many markers and nothing else. -/
def FenceOpening.closedBy (opening : FenceOpening) (context : BlockContext) (line : BlockLine) :
    Bool :=
  !context.isCode line && opening.length ≤ (line.body.takeWhile (· = opening.marker)).length
    && (line.body.dropWhile (· = opening.marker)).all isIndentation

/-! ## Quotes, breaks and headings -/

/-- Whether a line starts a quote. -/
def startsQuote (context : BlockContext) (line : BlockLine) : Bool :=
  !context.isCode line && line.body.head? = some '>'

/-- Whether a line is a thematic break: three or more of one marker and indentation. -/
def isThematicBreak (context : BlockContext) (line : BlockLine) : Bool :=
  match line.body with
  | [] => false
  | marker :: rest =>
    !context.isCode line && ['*', '-', '_'].contains marker
      && rest.all (fun char => char = marker || isIndentation char)
      && 2 ≤ rest.count marker

/-- The content of the heading on a line, without its markers. -/
def headingContent? (context : BlockContext) (line : BlockLine) : Option Text :=
  let level := (line.body.takeWhile (· = '#')).length
  let rest := line.body.dropWhile (· = '#')
  if context.isCode line ∨ level = 0 ∨ 6 < level ∨ !(rest.head?.all isIndentation) then none
  else
    let title := Text.dropRightWhile isIndentation rest
    let withoutMarkers := Text.dropRightWhile (· = '#') title
    some (Text.trim
      (if withoutMarkers.getLast?.any isIndentation then withoutMarkers else title))

/-- Whether a line underlines the paragraph above it and makes it a heading. -/
def isUnderline (line : BlockLine) : Bool :=
  match line.body with
  | [] => false
  | marker :: rest =>
    (marker = '-' || marker = '=') && (rest.dropWhile (· = marker)).all isIndentation

/-! ## Lists -/

/-- The marker of a list item. -/
structure ListMarker where
  /-- The number of an ordered item. -/
  number : Option Nat
  /-- The last character of the marker, which all items of a list share. -/
  sign : Char
  length : Nat
deriving Repr, DecidableEq

/-- The digits an ordered item may have. -/
def mostListDigits : Nat := 9

/-- The marker that a body starts with, which is followed by indentation or nothing. -/
def listMarker? (body : Text) : Option ListMarker :=
  let digits := body.takeWhile isAsciiDigit
  match body.dropWhile isAsciiDigit with
  | [] => none
  | sign :: rest =>
    if !(rest.head?.all isIndentation) then none
    else if digits.isEmpty then
      if ['*', '-', '+'].contains sign then some ⟨none, sign, 1⟩ else none
    else if digits.length ≤ mostListDigits ∧ (sign = ')' ∨ sign = '.') then
      some ⟨some (digitsValue 10 digits), sign, digits.length + 1⟩
    else none

/-- Whether a line belongs to the paragraph of an item because it is indented beyond the
list but not as far as the item. -/
def isBetweenItems (context : BlockContext) (line : BlockLine) : Bool :=
  match context.listIndent with
  | some column => 4 ≤ line.indent - column && line.indent < context.indent
  | none => false

/-- The marker with which a line starts a list. -/
def listStart? (context : BlockContext) (line : BlockLine) : Option ListMarker :=
  if context.isCode line || isBetweenItems context line then none else listMarker? line.body

/-- Whether a line starts a list in the middle of a paragraph. Unless it ends the item
that the paragraph is in, the first item must have content and the number one, if any. -/
def listInterrupts (context : BlockContext) (line : BlockLine) : Bool :=
  match listStart? context line with
  | none => false
  | some marker =>
    context.isOutside line
      || (marker.number.all (· = 1)
        && !(line.body.drop marker.length).all isIndentation)

/-! ## HTML -/

/-- The kind of the HTML block that a line starts. -/
def htmlStart? (context : BlockContext) (line : BlockLine) : Option Html.BlockKind :=
  if context.isCode line then none else Html.BlockKind.ofLine? line.body

/-- Whether a line starts an HTML block in the middle of a paragraph. -/
def htmlInterrupts (context : BlockContext) (line : BlockLine) : Bool :=
  (htmlStart? context line).any Html.BlockKind.interrupts

/-! ## Interruptions -/

/-- Whether a line ends the unmarked continuation of a quote, or a table. -/
def endsQuote (context : BlockContext) (line : BlockLine) : Bool :=
  (fenceOpening? context line).isSome || startsQuote context line || isThematicBreak context line
    || (listStart? context line).isSome || htmlInterrupts context line
    || (headingContent? context line).isSome

/-- Whether a line ends a list although it is not indented less. -/
def endsList (context : BlockContext) (line : BlockLine) : Bool :=
  (fenceOpening? context line).isSome || startsQuote context line || isThematicBreak context line

/-- Whether a line ends a paragraph by itself, not counting tables. -/
def endsParagraph (context : BlockContext) (line : BlockLine) : Bool :=
  (fenceOpening? context line).isSome || startsQuote context line || isThematicBreak context line
    || listInterrupts context line || htmlInterrupts context line
    || (headingContent? context line).isSome

end JapaneseSpacing
