import JapaneseSpacing.Markdown.Block.Table

/-!
# Blocks without blocks inside

Code, HTML, breaks, headings and paragraphs. Indented code keeps the blank lines between
its lines, fenced code everything up to its closing fence. A paragraph goes on until a
blank line or a line that starts another block.
-/

namespace JapaneseSpacing

/-- Where indented code stops that has gone on up to the line `last`. Blank lines from
there up to `number` have been passed over. -/
def indentedCodeStop (context : BlockContext) (last number stop : Nat) : Nat :=
  if number < stop then
    let line := context.line number
    if line.isBlank then indentedCodeStop context last (number + 1) stop
    else if context.isCode line then indentedCodeStop context (number + 1) (number + 1) stop
    else last
  else last
termination_by stop - number

/-- Read indented code. -/
def readCode? (context : BlockContext) (start stop : Nat) : Option BlockRun :=
  if context.isCode (context.line start) then
    let next := indentedCodeStop context (start + 1) (start + 1) stop
    some { tokens := [.leaf .indentedCode start next], next }
  else none

/-- Where a fence stops. A line to the left of the enclosing item ends it, as does an
empty line at the very end of the document. -/
def fenceStop (context : BlockContext) (opening : FenceOpening) (number stop : Nat) : Nat :=
  if number < stop then
    let line := context.line number
    if (!line.isBlank && context.isOutside line) || (line.isBlank && !line.hasBreak) then number
    else if opening.closedBy context line then number + 1
    else fenceStop context opening (number + 1) stop
  else number
termination_by stop - number

/-- Read fenced code. -/
def readFence? (context : BlockContext) (start stop : Nat) : Option BlockRun :=
  (fenceOpening? context (context.line start)).map fun opening =>
    let next := fenceStop context opening (start + 1) stop
    { tokens := [.leaf .fence start next], next }

/-- Read a thematic break. -/
def readBreak? (context : BlockContext) (start : Nat) : Option BlockRun :=
  if isThematicBreak context (context.line start) then
    some { tokens := [.leaf .thematicBreak start (start + 1)], next := start + 1 }
  else none

/-- Where a block of HTML stops that has not been closed in front of the line `number`. -/
def htmlStop (context : BlockContext) (kind : Html.BlockKind) (number stop : Nat) : Nat :=
  if number < stop then
    let line := context.line number
    if context.isOutside line then number
    else if kind.stops line.body then if line.isBlank then number else number + 1
    else htmlStop context kind (number + 1) stop
  else number
termination_by stop - number

/-- Read a block of HTML. -/
def readHtml? (context : BlockContext) (start stop : Nat) : Option BlockRun :=
  let line := context.line start
  (htmlStart? context line).map fun kind =>
    let next := if kind.stops line.body then start + 1
      else htmlStop context kind (start + 1) stop
    { tokens := [.leaf .htmlBlock start next], next }

/-- Read a heading that is marked on its own line. -/
def readHeading? (context : BlockContext) (start : Nat) : Option BlockRun :=
  (headingContent? context (context.line start)).map fun content =>
    { tokens := BlockToken.ofElement .heading content start (start + 1) (start + 1)
      next := start + 1 }

/-- Whether the line `number` ends the paragraph above it, of lines up to `stop`. -/
def BlockContext.interrupts (context : BlockContext) (number stop : Nat) : Bool :=
  endsParagraph context (context.line number) || (tableHeaders? context number stop).isSome

/-- The lines of a paragraph, less the indentation of the enclosing item. -/
def paragraphText (context : BlockContext) (start next : Nat) : Text :=
  Text.trim (Text.join ['\n']
    (((context.lines.take next).drop start).map fun line => line.dedent context.indent))

/-- The line that underlines the paragraph which goes on with the line `number`. -/
def underline? (context : BlockContext) (number stop : Nat) : Option Nat :=
  if number < stop then
    let line := context.line number
    if line.isBlank then none
    else if context.isCode line then underline? context (number + 1) stop
    else if !context.isOutside line && isUnderline line then some number
    else if line.indent < 0 then underline? context (number + 1) stop
    else if context.interrupts number stop then none
    else underline? context (number + 1) stop
  else none
termination_by stop - number

/-- Read a heading that is underlined. -/
def readUnderlined? (context : BlockContext) (start stop : Nat) : Option BlockRun :=
  (underline? context (start + 1) stop).map fun number =>
    { tokens := BlockToken.ofElement .heading (paragraphText context start number) start number
        (number + 1)
      next := number + 1 }

/-- Where a paragraph stops that goes on up to the line `number`. -/
def paragraphStop (context : BlockContext) (number : Nat) : Nat :=
  if number < context.stop then
    let line := context.line number
    if line.isBlank then number
    else if context.isCode line || line.indent < 0 then paragraphStop context (number + 1)
    else if context.interrupts number context.stop then number
    else paragraphStop context (number + 1)
  else number
termination_by context.stop - number

/-- Read a paragraph. -/
def readParagraph (context : BlockContext) (start : Nat) : BlockRun :=
  let next := paragraphStop context (start + 1)
  { tokens := BlockToken.ofElement .paragraph (paragraphText context start next) start next next
    next }

end JapaneseSpacing
