import JapaneseSpacing.Markdown.Label
import JapaneseSpacing.Markdown.Line
import JapaneseSpacing.Markdown.Token

/-!
# Where blocks are read

A block is read from numbered lines. Its context says which columns belong to it and
where the lines stop that may continue a paragraph. Reading it yields tokens, link
definitions and the line at which reading goes on.
-/

namespace JapaneseSpacing

/-- The surroundings of a block. -/
structure BlockContext where
  lines : List BlockLine
  /-- Paragraphs do not go on at or behind this line. -/
  stop : Nat
  /-- The column at which the contents of the enclosing item start. -/
  indent : Int := 0
  /-- The column at which the enclosing list starts. -/
  listIndent : Option Int := none
deriving Repr, DecidableEq

namespace BlockContext

/-- A line by its number; behind the last line all lines are blank. -/
def line (context : BlockContext) (number : Nat) : BlockLine :=
  context.lines.getD number BlockLine.none

/-- Whether a line is indented so far that it is code. -/
def isCode (context : BlockContext) (line : BlockLine) : Bool :=
  4 ≤ line.indent - context.indent

/-- Whether a line starts left of the enclosing item. -/
def isOutside (context : BlockContext) (line : BlockLine) : Bool :=
  line.indent < context.indent

/-- The first line at or behind a line that is not blank, or where paragraphs stop. -/
def skipBlank (context : BlockContext) (number : Nat) : Nat :=
  number + (((context.lines.take context.stop).drop number).takeWhile BlockLine.isBlank).length

/-- Skipping blank lines never goes back. -/
theorem le_skipBlank (context : BlockContext) (number : Nat) :
    number ≤ context.skipBlank number :=
  Nat.le_add_right _ _

/-- Where reading goes on behind a block that stops at a line: one blank line is passed
over. -/
def behindBlock (context : BlockContext) (number stop : Nat) : Nat :=
  if number < stop ∧ (context.line number).isBlank then number + 1 else number

/-- Reading goes on at or behind the line where the block stops. -/
theorem le_behindBlock (context : BlockContext) (number stop : Nat) :
    number ≤ context.behindBlock number stop := by
  unfold behindBlock
  split <;> omega

end BlockContext

/-- What has been read of a document. -/
structure BlockRun where
  tokens : List BlockToken
  definitions : List LinkDefinition := []
  /-- The line at which reading goes on. -/
  next : Nat
deriving Repr, DecidableEq

/-- A way to read the blocks from one line up to another. -/
abbrev BlockReader := BlockContext → Nat → Nat → BlockRun

namespace BlockToken

/-- The range of lines from `first` up to but not including `last`. -/
def lines (first last : Nat) : Option (Int × Int) :=
  some (first, last)

/-- Tokens between the opening and the closing token of an element. -/
def enclose (element : Element) (lineRange : Option (Int × Int)) (tokens : List BlockToken) :
    List BlockToken :=
  { kind := .opening element, nesting := 1, lineRange }
    :: tokens ++ [{ kind := .closing element, nesting := -1 }]

/-- The token for content that is still to be read. -/
def ofContent (content : Text) (first last : Nat) : BlockToken :=
  { kind := .inline, content, lineRange := lines first last, children := some [] }

/-- An element that holds nothing but content. -/
def ofElement (element : Element) (content : Text) (first contentStop last : Nat) :
    List BlockToken :=
  enclose element (lines first last) [ofContent content first contentStop]

/-- The token of a block without content. -/
def leaf (kind : TokenKind) (first last : Nat) : BlockToken :=
  { kind, lineRange := lines first last }

end BlockToken

end JapaneseSpacing
