import JapaneseSpacing.Markdown.Block.Container
import JapaneseSpacing.Markdown.Block.Definition
import JapaneseSpacing.Markdown.Block.Leaf

/-!
# Block structure of a document

A line that is not blank starts the first kind of block that accepts it, and whatever no
other kind accepts is a paragraph. Blocks are nested up to a limit, behind which nothing
is read any more.
-/

namespace JapaneseSpacing

/-- Read the block that a line starts. -/
def readBlockAt (readQuoted readItem : BlockReader) (context : BlockContext) (start stop : Nat) :
    BlockRun :=
  (readTable? context start stop
    <|> readCode? context start stop
    <|> readFence? context start stop
    <|> readQuote? readQuoted context start stop
    <|> readBreak? context start
    <|> readList? readItem context start stop
    <|> readDefinition? context start
    <|> readHtml? context start stop
    <|> readHeading? context start
    <|> readUnderlined? context start stop).getD (readParagraph context start)

/-- Read blocks up to a line that does not belong to the enclosing item. -/
def readBlocksUntil (readQuoted readItem : BlockReader) (context : BlockContext) (start stop : Nat) :
    BlockRun :=
  let number := context.skipBlank start
  if start < stop ∧ number < stop then
    if context.isOutside (context.line number) then { tokens := [], next := number }
    else
      let run := readBlockAt readQuoted readItem context number stop
      let next := context.behindBlock (max (number + 1) run.next) stop
      let rest := readBlocksUntil readQuoted readItem context next stop
      { tokens := run.tokens ++ rest.tokens, definitions := run.definitions ++ rest.definitions,
        next := rest.next }
  else { tokens := [], next := if start < stop then number else start }
termination_by stop - start
decreasing_by
  have skipped := context.le_skipBlank start
  have passed := context.le_behindBlock
    (max (context.skipBlank start + 1)
      (readBlockAt readQuoted readItem context (context.skipBlank start) stop).next) stop
  omega

/-- Read nothing where blocks are nested too deeply. -/
def readNothing : BlockReader := fun context start stop =>
  let number := context.skipBlank start
  { tokens := [],
    next :=
      if start < stop then
        if number < stop ∧ !context.isOutside (context.line number) then stop else number
      else start }

/-- Read blocks that may be nested so many levels deep. A quote is one level, a list and
its item are two. -/
def readNested : Nat → BlockReader
  | 0 => readNothing
  | 1 => readBlocksUntil readNothing readNothing
  | depth + 2 => readBlocksUntil (readNested (depth + 1)) (readNested depth)

/-- How deep blocks, and brackets in inline content, may be nested. -/
def mostNesting : Nat := 20

/-- The block structure of a text with normalized line breaks. -/
def blockStructure (text : Text) : BlockRun :=
  let lines := BlockLine.ofLines (Text.lines text)
  readNested mostNesting { lines, stop := lines.length } 0 lines.length

end JapaneseSpacing
