import JapaneseSpacing.Markdown.Block.Document
import JapaneseSpacing.Markdown.EmailLink
import JapaneseSpacing.Markdown.Inline.Content
import JapaneseSpacing.Markdown.PlainLink
import JapaneseSpacing.Source.Tree

/-!
# Parsing Markdown

A document is read in three steps: its block structure with all link definitions, the
content of each block, and the addresses in plain text. Its tree is built from the
resulting tokens.
-/

namespace JapaneseSpacing

/-- The text as it is read: with normalized line breaks and without null characters. -/
def readableText (text : Text) : Text :=
  (Text.normalizeBreaks text).map fun char => if char = '\x00' then replacementCharacter else char

/-- A block token with its content read and addresses turned into links. -/
def BlockToken.withContent (definitions : List LinkDefinition) (block : BlockToken) : BlockToken :=
  if block.kind = .inline then
    { block with children := some (inlineTokens mostNesting definitions block.content) }.linkAddresses
      |>.linkEmails
  else block

/-- The tokens of a Markdown text. -/
def markdownTokens (text : Text) : List BlockToken :=
  let run := blockStructure (readableText text)
  run.tokens.map (BlockToken.withContent run.definitions)

/-- The tree of a Markdown text, and the state in which reading it ended. -/
def parseMarkdown (text : Text) : Except TreeError Node × ReadState :=
  Reading.start (buildTree (SourceLines.ofText text) (markdownTokens text))

end JapaneseSpacing
