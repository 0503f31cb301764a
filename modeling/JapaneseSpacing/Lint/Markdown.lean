import JapaneseSpacing.Document.FrontMatter
import JapaneseSpacing.Lint.Rule
import JapaneseSpacing.Markdown.Document

/-!
# Linting Markdown

The messages of a Markdown document, in the order of their offsets. Offsets refer to the
prepared document, and messages with the same offset stay in document order.
-/

namespace JapaneseSpacing

/-- Messages in the order of their offsets. -/
def sortMessages (messages : List Message) : List Message :=
  messages.mergeSort fun first second => first.index ≤ second.index

/-- The messages of a document whose prepared text is read as a tree by `parse`. -/
def lintDocument (parse : Text → Except TreeError Node) (text : Text) (settings : Settings) :
    Except TreeError (List Message) :=
  let source := prepareSource text
  (parse source).map fun tree => sortMessages (lintTree source settings tree)

/-- The messages of a Markdown document. -/
def lintMarkdown (text : Text) (settings : Settings) : Except TreeError (List Message) :=
  lintDocument (fun source => (parseMarkdown source).1) text settings

end JapaneseSpacing
