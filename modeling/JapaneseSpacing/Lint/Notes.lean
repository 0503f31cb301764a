import JapaneseSpacing.Lint.Markdown
import JapaneseSpacing.Log
import JapaneseSpacing.Text.Quoted

/-!
# Notes on a linted text

The log records that accompany linting: what did not fit when the tree was built, then node
by node the cores that were left alone and the messages that were found.
-/

namespace JapaneseSpacing

/-- A note as a log record. -/
def LogRecord.note (text : Text) : LogRecord :=
  ⟨.debug, text⟩

/-- What is said about something that did not fit. -/
def TreeNote.text : TreeNote → Text
  | .lineNotFound part line =>
    let shownLine := match line with
      | some line => Text.ofInt line
      | none => "None".toList
    "Could not locate ".toList ++ part.quoted ++ " on line ".toList ++ shownLine
  | .tokenNotFound kind needle content =>
    "Could not locate ".toList ++ kind.name.toList ++ " token ".toList ++ needle.quoted
      ++ " in ".toList ++ content.quoted
  | .autoLinkNotFound shown => "Could not locate auto-link text ".toList ++ shown.quoted
  | .linkLabelNotFound => "Could not locate link label".toList
  | .tokenIgnored kind => "Ignoring inline token ".toList ++ kind.name.toList

/-- What is said about a core that is left alone. -/
def skipNote (core : HalfWidthCore) : Text :=
  "Skipping ".toList ++ core.text.quoted ++ ": preceded by a symbol".toList

/-- What is said about a message. -/
def messageNote (message : Message) : Text :=
  Text.ofInt message.line ++ [':'] ++ Text.ofInt message.column ++ [' '] ++ message.message

/-- The notes on one node: the cores that were left alone, then the messages. -/
def nodeNotes (text : Text) (settings : Settings) (place : Located) : List Text :=
  let skipped :=
    if place.node.type = .str && !place.isBelow settings.skipNodes then
      skippedCores (place.node.source text)
    else []
  skipped.map skipNote ++ (nodeMessages text settings place).map messageNote

/-- The notes on a whole tree in document order. -/
def treeNotes (text : Text) (settings : Settings) (root : Node) : List Text :=
  root.walk.flatMap (nodeNotes text settings)

/-- The notes on a text that is linted as one node of plain text. -/
def plainTextNotes (text : Text) : List Text :=
  treeNotes text {} (.leaf .str ⟨0, text.length⟩)

/-- The notes on a Markdown document. Those on its tree are all there is if no tree could be
built. -/
def markdownNotes (text : Text) (settings : Settings) : List Text :=
  let source := prepareSource text
  let (result, state) := parseMarkdown source
  let checked := match result with
    | .ok tree => treeNotes source settings tree
    | .error _ => []
  state.notes.map TreeNote.text ++ checked

end JapaneseSpacing
