import JapaneseSpacing.Document.Node
import JapaneseSpacing.Lint.Message
import JapaneseSpacing.Lint.Settings
import JapaneseSpacing.Spacing.Boundary
import JapaneseSpacing.Spacing.Link
import JapaneseSpacing.Text.Line

/-!
# The spacing rule on a document tree

Text nodes are checked as plain text unless an ancestor is of a skipped type, and
links are checked at their outer boundaries inside their parent's source. The
messages of a tree come in document order, and each depends only on its node, that
node's ancestors, and the text.
-/

namespace JapaneseSpacing

/-- The characters of the document that a node covers. -/
def Node.source (text : Text) (node : Node) : Text :=
  Text.slice text node.span.start node.span.stop

/-- Place a violation found at a node in the document. It is anchored to the node's
parent only if there is one. -/
def Violation.toMessage (text : Text) (place : Located) (violation : Violation) : Message :=
  let target := match violation.anchor, place.parent? with
    | .parent, some parent => parent
    | _, _ => place.node
  let origin := target.span.start
  let index := origin + violation.index
  let position := Position.ofOffset (Text.lineStarts text) index
  { message := violation.message
    index
    line := position.line
    column := position.column
    fix := violation.fix.map (·.shift origin) }

/-- The violations of a text node. -/
def strViolations (text : Text) (settings : Settings) (place : Located) : List Violation :=
  if place.isBelow settings.skipNodes then [] else checkText (place.node.source text)

/-- The violations of a link, which needs a parent to have neighbours in. -/
def linkViolations (text : Text) (place : Located) : List Violation :=
  match place.parent? with
  | none => []
  | some parent =>
    let origin := parent.span.start
    checkLink (place.node.source text) (place.node.span.start - origin)
      (place.node.span.stop - origin) (parent.source text)

/-- The violations of one node; only text and, if the settings say so, links have any. -/
def nodeViolations (text : Text) (settings : Settings) (place : Located) : List Violation :=
  match place.node.type with
  | .str => strViolations text settings place
  | .link => if settings.checkLinks then linkViolations text place else []
  | _ => []

/-- The messages of one node. -/
def nodeMessages (text : Text) (settings : Settings) (place : Located) : List Message :=
  (nodeViolations text settings place).map (·.toMessage text place)

/-- The messages of a whole tree in document order. -/
def lintTree (text : Text) (settings : Settings) (root : Node) : List Message :=
  root.walk.flatMap (nodeMessages text settings)

/-- Lint a text as one node of plain text, without reading any markup. -/
def lintText (text : Text) : List Message :=
  lintTree text {} (.leaf .str ⟨0, text.length⟩)

end JapaneseSpacing
