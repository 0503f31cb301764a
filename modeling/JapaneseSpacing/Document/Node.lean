import JapaneseSpacing.Spacing.Violation

/-!
# Document trees

A node has a type, the span of the document that it covers, and children in
document order. Spans point into the whole document and not into the parent.
`Node.walk` lists a tree in document order, each node with its ancestors.
-/

namespace JapaneseSpacing

/-- The kinds of nodes of a document. -/
inductive NodeType where
  | document
  | paragraph
  | header
  | blockQuote
  | list
  | listItem
  | table
  | tableRow
  | tableCell
  | codeBlock
  | html
  | horizontalRule
  | str
  | link
  | image
  | code
  | emphasis
  | strong
  | delete
  | lineBreak
deriving Repr, DecidableEq

namespace NodeType

/-- Every node type, in the order of their definition. -/
def all : List NodeType :=
  [document, paragraph, header, blockQuote, list, listItem, table, tableRow, tableCell, codeBlock,
    html, horizontalRule, str, link, image, code, emphasis, strong, delete, lineBreak]

/-- The word for a node type. -/
def name : NodeType → String
  | document => "Document"
  | paragraph => "Paragraph"
  | header => "Header"
  | blockQuote => "BlockQuote"
  | list => "List"
  | listItem => "ListItem"
  | table => "Table"
  | tableRow => "TableRow"
  | tableCell => "TableCell"
  | codeBlock => "CodeBlock"
  | html => "Html"
  | horizontalRule => "HorizontalRule"
  | str => "Str"
  | link => "Link"
  | image => "Image"
  | code => "Code"
  | emphasis => "Emphasis"
  | strong => "Strong"
  | delete => "Delete"
  | lineBreak => "Break"

/-- The node type of a given word. -/
def ofName? (word : String) : Option NodeType :=
  all.find? fun type => type.name == word

end NodeType

/-- A node of a document tree. -/
inductive Node where
  | mk (type : NodeType) (span : Span) (children : List Node)
deriving Repr

namespace Node

/-- The type of a node. -/
def type : Node → NodeType
  | mk type _ _ => type

/-- The span of the document that a node covers. -/
def span : Node → Span
  | mk _ span _ => span

/-- The nodes directly below a node. -/
def children : Node → List Node
  | mk _ _ children => children

/-- A node without children. -/
def leaf (type : NodeType) (span : Span) : Node :=
  mk type span []

end Node

/-- A node of a tree together with its ancestors, the parent first. -/
structure Located where
  node : Node
  ancestors : List Node

/-- The node directly above. -/
def Located.parent? (place : Located) : Option Node :=
  place.ancestors.head?

/-- Whether some ancestor has one of the given types. -/
def Located.isBelow (place : Located) (types : List NodeType) : Bool :=
  place.ancestors.any fun ancestor => types.contains ancestor.type

mutual

/-- A node and its descendants in document order, below the given ancestors. -/
def Node.walkBelow (ancestors : List Node) : Node → List Located
  | .mk type span children =>
    ⟨.mk type span children, ancestors⟩
      :: Node.walkChildren (.mk type span children :: ancestors) children

/-- Neighbouring nodes and their descendants in document order. -/
def Node.walkChildren (ancestors : List Node) : List Node → List Located
  | [] => []
  | child :: rest => Node.walkBelow ancestors child ++ Node.walkChildren ancestors rest

end

/-- All nodes of a tree in document order. -/
def Node.walk (root : Node) : List Located :=
  root.walkBelow []

end JapaneseSpacing
