import JapaneseSpacing.Proofs.Source.LinkEnd
import JapaneseSpacing.Source.Tree

/-!
# Inline trees as they are written

An inline tree has a source, tokens that show it, and nodes that span the source of its
items. Well-formed trees are those whose items can be told apart in the source.
-/

namespace JapaneseSpacing

/-- What is read of a token when it is located: its kind, and its content or its markup. -/
def Token.outline (token : Token) : Token :=
  match token.kind with
  | .text => { kind := .text, content := token.content }
  | .rawHtml => { kind := .rawHtml, content := token.content }
  | .special => { kind := .special, markup := token.markup }
  | .codeSpan => { kind := .codeSpan, markup := token.markup }
  | .opening element => { kind := .opening element, markup := token.markup }
  | .closing .link => { kind := .closing .link }
  | .closing element => { kind := .closing element, markup := token.markup }
  | kind => { kind }

/-! ## Items -/

/-- An item of running text. Neighbouring ones become one node. -/
inductive RunningText where
  | plain (content : Text)
  /-- An escaped character or a character reference, by its source. -/
  | special (markup : Text)
  | softBreak

namespace RunningText

/-- The source of an item. -/
def source : RunningText → Text
  | plain content => content
  | special markup => markup
  | softBreak => ['\n']

/-- The token that shows an item. -/
def token : RunningText → Token
  | plain content => { kind := .text, content }
  | special markup => { kind := .special, markup }
  | softBreak => { kind := .softBreak }

/-- Text is not empty, and only a soft break is a line feed. -/
def WellFormed : RunningText → Prop
  | plain content => content ≠ [] ∧ '\n' ∉ content
  | special markup => markup ≠ [] ∧ '\n' ∉ markup
  | softBreak => True

end RunningText

/-- What makes a line feed a hard break. -/
inductive BreakMark where
  | backslash
  | spaces

/-- The characters in front of the line feed. -/
def BreakMark.text : BreakMark → Text
  | backslash => ['\\']
  | spaces => [' ', ' ']

/-- A run of so many backticks. -/
def backticks (count : Nat) : Text :=
  List.replicate count '\x60'

/-- An item that becomes a node of its own and holds no other items. -/
inductive InlineLeaf where
  /-- Code between two runs of `count` backticks. -/
  | code (count : Nat) (body : Text)
  | angleLink (address : Text)
  | plainLink (shown : Text)
  | image (label target : Text)
  | html (content : Text)
  | hardBreak (mark : BreakMark)

namespace InlineLeaf

/-- The source of an item. -/
def source : InlineLeaf → Text
  | code count body => backticks count ++ body ++ backticks count
  | angleLink address => '<' :: address ++ ['>']
  | plainLink shown => shown
  | image label target => '!' :: linkSource label target
  | html content => content
  | hardBreak mark => mark.text ++ ['\n']

/-- The tokens of a link that shows a text. -/
def linkTokens (markup shown : Text) : List Token :=
  [{ kind := .opening .link, markup }, { kind := .text, content := shown },
    { kind := .closing .link }]

/-- The tokens that show an item. -/
def tokens : InlineLeaf → List Token
  | code count _ => [{ kind := .codeSpan, markup := backticks count }]
  | angleLink address => linkTokens angleLinkMarkup address
  | plainLink shown => linkTokens plainLinkMarkup shown
  | image _ _ => [{ kind := .image }]
  | html content => [{ kind := .rawHtml, content }]
  | hardBreak _ => [{ kind := .hardBreak }]

/-- The span of a stretch of the source that starts at an offset. -/
def spanAt (offset : Nat) (stretch : Text) : Span :=
  ⟨offset, (offset + stretch.length : Nat)⟩

/-- The node of an item whose source starts at an offset. -/
def node (offset : Nat) : InlineLeaf → Node
  | item@(code _ _) => .leaf .code (spanAt offset item.source)
  | item@(angleLink address) =>
    .mk .link (spanAt offset item.source) [.leaf .str (spanAt (offset + 1) address)]
  | item@(plainLink shown) =>
    .mk .link (spanAt offset item.source) [.leaf .str (spanAt offset shown)]
  | item@(image _ _) => .leaf .image (spanAt offset item.source)
  | item@(html _) => .leaf .html (spanAt offset item.source)
  | hardBreak mark => .leaf .lineBreak (spanAt (offset + mark.text.length) ['\n'])

/-- A text has no run of exactly so many backticks. -/
def LacksRun (count : Nat) (body : Text) : Prop :=
  ∀ front behind, body = front ++ backticks count ++ behind →
    front.getLast? = some '\x60' ∨ behind.head? = some '\x60'

/-- An item can be told apart from the source behind it. -/
def WellFormed (behind : Text) : InlineLeaf → Prop
  | code count body => 1 ≤ count ∧ body ≠ [] ∧ body.head? ≠ some '\x60'
      ∧ body.getLast? ≠ some '\x60' ∧ LacksRun count body ∧ behind.head? ≠ some '\x60'
  | angleLink address => address ≠ [] ∧ '\n' ∉ address ∧ '>' ∉ address
  | plainLink shown => shown ≠ [] ∧ '\n' ∉ shown
  | image label target => Balanced .square label ∧ Balanced .round target
  | html content => content ≠ []
  | hardBreak _ => True

end InlineLeaf

/-- What just encloses other items. -/
inductive Enclosure where
  | emphasis
  | strong
  | strikethrough

/-- The element of an enclosure. -/
def Enclosure.element : Enclosure → Element
  | emphasis => .emphasis
  | strong => .strong
  | strikethrough => .strikethrough

/-- The type of the node of an enclosure. -/
def Enclosure.nodeType : Enclosure → NodeType
  | emphasis => .emphasis
  | strong => .strong
  | strikethrough => .delete

/-! ## Trees -/

/-- A row of items, some of which hold rows of items themselves. -/
inductive InlineTree where
  | nil
  | running (item : RunningText) (rest : InlineTree)
  | leaf (item : InlineLeaf) (rest : InlineTree)
  | enclosed (kind : Enclosure) (markup : Text) (inside rest : InlineTree)
  | link (label : InlineTree) (target : Text) (rest : InlineTree)

namespace InlineTree

/-- The source of a tree. -/
def source : InlineTree → Text
  | nil => []
  | running item rest => item.source ++ rest.source
  | leaf item rest => item.source ++ rest.source
  | enclosed _ markup inside rest => markup ++ inside.source ++ markup ++ rest.source
  | link label target rest => linkSource label.source target ++ rest.source

/-- The outlines of the tokens that show a tree. -/
def tokens : InlineTree → List Token
  | nil => []
  | running item rest => item.token :: rest.tokens
  | leaf item rest => item.tokens ++ rest.tokens
  | enclosed kind markup inside rest =>
    { kind := .opening kind.element, markup } :: inside.tokens
      ++ { kind := .closing kind.element, markup } :: rest.tokens
  | link label _ rest =>
    { kind := .opening .link } :: label.tokens ++ { kind := .closing .link } :: rest.tokens

/-- The node of running text that started somewhere, if there is any. -/
def textNode (started : Option Nat) (stop : Nat) : List Node :=
  match started with
  | none => []
  | some start => [.leaf .str ⟨start, stop⟩]

/-- The nodes of a tree whose source starts at an offset, where running text in front of it
may have started before. -/
def nodes (started : Option Nat) (offset : Nat) : InlineTree → List Node
  | nil => textNode started offset
  | running item rest => rest.nodes (started.or (some offset)) (offset + item.source.length)
  | leaf item rest =>
    textNode started offset
      ++ item.node offset :: rest.nodes none (offset + item.source.length)
  | enclosed kind markup inside rest =>
    let source := markup ++ inside.source ++ markup
    textNode started offset
      ++ .mk kind.nodeType (InlineLeaf.spanAt offset source)
          (inside.nodes none (offset + markup.length))
        :: rest.nodes none (offset + source.length)
  | link label target rest =>
    let source := linkSource label.source target
    textNode started offset
      ++ .mk .link (InlineLeaf.spanAt offset source) (label.nodes none (offset + 1))
        :: rest.nodes none (offset + source.length)

/-- Every item of a tree can be told apart from what stands behind it, markup is not empty,
and the parts of links are balanced. -/
def WellFormed (behind : Text) : InlineTree → Prop
  | nil => True
  | running item rest => item.WellFormed ∧ rest.WellFormed behind
  | leaf item rest => item.WellFormed (rest.source ++ behind) ∧ rest.WellFormed behind
  | enclosed _ markup inside rest =>
    markup ≠ [] ∧ inside.WellFormed (markup ++ rest.source ++ behind) ∧ rest.WellFormed behind
  | link label target rest =>
    Balanced .square label.source ∧ Balanced .round target
      ∧ label.WellFormed (']' :: BracketPair.round.enclose target ++ rest.source ++ behind)
      ∧ rest.WellFormed behind

end InlineTree

end JapaneseSpacing
