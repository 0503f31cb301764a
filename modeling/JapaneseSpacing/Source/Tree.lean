import JapaneseSpacing.Document.Node
import JapaneseSpacing.Markdown.Token
import JapaneseSpacing.Source.Bracket
import JapaneseSpacing.Source.Lines
import JapaneseSpacing.Source.Offsets

/-!
# Trees from tokens

Block tokens know the lines they come from, inline tokens only what they look like.
The tree is built by finding each line of an inline content in the document, always
at or behind the end of what was found before (the floor), and then each inline token
in the content, from left to right. What cannot be found leaves a note and no text.
-/

namespace JapaneseSpacing

/-- Something about the tokens that did not fit the document. -/
inductive TreeNote where
  | lineNotFound (part : Text) (line : Option Int)
  | tokenNotFound (kind : TokenKind) (needle content : Text)
  | autoLinkNotFound (shown : Text)
  | linkLabelNotFound
  | tokenIgnored (kind : TokenKind)
deriving Repr, DecidableEq

/-- Why the tokens give no tree: a line number or an offset that does not exist, or a
token behind the one that closed the document. -/
inductive TreeError where
  | outOfRange
  | nothingOpen
deriving Repr, DecidableEq

/-- How far the document has been read, and what was noted on the way. -/
structure ReadState where
  /-- Content is only looked for at or behind this offset. -/
  floor : Int := 0
  notes : List TreeNote := []
deriving Repr, DecidableEq

/-- A step that reads on in the document. A step that fails keeps what it has read. -/
abbrev Reading := ExceptT TreeError (StateM ReadState)

namespace Reading

/-- A result about offsets as a step. -/
def ofOffset {α : Type} : Except OffsetError α → Reading α
  | .ok value => pure value
  | .error .outOfRange => throw .outOfRange

/-- Leave a note. -/
def note (item : TreeNote) : Reading Unit :=
  modify fun state => { state with notes := state.notes ++ [item] }

/-- Move the floor. -/
def setFloor (floor : Int) : Reading Unit :=
  modify fun state => { state with floor }

end Reading

/-- Find a part on a line, or anywhere if there is no such line, at or behind the
floor, and move the floor behind it. A part that is not there counts as being found
where the search started. -/
def locatePart (source : SourceLines) (part : Text) (line : Option Int) : Reading Int := do
  let floor := (← get).floor
  let (lower, upper) ← match line with
    | some line =>
      if line < source.lines.length then
        pure (max floor (← .ofOffset (source.lineStart line)), ← .ofOffset (source.lineStop line))
      else pure (floor, (source.text.length : Int))
    | none => pure (floor, (source.text.length : Int))
  let found := if part.isEmpty then some lower
    else (source.text.find? part lower upper).map Int.ofNat
  if found.isNone then Reading.note (.lineNotFound part line)
  let position := found.getD lower
  Reading.setFloor (position + part.length)
  return position

/-- Find every line of an inline content in the document, the first one on the line
`firstLine`. The result pairs content offsets with document offsets. -/
def locateLines (source : SourceLines) (firstLine : Option Int) (contentOffset : Int) :
    List Text → Reading LineOffsets
  | [] => return ⟨[], []⟩
  | part :: rest => do
    let found ← locatePart source part firstLine
    let offsets ← locateLines source (firstLine.map (· + 1)) (contentOffset + part.length + 1) rest
    return ⟨contentOffset :: offsets.content, found :: offsets.document⟩

/-- A node that may still get children. -/
structure OpenNode where
  type : NodeType
  span : Span
  children : List Node := []

namespace OpenNode

/-- The node as it stands. -/
def close (node : OpenNode) : Node :=
  .mk node.type node.span node.children

/-- The node with one more child. -/
def append (node : OpenNode) (child : Node) : OpenNode :=
  { node with children := node.children ++ [child] }

/-- The node with its span stretched over its first and last child. Nodes whose span
is their inline content keep it. -/
def widen (node : OpenNode) : OpenNode :=
  match node.children.head?, node.children.getLast? with
  | some first, some last =>
    if [NodeType.paragraph, .header, .tableCell].contains node.type then node
    else
      { node with
        span := ⟨min node.span.start first.span.start, max node.span.stop last.span.stop⟩ }
  | _, _ => node

end OpenNode

/-! ## Inline content -/

/-- The node type of an inline element that just encloses others. -/
def Element.inlineNodeType? : Element → Option NodeType
  | .emphasis => some .emphasis
  | .strong => some .strong
  | .strikethrough => some .delete
  | _ => none

/-- How far the tokens of an inline content have been found. -/
structure InlineWalk where
  /-- The innermost open node. -/
  inner : OpenNode
  /-- The nodes around it, the content's container last. -/
  outer : List OpenNode := []
  /-- Where the open links stop in the content. -/
  linkStops : List Int := []
  /-- Tokens are looked for at or behind this offset into the content. -/
  cursor : Int := 0
  /-- The text that has been found since the last node. -/
  pending : Option Span := none

namespace InlineWalk

/-- Add a finished node to the innermost open one. -/
def append (walk : InlineWalk) (child : Node) : InlineWalk :=
  { walk with inner := walk.inner.append child }

/-- Open a node inside the innermost open one. -/
def enter (walk : InlineWalk) (type : NodeType) (span : Span) : InlineWalk :=
  { walk with inner := ⟨type, span, []⟩, outer := walk.inner :: walk.outer }

/-- Close the innermost open node, unless it is the container. -/
def leave (walk : InlineWalk) : InlineWalk :=
  match walk.outer with
  | [] => walk
  | parent :: outer => { walk with inner := parent.append walk.inner.close, outer }

/-- Let the innermost open node stop at a document offset, unless it is the container. -/
def stopInner (walk : InlineWalk) (stop : Int) : InlineWalk :=
  if walk.outer.isEmpty then walk
  else { walk with inner := { walk.inner with span := ⟨walk.inner.span.start, stop⟩ } }

/-- The container once every open node is closed where it stands. -/
def container (walk : InlineWalk) : OpenNode :=
  walk.outer.foldl (fun inner parent => parent.append inner.close) walk.inner

end InlineWalk

/-- The span in the document of a stretch of the content. -/
def LineOffsets.span (offsets : LineOffsets) (start stop : Int) : Reading Span := do
  return ⟨← .ofOffset (offsets.locate start), ← .ofOffset (offsets.locate stop)⟩

/-- Turn the text found so far into a node. -/
def InlineWalk.flush (offsets : LineOffsets) (walk : InlineWalk) : Reading InlineWalk :=
  match walk.pending with
  | none => return walk
  | some pending => do
    let span ← offsets.span pending.start pending.stop
    return { walk.append (.leaf .str span) with pending := none }

/-- Where a token's source starts in the content, at or behind the cursor. -/
def findToken (content : Text) (cursor : Int) (kind : TokenKind) (needle : Text) :
    Reading (Option Int) := do
  let found := if needle.isEmpty then none
    else (content.find? needle cursor content.length).map Int.ofNat
  if found.isNone then Reading.note (.tokenNotFound kind needle content)
  return found

/-- The source of a link in the content. A plain link is found by the text it shows, a
link in angle brackets by them, any other link by its label's bracket. -/
def linkSpan (token : Token) (label : Option Token) (content : Text) (cursor : Int) :
    Reading Span := do
  let stop : Int := content.length
  if token.markup = plainLinkMarkup then
    let shown := match label with
      | some label => if label.kind = .text then label.content else []
      | none => []
    match if shown.isEmpty then none else content.find? shown cursor stop with
    | some start => return ⟨start, start + shown.length⟩
    | none =>
      Reading.note (.autoLinkNotFound shown)
      return ⟨cursor, cursor⟩
  else if token.markup = angleLinkMarkup then
    match content.find? ['<'] cursor stop with
    | some start =>
      match content.find? ['>'] start stop with
      | some close => return ⟨start, close + 1⟩
      | none => return ⟨start, stop⟩
    | none => return ⟨cursor, cursor⟩
  else
    match content.find? ['['] cursor stop with
    | some start => return ⟨start, ← .ofOffset (linkSourceEnd content start)⟩
    | none =>
      Reading.note .linkLabelNotFound
      return ⟨cursor, cursor⟩

/-- The source of the link that opens at `index` of the tokens. -/
def linkSpanAt (children : List Token) (index : Int) (content : Text) (cursor : Int) :
    Reading Span := do
  match item? children index with
  | none => throw .outOfRange
  | some token =>
    let label := if index + 1 < children.length then item? children (index + 1) else none
    linkSpan token label content cursor

/-- Where a run of code that opened with `markup` stops: behind the next occurrence of
the markup that no backtick touches on either side. -/
def codeStop (markup : Text) (previous : Option Char) (offset : Nat) : Text → Option Nat
  | [] => if markup.isEmpty && previous != some '\x60' then some offset else none
  | first :: rest =>
    if previous != some '\x60' && markup.isPrefixOf (first :: rest)
        && ((first :: rest).drop markup.length).head? != some '\x60' then
      some (offset + markup.length)
    else codeStop markup (some first) (offset + 1) rest

/-- Where the code stops that starts at `start` of the content, the content's end if it
is not closed. -/
def codeSpanStop (content markup : Text) (start : Int) : Int :=
  let inside := min (start.toNat + markup.length) content.length
  let previous := if inside = 0 then none else content[inside - 1]?
  match codeStop markup previous inside (content.drop inside) with
  | some stop => stop
  | none => content.length

/-- The characters by which a text token is found in the content. -/
def Token.textNeedle? (token : Token) : Option Text :=
  match token.kind with
  | .text => some token.content
  | .special => some token.markup
  | .softBreak => some ['\n']
  | _ => none

/-- Read one token that belongs to running text. -/
def walkText (content : Text) (token : Token) (needle : Text) (walk : InlineWalk) :
    Reading InlineWalk := do
  match ← findToken content walk.cursor token.kind needle with
  | none => return walk
  | some start =>
    let stop := start + needle.length
    let first := match walk.pending with
      | some pending => pending.start
      | none => start
    return { walk with pending := some ⟨first, stop⟩, cursor := stop }

/-- Read one token that ends the running text before it. `next` is the token behind it. -/
def walkNode (offsets : LineOffsets) (content : Text) (token : Token) (next : Option Token)
    (walk : InlineWalk) : Reading InlineWalk := do
  match token.kind with
  | .opening .link =>
    let source ← linkSpan token next content walk.cursor
    let span ← offsets.span source.start source.stop
    let cursor := if token.markup = plainLinkMarkup then source.start
      else min (source.start + 1) source.stop
    return { walk.enter .link span with linkStops := source.stop :: walk.linkStops, cursor }
  | .closing .link =>
    let left := walk.leave
    match walk.linkStops with
    | [] => return left
    | stop :: stops => return { left with linkStops := stops, cursor := stop }
  | .image =>
    let start := (← findToken content walk.cursor token.kind ['!', '[']).getD walk.cursor
    let stop ← .ofOffset (linkSourceEnd content (start + 1))
    let span ← offsets.span start stop
    return { walk.append (.leaf .image span) with cursor := stop }
  | .codeSpan =>
    let start := (← findToken content walk.cursor token.kind token.markup).getD walk.cursor
    let stop := codeSpanStop content token.markup start
    let span ← offsets.span start stop
    return { walk.append (.leaf .code span) with cursor := stop }
  | .hardBreak =>
    match ← findToken content walk.cursor token.kind ['\n'] with
    | none => return walk
    | some start =>
      let span ← offsets.span start (start + 1)
      return { walk.append (.leaf .lineBreak span) with cursor := start + 1 }
  | .rawHtml =>
    match ← findToken content walk.cursor token.kind token.content with
    | none => return walk
    | some start =>
      let stop := start + token.content.length
      let span ← offsets.span start stop
      return { walk.append (.leaf .html span) with cursor := stop }
  | .opening element =>
    match element.inlineNodeType? with
    | none =>
      Reading.note (.tokenIgnored token.kind)
      return walk
    | some type =>
      let start := (← findToken content walk.cursor token.kind token.markup).getD walk.cursor
      let span ← offsets.span start start
      return { walk.enter type span with cursor := start + token.markup.length }
  | .closing element =>
    match element.inlineNodeType? with
    | none =>
      Reading.note (.tokenIgnored token.kind)
      return walk
    | some _ =>
      let stop := match ← findToken content walk.cursor token.kind token.markup with
        | some start => start + token.markup.length
        | none => walk.cursor
      let absolute ← .ofOffset (offsets.locate stop)
      return { (walk.stopInner absolute).leave with cursor := stop }
  | kind =>
    Reading.note (.tokenIgnored kind)
    return walk

/-- Read the tokens of an inline content from left to right. -/
def walkTokens (offsets : LineOffsets) (content : Text) (walk : InlineWalk) :
    List Token → Reading InlineWalk
  | [] => walk.flush offsets
  | token :: rest => do
    match token.textNeedle? with
    | some needle => walkTokens offsets content (← walkText content token needle walk) rest
    | none =>
      let flushed ← walk.flush offsets
      walkTokens offsets content (← walkNode offsets content token rest.head? flushed) rest

/-- Fill a container with the nodes of an inline token. The container then spans exactly
its inline content. -/
def fillContainer (source : SourceLines) (token : BlockToken) (container : OpenNode) :
    Reading OpenNode := do
  let content := token.content
  let firstLine := token.lineRange.map (·.1)
  let offsets ← locateLines source firstLine 0 (Text.lines content)
  let span ← offsets.span 0 content.length
  let walk ← walkTokens offsets content { inner := { container with span } }
    (token.children.getD [])
  return walk.container

/-! ## Block structure -/

/-- The node type of a block element; the head and the body of a table have none. -/
def Element.blockNodeType? : Element → Option NodeType
  | .paragraph => some .paragraph
  | .heading => some .header
  | .blockQuote => some .blockQuote
  | .bulletList => some .list
  | .orderedList => some .list
  | .listItem => some .listItem
  | .table => some .table
  | .tableRow => some .tableRow
  | .headerCell => some .tableCell
  | .dataCell => some .tableCell
  | _ => none

/-- The node type of a block without children. -/
def TokenKind.leafNodeType? : TokenKind → Option NodeType
  | .fence => some .codeBlock
  | .indentedCode => some .codeBlock
  | .htmlBlock => some .html
  | .thematicBreak => some .horizontalRule
  | _ => none

/-- An opened block: a node, or an element whose contents belong to the node around it. -/
inductive OpenBlock where
  | node (node : OpenNode)
  | transparent

/-- The blocks that are open, the innermost first, or the document once it is closed. -/
inductive OpenBlocks where
  | inside (blocks : List OpenBlock) (document : OpenNode)
  | closed (document : Node)

/-- Change the innermost open node of a list of blocks inside a document. -/
def changeInnermost (change : OpenNode → OpenNode) :
    List OpenBlock → OpenNode → List OpenBlock × OpenNode
  | [], document => ([], change document)
  | .node node :: blocks, document => (.node (change node) :: blocks, document)
  | .transparent :: blocks, document =>
    let (changed, document) := changeInnermost change blocks document
    (.transparent :: changed, document)

/-- The innermost open node. -/
def innermost : List OpenBlock → OpenNode → OpenNode
  | [], document => document
  | .node node :: _, _ => node
  | .transparent :: blocks, document => innermost blocks document

/-- Add a finished node to the innermost open one. -/
def appendInnermost (child : Node) (blocks : List OpenBlock) (document : OpenNode) :
    List OpenBlock × OpenNode :=
  changeInnermost (·.append child) blocks document

/-- Close the innermost block. The contents of a transparent one widen the node around
it. -/
def closeBlock : List OpenBlock → OpenNode → OpenBlocks
  | [], document => .closed document.widen.close
  | .transparent :: blocks, document =>
    let (blocks, document) := changeInnermost OpenNode.widen blocks document
    .inside blocks document
  | .node node :: blocks, document =>
    let (blocks, document) := appendInnermost node.widen.close blocks document
    .inside blocks document

/-- The document once every open block is closed where it stands. -/
def finishBlocks : List OpenBlock → OpenNode → Node
  | [], document => document.close
  | .transparent :: blocks, document => finishBlocks blocks document
  | .node node :: blocks, document =>
    match blocks with
    | [] => finishBlocks [] (document.append node.close)
    | .node parent :: outer => finishBlocks (.node (parent.append node.close) :: outer) document
    | .transparent :: outer => finishBlocks (.node node :: outer) document
termination_by blocks => blocks.length

/-- The span of a block's lines, or the empty span at the floor if it has none. -/
def blockSpan (source : SourceLines) (token : BlockToken) : Reading Span := do
  match token.lineRange with
  | some (first, last) => .ofOffset (source.rangeSpan first last)
  | none =>
    let floor := (← get).floor
    return ⟨floor, floor⟩

/-- Read one block token. -/
def readBlock (source : SourceLines) (token : BlockToken) (blocks : List OpenBlock)
    (document : OpenNode) : Reading OpenBlocks := do
  if token.nesting = 1 then
    match token.kind.openedElement.blockNodeType? with
    | none => return .inside (.transparent :: blocks) document
    | some type => return .inside (.node ⟨type, ← blockSpan source token, []⟩ :: blocks) document
  else if token.nesting = -1 then
    return closeBlock blocks document
  else if token.kind = .inline then
    let filled ← fillContainer source token (innermost blocks document)
    let (blocks, document) := changeInnermost (fun _ => filled) blocks document
    return .inside blocks document
  else
    match token.kind.leafNodeType? with
    | none => return .inside blocks document
    | some type =>
      let span ← blockSpan source token
      Reading.setFloor (max (← get).floor span.stop)
      let (blocks, document) := appendInnermost (.leaf type span) blocks document
      return .inside blocks document

/-- Read block tokens one after another. Nothing may follow the token that closes the
document. -/
def readBlocks (source : SourceLines) : OpenBlocks → List BlockToken → Reading Node
  | .inside blocks document, [] => return finishBlocks blocks document
  | .closed document, [] => return document
  | .closed _, _ :: _ => throw .nothingOpen
  | .inside blocks document, token :: rest => do
    readBlocks source (← readBlock source token blocks document) rest

/-- The tree of a document, given its block tokens. -/
def buildTree (source : SourceLines) (tokens : List BlockToken) : Reading Node :=
  readBlocks source (.inside [] { type := .document, span := ⟨0, source.text.length⟩ }) tokens

/-- Run a step from the start of the document. -/
def Reading.start {α : Type} (step : Reading α) : Except TreeError α × ReadState :=
  step.run.run {}

end JapaneseSpacing
