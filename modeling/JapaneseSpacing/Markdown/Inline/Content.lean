import JapaneseSpacing.Markdown.Inline.Delimiter
import JapaneseSpacing.Markdown.Inline.Scan

/-!
# Inline content

A content is read from left to right. What is no form gathers as plain text, markers are
kept until the whole stretch has been read, and the label of a link is a stretch of its
own.
-/

namespace JapaneseSpacing

/-- What has been read of a stretch. -/
structure InlineState where
  pieces : List Piece := []
  /-- Plain text that is no piece yet. -/
  pending : Text := []
  /-- How many links are open. -/
  linkDepth : Int
deriving Repr

namespace InlineState

/-- Turn the pending text into a piece. -/
def flush (state : InlineState) : InlineState :=
  if state.pending.isEmpty then state
  else { state with pieces := state.pieces ++ [.token (.ofText state.pending 0)], pending := [] }

/-- Add tokens behind the pending text. -/
def push (state : InlineState) (tokens : List Token) : InlineState :=
  let flushed := state.flush
  { flushed with pieces := flushed.pieces ++ tokens.map Piece.token }

/-- Add markers behind the pending text. -/
def pushPieces (state : InlineState) (pieces : List Piece) : InlineState :=
  let flushed := state.flush
  { flushed with pieces := flushed.pieces ++ pieces }

/-- Add plain text. -/
def pend (state : InlineState) (text : Text) : InlineState :=
  { state with pending := state.pending ++ text }

/-- The tokens that have been read. -/
def tokens (state : InlineState) : List Token :=
  resolveMarkers state.flush.pieces

end InlineState

/-- The characters that stand around a run: white space where there are none. -/
def Stretch.neighbours (stretch : Stretch) (start stop : Nat) : Char × Char :=
  let before := if start = 0 then none else stretch.content[start - 1]?
  (before.getD ' ', (stretch.char? stop).getD ' ')

/-- The markers at a place and how many characters they are. A single tilde is no marker,
and of an odd number of them the first is not. -/
def markersAt? (stretch : Stretch) (place : Nat) : Option (List Piece × Nat) :=
  match stretch.char? place with
  | none => none
  | some marker =>
    let run := ((stretch.rest place).takeWhile (· = marker)).length
    let (before, after) := stretch.neighbours place (place + run)
    let flanking := Flanking.ofNeighbours before after (marker ≠ '_')
    if marker = '*' ∨ marker = '_' then
      some (List.replicate run (.delimiter
        { marker, run, canOpen := flanking.canOpen, canClose := flanking.canClose } [marker]), run)
    else if marker = deletionMarker ∧ 2 ≤ run then
      let lone : List Piece := if run % 2 = 1 then [.token (.ofText [marker] 0)] else []
      some (lone ++ List.replicate (run / 2) (.delimiter
        { marker, run := 0, canOpen := flanking.canOpen, canClose := flanking.canClose }
        [marker, marker]), run)
    else none

/-- A way to read the stretch between two places inside so many links. -/
abbrev StretchReader := Nat → Nat → Int → Scanning InlineState

/-- The state after a line feed: one space in front of it is dropped, several make the
line break a hard one. -/
def InlineState.breakLine (state : InlineState) : InlineState :=
  let kept := Text.dropRightWhile (· = ' ') state.pending
  let kind := if kept.length + 2 ≤ state.pending.length then TokenKind.hardBreak else .softBreak
  { state with pending := kept }.push [{ kind }]

/-- The tokens of a link around some others. -/
def linkTokens (target markup info : Text) (inside : List Token) : List Token :=
  { kind := .opening .link, nesting := 1, markup, info, href := some target }
    :: inside ++ [{ kind := .closing .link, nesting := -1, markup, info }]

/-- Add a form, whose source is given, to what has been read. `read` reads the label of a
link. -/
def InlineState.add (read : StretchReader) (state : InlineState) (source : Text) :
    InlineForm → Scanning InlineState
  | .plain => return state.pend source
  | .address count address =>
    let before := { state with pending := state.pending.take (state.pending.length - count) }
    return before.push (linkTokens address plainLinkMarkup autoLinkInfo
      [.ofText (shownAddress address) 0])
  | .lineFeed => return state.breakLine
  | .escapedLineFeed => return state.push [{ kind := .hardBreak }]
  | .special => return state.push [{ kind := .special, markup := source, content := unescape source }]
  | .code markup =>
    let content := (source.drop markup.length).take (source.length - 2 * markup.length)
    return state.push [{ kind := .codeSpan, markup, content }]
  | .link labelStart labelStop target => do
    let inside ← read labelStart labelStop (state.linkDepth + 1)
    let linked := state.push (linkTokens target [] [] inside.tokens)
    return { linked with linkDepth := inside.linkDepth - 1 }
  | .image => return state.push [{ kind := .image }]
  | .bracketedAddress address target =>
    return state.push (linkTokens target angleLinkMarkup autoLinkInfo
      [.ofText (shownAddress address) 0])
  | .html =>
    let opened := if Html.opensLink source then state.linkDepth + 1 else state.linkDepth
    let closed := if Html.closesLink source then opened - 1 else opened
    let pushed := state.push [{ kind := .rawHtml, content := source }]
    return { pushed with linkDepth := closed }

/-- Read a stretch from a place on. `read` reads labels and `depth` is how deep brackets
may be nested. -/
def readFrom (read : StretchReader) (depth : Nat) (stretch : Stretch) (place : Nat)
    (state : InlineState) : Scanning InlineState :=
  match stretch.char? place with
  | none => return state
  | some char =>
    if place < stretch.stop then
      match markersAt? stretch place with
      | some (pieces, length) =>
        readFrom read depth stretch (max (place + 1) (place + length)) (state.pushPieces pieces)
      | none => do
        let here := { stretch with pending := state.pending, linkDepth := state.linkDepth }
        match ← recognize (skipForm depth here) here place with
        | none => readFrom read depth stretch (place + 1) (state.pend [char])
        | some found =>
          let source := Text.slice stretch.content place found.stop
          let next ← state.add read source found.form
          readFrom read depth stretch (max (place + 1) found.stop) next
    else return state
termination_by stretch.stop - place

/-- Read stretches of a content in which brackets may be nested so many levels deep. -/
def readStretch (content : Text) (definitions : List LinkDefinition) : Nat → StretchReader
  | 0 => fun start stop linkDepth =>
    return { pending := Text.slice content start stop, linkDepth }
  | depth + 1 => fun start stop linkDepth =>
    readFrom (readStretch content definitions depth) (depth + 1) { content, stop, definitions } start
      { linkDepth }

/-- The tokens of an inline content in which brackets may be nested `depth` deep. -/
def inlineTokens (depth : Nat) (definitions : List LinkDefinition) (content : Text) : List Token :=
  let (state, _) := (readStretch content definitions depth 0 content.length 0).run {}
  joinTexts 0 state.tokens

end JapaneseSpacing
