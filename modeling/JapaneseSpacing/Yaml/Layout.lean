import JapaneseSpacing.Yaml.Scalar.Block
import JapaneseSpacing.Yaml.Scalar.Quoted
import JapaneseSpacing.Yaml.Scalar.Unquoted
import JapaneseSpacing.Yaml.Token

/-!
# From layout to tokens

Indentation opens and closes block collections, which become tokens of their own. A node
on one line may turn out to be a key when a colon follows it, so its place among the
tokens is kept until the line ends or too many characters have passed.
-/

namespace JapaneseSpacing

namespace Yaml

/-- The rest of a text with its place. -/
structure Cursor where
  rest : Text
  offset : Nat := 0
  line : Nat := 0
  column : Nat := 0
deriving Repr, DecidableEq

/-- The cursor so many characters further on. -/
def Cursor.advance : Nat → Cursor → Cursor
  | 0, cursor => cursor
  | count + 1, cursor =>
    match cursor.rest with
    | [] => cursor
    | first :: rest =>
      let offset := cursor.offset + 1
      if isBreak first then advance count { rest, offset, line := cursor.line + 1, column := 0 }
      else if first = byteOrderMark then advance count { cursor with rest, offset }
      else advance count { cursor with rest, offset, column := cursor.column + 1 }

/-- A node that may be a key. -/
structure PossibleKey where
  /-- How many tokens stand in front of it. -/
  place : Nat
  /-- Whether it cannot be anything else. -/
  isRequired : Bool
  offset : Nat
  line : Nat
  column : Nat
deriving Repr, DecidableEq

/-- What has been read of a document. -/
structure Layout where
  cursor : Cursor
  tokens : List Token := []
  /-- The column of the innermost block collection. -/
  indent : Int := -1
  /-- The columns of the block collections around it. -/
  outer : List Int := []
  /-- Whether a key may start here. -/
  allowsKey : Bool := true
  /-- The possible key at each depth of brackets. -/
  keys : List (Nat × PossibleKey) := []
  /-- How many brackets are open. -/
  depth : Nat := 0

/-- A step that reads on in a document. -/
abbrev Tokenizing := StateT Layout (Except Error)

namespace Layout

/-- The farthest that a colon may be from the start of its key. -/
def longestKey : Nat := 1024

/-- Add a token. -/
def emit (token : Token) : Tokenizing Unit :=
  modify fun layout => { layout with tokens := layout.tokens ++ [token] }

/-- Insert tokens behind the first `place` ones. -/
def insertAt (place : Nat) (tokens : List Token) : Tokenizing Unit :=
  modify fun layout =>
    { layout with tokens := layout.tokens.take place ++ tokens ++ layout.tokens.drop place }

/-- Read on to a rest of the text. -/
def moveTo (rest : Text) : Tokenizing Unit :=
  modify fun layout =>
    { layout with cursor := layout.cursor.advance (layout.cursor.rest.length - rest.length) }

/-- Let keys start here or not. -/
def allowKey (allowed : Bool) : Tokenizing Unit :=
  modify fun layout => { layout with allowsKey := allowed }

/-- Give up the possible keys that are too far away. -/
def dropStaleKeys : Tokenizing Unit := do
  let layout ← get
  let cursor := layout.cursor
  let isStale (key : PossibleKey) : Bool :=
    key.line ≠ cursor.line || longestKey < cursor.offset - key.offset
  if layout.keys.any fun (_, key) => isStale key && key.isRequired then throw .missingColon
  else set { layout with keys := layout.keys.filter fun (_, key) => !isStale key }

/-- Give up the possible key at this depth of brackets. -/
def dropKey : Tokenizing Unit := do
  let layout ← get
  match layout.keys.lookup layout.depth with
  | none => return
  | some key =>
    if key.isRequired then throw .missingColon
    else set { layout with keys := layout.keys.filter fun (depth, _) => depth ≠ layout.depth }

/-- Note that the next token may start a key. -/
def saveKey : Tokenizing Unit := do
  if (← get).allowsKey then
    dropKey
    let layout ← get
    let cursor := layout.cursor
    let key : PossibleKey :=
      { place := layout.tokens.length
        isRequired := layout.depth = 0 && layout.indent = cursor.column
        offset := cursor.offset, line := cursor.line, column := cursor.column }
    set { layout with keys := (layout.depth, key) :: layout.keys }

/-- The columns that remain when all beyond `column` are closed, and how many are closed. -/
def closing (column : Int) (indent : Int) : List Int → Int × List Int × Nat
  | [] => (indent, [], 0)
  | next :: outer =>
    if column < indent then
      let (indent, outer, count) := closing column next outer
      (indent, outer, count + 1)
    else (indent, next :: outer, 0)

/-- Close the block collections that are indented further than a column. -/
def unwind (column : Int) : Tokenizing Unit := do
  let layout ← get
  if layout.depth = 0 then
    let (indent, outer, count) := closing column layout.indent layout.outer
    set { layout with
      indent, outer, tokens := layout.tokens ++ List.replicate count Token.blockEnd }

/-- Open a block collection at a column that is indented further than the innermost one.
Its token goes behind the first `place` ones. -/
def openBlock (token : Token) (column place : Nat) : Tokenizing Unit := do
  let layout ← get
  if layout.depth = 0 ∧ layout.indent < column then
    set { layout with indent := column, outer := layout.indent :: layout.outer }
    insertAt place [token]

/-- Read on to the next token, over spaces, comments and line ends. A mark may stand in
front of everything. -/
def skipToToken : Tokenizing Unit := do
  let layout ← get
  let isStart := layout.cursor.offset = 0 && layout.cursor.rest.head? = some byteOrderMark
  if isStart then moveTo (layout.cursor.rest.drop 1)
  let line := (← get).cursor.line
  moveTo (blank false (← get).cursor.rest)
  if (← get).cursor.line ≠ line ∧ (← get).depth = 0 then allowKey true
where
  /-- What follows spaces, comments and line ends. -/
  blank (inComment : Bool) : Text → Text
    | [] => []
    | first :: rest =>
      if isBreak first then blank false rest
      else if inComment then blank true rest
      else if first = ' ' then blank false rest
      else if first = '#' then blank true rest
      else first :: rest

/-- Read a document marker or a directive, which close everything. -/
def readMarker (token : Token) (rest : Text) : Tokenizing Unit := do
  unwind (-1)
  dropKey
  allowKey false
  emit token
  moveTo rest

/-- Read an opening bracket. -/
def readOpening (token : Token) (rest : Text) : Tokenizing Unit := do
  saveKey
  modify fun layout => { layout with depth := layout.depth + 1 }
  allowKey true
  emit token
  moveTo rest

/-- Read a closing bracket. -/
def readClosing (token : Token) (rest : Text) : Tokenizing Unit := do
  dropKey
  if (← get).depth = 0 then throw .unexpectedToken
  modify fun layout => { layout with depth := layout.depth - 1 }
  allowKey false
  emit token
  moveTo rest

/-- Read a comma between brackets. -/
def readComma (rest : Text) : Tokenizing Unit := do
  allowKey true
  dropKey
  emit .comma
  moveTo rest

/-- Read the indicator of an entry or of a key. -/
def readIndicator (token block : Token) (allowsKeyInFlow : Bool) (rest : Text) :
    Tokenizing Unit := do
  let layout ← get
  if layout.depth = 0 ∧ !layout.allowsKey then throw .misplacedIndicator
  openBlock block layout.cursor.column layout.tokens.length
  allowKey (layout.depth = 0 || allowsKeyInFlow)
  dropKey
  emit token
  moveTo rest

/-- Read the colon of a value. If a possible key stands in front of it, that becomes one. -/
def readValue (rest : Text) : Tokenizing Unit := do
  let layout ← get
  match layout.keys.lookup layout.depth with
  | some key =>
    set { layout with keys := layout.keys.filter fun (depth, _) => depth ≠ layout.depth }
    insertAt key.place [.key]
    openBlock .blockMapping key.column key.place
    allowKey false
    emit .value
    moveTo rest
  | none => readIndicator .value .blockMapping false rest

/-- Read a node on one line, which may be a key. -/
def readInline (token : Token) (rest : Text) : Tokenizing Unit := do
  saveKey
  allowKey false
  emit token
  moveTo rest

/-- Read a scalar below its indicator. -/
def readBlockScalar (folds : Bool) (rest : Text) : Tokenizing Unit := do
  allowKey true
  dropKey
  let (text, behind) ← blockScalar folds (← get).indent rest
  emit (.scalar text false)
  moveTo behind

/-- Read an unquoted scalar. Behind a line end a key may start. -/
def readUnquoted : Tokenizing Unit := do
  let layout ← get
  let scalar := unquotedScalar (layout.depth ≠ 0) (layout.indent + 1) layout.cursor.rest
  readInline (.scalar scalar.text true) scalar.rest
  allowKey scalar.endsLine

/-- Read one token. -/
def readToken (first : Char) (rest : Text) : Tokenizing Unit := do
  let layout ← get
  let text := first :: rest
  let inFlow := layout.depth ≠ 0
  let isIndicator := inFlow || atGap rest.head?
  if layout.cursor.column = 0 ∧ first = '%' then
    let (directive, behind) ← directiveText rest
    readMarker (.directive directive) behind
  else if layout.cursor.column = 0 ∧ startsMarker text then
    readMarker (if first = '-' then .documentStart else .documentEnd) (text.drop 3)
  else if first = '-' ∧ atGap rest.head? then readIndicator .entry .blockSequence true rest
  else if first = '?' ∧ isIndicator then readIndicator .key .blockMapping false rest
  else if first = ':' ∧ isIndicator then readValue rest
  else
    match first with
    | '[' => readOpening .openBracket rest
    | '\x7b' => readOpening .openBrace rest
    | ']' => readClosing .closeBracket rest
    | '\x7d' => readClosing .closeBrace rest
    | ',' => readComma rest
    | '*' =>
      let (name, behind) ← anchorName rest
      readInline (.alias name) behind
    | '&' =>
      let (name, behind) ← anchorName rest
      readInline (.anchor name) behind
    | '!' =>
      let (tag, behind) ← tagText rest
      readInline (.tag tag) behind
    | '\'' =>
      let (scalar, behind) ← quotedScalar false rest
      readInline (.scalar scalar false) behind
    | '"' =>
      let (scalar, behind) ← quotedScalar true rest
      readInline (.scalar scalar false) behind
    | _ =>
      if (first = '|' ∨ first = '>') ∧ !inFlow then readBlockScalar (first = '>') rest
      else if startsUnquoted inFlow text then readUnquoted
      else throw .unexpectedCharacter

/-- Read all tokens of a document. -/
def readTokens (layout : Layout) : Except Error (List Token) := do
  let prepare : Tokenizing Unit := do
    skipToToken
    dropStaleKeys
    unwind (← get).cursor.column
  let (_, ready) ← prepare.run layout
  match ready.cursor.rest with
  | [] =>
    let finish : Tokenizing Unit := do
      unwind (-1)
      dropKey
    let (_, finished) ← finish.run ready
    return finished.tokens
  | first :: rest =>
    let (_, next) ← (readToken first rest).run ready
    if next.cursor.rest.length < layout.cursor.rest.length then readTokens next
    else throw .unexpectedCharacter
termination_by layout.cursor.rest.length

end Layout

/-- The tokens of a text. -/
def tokensOf (text : Text) : Except Error (List Token) :=
  Layout.readTokens { cursor := { rest := text } }

end Yaml

end JapaneseSpacing
