import JapaneseSpacing.Markdown.Block.Start

/-!
# Quotes and lists

The lines of a quote are those that start with its marker and those that go on with a
paragraph of it. An item of a list owns the lines that are indented as far as its
content, and a list the items with the same kind of marker. Blocks inside are read by a
reader that is passed in.
-/

namespace JapaneseSpacing

/-! ## Quotes -/

/-- The lines that belong to a quote, as its blocks see them. -/
structure QuoteLines where
  lines : List BlockLine
  /-- Whether a line that starts another block ends the quote. -/
  interrupted : Bool
deriving Repr, DecidableEq

/-- The quote with one more line in front. -/
def QuoteLines.after (line : BlockLine) (quote : QuoteLines) : QuoteLines :=
  { quote with lines := line :: quote.lines }

/-- The lines of a quote behind a line that was empty or not. Nothing goes on with an
empty line. -/
def quoteLines (context : BlockContext) (wasEmpty : Bool) : List BlockLine → QuoteLines
  | [] => ⟨[], false⟩
  | line :: rest =>
    if line.isBlank then ⟨[], false⟩
    else if line.body.head? = some '>' && !context.isOutside line then
      (quoteLines context line.unquoted.isBlank rest).after line.unquoted
    else if wasEmpty then ⟨[], false⟩
    else if endsQuote context line then ⟨[], true⟩
    else (quoteLines context false rest).after line.asContinuation

/-- Read a quote. -/
def readQuote? (readInside : BlockReader) (context : BlockContext) (start stop : Nat) :
    Option BlockRun :=
  let first := context.line start
  if startsQuote context first then
    let quote := quoteLines context first.unquoted.isBlank
      ((context.lines.take stop).drop (start + 1))
    let next := start + 1 + quote.lines.length
    let inside : BlockContext :=
      { lines := context.lines.take start ++ first.unquoted :: quote.lines
          ++ context.lines.drop next
        stop := if quote.interrupted then next else context.stop
        indent := 0
        listIndent := context.listIndent }
    let run := readInside inside start next
    some { run with
      tokens := BlockToken.enclose .blockQuote (BlockToken.lines start run.next) run.tokens }
  else none

/-! ## Lists -/

/-- The first line of an item as its blocks see it, and the column where they start. -/
structure ItemStart where
  line : BlockLine
  indent : Int
  isEmpty : Bool
deriving Repr, DecidableEq

/-- The start of the item that a line with a marker begins. Content that is indented by
more than four columns is code one column behind the marker. -/
def ItemStart.ofLine (line : BlockLine) (marker : ListMarker) : ItemStart :=
  let behind := line.body.drop marker.length
  let indentation := behind.takeWhile isIndentation
  let column := line.indent + marker.length
  let content := columnAfter line.origin column indentation
  let isEmpty := indentation.length = behind.length
  { line := { line with
      shift := line.shift + marker.length + indentation.length
      indent := content }
    indent := column + if isEmpty ∨ 4 < content - column then 1 else content - column
    isEmpty }

/-- Read the blocks of an item. An item without content that a blank line follows ends
there. -/
def readItem (readInside : BlockReader) (context : BlockContext) (marker : ListMarker)
    (start stop : Nat) : BlockRun :=
  let item := ItemStart.ofLine (context.line start) marker
  if item.isEmpty ∧ (context.line (start + 1)).isBlank then
    { tokens := [], next := min (start + 2) stop }
  else
    readInside
      { context with
        lines := context.lines.set start item.line
        indent := item.indent
        listIndent := some context.indent }
      start stop

/-- The marker with which a line goes on with a list. -/
def nextMarker? (context : BlockContext) (marker : ListMarker) (line : BlockLine) :
    Option ListMarker :=
  if context.isOutside line || context.isCode line || endsList context line then none
  else
    match listMarker? line.body with
    | some next =>
      if next.sign = marker.sign ∧ next.number.isSome = marker.number.isSome then some next
      else none
    | none => none

/-- Read the items of a list. -/
def readItems (readInside : BlockReader) (context : BlockContext) (marker : ListMarker)
    (start stop : Nat) : BlockRun :=
  let run := readItem readInside context marker start stop
  let next := max (start + 1) run.next
  let tokens := BlockToken.enclose .listItem (BlockToken.lines start next) run.tokens
  if next < stop then
    match nextMarker? context marker (context.line next) with
    | none => { run with tokens, next }
    | some following =>
      let rest := readItems readInside context following next stop
      { tokens := tokens ++ rest.tokens, definitions := run.definitions ++ rest.definitions,
        next := rest.next }
  else { run with tokens, next }
termination_by stop - start

/-- Read a list. -/
def readList? (readInside : BlockReader) (context : BlockContext) (start stop : Nat) :
    Option BlockRun :=
  (listStart? context (context.line start)).map fun marker =>
    let run := readItems readInside context marker start stop
    let element := if marker.number.isSome then Element.orderedList else .bulletList
    { run with
      tokens := BlockToken.enclose element (BlockToken.lines start run.next) run.tokens }

end JapaneseSpacing
