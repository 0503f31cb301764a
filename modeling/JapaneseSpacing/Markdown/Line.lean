import JapaneseSpacing.Markdown.Character
import JapaneseSpacing.Text.Line

/-!
# Lines of a block

A block sees each of its lines behind the markers of the blocks around it. What it sees
may still be indented, in columns that count a tab up to the next multiple of four from
where the line really starts.
-/

namespace JapaneseSpacing

/-- A line as the block that contains it sees it. -/
structure BlockLine where
  /-- The characters behind the markers of the enclosing quotes. -/
  text : Text
  /-- How many of the characters stand in front of the body. -/
  shift : Nat
  /-- The column of the body. A line that only continues a paragraph has column `-1`. -/
  indent : Int
  /-- The column of the whole line at which `text` starts. -/
  origin : Int := 0
  /-- Whether a line feed ends the line. -/
  hasBreak : Bool := true
deriving Repr, DecidableEq

/-- The column behind some spaces and tabs that start at a column. -/
def columnAfter (origin column : Int) : Text → Int
  | [] => column
  | first :: rest =>
    columnAfter origin
      (if first = '\t' then column + (4 - (column + origin) % 4) else column + 1) rest

namespace BlockLine

/-- The line without its indentation. -/
def body (line : BlockLine) : Text :=
  line.text.drop line.shift

/-- Whether nothing but indentation is on the line. -/
def isBlank (line : BlockLine) : Bool :=
  line.body.isEmpty

/-- A line of the whole document. -/
def ofText (text : Text) (hasBreak : Bool) : BlockLine :=
  let indentation := text.takeWhile isIndentation
  { text, shift := indentation.length, indent := columnAfter 0 0 indentation, hasBreak }

/-- The line that is seen where nothing is left. -/
def none : BlockLine := { text := [], shift := 0, indent := 0 }

/-- The lines of a document. An unfinished last line of spaces and tabs is no line. -/
def ofLines : List Text → List BlockLine
  | [] => []
  | [last] => if last.all isIndentation then [] else [ofText last false]
  | line :: rest => ofText line true :: ofLines rest

/-- The columns of the text that `limit` columns of indentation are taken off. Characters
of a marker count as one column each. The second component is the rest of the text. -/
def stripped (origin limit : Int) (column : Int) (marker : Nat) : Text → Int × Text
  | [] => (column, [])
  | first :: rest =>
    if limit ≤ column then (column, first :: rest)
    else if first = '\t' then
      stripped origin limit (column + (4 - (column + origin) % 4)) (marker - 1) rest
    else if first = ' ' ∨ 0 < marker then stripped origin limit (column + 1) (marker - 1) rest
    else (column, first :: rest)

/-- The line without `limit` columns of indentation. A tab that reaches further leaves
spaces. -/
def dedent (line : BlockLine) (limit : Int) : Text :=
  let (column, rest) := stripped line.origin limit 0 line.shift line.text
  List.replicate (column - limit).toNat ' ' ++ rest

/-- The line behind the marker of a quote, which the body starts with, and an optional
space. -/
def unquoted (line : BlockLine) : BlockLine :=
  let behind := line.body.drop 1
  let column := line.indent + 1
  let hasSpace := behind.head?.any isIndentation
  let narrow := behind.head? = some ' ' ∨ (behind.head? = some '\t' ∧ (line.origin + column) % 4 = 3)
  let text := if narrow then behind.drop 1 else behind
  let start := if narrow then column + 1 else column
  let indentation := text.takeWhile isIndentation
  let extra : Int := if hasSpace ∧ ¬ narrow then 1 else 0
  { line with
    text
    shift := indentation.length
    indent := columnAfter (line.origin + extra) start indentation - start
    origin := line.indent + 1 + (if hasSpace then 1 else 0) }

/-- The line as it continues a paragraph that its block does not mark. -/
def asContinuation (line : BlockLine) : BlockLine :=
  { line with indent := -1 }

end BlockLine

end JapaneseSpacing
