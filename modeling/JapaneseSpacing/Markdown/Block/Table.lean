import JapaneseSpacing.Markdown.Block.Start
import JapaneseSpacing.Text.Blank

/-!
# Tables

A table starts with a row of headers above a row of dashes that has as many columns.
Further rows follow up to a blank line or another block; each of them is cut or filled up
to the number of headers.
-/

namespace JapaneseSpacing

/-- The cells of a row: the text between pipes that no backslash escapes. The backslash
in front of an escaped pipe is dropped. `cell` is the current cell so far. -/
def splitCells (cell : Text) : Text → List Text
  | [] => [cell]
  | '\\' :: '|' :: rest => splitCells (cell ++ ['|']) rest
  | first :: rest =>
    if first = '|' then cell :: splitCells [] rest else splitCells (cell ++ [first]) rest

/-- The cells of a row that may start and end in a pipe. -/
def rowCells (row : Text) : List Text :=
  let cells := splitCells [] (Text.trim row)
  let cells := if cells.head? = some [] then cells.drop 1 else cells
  (if cells.getLast? = some [] then cells.dropLast else cells).map Text.trim

/-- Whether a cell of the second row is a line of dashes, with a colon at either end or
both to align the column. -/
def isDelimiterCell (cell : Text) : Bool :=
  let dashes := if cell.head? = some ':' then cell.drop 1 else cell
  let dashes := if dashes.getLast? = some ':' then dashes.dropLast else dashes
  !dashes.isEmpty && dashes.all (· = '-')

/-- Whether a body is made of dashes, pipes, colons and indentation as the second row of a
table is. It has two characters, and it does not look like the item of a list. -/
def looksLikeDelimiters (body : Text) : Bool :=
  match body with
  | first :: second :: _ =>
    ['|', '-', ':'].contains first && !(first = '-' && isIndentation second)
      && body.all fun char => ['|', '-', ':'].contains char || isIndentation char
  | _ => false

/-- How many columns the second row of a table has. Only the first and the last cell may
be empty. -/
def delimiterCount? (body : Text) : Option Nat :=
  let cells := (body.splitWhere (· = '|')).map Text.trim
  let inner := (cells.drop 1).dropLast
  let outer := cells.take 1 ++ (cells.drop 1).drop inner.length
  let columns := outer.filter (!·.isEmpty) ++ inner
  if looksLikeDelimiters body && columns.all isDelimiterCell then some columns.length else none

/-- The headers of the table that starts on a line. -/
def tableHeaders? (context : BlockContext) (start stop : Nat) : Option (List Text) :=
  let header := context.line start
  let delimiters := context.line (start + 1)
  let cells := rowCells header.body
  if start + 2 ≤ stop ∧ !context.isOutside delimiters ∧ !context.isCode delimiters
      ∧ header.body.contains '|' ∧ !context.isCode header ∧ !cells.isEmpty
      ∧ delimiterCount? delimiters.body = some cells.length then
    some cells
  else none

/-- The most cells that may be filled up in one table. -/
def mostFilledCells : Int := 65536

/-- The rows of a table below its headers, from the line `number` on, where so many cells
have been filled up. -/
def tableRows (context : BlockContext) (columns : Nat) (filled : Int) (number stop : Nat) :
    List (List Text) :=
  if number < stop then
    let line := context.line number
    let cells := rowCells line.body
    let filled := filled + (columns - cells.length)
    if context.isOutside line || endsQuote context line || (Text.trim line.body).isEmpty
        || context.isCode line || mostFilledCells < filled then []
    else
      (cells.take columns ++ List.replicate (columns - cells.length) [])
        :: tableRows context columns filled (number + 1) stop
  else []
termination_by stop - number

/-- The tokens of one row. -/
def rowTokens (cell : Element) (number : Nat) (cells : List Text) : List BlockToken :=
  BlockToken.enclose .tableRow (BlockToken.lines number (number + 1))
    (cells.flatMap fun content =>
      BlockToken.enclose cell none [BlockToken.ofContent content number (number + 1)])

/-- The tokens of some rows, the first of which is on the line `number`. -/
def rowsTokens (number : Nat) : List (List Text) → List BlockToken
  | [] => []
  | cells :: rest => rowTokens .dataCell number cells ++ rowsTokens (number + 1) rest

/-- Read a table. -/
def readTable? (context : BlockContext) (start stop : Nat) : Option BlockRun :=
  (tableHeaders? context start stop).map fun headers =>
    let rows := tableRows context headers.length 0 (start + 2) stop
    let next := start + 2 + rows.length
    let head := BlockToken.enclose .tableHead (BlockToken.lines start (start + 1))
      (rowTokens .headerCell start headers)
    let body := if rows.isEmpty then []
      else BlockToken.enclose .tableBody (BlockToken.lines (start + 2) next)
        (rowsTokens (start + 2) rows)
    { tokens := BlockToken.enclose .table (BlockToken.lines start next) (head ++ body), next }

end JapaneseSpacing
