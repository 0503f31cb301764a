import JapaneseSpacing.Yaml.Character

/-!
# Block scalars

A block scalar consists of the lines below its indicator that are indented as far as the
first of them, or as far as its header says. A literal one keeps its line ends; a folded
one joins lines that do not start with white space. The header also says what becomes of
the line ends behind the last line.
-/

namespace JapaneseSpacing

namespace Yaml

/-- What becomes of the line ends behind the last line. -/
inductive Chomping where
  /-- All are dropped. -/
  | strip
  /-- The first is kept. -/
  | clip
  /-- All are kept. -/
  | keep
deriving Repr, DecidableEq

/-- The header of a block scalar. -/
structure BlockHeader where
  chomping : Chomping := .clip
  /-- By how many columns the lines are indented beyond the surroundings. -/
  increment : Option Nat := none
deriving Repr, DecidableEq

namespace BlockHeader

/-- The chomping that a sign stands for. -/
def chomping? (char : Char) : Option Chomping :=
  if char = '+' then some .keep else if char = '-' then some .strip else none

/-- The increment that a digit stands for. -/
def increment? (char : Char) : Option Nat :=
  if '0' ≤ char ∧ char ≤ '9' then some (char.toNat - '0'.toNat) else none

/-- The header at the start of a text and what follows it. -/
def ofText (text : Text) : Except Error (BlockHeader × Text) := do
  let (header, rest) : BlockHeader × Text :=
    match text with
    | [] => ({}, [])
    | first :: rest =>
      match chomping? first, increment? first with
      | some chomping, _ =>
        match rest.head?.bind increment? with
        | some increment => ({ chomping, increment := some increment }, rest.drop 1)
        | none => ({ chomping }, rest)
      | none, some increment =>
        match rest.head?.bind chomping? with
        | some chomping => ({ chomping, increment := some increment }, rest.drop 1)
        | none => ({ increment := some increment }, rest)
      | none, none => ({}, first :: rest)
  if header.increment = some 0 ∨ !atSpace rest.head? then throw .unexpectedCharacter
  else return (header, rest)

end BlockHeader

/-- Blank lines, and the indentation of the line behind them. -/
structure Indentation where
  breaks : Text
  /-- The column at which the indentation ends. -/
  column : Nat
  /-- The greatest column reached on any of the lines. -/
  deepest : Nat
  rest : Text
deriving Repr, DecidableEq

/-- The blank lines at the start of a text and the indentation behind them, of which no
more than `limit` columns are read. -/
def indentationOf (limit : Option Nat) (column : Nat) : Text → Indentation
  | [] => { breaks := [], column, deepest := column, rest := [] }
  | first :: rest =>
    if first = ' ' ∧ limit.all (column < ·) then indentationOf limit (column + 1) rest
    else if isBreak first then
      let next := indentationOf limit 0 rest
      { next with breaks := breakText first :: next.breaks, deepest := max column next.deepest }
    else { breaks := [], column, deepest := column, rest := first :: rest }

/-- The lines of a block scalar that have been read. -/
structure BlockLines where
  text : Text
  /-- The end of the last line. -/
  lastBreak : Text
  /-- The blank lines behind it. -/
  blankLines : Text
  rest : Text
deriving Repr, DecidableEq

/-- The lines of a block scalar that are indented to `indent`, behind some blank lines and
the indentation of the first line. -/
def blockLines (folds : Bool) (indent column : Nat) (blankLines text : Text) : BlockLines :=
  if column = indent ∧ text ≠ [] then
    let line := text.takeWhile (!isBreak ·)
    let behind := text.drop line.length
    let lastBreak := (behind.take 1).map breakText
    let next := indentationOf (some indent) 0 (behind.drop 1)
    if _goesOn : next.column = indent ∧ next.rest ≠ [] ∧ next.rest.length < text.length then
      let joins := folds && lastBreak = ['\n'] && !line.head?.any isSpaceOrTab
        && !next.rest.head?.any isSpaceOrTab
      let separator :=
        if !joins then lastBreak else if next.breaks.isEmpty then [' '] else []
      let more := blockLines folds indent next.column next.breaks next.rest
      { more with text := blankLines ++ line ++ separator ++ more.text }
    else { text := blankLines ++ line, lastBreak, blankLines := next.breaks, rest := next.rest }
  else { text := [], lastBreak := [], blankLines, rest := text }
termination_by text.length
decreasing_by exact _goesOn.2.2

/-- The block scalar whose indicator stands in front of a text, inside surroundings that
are indented to `outer`, and what follows it. -/
def blockScalar (folds : Bool) (outer : Int) (text : Text) : Except Error (Text × Text) := do
  let (header, rest) ← BlockHeader.ofText text
  let rest ← afterLine rest
  let least := max 1 (outer + 1).toNat
  let indent :=
    match header.increment with
    | none => max least (indentationOf none 0 rest).deepest
    | some increment => least + increment - 1
  let start :=
    match header.increment with
    | none => indentationOf none 0 rest
    | some _ => indentationOf (some indent) 0 rest
  let lines := blockLines folds indent start.column start.breaks start.rest
  let tail :=
    match header.chomping with
    | .strip => []
    | .clip => lines.lastBreak
    | .keep => lines.lastBreak ++ lines.blankLines
  return (lines.text ++ tail, lines.rest)

end Yaml

end JapaneseSpacing
