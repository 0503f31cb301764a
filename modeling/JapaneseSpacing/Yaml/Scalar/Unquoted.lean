import JapaneseSpacing.Yaml.Character

/-!
# Unquoted scalars

An unquoted scalar consists of words. Line ends between them fold into one space, or into
as many line feeds as there are blank lines. It goes on over lines that are indented
enough, up to a comment, a document marker or a character of its surroundings.
-/

namespace JapaneseSpacing

namespace Yaml

/-- What starts no value by itself in front of a word, but may do so in front of a gap. -/
def startsUnquoted (inFlow : Bool) : Text → Bool
  | [] => false
  | first :: rest =>
    !(isSpaceOrTab first || isBreak first
        || "-?:,[]\x7b\x7d#&*!|>'\"%@\x60".toList.contains first)
      || (!atGap rest.head? && (first = '-' || (!inFlow && (first = '?' || first = ':'))))

/-- Where the word at the start of a text ends: at a gap, at a colon in front of a gap, and
inside brackets also at their punctuation. -/
def wordLength (inFlow : Bool) : Text → Nat
  | [] => 0
  | first :: rest =>
    if isSpaceOrTab first || isBreak first then 0
    else if inFlow && [',', '?', '[', ']', '\x7b', '\x7d'].contains first then 0
    else if first = ':' && (atGap rest.head?
        || (inFlow && rest.head?.any [',', '[', ']', '\x7b', '\x7d'].contains)) then 0
    else wordLength inFlow rest + 1

/-- The white space behind a word. -/
structure Gap where
  /-- What it reads as. -/
  text : Text
  rest : Text
  /-- Whether it holds the end of a line. -/
  hasBreak : Bool
  /-- The column behind the last line end. -/
  column : Nat := 0
  /-- Whether a document marker follows, so that nothing goes on. -/
  isLast : Bool := false
deriving Repr, DecidableEq

/-- The gap behind the end of a line, where `column` spaces have been read on the line. -/
def gapAfterBreak (column : Nat) : Text → Gap
  | [] => { text := [], rest := [], hasBreak := true, column }
  | first :: rest =>
    if first = ' ' then gapAfterBreak (column + 1) rest
    else if isBreak first then
      if startsMarker rest then { text := [], rest, hasBreak := true, isLast := true }
      else
        let gap := gapAfterBreak 0 rest
        { gap with text := breakText first :: gap.text }
    else { text := [], rest := first :: rest, hasBreak := true, column }

/-- The white space at the start of a text. -/
def gapOf (text : Text) : Gap :=
  let spaces := text.takeWhile (· = ' ')
  match text.drop spaces.length with
  | [] => { text := spaces, rest := [], hasBreak := false }
  | first :: rest =>
    if isBreak first then
      if startsMarker rest then { text := [], rest, hasBreak := true, isLast := true }
      else
        let gap := gapAfterBreak 0 rest
        let folded :=
          if breakText first ≠ '\n' then first :: gap.text
          else if gap.text.isEmpty then [' ']
          else gap.text
        { gap with text := folded }
    else { text := spaces, rest := first :: rest, hasBreak := false }

/-- An unquoted scalar that has been read. -/
structure Unquoted where
  text : Text
  rest : Text
  /-- Whether the end of a line stands behind the last word. -/
  endsLine : Bool
deriving Repr, DecidableEq

/-- The unquoted scalar at the start of a text, whose lines are indented to `indent`. -/
def unquotedScalar (inFlow : Bool) (indent : Int) (text : Text) : Unquoted :=
  let word := text.take (wordLength inFlow text)
  let gap := gapOf (text.drop word.length)
  let last : Unquoted := { text := word, rest := gap.rest, endsLine := gap.hasBreak }
  if gap.isLast || gap.text.isEmpty || gap.rest.head? = some '#'
      || (!inFlow && gap.hasBreak && (gap.column : Int) < indent)
      || wordLength inFlow gap.rest = 0 then last
  else if _shorter : gap.rest.length < text.length then
    let more := unquotedScalar inFlow indent gap.rest
    { more with text := word ++ gap.text ++ more.text }
  else last
termination_by text.length
decreasing_by exact _shorter

end Yaml

end JapaneseSpacing
