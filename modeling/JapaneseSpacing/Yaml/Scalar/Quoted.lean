import JapaneseSpacing.Markdown.Character
import JapaneseSpacing.Yaml.Character

/-!
# Quoted scalars

In single quotes a quote is written twice and nothing else is special. In double quotes a
backslash escapes a character, a code point or the end of a line. Line ends fold as in
unquoted scalars. A document marker at the start of a line is refused.
-/

namespace JapaneseSpacing

namespace Yaml

/-- The line feeds that line ends and indentation read as, and what follows them. -/
def foldedBreaks (atLineStart : Bool) : Text → Except Error (Text × Text)
  | [] => .ok ([], [])
  | first :: rest =>
    if atLineStart && startsMarker (first :: rest) then .error .unclosedQuote
    else if isSpaceOrTab first then foldedBreaks false rest
    else if isBreak first then
      (foldedBreaks true rest).map fun (breaks, after) => (breakText first :: breaks, after)
    else .ok ([], first :: rest)

/-- What the white space at the start of a text reads as, and what follows it. -/
def quotedGap (text : Text) : Except Error (Text × Text) :=
  let spaces := text.takeWhile isSpaceOrTab
  match text.drop spaces.length with
  | [] => .error .unclosedQuote
  | first :: rest =>
    if isBreak first then do
      let (breaks, after) ← foldedBreaks true rest
      let folded :=
        if breakText first ≠ '\n' then first :: breaks
        else if breaks.isEmpty then [' ']
        else breaks
      return (folded, after)
    else .ok (spaces, first :: rest)

/-- The characters that single letters stand for behind a backslash. -/
def simpleEscapes : List (Char × Nat) :=
  [('0', 0x00), ('a', 0x07), ('b', 0x08), ('t', 0x09), ('\t', 0x09), ('n', 0x0A), ('v', 0x0B),
    ('f', 0x0C), ('r', 0x0D), ('e', 0x1B), (' ', 0x20), ('"', 0x22), ('\\', 0x5C), ('/', 0x2F),
    ('N', 0x85), ('_', 0xA0), ('L', 0x2028), ('P', 0x2029)]

/-- How many hexadecimal digits follow an escape of a code point. -/
def codeEscapes : List (Char × Nat) :=
  [('x', 2), ('u', 4), ('U', 8)]

/-- What an escape reads as, given the text behind its backslash, and what follows it. -/
def escaped : Text → Except Error (Text × Text)
  | [] => .error .unknownEscape
  | first :: rest =>
    match simpleEscapes.lookup first, codeEscapes.lookup first with
    | some code, _ => .ok ([Char.ofNat code], rest)
    | none, some count =>
      let digits := rest.take count
      let code := digitsValue 16 digits
      if digits.length ≠ count ∨ !digits.all isHexDigit then .error .unknownEscape
      else if code < 0x110000 then .ok ([Char.ofNat code], rest.drop count)
      else .error .badCodePoint
    | none, none => if isBreak first then foldedBreaks true rest else .error .unknownEscape

/-- The text up to the closing quote, and what follows that. -/
def quotedScalar (isDouble : Bool) (text : Text) : Except Error (Text × Text) :=
  match text with
  | [] => .error .unclosedQuote
  | first :: rest => do
    if !isDouble && first = '\'' && rest.head? ≠ some '\'' then return ([], rest)
    else if isDouble && first = '"' then return ([], rest)
    else
      let (part, after) ←
        if !isDouble && first = '\'' then pure (['\''], rest.drop 1)
        else if isDouble && first = '\\' then escaped rest
        else if isSpaceOrTab first || isBreak first then quotedGap (first :: rest)
        else pure ([first], rest)
      if after.length ≤ rest.length then
        let (more, behind) ← quotedScalar isDouble after
        return (part ++ more, behind)
      else throw .unclosedQuote
termination_by text.length

end Yaml

end JapaneseSpacing
