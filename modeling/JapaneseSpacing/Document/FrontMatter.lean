import JapaneseSpacing.Text.Blank
import JapaneseSpacing.Text.Line

/-!
# Preparing a document

Line ends become line feeds, and a leading block of front matter is blanked out
character by character. Blanking keeps every line feed, so that offsets and line
numbers of the rest of the document stay what they were.
-/

namespace JapaneseSpacing

/-- A line that holds one of the given marks and nothing behind it but spaces and tabs. -/
def isDelimiterLine (marks : List Text) (line : Text) : Bool :=
  marks.contains (Text.dropRightWhile (fun char => char == ' ' || char == '\t') line)

/-- The mark that opens front matter, and one of the two that close it. -/
def openingMark : Text := "---".toList

/-- The other mark that closes front matter. -/
def endMark : Text := "...".toList

/-- How many lines the front matter at the start of a document takes, delimiters
included. At least one line lies between the delimiters, whatever it holds. -/
def frontMatterHeight? : List Text → Option Nat
  | opening :: _ :: rest =>
    if isDelimiterLine [openingMark] opening then
      (rest.findIdx? (isDelimiterLine [openingMark, endMark])).map (· + 3)
    else none
  | _ => none

/-- Front matter with every character but the line feeds replaced by a space. -/
def blankFrontMatter (text : Text) : Text :=
  let lines := Text.lines text
  match frontMatterHeight? lines with
  | none => text
  | some height =>
    Text.join ['\n'] ((lines.take height).map (List.map fun _ => ' ') ++ lines.drop height)

/-- The document that is linted: line ends normalized, then front matter blanked. -/
def prepareSource (text : Text) : Text :=
  blankFrontMatter (Text.normalizeBreaks text)

end JapaneseSpacing
