import JapaneseSpacing.HalfWidth.Address
import JapaneseSpacing.Markdown.Character
import JapaneseSpacing.Markdown.Pattern
import JapaneseSpacing.Text.Blank

/-!
# Raw HTML

What counts as raw HTML in running text: opening and closing tags, comments, processing
instructions, declarations and character data. The same tags start a block of HTML, as
do the names of block elements, whatever follows them on their line.
-/

namespace JapaneseSpacing

namespace Html

open Pattern

/-- A letter of ASCII. -/
def letter : Pattern := char isAsciiLetter

/-- The name of a tag. -/
def tagName : Pattern :=
  letter.followedBy (char fun c => isAsciiLetter c || isAsciiDigit c || c = '-').many

/-- Any white space. -/
def blanks : Pattern := (char isBlank).many

/-- The name of an attribute. -/
def attributeName : Pattern :=
  (char fun c => isAsciiLetter c || c = '_' || c = ':').followedBy
    (char fun c => isAsciiLetter c || isAsciiDigit c || [':', '.', '_', '-'].contains c).many

/-- A value without quotes. -/
def unquotedValue : Pattern :=
  oneOrMore (char fun c => 0x20 < c.toNat && !(['"', '\'', '=', '<', '>', '\x60'].contains c))

/-- A value between two quotes of one kind. -/
def quotedValue (quote : Char) : Pattern :=
  sequence [char (· = quote), (char (· ≠ quote)).many, char (· = quote)]

/-- The value of an attribute. -/
def attributeValue : Pattern :=
  (unquotedValue.either (quotedValue '\'')).either (quotedValue '"')

/-- An attribute with the white space in front of it. -/
def tagAttribute : Pattern :=
  sequence [(char isBlank).oneOrMore, attributeName,
    (sequence [blanks, char (· = '='), blanks, attributeValue]).optional]

/-- An opening tag. -/
def openingTag : Pattern :=
  sequence [char (· = '<'), tagName, tagAttribute.many, blanks, (char (· = '/')).optional,
    char (· = '>')]

/-- A closing tag. -/
def closingTag : Pattern :=
  sequence [word ['<', '/'], tagName, blanks, char (· = '>')]

/-- What a comment is made of: no hyphen, one hyphen in front of another character, or
two in front of anything but a closing angle bracket. -/
def commentPart : Pattern :=
  (char (· ≠ '-')).either ((sequence [char (· = '-'), char (· ≠ '-')]).either
    (sequence [word ['-', '-'], char (· ≠ '>')]))

/-- A comment. -/
def comment : Pattern :=
  (sequence [word "<!--".toList, (char (· = '-')).optional, char (· = '>')]).either
    (sequence [word "<!--".toList, commentPart.many, word "-->".toList])

/-- Everything up to the first occurrence of a word. -/
def through (stop : Text) : Pattern := fun text =>
  match Text.occurrence? stop text with
  | some place => [text.drop (place + stop.length)]
  | none => []

/-- A processing instruction. -/
def instruction : Pattern :=
  (word ['<', '?']).followedBy (through ['?', '>'])

/-- A declaration. -/
def declaration : Pattern :=
  sequence [word ['<', '!'], letter, through ['>']]

/-- Character data. -/
def characterData : Pattern :=
  (word "<![CDATA[".toList).followedBy (through "]]>".toList)

/-- Raw HTML in running text. -/
def inlineMarkup : Pattern :=
  [openingTag, closingTag, comment, instruction, declaration, characterData].foldr Pattern.either
    fun _ => []

/-- Whether a text starts with the opening tag of a link. -/
def opensLink : Text → Bool
  | '<' :: name :: after :: _ => name.toLower = 'a' && (after = '>' || isBlank after)
  | _ => false

/-- Whether a text starts with the closing tag of a link. -/
def closesLink : Text → Bool
  | '<' :: '/' :: name :: rest => name.toLower = 'a' && (Text.trimStart rest).head? = some '>'
  | _ => false

/-! ## Blocks -/

/-- The elements whose contents are kept until they are closed. -/
def verbatimNames : List Text :=
  ["script", "pre", "style", "textarea"].map String.toList

/-- The elements that start a block of HTML that ends at a blank line. -/
def blockNames : List Text :=
  ["address", "article", "aside", "base", "basefont", "blockquote", "body", "caption", "center",
    "col", "colgroup", "dd", "details", "dialog", "dir", "div", "dl", "dt", "fieldset",
    "figcaption", "figure", "footer", "form", "frame", "frameset", "h1", "h2", "h3", "h4", "h5",
    "h6", "head", "header", "hr", "html", "iframe", "legend", "li", "link", "main", "menu",
    "menuitem", "nav", "noframes", "ol", "optgroup", "option", "p", "param", "search", "section",
    "summary", "table", "tbody", "td", "tfoot", "th", "thead", "title", "tr", "track",
    "ul"].map String.toList

/-- One of some names in any letter case. -/
def anyName (names : List Text) : Pattern := fun text =>
  names.flatMap fun name =>
    if name.isPrefixOf (text.map foldLetter) then [text.drop name.length] else []

/-- Whether a name may end in front of a text: at white space, a closing bracket or the
end, and for block elements also at a slash with a closing bracket. -/
def endsName (slash : Bool) (rest : Text) : Bool :=
  match rest with
  | [] => true
  | '/' :: '>' :: _ => slash
  | first :: _ => first = '>' || isBlank first

/-- Whether the closing tag of a verbatim element stands anywhere in a text. -/
def closesVerbatim : Text → Bool
  | [] => false
  | first :: rest =>
    !(sequence [word ['<', '/'], anyName verbatimNames, char (· = '>')] (first :: rest)).isEmpty
      || closesVerbatim rest

/-- How a block of HTML starts and where it ends. -/
inductive BlockKind where
  /-- Ends on the line with the closing tag of a verbatim element. -/
  | verbatim
  | comment
  | instruction
  | declaration
  | characterData
  /-- Starts with the tag of a block element and ends before a blank line. -/
  | blockElement
  /-- Starts with a tag alone on its line and ends before a blank line. -/
  | loneTag
deriving Repr, DecidableEq

namespace BlockKind

/-- Whether a block of this kind starts with a line. -/
def starts (line : Text) : BlockKind → Bool
  | verbatim => (sequence [char (· = '<'), anyName verbatimNames] line).any (endsName false)
  | comment => "<!--".toList.isPrefixOf line
  | instruction => "<?".toList.isPrefixOf line
  | declaration => !(sequence [word ['<', '!'], char fun c => 'A' ≤ c && c ≤ 'Z'] line).isEmpty
  | characterData => "<![CDATA[".toList.isPrefixOf line
  | blockElement =>
    (sequence [char (· = '<'), (char (· = '/')).optional, anyName blockNames] line).any
      (endsName true)
  | loneTag => ((openingTag.either closingTag) line).any fun rest => rest.all isBlank

/-- Whether a block of this kind ends on or before a line, be it the line it starts with. -/
def stops (line : Text) : BlockKind → Bool
  | verbatim => closesVerbatim line
  | comment => (Text.occurrence? "-->".toList line).isSome
  | instruction => (Text.occurrence? "?>".toList line).isSome
  | declaration => line.contains '>'
  | characterData => (Text.occurrence? "]]>".toList line).isSome
  | blockElement => line.isEmpty
  | loneTag => line.isEmpty

/-- Whether a block of this kind can end a paragraph. -/
def interrupts : BlockKind → Bool
  | loneTag => false
  | _ => true

/-- The kind of the block that starts with a line. -/
def ofLine? (line : Text) : Option BlockKind :=
  [verbatim, comment, instruction, declaration, characterData, blockElement, loneTag].find?
    (starts line)

end BlockKind

end Html

end JapaneseSpacing
