import JapaneseSpacing.Text.Basic

/-!
# Markdown tokens

A parsed document is a list of block tokens; an inline token among them carries the
tokens of its content. An element is bracketed by an opening and a closing token,
everything else is a single token. `TokenKind.ofName` and `TokenKind.name` relate
kinds to their conventional names.
-/

namespace JapaneseSpacing

/-- What an opening and a closing token enclose. -/
inductive Element where
  | paragraph
  | heading
  | blockQuote
  | bulletList
  | orderedList
  | listItem
  | table
  | tableHead
  | tableBody
  | tableRow
  | headerCell
  | dataCell
  | emphasis
  | strong
  | strikethrough
  | link
  | other (name : String)
deriving Repr, DecidableEq

namespace Element

/-- The elements with a meaning of their own. -/
def known : List Element :=
  [paragraph, heading, blockQuote, bulletList, orderedList, listItem, table, tableHead, tableBody,
    tableRow, headerCell, dataCell, emphasis, strong, strikethrough, link]

/-- The conventional name of an element. -/
def name : Element → String
  | paragraph => "paragraph"
  | heading => "heading"
  | blockQuote => "blockquote"
  | bulletList => "bullet_list"
  | orderedList => "ordered_list"
  | listItem => "list_item"
  | table => "table"
  | tableHead => "thead"
  | tableBody => "tbody"
  | tableRow => "tr"
  | headerCell => "th"
  | dataCell => "td"
  | emphasis => "em"
  | strong => "strong"
  | strikethrough => "s"
  | link => "link"
  | other name => name

/-- The element of a given name. -/
def ofName (word : String) : Element :=
  (known.find? fun element => element.name == word).getD (other word)

end Element

/-- The kinds of tokens. -/
inductive TokenKind where
  | opening (element : Element)
  | closing (element : Element)
  /-- A block's content, whose tokens are the block token's children. -/
  | inline
  | text
  /-- An escaped character or a character reference. -/
  | special
  | softBreak
  | hardBreak
  | codeSpan
  | rawHtml
  | image
  | fence
  | indentedCode
  | htmlBlock
  | thematicBreak
  | other (name : String)
deriving Repr, DecidableEq

namespace TokenKind

/-- The kinds of single tokens with a meaning of their own. -/
def singles : List TokenKind :=
  [inline, text, special, softBreak, hardBreak, codeSpan, rawHtml, image, fence, indentedCode,
    htmlBlock, thematicBreak]

/-- What the name of an opening token ends in. -/
def openingSuffix : String := "_open"

/-- What the name of a closing token ends in. -/
def closingSuffix : String := "_close"

/-- The conventional name of a kind. -/
def name : TokenKind → String
  | opening element => element.name ++ openingSuffix
  | closing element => element.name ++ closingSuffix
  | inline => "inline"
  | text => "text"
  | special => "text_special"
  | softBreak => "softbreak"
  | hardBreak => "hardbreak"
  | codeSpan => "code_inline"
  | rawHtml => "html_inline"
  | image => "image"
  | fence => "fence"
  | indentedCode => "code_block"
  | htmlBlock => "html_block"
  | thematicBreak => "hr"
  | other name => name

/-- The word without a given ending, if it has it. -/
def withoutSuffix? (suffix word : String) : Option String :=
  if suffix.toList.isSuffixOf word.toList then
    some (String.ofList (word.toList.take (word.length - suffix.length)))
  else none

/-- The kind of a given name. -/
def ofName (word : String) : TokenKind :=
  match withoutSuffix? openingSuffix word, withoutSuffix? closingSuffix word with
  | some element, _ => opening (.ofName element)
  | none, some element => closing (.ofName element)
  | none, none => (singles.find? fun kind => kind.name == word).getD (other word)

/-- The element that a token of this kind would open: its name without the ending of
an opening token. -/
def openedElement : TokenKind → Element
  | opening element => element
  | kind => .ofName kind.name

end TokenKind

/-- A token of inline content. -/
structure Token where
  kind : TokenKind
  /-- One for an opening token, minus one for a closing token, zero otherwise. -/
  nesting : Int := 0
  level : Int := 0
  content : Text := []
  /-- The characters of the source that produced the token, where they are of use. -/
  markup : Text := []
  info : Text := []
  /-- The target of a link. -/
  href : Option Text := none
deriving Repr, DecidableEq

/-- A token of the document's block structure. -/
structure BlockToken extends Token where
  /-- The first line of the block and the line after its last one. -/
  lineRange : Option (Int × Int) := none
  children : Option (List Token) := none
deriving Repr, DecidableEq

/-- A token of plain text. -/
def Token.ofText (content : Text) (level : Int) : Token where
  kind := .text
  level
  content

/-- The markup of links that were recognised in plain text. -/
def plainLinkMarkup : Text := "linkify".toList

/-- The markup of links in angle brackets. -/
def angleLinkMarkup : Text := "autolink".toList

/-- The info of links that were written without brackets. -/
def autoLinkInfo : Text := "auto".toList

/-- A link around plain text that shows its own target. -/
def Token.plainLink (href shown : Text) (level : Int) : List Token :=
  [{ kind := .opening .link, nesting := 1, level, markup := plainLinkMarkup, info := autoLinkInfo,
     href := some href },
   .ofText shown (level + 1),
   { kind := .closing .link, nesting := -1, level, markup := plainLinkMarkup, info := autoLinkInfo }]

end JapaneseSpacing
