import JapaneseSpacing.HalfWidth.Address
import JapaneseSpacing.Markdown.Token

/-!
# Links from email addresses

Email addresses in plain text become links, also where they touch Japanese text. An
address literal is not preceded by another address character, a slash or an `@`, and
its domain consists of whole labels of which the last is of letters. Nothing of the
text is lost, and text inside a link is left alone.
-/

namespace JapaneseSpacing

/-- A character that keeps an address from starting right behind it. -/
def blocksAddress (char : Char) : Bool :=
  isLocalChar char || char == '/' || char == '@'

/-- A label that can end a domain: at least two letters. -/
def isTopLevelLabel (label : Text) : Bool :=
  2 ≤ label.length && label.all isAsciiLetter

/-- Where the last label that can end the domain stops, given the labels behind the
first `length` characters. An empty label ends the search. -/
def domainStop? (length : Nat) (found : Option Nat) : List Text → Option Nat
  | [] => found
  | [] :: _ => found
  | label :: rest =>
    let stop := length + 1 + label.length
    domainStop? stop (if isTopLevelLabel label then some stop else found) rest

/-- How long the domain of an address literal at the start of a text is. -/
def literalDomainLength? (text : Text) : Option Nat :=
  match Text.splitWhere (· == '.') (text.takeWhile isDomainChar) with
  | [] => none
  | [] :: _ => none
  | first :: labels => domainStop? first.length none labels

/-- How long the address literal at the start of a text is. -/
def emailLiteralLength? (text : Text) : Option Nat :=
  match splitLocalPart? text with
  | some (part, after) => (literalDomainLength? after).map (part.length + ·)
  | none => none

/-- A piece of plain text: an address or what lies between addresses. -/
inductive TextPiece where
  | plain (text : Text)
  | email (address : Text)
deriving Repr, DecidableEq

/-- The characters of a piece. -/
def TextPiece.text : TextPiece → Text
  | plain text => text
  | email address => address

/-- The piece for text that may be empty. -/
def TextPiece.ofPlain (text : Text) : List TextPiece :=
  if text.isEmpty then [] else [.plain text]

/-- Cut a text at its addresses. `gathered` is the text since the last address and
`previous` the character in front of `text`. -/
def emailPieces (previous : Option Char) (gathered text : Text) : List TextPiece :=
  match text with
  | [] => TextPiece.ofPlain gathered
  | first :: rest =>
    match if previous.any blocksAddress then none else emailLiteralLength? (first :: rest) with
    | some (length + 1) =>
      let address := (first :: rest).take (length + 1)
      TextPiece.ofPlain gathered
        ++ .email address :: emailPieces address.getLast? [] (rest.drop length)
    | _ => emailPieces (some first) (gathered ++ [first]) rest
termination_by text.length
decreasing_by
  · simp only [List.length_drop, List.length_cons]; omega
  · simp

/-- The tokens for one piece. -/
def TextPiece.tokens (level : Int) : TextPiece → List Token
  | plain text => [.ofText text level]
  | email address => Token.plainLink ("mailto:".toList ++ address) address level

/-- Whether a piece is an address. -/
def TextPiece.isEmail : TextPiece → Bool
  | plain _ => false
  | email _ => true

/-- A text token cut at its addresses; without any it stays as it is. -/
def splitEmails (token : Token) : List Token :=
  let pieces := emailPieces none [] token.content
  if pieces.any TextPiece.isEmail then pieces.flatMap (TextPiece.tokens token.level) else [token]

/-- The depth of link nesting after a token. -/
def linkDepthAfter (depth : Int) (token : Token) : Int :=
  match token.kind with
  | .opening .link => depth + 1
  | .closing .link => depth - 1
  | _ => depth

/-- Inline tokens with the addresses of their plain text turned into links, where
`depth` links are open. -/
def linkEmails (depth : Int) : List Token → List Token
  | [] => []
  | token :: rest =>
    let depth := linkDepthAfter depth token
    let tokens :=
      if token.kind = .text ∧ depth = 0 ∧ token.content.contains '@' then splitEmails token
      else [token]
    tokens ++ linkEmails depth rest

/-- A block token with the addresses of its plain text turned into links. -/
def BlockToken.linkEmails (block : BlockToken) : BlockToken :=
  if block.kind = .inline then
    { block with children := block.children.map (JapaneseSpacing.linkEmails 0) }
  else block

end JapaneseSpacing
