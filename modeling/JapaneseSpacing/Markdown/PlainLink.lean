import JapaneseSpacing.Markdown.HtmlTag
import JapaneseSpacing.Markdown.ShownAddress
import JapaneseSpacing.Markdown.Token
import JapaneseSpacing.Markdown.WebAddress.Search

/-!
# Links from addresses

Addresses with a scheme in plain text become links that show the address in readable
form. Text inside links is left alone, whether they are links of Markdown or of HTML.
-/

namespace JapaneseSpacing

/-- How a link to an address shows it. -/
def WebAddress.Scheme.shown (scheme : WebAddress.Scheme) (address : Text) : Text :=
  match scheme with
  | .mail =>
    let word := WebAddress.Scheme.mail.word
    (shownAddress (word ++ address)).drop word.length
  | _ => shownAddress address

/-- The tokens of a text that starts at `offset`, cut at addresses. -/
def addressTokens (level : Int) (offset : Nat) (text : Text) : List WebAddress.Found → List Token
  | [] => if text.isEmpty then [] else [.ofText text level]
  | found :: rest =>
    let before := text.take (found.start - offset)
    let address := (text.take (found.stop - offset)).drop before.length
    (if before.isEmpty then [] else [.ofText before level])
      ++ Token.plainLink address (found.scheme.shown address) level
      ++ addressTokens level found.stop (text.drop (found.stop - offset)) rest

/-- A text token cut at its addresses. An address at its very start does not count behind
an escaped character. -/
def splitAddresses (token : Token) (previous : Option Token) : List Token :=
  let found := WebAddress.findAll 0 token.content
  let found :=
    if found.head?.any (·.start = 0) && previous.any (·.kind = .special) then found.drop 1
    else found
  if found.isEmpty then [token] else addressTokens token.level 0 token.content found

/-- Where a walk over inline tokens from the last one to the first is. -/
structure LinkWalk where
  /-- The level of the link that the walk is inside of. -/
  linkLevel : Option Int := none
  /-- How many links of HTML are open behind the walk's place. -/
  htmlDepth : Nat := 0

/-- The walk after an inline token. -/
def LinkWalk.step (walk : LinkWalk) (token : Token) : LinkWalk :=
  match walk.linkLevel with
  | some level =>
    if token.level ≠ level ∧ token.kind ≠ .opening .link then walk
    else { walk with linkLevel := none }
  | none =>
    if token.kind = .closing .link then { walk with linkLevel := some token.level }
    else if token.kind = .rawHtml then
      let depth := if Html.opensLink token.content then walk.htmlDepth - 1 else walk.htmlDepth
      { walk with htmlDepth := if Html.closesLink token.content then depth + 1 else depth }
    else walk

/-- Inline tokens in reverse order with their addresses turned into links. -/
def linkAddressesReversed (walk : LinkWalk) : List Token → List Token
  | [] => []
  | token :: before =>
    let next := walk.step token
    let tokens :=
      if walk.linkLevel.isNone ∧ next.htmlDepth = 0 ∧ token.kind = .text then
        splitAddresses token before.head?
      else [token]
    tokens.reverse ++ linkAddressesReversed next before

/-- A block token with the addresses of its plain text turned into links. -/
def BlockToken.linkAddresses (block : BlockToken) : BlockToken :=
  if block.kind = .inline ∧ WebAddress.mayHoldAddress true block.content then
    { block with
      children := block.children.map fun tokens => (linkAddressesReversed {} tokens.reverse).reverse }
  else block

end JapaneseSpacing
