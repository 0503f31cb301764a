import JapaneseSpacing.Character

/-!
# URLs and email addresses

Both are recognised from the left: a URL is a scheme of letters and plus signs,
`://`, and what follows; an email address is a local part, `@`, and a domain that
ends in a label of at least two letters. `isUrl` and `isEmail` decide about a
whole text, `Address.leading` splits a text after the address it begins with.
-/

namespace JapaneseSpacing

/-- A letter of ASCII. -/
def isAsciiLetter (char : Char) : Bool :=
  char.isAlpha

/-- A character of an email address before its `@`. -/
def isLocalChar (char : Char) : Bool :=
  isAsciiAlphanumeric char || "._%+-".toList.contains char

/-- A character of a domain, dots included. -/
def isDomainChar (char : Char) : Bool :=
  isAsciiAlphanumeric char || char == '.' || char == '-'

/-- A character of a domain label. -/
def isLabelChar (char : Char) : Bool :=
  isAsciiAlphanumeric char || char == '-'

/-- A character that may follow the scheme of a URL. -/
def isUrlChar (char : Char) : Bool :=
  isAsciiAlphanumeric char || "-._~:/?#[]@!'()*+,;=%".toList.contains char

/-- The scheme a text starts with, together with its `://`, and the rest. -/
def splitScheme? : Text → Option (Text × Text)
  | [] => none
  | first :: rest =>
    if isAsciiLetter first then
      let tail := rest.takeWhile fun char => isAsciiLetter char || char == '+'
      match rest.drop tail.length with
      | ':' :: '/' :: '/' :: after => some (first :: tail ++ "://".toList, after)
      | _ => none
    else none

/-- Whether a text starts like a URL. -/
def isUrl (text : Text) : Bool :=
  (splitScheme? text).isSome

/-- The local part a text starts with, together with its `@`, and the rest. -/
def splitLocalPart? (text : Text) : Option (Text × Text) :=
  let part := text.takeWhile isLocalChar
  match part, text.drop part.length with
  | [], _ => none
  | part, '@' :: after => some (part ++ ['@'], after)
  | _, _ => none

/-- How long the longest domain at the start of a text is: some domain characters, a
dot and at least two letters. -/
def domainLength? (text : Text) : Option Nat :=
  let run := text.takeWhile isDomainChar
  (List.range run.length).reverse.findSome? fun dot =>
    let letters := (run.drop (dot + 1)).takeWhile isAsciiLetter
    if 1 ≤ dot ∧ run[dot]? = some '.' ∧ 2 ≤ letters.length then some (dot + 1 + letters.length)
    else none

/-- Whether the text is an email address and nothing else. -/
def isWholeEmail (text : Text) : Bool :=
  match splitLocalPart? text with
  | some (_, domain) => domainLength? domain == some domain.length
  | none => false

/-- Whether the text is an email address, a final line feed left aside. -/
def isEmail (text : Text) : Bool :=
  isWholeEmail text || (text.getLast? == some '\n' && isWholeEmail text.dropLast)

/-- What an automatic link points to. -/
inductive AddressKind where
  | url
  | email
  | unknown
deriving Repr, DecidableEq

/-- The word for the kind of an address in the program's answers. -/
def AddressKind.name : AddressKind → String
  | .url => "url"
  | .email => "email"
  | .unknown => "unknown"

/-- How a report calls an address of this kind. -/
def AddressKind.label : AddressKind → Text
  | .url => "URL".toList
  | .email => "メールアドレス".toList
  | .unknown => "URL".toList

/-- A text split after the address it begins with. -/
structure LeadingAddress where
  content : Text
  trailing : Text
  kind : AddressKind
deriving Repr, DecidableEq

/-- How long the URL at the start of a text is, if there is one with at least one
character after its scheme. -/
def leadingUrlLength? (text : Text) : Option Nat :=
  match splitScheme? text with
  | some (scheme, after) =>
    let body := after.takeWhile isUrlChar
    if body.isEmpty then none else some (scheme.length + body.length)
  | none => none

/-- How long the email address at the start of a text is. -/
def leadingEmailLength? (text : Text) : Option Nat :=
  match splitLocalPart? text with
  | some (part, after) => (domainLength? after).map (part.length + ·)
  | none => none

/-- The address at the start of a text, a URL before an email address, and what
follows it. A text that starts with neither is all content. -/
def LeadingAddress.ofText (text : Text) : LeadingAddress :=
  match leadingUrlLength? text, leadingEmailLength? text with
  | some length, _ => ⟨text.take length, text.drop length, .url⟩
  | none, some length => ⟨text.take length, text.drop length, .email⟩
  | none, none => ⟨text, [], .unknown⟩

end JapaneseSpacing
