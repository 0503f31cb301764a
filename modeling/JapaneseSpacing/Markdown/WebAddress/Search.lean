import JapaneseSpacing.Markdown.WebAddress

/-!
# Searching for addresses

An address starts at the start of a text or behind a separator, a bracket or punctuation
other than an underscore. The search goes on behind each address as if the text started
there. `mayHoldAddress` is the quick test on a whole content without which none of its
texts is searched.
-/

namespace JapaneseSpacing

namespace WebAddress

/-- An address that has been found in a text. -/
structure Found where
  scheme : Scheme
  start : Nat
  stop : Nat
deriving Repr, DecidableEq

/-- A character behind which an address may start. -/
def precedesAddress (char : Char) : Bool :=
  char ≠ '_' && (isAddressBracket char || isWordBoundary char)

/-- A scheme at the start of a text or behind its first character. -/
structure Opening where
  /-- How many characters stand in front of the scheme. -/
  lead : Nat
  scheme : Scheme
  /-- What follows the scheme. -/
  rest : Text
deriving Repr, DecidableEq

/-- The scheme where a text may hold an address, of which `isStart` says whether nothing
stands in front of it. -/
def opening? (isStart : Bool) (first : Char) (after : Text) : Option Opening :=
  (if isStart then (Scheme.ofText? (first :: after)).map fun (scheme, rest) => ⟨0, scheme, rest⟩
    else none)
  <|> (if precedesAddress first then
        (Scheme.ofText? after).map fun (scheme, rest) => ⟨1, scheme, rest⟩
      else none)

/-- What follows the address behind an opening. Two slashes alone open no address behind a
colon or another slash. -/
def Opening.afterAddress? (opening : Opening) (first : Char) : Option Text :=
  if opening.lead = 1 ∧ opening.scheme = .bare ∧ (first = ':' ∨ first = '/') then none
  else opening.scheme.afterRest? opening.rest

/-- The first address in a text that starts at `offset`, where the first `skip` characters
cannot be in front of it. -/
def find? (skip : Nat) (isStart : Bool) (offset : Nat) : Text → Option Found
  | [] => none
  | first :: after =>
    match skip with
    | skip + 1 => find? skip false (offset + 1) after
    | 0 =>
      match opening? isStart first after with
      | none => find? 0 false (offset + 1) after
      | some opening =>
        match opening.afterAddress? first with
        | some rest =>
          some ⟨opening.scheme, offset + opening.lead, offset + (after.length + 1 - rest.length)⟩
        | none =>
          find? (opening.lead + opening.scheme.word.length - 1) false (offset + 1) after

/-- All addresses in a text that starts at `offset`. -/
def findAll (offset : Nat) (text : Text) : List Found :=
  match find? 0 true offset text with
  | none => []
  | some found =>
    let rest := text.drop (found.stop - offset)
    found :: if rest.length < text.length then findAll found.stop rest else []
termination_by text.length
decreasing_by
  have shorter : (text.drop (found.stop - offset)).length < text.length := by assumption
  exact shorter

/-- The endings of hosts that hint at an address, with those of countries. -/
def topLevelDomains : List Text :=
  ["biz", "com", "edu", "gov", "net", "org", "pro", "web", "xxx", "aero", "asia", "coop", "info",
    "museum", "name", "shop", "рф"].map String.toList

/-- The codes of countries: a first letter and the second letters that go with it. -/
def countryCodes : List (Char × Text) :=
  [('a', "cdefgilmnoqrstuwxz"), ('b', "abdefghijmnorstvwyz"), ('c', "acdfghiklmnoruvwxyz"),
    ('d', "ejkmoz"), ('e', "cegrstu"), ('f', "ijkmor"), ('g', "abdefghilmnpqrstuwy"),
    ('h', "kmnrtu"), ('i', "delmnoqrst"), ('j', "emop"), ('k', "eghimnprwyz"),
    ('l', "abcikrstuvy"), ('m', "acdeghklmnopqrstuvwxyz"), ('n', "acefgilopruz"), ('o', "m"),
    ('p', "aefghklmnrstwy"), ('q', "a"), ('r', "eosuw"), ('s', "abcdeghijklmnortuvxyz"),
    ('t', "cdfghjklmnortvwz"), ('u', "agksyz"), ('v', "aceginu"), ('w', "fs"), ('y', "et"),
    ('z', "amw")].map fun (first, seconds) => (first, seconds.toList)

/-- Whether the ending of a host may stop in front of a text. -/
def endsHint (rest : Text) : Bool :=
  rest.head?.all fun next => next = '>' || isWordBoundary next

/-- Whether a text starts with the ending of a host. -/
def startsWithDomainEnding (text : Text) : Bool :=
  topLevelDomains.any (fun domain => (afterWord? domain text).any endsHint)
    || (match text.map foldLetter with
      | first :: second :: _ =>
        (countryCodes.lookup first).any (·.contains second) && endsHint (text.drop 2)
      | _ => false)
    || (List.range 64).any fun length => isEncodedLabel (text.take length) && endsHint (text.drop length)

/-- Whether a text starts with something that hints at an address. -/
def startsWithHint (text : Text) : Bool :=
  match text with
  | '@' :: _ => true
  | '.' :: rest =>
    let digits := rest.takeWhile isDecimalDigit
    (1 ≤ digits.length && digits.length ≤ 3 && (rest.drop digits.length).head? = some '.')
      || startsWithDomainEnding rest
  | _ => (afterWord? "localhost".toList text).isSome || (afterWord? "www.".toList text).isSome

/-- Whether a text holds a scheme or anything else that hints at an address. -/
def mayHoldAddress (isStart : Bool) : Text → Bool
  | [] => false
  | first :: after =>
    (opening? isStart first after).isSome || startsWithHint (first :: after)
      || mayHoldAddress false after

end WebAddress

end JapaneseSpacing
