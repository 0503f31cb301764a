import JapaneseSpacing.Markdown.Character
import JapaneseSpacing.Text.Basic
import JapaneseSpacing.Text.Separator

/-!
# Addresses in running text

An address starts with a scheme and names a host, whose labels are made of any letters,
and perhaps a port and a path. It ends where a separator, punctuation or one of three
brackets does, except that a path goes on through balanced brackets and through
punctuation in front of more text. Each reader gives what follows the part it reads.
-/

namespace JapaneseSpacing

/-- Brackets at which no address goes on. -/
def isAddressBracket (char : Char) : Bool :=
  char = '<' || char = '>' || char = Char.ofNat 0xFF5C

/-- A character that a host label consists of. -/
def isHostLetter (char : Char) : Bool :=
  !isAddressBracket char && !isWordBoundary char

/-- A word in any letter case. -/
def afterWord? (word text : Text) : Option Text :=
  if word.isPrefixOf (text.map foldLetter) then some (text.drop word.length) else none

namespace WebAddress

/-- Whether a label is in the encoded form of labels outside ASCII. -/
def isEncodedLabel (label : Text) : Bool :=
  match afterWord? "xn--".toList label with
  | some rest =>
    1 ≤ rest.length && rest.length ≤ 59
      && rest.all fun char => foldsToAsciiLetter char || isAsciiDigit char || char = '-'
  | none => false

/-- Whether a word is a label of a host. -/
def isHostLabel (label : Text) : Bool :=
  isEncodedLabel label
    || (!label.isEmpty && label.length ≤ 63 && label.head?.all isHostLetter
      && label.getLast?.all isHostLetter)

/-- Whether a word is a last label that makes a host certain: it has no hyphen. -/
def isPlainLabel (label : Text) : Bool :=
  isEncodedLabel label || (!label.isEmpty && label.length ≤ 63 && label.all isHostLetter)

/-- Whether a host may stop in front of a text. -/
def isHostStop : Text → Bool
  | [] => true
  | first :: rest =>
    (isAddressBracket first || isWordBoundary first) && first ≠ '-' && first ≠ '_'
      && !(first = ':' && rest.head?.any isDecimalDigit)
      && !(first = '.' && rest.head?.any fun next => next = '-' || !isWordBoundary next)

/-- Whether digits are a port: at most four, or five of a number up to 65535. -/
def isPort (digits : Text) : Bool :=
  match digits with
  | [first, second, third, fourth, _] =>
    ('1' ≤ first && first ≤ '5')
      || (first = '6' &&
        (('0' ≤ second && second ≤ '4')
          || (second = '5' &&
            (('0' ≤ third && third ≤ '4')
              || (third = '5' &&
                (('0' ≤ fourth && fourth ≤ '2')
                  || (fourth = '3' && digits.getLast?.all fun last => '0' ≤ last && last ≤ '5')))))))
  | _ => 1 ≤ digits.length && digits.length ≤ 4

/-- What follows the end of a host and an optional port. -/
def afterPort? (allowsPort : Bool) (text : Text) : Option Text :=
  let digits := (text.drop 1).takeWhile isDecimalDigit
  let rest := text.drop (1 + digits.length)
  if allowsPort && text.head? = some ':' && isPort digits && isHostStop rest then some rest
  else if isHostStop text then some text
  else none

/-- A character of a label, at its ends or inside. -/
def isHostCharacter (char : Char) : Bool :=
  isHostLetter char || char = '-'

/-- What follows the label at the start of a text and a point is shorter than the text. -/
theorem length_lt_of_dropWhile {text more : Text} {first : Char}
    (found : text.dropWhile isHostCharacter = first :: more) : more.length < text.length := by
  have bound := (List.dropWhile_suffix isHostCharacter (l := text)).length_le
  rw [found] at bound
  exact bound

/-- What follows the longest host, of any number of labels, and its port. -/
def afterHost? (allowsPort : Bool) (text : Text) : Option Text :=
  if isHostLabel (text.takeWhile isHostCharacter) then
    match _found : text.dropWhile isHostCharacter with
    | '.' :: more => afterHost? allowsPort more <|> afterPort? allowsPort ('.' :: more)
    | rest => afterPort? allowsPort rest
  else none
termination_by text.length
decreasing_by exact length_lt_of_dropWhile _found

/-- What follows the longest host of at least two labels, of which `count` have been read,
and its port. -/
def afterDottedHost? (count : Nat) (text : Text) : Option Text :=
  let label := text.takeWhile isHostCharacter
  let here (rest : Text) : Option Text :=
    if 0 < count && isPlainLabel label then afterPort? true rest else none
  match _found : text.dropWhile isHostCharacter with
  | '.' :: more =>
    (if isHostLabel label then afterDottedHost? (count + 1) more else none) <|> here ('.' :: more)
  | rest => here rest
termination_by text.length
decreasing_by exact length_lt_of_dropWhile _found

/-- What follows the user in front of a host. -/
def afterUser? (text : Text) : Option Text :=
  let user := text.takeWhile fun char => !isGap char && !(['@', '/', '[', ']', '(', ')'].contains char)
  if !user.isEmpty && (text.drop user.length).head? = some '@' then
    some (text.drop (user.length + 1))
  else none

/-- What follows the bracket that closes a part of a path, in which at least `least`
characters but no gap may stand. -/
def afterBracketed? (closing : Char) (least : Nat) (text : Text) : Option Text :=
  let inside := text.takeWhile fun char => !isGap char && char ≠ closing
  if least ≤ inside.length ∧ (text.drop inside.length).head? = some closing then
    some (text.drop (inside.length + 1))
  else none

/-- Whether more of an address can follow a punctuation character: neither the end nor a
gap nor one of `others`. -/
def goesOn (others : List Char) (text : Text) : Bool :=
  text.head?.any fun next => !isGap next && !others.contains next

/-- What follows one part of a path. -/
def afterPathPart? : Text → Option Text
  | [] => none
  | first :: rest =>
    match first with
    | '[' => afterBracketed? ']' 0 rest
    | '(' => afterBracketed? ')' 0 rest
    | '\x7b' => afterBracketed? '\x7d' 0 rest
    | '"' => afterBracketed? '"' 1 rest
    | '\'' =>
      afterBracketed? '\'' 1 rest
        <|> (if rest.head?.any fun next => isHostLetter next || next = '-' then some rest else none)
    | '.' =>
      let dots := rest.takeWhile (· = '.')
      let behind := rest.drop dots.length
      if !dots.isEmpty && behind.head?.any fun next =>
          foldsToAsciiLetter next || isAsciiDigit next || ['%', '/', '&'].contains next then
        some (behind.drop 1)
      else if goesOn ['.'] rest then some rest
      else none
    | '-' => some (rest.dropWhile (· = '-'))
    | ',' => if goesOn [] rest then some rest else none
    | ';' => if goesOn [] rest then some rest else none
    | '!' =>
      let behind := rest.dropWhile (· = '!')
      if goesOn ['!'] behind then some behind else none
    | '?' => if goesOn ['?'] rest then some rest else none
    | ')' => none
    | ']' => none
    | '\x7d' => none
    | other => if isGap other || isAddressBracket other then none else some rest

/-- What follows as many parts of a path as possible. -/
def afterPathParts (text : Text) : Text :=
  match afterPathPart? text with
  | some rest => if rest.length < text.length then afterPathParts rest else text
  | none => text
termination_by text.length

/-- What follows a path, which may be missing. -/
def afterPath (text : Text) : Text :=
  match text with
  | first :: rest =>
    if first = '/' ∨ first = '?' ∨ first = '#' then
      let behind := afterPathParts rest
      if behind.length < rest.length ∨ first = '/' then behind else text
    else text
  | [] => text

/-- What follows the rest of an address behind the slashes of a web scheme. -/
def afterAuthority? (text : Text) : Option Text :=
  ((afterUser? text).bind (afterHost? true) <|> afterHost? true text).map afterPath

/-- What follows the rest of an address behind two slashes without a scheme. -/
def afterBareAuthority? (text : Text) : Option Text :=
  let host (text : Text) : Option Text :=
    (afterWord? "localhost".toList text).bind (afterPort? true) <|> afterDottedHost? 0 text
  ((afterUser? text).bind host <|> host text).map afterPath

/-- A character of the name in front of the `@` of a mail address. -/
def isMailNameCharacter (char : Char) : Bool :=
  foldsToAsciiLetter char || isAsciiDigit char
    || ['-', ';', ':', '&', '=', '+', '$', ',', '.', '_', '"'].contains char

/-- What follows the address behind the scheme of mail. -/
def afterMailAddress? (text : Text) : Option Text :=
  let name := text.takeWhile isMailNameCharacter
  if !name.isEmpty && name.head? ≠ some '"' && (text.drop name.length).head? = some '@' then
    afterHost? false (text.drop (name.length + 1))
  else none

/-- The beginnings by which addresses are found. -/
inductive Scheme where
  | http
  | https
  | ftp
  /-- Two slashes without a scheme. -/
  | bare
  | mail
deriving Repr, DecidableEq

namespace Scheme

/-- How an address with the scheme starts. -/
def word : Scheme → Text
  | http => "http:".toList
  | https => "https:".toList
  | ftp => "ftp:".toList
  | bare => "//".toList
  | mail => "mailto:".toList

/-- The scheme at the start of a text, in any letter case, and what follows it. -/
def ofText? (text : Text) : Option (Scheme × Text) :=
  [http, https, ftp, bare, mail].findSome? fun scheme =>
    if scheme.word.isPrefixOf (text.map Char.toLower) then
      some (scheme, text.drop scheme.word.length)
    else none

/-- What follows the rest of an address behind its scheme. -/
def afterRest? (scheme : Scheme) (text : Text) : Option Text :=
  match scheme with
  | mail => afterMailAddress? text
  | bare => afterBareAuthority? text
  | _ => if "//".toList.isPrefixOf text then afterAuthority? (text.drop 2) else none

end Scheme

end WebAddress

end JapaneseSpacing
