import JapaneseSpacing.Markdown.Character
import JapaneseSpacing.Text.Blank
import JapaneseSpacing.Text.CaseMap
import JapaneseSpacing.Text.PercentEncoding
import JapaneseSpacing.Text.Punycode

/-!
# How an address is shown

A link that shows its own address shows it in a readable form: an encoded host is
decoded, as are percent sequences other than those of reserved characters. The address
is taken apart for that and put together again, which loses an empty port and an empty
user.
-/

namespace JapaneseSpacing

/-- An address by its parts. -/
structure AddressParts where
  /-- The scheme with its colon, or nothing. -/
  scheme : Text := []
  hasSlashes : Bool := false
  user : Text := []
  host : Text := []
  port : Text := []
  /-- Everything behind the host and the port. -/
  rest : Text := []
deriving Repr, DecidableEq

namespace AddressParts

/-- A character of a scheme. -/
def isSchemeChar (char : Char) : Bool :=
  foldsToAsciiLetter char || isAsciiDigit char || ['.', '+', '-'].contains char

/-- Characters at which a host ends. -/
def hostStops : List Char :=
  ['%', '/', '?', ';', '#', '\'', '\x7b', '\x7d', '|', '\\', '^', '\x60', '<', '>', '"', ' ',
    '\r', '\n', '\t']

/-- A character of ASCII that a host label may hold. -/
def isLabelCharacter (char : Char) : Bool :=
  ('a' ≤ char && char ≤ 'z') || ('A' ≤ char && char ≤ 'Z') || isAsciiDigit char
    || ['+', '_', '-'].contains char

/-- The greatest length of a label. -/
def longestLabel : Nat := 63

/-- The greatest length of a host. -/
def longestHost : Nat := 255

/-- Whether a label of a host is valid. Characters outside ASCII are, as long as they do
not make it too long. -/
def isValidLabel (label : Text) : Bool :=
  label.length ≤ longestLabel && label.all fun char => isLabelCharacter char || 0x7F < char.toNat

/-- Cut the labels of a host in front of the first character that makes one invalid. -/
def splitHost : List Text → List Text × Option Text
  | [] => ([], none)
  | label :: rest =>
    if isValidLabel label then
      let (valid, invalid) := splitHost rest
      (label :: valid, invalid)
    else
      let start := (label.take longestLabel).takeWhile isLabelCharacter
      ([start], some (Text.join ['.'] (label.drop start.length :: rest)))

/-- A host and the port behind it, if digits or nothing stand behind its last colon. -/
def splitPort (host : Text) : Text × Text :=
  let digits := (host.reverse.takeWhile isAsciiDigit).reverse
  let before := host.take (host.length - digits.length)
  if before.getLast? = some ':' then (before.dropLast, digits) else (host, [])

/-- The text up to the last `@` in front of a slash, a question mark or a hash, and what
follows that. -/
def splitUser (text : Text) : Text × Text :=
  let region := text.takeWhile fun char => !(['/', '?', '#'].contains char)
  let behind := region.reverse.takeWhile (· ≠ '@')
  if behind.length = region.length then ([], text)
  else (region.take (region.length - behind.length - 1), text.drop (region.length - behind.length))

/-- The parts of the text behind a scheme that names a host. -/
def ofAuthority (text : Text) : AddressParts :=
  let (user, text) := splitUser text
  let region := text.takeWhile fun char => !hostStops.contains char
  let region := if region.getLast? = some ':' then region.dropLast else region
  let rest := text.drop region.length
  let (host, port) := splitPort region
  if host.head? = some '[' ∧ host.getLast? = some ']' ∧ host ≠ ['['] then
    { user, host := if longestHost < host.length then [] else (host.drop 1).dropLast, port, rest }
  else
    let (valid, invalid) := splitHost (host.splitWhere (· = '.'))
    let host := Text.join ['.'] valid
    { user, host := if longestHost < host.length then [] else host, port,
      rest := invalid.getD [] ++ rest }

/-- The schemes that name a host only behind two slashes. -/
def slashedSchemes : List Text :=
  ["http:", "https:", "ftp:", "gopher:", "file:"].map String.toList

/-- Take an address apart. -/
def ofText (text : Text) : AddressParts :=
  let text := Text.trim text
  let word := text.takeWhile isSchemeChar
  let scheme :=
    if !word.isEmpty && (text.drop word.length).head? = some ':' then word ++ [':'] else []
  let behind := text.drop scheme.length
  let hasSlashes := ['/', '/'].isPrefixOf behind
  let parts :=
    if hasSlashes then ofAuthority (behind.drop 2)
    else if !scheme.isEmpty && !slashedSchemes.contains scheme then ofAuthority behind
    else { rest := behind }
  { parts with scheme, hasSlashes }

/-- Put an address together. -/
def toText (parts : AddressParts) : Text :=
  parts.scheme ++ (if parts.hasSlashes then ['/', '/'] else [])
    ++ (if parts.user.isEmpty then [] else parts.user ++ ['@'])
    ++ (if parts.host.contains ':' then '[' :: parts.host ++ [']'] else parts.host)
    ++ (if parts.port.isEmpty then [] else ':' :: parts.port) ++ parts.rest

/-- The schemes whose hosts are decoded. -/
def decodedSchemes : List Text :=
  [[], "http:".toList, "https:".toList, "mailto:".toList]

/-- The characters that separate the labels of a host. -/
def isLabelSeparator (char : Char) : Bool :=
  char = '.' || char = Char.ofNat 0x3002 || char = Char.ofNat 0xFF0E || char = Char.ofNat 0xFF61

/-- The readable form of a label. -/
def decodedLabel? (label : Text) : Option Text :=
  if "xn--".toList.isPrefixOf label then Punycode.decode? (Text.toLower (label.drop 4))
  else some label

/-- The readable form of a host, or the host itself if one of its labels has none. -/
def decodedHost (host : Text) : Text :=
  match (host.splitWhere isLabelSeparator).mapM decodedLabel? with
  | some labels => Text.join ['.'] labels
  | none => host

end AddressParts

/-- The characters whose percent sequences are shown as they are. -/
def staysEncoded (char : Char) : Bool :=
  [';', '/', '?', ':', '@', '&', '=', '+', '$', ',', '#', '%'].contains char

/-- The readable form of an address. -/
def shownAddress (address : Text) : Text :=
  let parts := AddressParts.ofText address
  let host :=
    if !parts.host.isEmpty && AddressParts.decodedSchemes.contains parts.scheme then
      AddressParts.decodedHost parts.host
    else parts.host
  Text.decodePercent staysEncoded { parts with host }.toText

end JapaneseSpacing
