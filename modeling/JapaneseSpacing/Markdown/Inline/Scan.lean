import JapaneseSpacing.Markdown.Entity
import JapaneseSpacing.Markdown.HtmlTag
import JapaneseSpacing.Markdown.Label
import JapaneseSpacing.Markdown.ShownAddress
import JapaneseSpacing.Markdown.Target
import JapaneseSpacing.Markdown.WebAddress

/-!
# Recognizing inline forms

At each place of a content at most one form is recognized, by the character there. To
find where a label ends, the forms in it are skipped, which takes recognizing them in
turn, up to a limit on nesting. What has been skipped once is remembered, as is which
runs of backticks stand further on.
-/

namespace JapaneseSpacing

/-- The stretch of a content that is being read. -/
structure Stretch where
  content : Text
  /-- Where the stretch stops in the content. -/
  stop : Nat
  definitions : List LinkDefinition
  /-- The characters in front of the place that belong to no form. -/
  pending : Text := []
  /-- How many links are open. -/
  linkDepth : Int := 0

namespace Stretch

/-- The character at a place of the stretch. -/
def char? (stretch : Stretch) (place : Nat) : Option Char :=
  if place < stretch.stop then stretch.content[place]? else none

/-- The rest of the stretch from a place on. -/
def rest (stretch : Stretch) (place : Nat) : Text :=
  (stretch.content.take stretch.stop).drop place

end Stretch

/-- What has been learnt about a content. -/
structure ScanMemory where
  /-- Where the form stops that starts at a place. -/
  skips : List (Nat × Nat) := []
  /-- The last place at which a run of so many backticks starts. -/
  backtickRuns : List (Nat × Nat) := []
  /-- Whether all runs of backticks have been seen. -/
  sawAllBackticks : Bool := false
deriving Repr, DecidableEq

/-- A step that learns about a content. -/
abbrev Scanning := StateM ScanMemory

/-- What can stand in a content. -/
inductive InlineForm where
  /-- Characters without a meaning. -/
  | plain
  /-- An address, of which the scheme's first characters have already been read as plain. -/
  | address (read : Nat) (address : Text)
  | lineFeed
  | escapedLineFeed
  /-- An escaped character or a character reference. -/
  | special
  | code (markup : Text)
  /-- A link whose label stands between two places. -/
  | link (labelStart labelStop : Nat) (target : Text)
  | image
  /-- An address in angle brackets. -/
  | bracketedAddress (address target : Text)
  | html
deriving Repr, DecidableEq

/-- A form and where it stops. -/
structure Recognized where
  form : InlineForm
  stop : Nat
deriving Repr, DecidableEq

/-! ## Forms that hold no others -/

/-- A character at which a form may start. -/
def startsForm (char : Char) : Bool :=
  "\n!#$%&*+-:<=>@[\\]^_\x60\x7b\x7d~".toList.contains char

/-- The address whose scheme ends the pending characters and whose colon and slashes stand
at a place. Trailing asterisks are left to emphasis. -/
def recognizeAddress? (stretch : Stretch) (place : Nat) : Option Recognized := do
  let word := (stretch.pending.reverse.takeWhile AddressParts.isSchemeChar).reverse
  if stretch.linkDepth ≤ 0 ∧ "://".toList.isPrefixOf (stretch.rest place)
      ∧ word.head?.any foldsToAsciiLetter then
    let text := stretch.content.drop (place - word.length)
    let (scheme, behindScheme) ← WebAddress.Scheme.ofText? text
    let rest ← scheme.afterRest? behindScheme
    let address := Text.dropRightWhile (· = '*') (text.take (text.length - rest.length))
    return ⟨.address word.length address, place + address.length - word.length⟩
  else none

/-- Where the indentation stops that starts at a place. -/
def indentationStop (stretch : Stretch) (place : Nat) : Nat :=
  place + ((stretch.rest place).takeWhile isIndentation).length

/-- An escaped character, or a line feed behind a backslash. -/
def recognizeEscape? (stretch : Stretch) (place : Nat) : Option Recognized :=
  (stretch.char? (place + 1)).map fun escaped =>
    if escaped = '\n' then ⟨.escapedLineFeed, indentationStop stretch (place + 2)⟩
    else ⟨.special, place + 2⟩

/-- Where the run of backticks stops that starts at a place. -/
def backtickStop (stretch : Stretch) (place : Nat) : Nat :=
  place + 1 + ((stretch.rest (place + 1)).takeWhile (· = '\x60')).length

/-- Where the first backtick at or behind a place is, or the end of the content. -/
def nextBacktick (stretch : Stretch) (place : Nat) : Nat :=
  place + ((stretch.content.drop place).takeWhile (· ≠ '\x60')).length

/-- Where the next run of `length` backticks stops at or behind a place, and the starts of
the runs of other lengths in front of it. -/
def closingBackticks (stretch : Stretch) (length place : Nat) (runs : List (Nat × Nat)) :
    Option Nat × List (Nat × Nat) :=
  if nextBacktick stretch place < stretch.content.length then
    let found := backtickStop stretch (nextBacktick stretch place) - nextBacktick stretch place
    if found = length then (some (backtickStop stretch (nextBacktick stretch place)), runs)
    else
      closingBackticks stretch length (backtickStop stretch (nextBacktick stretch place))
        ((found, nextBacktick stretch place) :: runs)
  else (none, runs)
termination_by stretch.content.length - place
decreasing_by
  have ahead : place ≤ nextBacktick stretch place := Nat.le_add_right _ _
  have behind : nextBacktick stretch place < backtickStop stretch (nextBacktick stretch place) := by
    unfold backtickStop
    omega
  omega

/-- Code between two runs of backticks of one length, or a run that is not closed. -/
def recognizeCode (stretch : Stretch) (place : Nat) : Scanning Recognized := do
  let stop := backtickStop stretch place
  let length := stop - place
  let memory ← get
  if memory.sawAllBackticks ∧ (memory.backtickRuns.lookup length).getD 0 ≤ place then
    return ⟨.plain, stop⟩
  else
    let (closed, runs) := closingBackticks stretch length stop memory.backtickRuns
    match closed with
    | some close =>
      set { memory with backtickRuns := runs }
      return ⟨.code (List.replicate length '\x60'), close⟩
    | none =>
      set { memory with backtickRuns := runs, sawAllBackticks := true }
      return ⟨.plain, stop⟩

/-- Whether a text in angle brackets is an address with a scheme of two to thirty-two
characters. -/
def isBracketedAddress (text : Text) : Bool :=
  let scheme := text.takeWhile fun char =>
    isAsciiLetter char || isAsciiDigit char || ['+', '.', '-'].contains char
  let rest := text.drop scheme.length
  let rest := if rest.getLast? = some '\n' then rest.dropLast else rest
  scheme.head?.any isAsciiLetter && 2 ≤ scheme.length && scheme.length ≤ 32
    && rest.head? = some ':' && (rest.drop 1).all fun char => 0x20 < char.toNat

/-- Whether a text is a label of the host of a mail address. -/
def isMailLabel (label : Text) : Bool :=
  let isOuter (char : Char) : Bool := isAsciiLetter char || isAsciiDigit char
  !label.isEmpty && label.length ≤ 63 && label.head?.all isOuter && label.getLast?.all isOuter
    && label.all fun char => isOuter char || char = '-'

/-- Whether a text in angle brackets is a mail address. -/
def isBracketedMail (text : Text) : Bool :=
  let text := if text.getLast? = some '\n' then text.dropLast else text
  let name := text.takeWhile (· ≠ '@')
  let host := text.drop (name.length + 1)
  !name.isEmpty && name.length < text.length
    && name.all (fun char => isAsciiLetter char || isAsciiDigit char
      || ".!#$%&'*+/=?^_\x60\x7b|\x7d~-".toList.contains char)
    && (Text.splitWhere (· = '.') host).all isMailLabel

/-- An address in angle brackets. -/
def recognizeBracketed? (stretch : Stretch) (place : Nat) : Option Recognized :=
  let inside := (stretch.rest (place + 1)).takeWhile fun char => char ≠ '<' && char ≠ '>'
  let stop := place + inside.length + 2
  if stretch.char? (stop - 1) ≠ some '>' then none
  else if isBracketedAddress inside then
    if isAllowedTarget inside then some ⟨.bracketedAddress inside inside, stop⟩ else none
  else if isBracketedMail inside then
    some ⟨.bracketedAddress inside ("mailto:".toList ++ inside), stop⟩
  else none

/-- Raw HTML. -/
def recognizeHtml? (stretch : Stretch) (place : Nat) : Option Recognized :=
  if place + 2 < stretch.stop then
    (Html.inlineMarkup.length? (stretch.content.drop place)).map fun length =>
      ⟨.html, place + length⟩
  else none

/-- A character reference. -/
def recognizeReference? (stretch : Stretch) (place : Nat) : Option Recognized :=
  if place + 1 < stretch.stop then
    (afterReference? (stretch.content.drop place)).map fun rest =>
      ⟨.special, stretch.content.length - rest.length⟩
  else none

/-! ## Links and images -/

/-- Where a label ends, whose brackets are open `depth` deep at a place. `skip` says where
the form at a place stops. A label that must not hold links is given up at the first
form in brackets. -/
def findLabelStop (skip : Nat → Scanning Nat) (stretch : Stretch) (refusesLinks : Bool)
    (depth place : Nat) : Scanning (Option Nat) :=
  match stretch.char? place with
  | none => return none
  | some char =>
    if place < stretch.stop then
      if char = ']' ∧ depth ≤ 1 then return some place
      else do
        let next ← skip place
        let depth := if char = ']' then depth - 1 else depth
        if char ≠ '[' then findLabelStop skip stretch refusesLinks depth (max (place + 1) next)
        else if next = place + 1 then findLabelStop skip stretch refusesLinks (depth + 1) (place + 1)
        else if refusesLinks then return none
        else findLabelStop skip stretch refusesLinks depth (max (place + 1) next)
    else return none
termination_by stretch.stop - place

/-- What stands behind a label. -/
inductive LinkTail where
  /-- A target in parentheses and where they end. -/
  | target (target : Text) (stop : Nat)
  /-- Parentheses that are never closed. -/
  | refused
  /-- Parentheses without a target, and the place at which that showed. -/
  | broken (place : Nat)
  /-- Something else. -/
  | absent
deriving Repr, DecidableEq

/-- White space inside the parentheses of a link. -/
def isLinkSpace (char : Char) : Bool :=
  isIndentation char || char = '\n'

/-- What is left behind a target: the text from a title's end on, or from the first
character that is no white space. -/
def afterInlineTitle (text : Text) : Text :=
  let behind := text.dropWhile isLinkSpace
  match if behind.length < text.length then openedTitle? behind else none with
  | some (closing, title) =>
    match TitleScan.ofText closing title with
    | .closed _ rest => rest.dropWhile isLinkSpace
    | _ => behind
  | none => behind

/-- What stands behind a label that ends at a place. -/
def linkTail (stretch : Stretch) (labelStop : Nat) : LinkTail :=
  match stretch.rest (labelStop + 1) with
  | '(' :: rest =>
    let start := rest.dropWhile isLinkSpace
    if start.isEmpty then .refused
    else
      let (target, rest) :=
        match linkTarget? start with
        | some (target, behind) =>
          if isAllowedTarget target then (target, afterInlineTitle behind) else ([], start)
        | none => ([], start)
      let stop := stretch.stop - rest.length + 1
      if rest.head? = some ')' then .target target stop else .broken stop
  | _ => .absent

/-- The target that a label refers to, given where the label stands and the place behind
it, where another label in brackets may name the definition instead. -/
def referredTarget (skip : Nat → Scanning Nat) (stretch : Stretch)
    (labelStart labelStop place : Nat) : Scanning (Option (Text × Nat)) := do
  if stretch.definitions.isEmpty then return none
  else
    let label := Text.slice stretch.content labelStart labelStop
    let find (label : Text) (stop : Nat) : Option (Text × Nat) :=
      (definedTarget? stretch.definitions label).map fun target => (target, stop)
    if stretch.char? place = some '[' then
      match ← findLabelStop skip stretch false 1 (place + 1) with
      | none => return find label (labelStop + 1)
      | some stop =>
        let name := Text.slice stretch.content (place + 1) stop
        return find (if name.isEmpty then label else name) (stop + 1)
    else return find label (labelStop + 1)

/-- A link whose label opens at a place. -/
def recognizeLink (skip : Nat → Scanning Nat) (stretch : Stretch) (place : Nat) :
    Scanning (Option Recognized) := do
  match ← findLabelStop skip stretch true 1 (place + 1) with
  | none => return none
  | some labelStop =>
    let found ← match linkTail stretch labelStop with
      | .target target stop => pure (some (target, stop))
      | .refused => pure none
      | .broken behind => referredTarget skip stretch (place + 1) labelStop behind
      | .absent => referredTarget skip stretch (place + 1) labelStop (labelStop + 1)
    return found.map fun (target, stop) => ⟨.link (place + 1) labelStop target, stop⟩

/-- An image whose exclamation mark is at a place. -/
def recognizeImage (skip : Nat → Scanning Nat) (stretch : Stretch) (place : Nat) :
    Scanning (Option Recognized) := do
  if stretch.char? (place + 1) ≠ some '[' then return none
  else
    match ← findLabelStop skip stretch false 1 (place + 2) with
    | none => return none
    | some labelStop =>
      let found ← match linkTail stretch labelStop with
        | .target target stop => pure (some (target, stop))
        | .absent => referredTarget skip stretch (place + 2) labelStop (labelStop + 1)
        | _ => pure none
      return found.map fun (_, stop) => ⟨.image, stop⟩

/-! ## Any form -/

/-- The form at a place, if there is one. Markers of emphasis are no forms. -/
def recognize (skip : Nat → Scanning Nat) (stretch : Stretch) (place : Nat) :
    Scanning (Option Recognized) :=
  match stretch.char? place with
  | none => return none
  | some char =>
    if !startsForm char then
      return some ⟨.plain,
        place + ((stretch.rest place).takeWhile fun char => !startsForm char).length⟩
    else
      match char with
      | ':' => return recognizeAddress? stretch place
      | '\n' => return some ⟨.lineFeed, indentationStop stretch (place + 1)⟩
      | '\\' => return recognizeEscape? stretch place
      | '\x60' => some <$> recognizeCode stretch place
      | '[' => recognizeLink skip stretch place
      | '!' => recognizeImage skip stretch place
      | '<' => return recognizeBracketed? stretch place <|> recognizeHtml? stretch place
      | '&' => return recognizeReference? stretch place
      | _ => return none

/-- Where the form or the character at a place stops. Below `depth` levels of brackets
nothing is recognized any more and the rest of the stretch is skipped. -/
def skipForm : Nat → Stretch → Nat → Scanning Nat
  | depth, stretch, place => do
    match (← get).skips.lookup place with
    | some stop => return stop
    | none =>
      let stop ← match depth with
        | 0 => pure (stretch.stop + 1)
        | depth + 1 =>
          match ← recognize (skipForm depth stretch) stretch place with
          | some found => pure found.stop
          | none => pure (place + 1)
      modify fun memory => { memory with skips := (place, stop) :: memory.skips }
      return stop

end JapaneseSpacing
