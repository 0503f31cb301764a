import JapaneseSpacing.Markdown.Character
import JapaneseSpacing.Markdown.Token

/-!
# Emphasis markers

A marker may open or close emphasis depending on what touches its run: white space,
punctuation or anything else. Closing markers are matched from left to right with the
nearest opening marker of the same kind, where two runs of which one could do both must
not have lengths that add up to a multiple of three unless both are multiples of three.
Matched markers become emphasis, strong emphasis where two pairs touch, or deleted text.
-/

namespace JapaneseSpacing

/-- A marker among the tokens of a content. -/
structure Delimiter where
  marker : Char
  /-- How long its run is, or zero for markers to which the rule of three does not apply. -/
  run : Nat
  canOpen : Bool
  canClose : Bool
deriving Repr, DecidableEq

/-- A part of a content: a token or a marker that may become one. -/
inductive Piece where
  | token (token : Token)
  | delimiter (delimiter : Delimiter) (text : Text)
deriving Repr, DecidableEq

/-- What the two sides of a run of markers allow it to do. -/
structure Flanking where
  canOpen : Bool
  canClose : Bool
deriving Repr, DecidableEq

/-- What a run between two characters may do. Some markers do nothing inside a word. -/
def Flanking.ofNeighbours (before after : Char) (splitsWords : Bool) : Flanking :=
  let faces (inner outer : Char) : Bool :=
    !isFlankingSpace inner
      && (!isFlankingPunctuation inner || isFlankingSpace outer || isFlankingPunctuation outer)
  let left := faces after before
  let right := faces before after
  { canOpen := left && (splitsWords || !right || isFlankingPunctuation before)
    canClose := right && (splitsWords || !left || isFlankingPunctuation after) }

/-! ## Matching -/

/-- A marker with its place among the pieces and the number of its closing marker. -/
structure Mark extends Delimiter where
  place : Nat
  partner : Option Nat := none

/-- What has been matched up to a marker. -/
structure Matching where
  marks : Array Mark
  /-- How many markers in front of each one need not be looked at again. -/
  jumps : Array Nat := #[]
  /-- The first marker of the current run. -/
  header : Nat := 0
  /-- The place behind the last marker, unless a match ended its run. -/
  nextPlace : Option Nat := none
  /-- For each kind of closing marker how many of the first markers cannot open it. -/
  bottoms : List ((Char × Bool × Nat) × Nat) := []

namespace Matching

/-- The marker of a number. -/
def mark (state : Matching) (number : Nat) : Mark :=
  state.marks.getD number { marker := ' ', run := 0, canOpen := false, canClose := false, place := 0 }

/-- Whether the rule of three forbids a match. -/
def isOddMatch (opener closer : Mark) : Bool :=
  (opener.canClose || closer.canOpen) && (opener.run + closer.run) % 3 == 0
    && (opener.run % 3 != 0 || closer.run % 3 != 0)

/-- The opening marker of a closing one among the first `count` markers, not counting the
first `bottom`. -/
def opener? (state : Matching) (closer : Mark) (bottom count : Nat) : Option Nat :=
  match count with
  | 0 => none
  | number + 1 =>
    if number < bottom then none
    else
      let opener := state.mark number
      if opener.marker = closer.marker && opener.canOpen && opener.partner.isNone
          && !isOddMatch opener closer then some number
      else opener? state closer bottom (number - state.jumps.getD number 0)
termination_by count
decreasing_by omega

/-- Match the marker of a number if it can close. -/
def step (state : Matching) (number : Nat) : Matching :=
  let closer := state.mark number
  let header :=
    if (state.mark state.header).marker ≠ closer.marker ∨ state.nextPlace ≠ some closer.place then
      number
    else state.header
  let state := { state with
    jumps := state.jumps.push 0
    header
    nextPlace := some (closer.place + 1) }
  if closer.canClose then
    let key := (closer.marker, closer.canOpen, closer.run % 3)
    let start := header - state.jumps.getD header 0
    match state.opener? closer ((state.bottoms.lookup key).getD 0) start with
    | some opener =>
      let skipped :=
        if 0 < opener ∧ !(state.mark (opener - 1)).canOpen then state.jumps.getD (opener - 1) 0 + 1
        else 0
      { state with
        jumps := (state.jumps.setIfInBounds number (number - opener + skipped)).setIfInBounds opener
          skipped
        marks := (state.marks.modify number fun mark => { mark with canOpen := false }).modify opener
          fun mark => { mark with partner := some number, canClose := false }
        nextPlace := none }
    | none =>
      if start = 0 then state else { state with bottoms := (key, start) :: state.bottoms }
  else state

end Matching

/-- The markers among some pieces, of which the first stands at `place`. -/
def marksFrom (place : Nat) : List Piece → List Mark
  | [] => []
  | .token _ :: rest => marksFrom (place + 1) rest
  | .delimiter delimiter _ :: rest => { delimiter with place } :: marksFrom (place + 1) rest

/-- The markers among some pieces, matched. -/
def matchedMarks (pieces : List Piece) : Array Mark :=
  let marks := (marksFrom 0 pieces).toArray
  ((List.range marks.size).foldl Matching.step { marks }).marks

/-! ## Tokens -/

/-- The token of a marker that is not matched, or any other token. -/
def Piece.plainToken : Piece → Token
  | .token single => single
  | .delimiter _ text => .ofText text 0

/-- The opening token of an element that markers enclose. -/
def openingToken (element : Element) (markup : Text) : Token :=
  { kind := .opening element, nesting := 1, markup }

/-- The closing token of an element that markers enclose. -/
def closingToken (element : Element) (markup : Text) : Token :=
  { kind := .closing element, nesting := -1, markup }

/-- The marker of deleted text, which is always doubled. -/
def deletionMarker : Char := '~'

/-- Exchange two tokens. -/
def swapTokens (tokens : Array Token) (first second : Nat) : Array Token :=
  match tokens[first]?, tokens[second]? with
  | some a, some b => (tokens.setIfInBounds first b).setIfInBounds second a
  | _, _ => tokens

/-- Move the single marker in front of some closing tokens of deleted text behind them. -/
def moveLoneMarker (tokens : Array Token) (place : Nat) : Array Token :=
  let closings := (tokens.toList.drop (place + 1)).takeWhile fun token =>
    token.kind = .closing .strikethrough
  swapTokens tokens place (place + closings.length)

/-- Turn the matched markers of deleted text into tokens. -/
def deletedText (marks : Array Mark) (tokens : Array Token) : Array Token :=
  let markup := [deletionMarker, deletionMarker]
  let pairs := marks.toList.filterMap fun mark =>
    match mark.partner.bind fun partner => marks[partner]? with
    | some closer => if mark.marker = deletionMarker then some (mark.place, closer.place) else none
    | none => none
  let tokens := pairs.foldl (fun tokens (opener, closer) =>
    (tokens.setIfInBounds opener (openingToken .strikethrough markup)).setIfInBounds closer
      (closingToken .strikethrough markup)) tokens
  let loneMarkers := pairs.filterMap fun (_, closer) =>
    match tokens[closer - 1]? with
    | some token => if token.kind = .text ∧ token.content = [deletionMarker] then some (closer - 1) else none
    | none => none
  loneMarkers.reverse.foldl moveLoneMarker tokens

/-- Empty a token. -/
def emptyToken (tokens : Array Token) (place : Nat) : Array Token :=
  tokens.modify place fun token => { token with content := [] }

/-- Turn the matched markers of emphasis among the first `count` into tokens, from the
last one to the first. Two pairs that touch at both ends are one strong emphasis. -/
def emphasizedText (marks : Array Mark) (tokens : Array Token) (count : Nat) : Array Token :=
  match count with
  | 0 => tokens
  | number + 1 =>
    match marks[number]?, marks[number]?.bind fun mark => mark.partner with
    | some opener, some partner =>
      match marks[partner]? with
      | some closer =>
        if opener.marker = deletionMarker then emphasizedText marks tokens number
        else
          let outer :=
            if number = 0 then none
            else
              match marks[number - 1]?, marks[partner + 1]? with
              | some before, some after =>
                if before.partner = some (partner + 1) ∧ before.marker = opener.marker
                    ∧ before.place + 1 = opener.place ∧ after.place = closer.place + 1 then
                  some (before.place, after.place)
                else none
              | _, _ => none
          match outer with
          | some (before, after) =>
            let markup := [opener.marker, opener.marker]
            let tokens := (tokens.setIfInBounds opener.place (openingToken .strong markup)).setIfInBounds
              closer.place (closingToken .strong markup)
            emphasizedText marks (emptyToken (emptyToken tokens before) after) (number - 1)
          | none =>
            let markup := [opener.marker]
            let tokens := (tokens.setIfInBounds opener.place (openingToken .emphasis markup)).setIfInBounds
              closer.place (closingToken .emphasis markup)
            emphasizedText marks tokens number
      | none => emphasizedText marks tokens number
    | _, _ => emphasizedText marks tokens number
termination_by count
decreasing_by all_goals omega

/-- The tokens of some pieces with their markers matched. -/
def resolveMarkers (pieces : List Piece) : List Token :=
  let marks := matchedMarks pieces
  let tokens := (pieces.map Piece.plainToken).toArray
  (emphasizedText marks (deletedText marks tokens) marks.size).toList

/-- The tokens with neighbouring texts joined, and with the level of each token. `level`
elements are open in front of them. -/
def joinTexts (level : Int) : List Token → List Token
  | [] => []
  | token :: rest =>
    let level := if token.nesting < 0 then level - 1 else level
    let inner := if 0 < token.nesting then level + 1 else level
    match token.kind, joinTexts inner rest with
    | .text, next :: others =>
      if next.kind = .text then { next with content := token.content ++ next.content } :: others
      else { token with level } :: next :: others
    | _, tokens => { token with level } :: tokens

end JapaneseSpacing
