import JapaneseSpacing.HalfWidth.Address
import JapaneseSpacing.Text.Blank

/-!
# Half-width cores

A run is a maximal stretch of letters and digits of ASCII, blanks, and the
characters of URLs and paths. Its core reaches from its first letter or digit to
its last one; the blanks beside the core belong to the core's outer span. Each run
with a letter or digit gives exactly one core.
-/

namespace JapaneseSpacing

/-- A character of a half-width run. -/
def isRunChar (char : Char) : Bool :=
  isAsciiAlphanumeric char || isBlank char || ".:/?#&=_%+@-".toList.contains char

/-- The core of a half-width run. `start` and `stop` delimit `text`, `outerStart` and
`outerStop` take in the blanks beside it. -/
structure HalfWidthCore where
  text : Text
  start : Int
  stop : Int
  outerStart : Int
  outerStop : Int
  /-- A phrase has a blank inside or is a URL or an email address. -/
  isPhrase : Bool
  hasBlankBefore : Bool
  hasBlankAfter : Bool
deriving Repr, DecidableEq

/-- Whether a core counts as a phrase and not as a single word. -/
def isPhraseText (text : Text) : Bool :=
  text.any isBlank || isUrl text || isEmail text

/-- The core of the run that begins at `offset`, if the run has a letter or digit. -/
def HalfWidthCore.ofRun? (offset : Nat) (run : Text) : Option HalfWidthCore :=
  let outside := fun char => !isAsciiAlphanumeric char
  let lead := run.takeWhile outside
  let tail := (run.reverse.takeWhile outside).reverse
  let text := (run.drop lead.length).take (run.length - lead.length - tail.length)
  if lead.length = run.length then none
  else
    let start := offset + lead.length
    let stop := offset + run.length - tail.length
    let before := (lead.reverse.takeWhile isBlank).length
    let after := (tail.takeWhile isBlank).length
    some {
      text
      start
      stop
      outerStart := start - before
      outerStop := stop + after
      isPhrase := isPhraseText text
      hasBlankBefore := 0 < before
      hasBlankAfter := 0 < after }

/-- The maximal runs of a text that begins at `offset`, each with its offset. -/
def halfWidthRuns (offset : Nat) (text : Text) : List (Nat × Text) :=
  match text with
  | [] => []
  | first :: rest =>
    if isRunChar first then
      let tail := rest.takeWhile isRunChar
      (offset, first :: tail) :: halfWidthRuns (offset + 1 + tail.length) (rest.drop tail.length)
    else halfWidthRuns (offset + 1) rest
termination_by text.length
decreasing_by
  · simp only [List.length_drop, List.length_cons]; omega
  · simp

/-- The half-width cores of a text from left to right. -/
def halfWidthCores (text : Text) : List HalfWidthCore :=
  (halfWidthRuns 0 text).filterMap fun run => HalfWidthCore.ofRun? run.1 run.2

end JapaneseSpacing
