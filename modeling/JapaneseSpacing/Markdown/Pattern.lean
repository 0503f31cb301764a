import JapaneseSpacing.Text.Basic

/-!
# Patterns

A pattern maps a text to what remains of it after a match, once for each way to match.
The ways are listed in order of preference, longer repetitions first, so that the first
remainder is the one a search settles on. Combining patterns combines the lists.
-/

namespace JapaneseSpacing

/-- What may remain of a text after a match, the preferred remainder first. -/
abbrev Pattern := Text → List Text

namespace Pattern

/-- One character that `accepts` admits. -/
def char (accepts : Char → Bool) : Pattern
  | [] => []
  | first :: rest => if accepts first then [rest] else []

/-- The characters of a word as they are. -/
def word (letters : Text) : Pattern := fun text =>
  if letters.isPrefixOf text then [text.drop letters.length] else []

/-- One pattern and then another. -/
def followedBy (first second : Pattern) : Pattern := fun text =>
  (first text).flatMap second

/-- Either of two patterns, preferably the first. -/
def either (first second : Pattern) : Pattern := fun text =>
  first text ++ second text

/-- A pattern or nothing, preferably the pattern. -/
def optional (pattern : Pattern) : Pattern := fun text =>
  pattern text ++ [text]

/-- As many matches as possible, or fewer. A match of nothing is not repeated. -/
def many (pattern : Pattern) (text : Text) : List Text :=
  (((pattern text).filter (·.length < text.length)).attach.flatMap fun rest =>
    many pattern rest.1) ++ [text]
termination_by text.length
decreasing_by
  have smaller := rest.2
  simp only [List.mem_filter, decide_eq_true_eq] at smaller
  exact smaller.2

/-- At least one match. -/
def oneOrMore (pattern : Pattern) : Pattern :=
  pattern.followedBy pattern.many

/-- The patterns one after another. -/
def sequence (patterns : List Pattern) : Pattern :=
  patterns.foldr followedBy fun text => [text]

/-- How long the preferred match at the start of a text is. -/
def length? (pattern : Pattern) (text : Text) : Option Nat :=
  (pattern text).head?.map fun rest => text.length - rest.length

end Pattern

end JapaneseSpacing
