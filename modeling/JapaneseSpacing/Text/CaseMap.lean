import JapaneseSpacing.Text.Basic
import JapaneseSpacing.Text.CaseMap.Table

/-!
# Lower and upper case

The full case mappings of Unicode, which may lengthen a text. A capital sigma becomes a
final sigma at the end of a word.
-/

namespace JapaneseSpacing

/-- The code point that one of the runs gives for `code`. -/
def CaseRun.map? (runs : Array CaseRun) (code : Nat) : Option Nat :=
  runs.findSome? fun run =>
    if run.first ≤ code ∧ code ≤ run.last ∧ (code - run.first) % run.stride = 0 then
      some ((code : Int) + run.distance).toNat
    else none

/-- The form of a character that a table of long forms and runs gives. -/
def caseForm (long : List (Nat × List Nat)) (runs : Array CaseRun) (char : Char) : Text :=
  match long.lookup char.toNat with
  | some codes => codes.map Char.ofNat
  | none =>
    match CaseRun.map? runs char.toNat with
    | some code => [Char.ofNat code]
    | none => [char]

/-- Whether the first character that is not passed over has a case. -/
def startsCased (text : Text) : Bool :=
  match text.dropWhile caseIgnorableCodePoints.contains with
  | [] => false
  | first :: _ => casedCodePoints.contains first

/-- The lower-case form of a text that follows `before`, which is given in reverse. -/
def lowerAfter (before : Text) : Text → Text
  | [] => []
  | first :: rest =>
    let form :=
      if first = 'Σ' then [if startsCased before && !startsCased rest then 'ς' else 'σ']
      else caseForm longLowers lowerRuns first
    form ++ lowerAfter (first :: before) rest

namespace Text

/-- The text in lower case. -/
def toLower (text : Text) : Text :=
  lowerAfter [] text

/-- The text in upper case. -/
def toUpper (text : Text) : Text :=
  text.flatMap (caseForm longUppers upperRuns)

end Text

end JapaneseSpacing
