import JapaneseSpacing.Text.Blank
import JapaneseSpacing.Text.CaseMap

/-!
# Reference labels

Two labels refer to the same definition if they agree once blanks are trimmed and runs
of blanks count as one space, without regard to case. Of several definitions of a label
the first one holds.
-/

namespace JapaneseSpacing

/-- The text with every run of blanks replaced by one space. -/
def collapseBlanks : Text → Text
  | [] => []
  | first :: rest =>
    if isBlank first then
      match rest with
      | next :: _ => if isBlank next then collapseBlanks rest else ' ' :: collapseBlanks rest
      | [] => [' ']
    else first :: collapseBlanks rest

/-- The form in which labels are compared. -/
def normalizedLabel (label : Text) : Text :=
  Text.toUpper (Text.toLower (collapseBlanks (Text.trim label)))

/-- The definition of a link target under a normalized label. -/
structure LinkDefinition where
  label : Text
  target : Text
deriving Repr, DecidableEq

/-- The target that a label refers to. -/
def definedTarget? (definitions : List LinkDefinition) (label : Text) : Option Text :=
  (definitions.find? fun definition => definition.label = normalizedLabel label).map (·.target)

end JapaneseSpacing
