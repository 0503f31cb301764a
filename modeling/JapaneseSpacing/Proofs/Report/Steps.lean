/-!
# Reading step by step

A reader looks at one item after another and changes its state, or refuses an item. What it makes
of a row of items follows from what it makes of the parts of the row (`Steps.append`).
-/

namespace JapaneseSpacing

/-- A reader gets from one state to another along some items, and refuses none of them. -/
def Steps {State Item : Type} (step : State → Item → Option State) (before : State)
    (items : List Item) (after : State) : Prop :=
  items.foldlM step before = some after

namespace Steps

variable {State Item : Type} {step : State → Item → Option State} {first second third : State}
  {item : Item} {items more : List Item}

theorem nil (step : State → Item → Option State) (state : State) : Steps step state [] state := rfl

theorem single (read : step first item = some second) : Steps step first [item] second := by
  rw [Steps, List.foldlM_cons, read]
  rfl

theorem append (front : Steps step first items second) (back : Steps step second more third) :
    Steps step first (items ++ more) third := by
  rw [Steps, List.foldlM_append, front]
  exact back

theorem cons (head : step first item = some second) (tail : Steps step second items third) :
    Steps step first (item :: items) third :=
  (single head).append tail

/-- Two states in which the first item leads to the same one lead on in the same way. -/
theorem of_step_eq (same : step first item = step second item)
    (steps : Steps step second (item :: items) third) : Steps step first (item :: items) third := by
  rw [Steps, List.foldlM_cons, same]
  exact steps

end Steps

end JapaneseSpacing
