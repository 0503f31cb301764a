import JapaneseSpacing.Data.Validated
import JapaneseSpacing.Proofs.Report.JsonTokens

/-!
# Reading written JSON back

The tokens of a value are read as the data that the value stands for (`steps_tokens`). A value
that is written on one line or on several lines is therefore read back (`readJson_line`).
-/

namespace JapaneseSpacing

namespace JsonValue

mutual

/-- The data that a value stands for. -/
def data : JsonValue → Value
  | null => .null
  | int value => .int value
  | string text => .string text
  | array items => .list (itemData items)
  | object entries => .mapping (entryData entries)

/-- The data of each of some values. -/
def itemData : List JsonValue → List Value
  | [] => []
  | item :: rest => data item :: itemData rest

/-- The data of each of some entries. -/
def entryData : List (Text × JsonValue) → List (Value × Value)
  | [] => []
  | (key, value) :: rest => (.string key, data value) :: entryData rest

end

theorem itemData_eq_map (items : List JsonValue) : itemData items = items.map data := by
  induction items with
  | nil => rfl
  | cons item rest inductionHypothesis => rw [itemData, inductionHypothesis, List.map_cons]

/-- The data of a record is a mapping whose keys are all texts. -/
theorem fields?_data (entries : List (Text × JsonValue)) :
    (object entries).data.fields? = some (entries.map fun (key, value) => (key, value.data)) := by
  rw [data, Value.fields?]
  induction entries with
  | nil => rfl
  | cons entry rest inductionHypothesis =>
    obtain ⟨key, value⟩ := entry
    rw [entryData, List.mapM_cons, inductionHypothesis]
    rfl

/-- Whether a list fits is decided by its items. -/
theorem fits_array {items : List JsonValue} :
    (array items).fits = true ↔ ∀ item ∈ items, item.fits = true := by
  rw [fits]
  induction items with
  | nil => simp [fitsItems]
  | cons item rest inductionHypothesis => simp [fitsItems, inductionHypothesis]

/-- The tokens of a value do not begin with the end of a list. -/
theorem step_itemOrEnd (value : JsonValue) (outer : List OpenData) :
    ∃ token rest, value.tokens = token :: rest
      ∧ DataReader.step ⟨outer, .itemOrEnd⟩ token
        = DataReader.step ⟨.list [] :: outer, .value⟩ token := by
  cases value with
  | null => exact ⟨_, _, rfl, rfl⟩
  | int value => exact ⟨_, _, rfl, rfl⟩
  | string text => exact ⟨_, _, rfl, rfl⟩
  | array items => exact ⟨_, _, rfl, rfl⟩
  | object entries => exact ⟨_, _, rfl, rfl⟩

/-- The first item of a list is read like any other. -/
theorem steps_firstItem {item : JsonValue} {rest : List JsonValue} {outer : List OpenData}
    {reader : DataReader}
    (steps : Steps DataReader.step ⟨.list [] :: outer, .value⟩
      (separated (itemTokens (item :: rest)) ++ [.listEnd]) reader) :
    Steps DataReader.step ⟨outer, .itemOrEnd⟩
      (separated (itemTokens (item :: rest)) ++ [.listEnd]) reader := by
  obtain ⟨token, more, shape, same⟩ := item.step_itemOrEnd outer
  rw [itemTokens, separated, shape] at steps ⊢
  exact .of_step_eq same steps

mutual

/-- The tokens of a value are read as its data, whatever is being read around it. -/
theorem steps_tokens : (value : JsonValue) → (outer : List OpenData) →
    Steps DataReader.step ⟨outer, .value⟩ value.tokens ⟨outer, .behind value.data⟩
  | null, _ => .single rfl
  | int _, _ => .single rfl
  | string _, _ => .single rfl
  | array [], _ => .cons rfl (.single rfl)
  | array (item :: rest), outer =>
    .cons rfl (steps_firstItem (steps_items (item :: rest) (List.cons_ne_nil _ _) [] outer))
  | object [], _ => .cons rfl (.single rfl)
  | object (entry :: rest), outer =>
    .cons rfl (.of_step_eq rfl (steps_entries (entry :: rest) (List.cons_ne_nil _ _) [] outer))

/-- The items of a list are read behind those that have been read. -/
theorem steps_items : (more : List JsonValue) → more ≠ [] → (items : List Value) →
    (outer : List OpenData) →
    Steps DataReader.step ⟨.list items :: outer, .value⟩
      (separated (itemTokens more) ++ [.listEnd]) ⟨outer, .behind (.list (items ++ itemData more))⟩
  | [], someItems, _, _ => absurd rfl someItems
  | [item], _, items, outer => by
    rw [itemTokens, itemTokens, separated_single]
    exact (steps_tokens item _).append (.single rfl)
  | item :: next :: rest, _, items, outer => by
    have tail := steps_items (next :: rest) (List.cons_ne_nil _ _) (items ++ [item.data]) outer
    rw [List.append_assoc, List.singleton_append] at tail
    rw [itemTokens, itemTokens, separated_cons_cons, List.append_assoc]
    exact (steps_tokens item _).append (.cons rfl tail)

/-- The entries of a record are read behind those that have been read. -/
theorem steps_entries : (more : List (Text × JsonValue)) → more ≠ [] →
    (entries : List (Value × Value)) → (outer : List OpenData) →
    Steps DataReader.step ⟨outer, .key entries⟩ (separated (entryTokens more) ++ [.recordEnd])
      ⟨outer, .behind (.mapping (entries ++ entryData more))⟩
  | [], someEntries, _, _ => absurd rfl someEntries
  | [(key, value)], _, entries, outer => by
    rw [entryTokens, entryTokens, separated_single]
    exact .cons rfl (.cons rfl ((steps_tokens value _).append (.single rfl)))
  | (key, value) :: next :: rest, _, entries, outer => by
    have tail := steps_entries (next :: rest) (List.cons_ne_nil _ _)
      (entries ++ [(.string key, value.data)]) outer
    rw [List.append_assoc, List.singleton_append] at tail
    rw [entryTokens, entryTokens, separated_cons_cons, List.append_assoc]
    exact .cons rfl (.cons rfl ((steps_tokens value _).append (.cons rfl tail)))

end

/-- A text that spells the tokens of a value in front of a line feed is read as its data. -/
theorem readJson_line {text : Text} {value : JsonValue}
    (spells : JsonLexer.Spells text value.tokens) :
    readJson (text ++ ['\n']) = some value.data := by
  have steps : value.tokens.foldlM DataReader.step {} = some ⟨[], .behind value.data⟩ :=
    steps_tokens value []
  rw [readJson, jsonTokens_line spells]
  simp only [Option.bind_eq_bind, Option.bind_some, steps]
  rfl

/-- A mark inside a string ends nothing. -/
example : readJson "\x7b\"a\\\",\":[-10,[],\"\\u0000é\"]\x7d\n".toList
    = some (.mapping [(.string "a\",".toList,
      .list [.int (-10), .list [], .string "\x00é".toList])]) := by
  cbv

end JsonValue

end JapaneseSpacing
