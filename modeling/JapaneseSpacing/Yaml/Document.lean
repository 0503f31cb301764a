import JapaneseSpacing.Text.Line
import JapaneseSpacing.Yaml.Node

/-!
# Data of a YAML document

The value of a document, in which a merge adds the entries of other mappings in front of
a mapping's own. Keys are no collections, and every tag is one of plain data.
-/

namespace JapaneseSpacing

namespace Yaml

/-- Whether a value can be a key. -/
def isKey : Value → Bool
  | .list _ => false
  | .set _ => false
  | .mapping _ => false
  | _ => true

mutual

/-- The value of a node. -/
def Node.value : Node → Except Error Value
  | .scalar tag text => scalarValue tag text
  | .sequence tag items => do
    match tag with
    | .sequence => return .list (← valuesOf items)
    | .pairs => return .list (← pairsOf items)
    | .unknown | .merge | .default => throw .unknownTag
    | _ => throw .badContent
  | .mapping tag entries => do
    match tag with
    | .mapping => return .mapping (← entriesOf entries)
    | .set => return .set ((← entriesOf entries).map (·.1))
    | .unknown | .merge | .default => throw .unknownTag
    | _ => throw .badContent

/-- The values of some nodes. -/
def valuesOf : List Node → Except Error (List Value)
  | [] => return []
  | item :: rest => return (← item.value) :: (← valuesOf rest)

/-- The pairs that mappings of one entry each stand for. -/
def pairsOf : List Node → Except Error (List Value)
  | [] => return []
  | .mapping _ [(key, value)] :: rest =>
    return .list [← key.value, ← value.value] :: (← pairsOf rest)
  | _ :: _ => throw .badContent

/-- The entries of a mapping: those that are merged, then its own. -/
def entriesOf (entries : List (Node × Node)) : Except Error (List (Value × Value)) :=
  return (← mergedEntries entries) ++ (← ownEntries entries)

/-- The entries that merges bring into a mapping. -/
def mergedEntries : List (Node × Node) → Except Error (List (Value × Value))
  | [] => return []
  | (.scalar .merge _, .mapping _ entries) :: rest =>
    return (← entriesOf entries) ++ (← mergedEntries rest)
  | (.scalar .merge _, .sequence _ items) :: rest =>
    return (← mergedItems items) ++ (← mergedEntries rest)
  | (.scalar .merge _, _) :: _ => throw .badMerge
  | _ :: rest => mergedEntries rest

/-- The entries of some mappings that are merged, the last mapping's first. -/
def mergedItems : List Node → Except Error (List (Value × Value))
  | [] => return []
  | .mapping _ entries :: rest => do
    let entries ← entriesOf entries
    return (← mergedItems rest) ++ entries
  | _ :: _ => throw .badMerge

/-- The entries that a mapping has without merges. -/
def ownEntries : List (Node × Node) → Except Error (List (Value × Value))
  | [] => return []
  | (.scalar .merge _, _) :: rest => ownEntries rest
  | (.scalar .default text, value) :: rest =>
    return (.string text, ← value.value) :: (← ownEntries rest)
  | (key, value) :: rest => do
    let key ← key.value
    if isKey key then return (key, ← value.value) :: (← ownEntries rest)
    else throw .unusableKey

end

/-- The value of a text that holds one document. A text without a document is nothing. -/
def parse (text : Text) : Except Error Value := do
  if text.all isAllowed then
    match ← Parsing.document (← tokensOf (Text.normalizeBreaks text)) with
    | none => return .null
    | some node => node.value
  else throw .forbiddenCharacter

/-- YAML as a format of plain data. -/
def format : DataFormat := fun text =>
  (parse text).mapError fun problem => if problem.isMalformed then .malformed else .unexpected

end Yaml

end JapaneseSpacing
