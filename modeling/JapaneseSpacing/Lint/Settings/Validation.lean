import JapaneseSpacing.Data.Validated
import JapaneseSpacing.Lint.Settings
import JapaneseSpacing.Text.CaseMap

/-!
# Settings from plain data

Fields that are absent keep their defaults and unknown fields are passed over. File
extensions are trimmed, lower-cased and given a leading dot; an empty one is refused,
once every item of the list has been read.
-/

namespace JapaneseSpacing

/-- Read a node type by its name. -/
def NodeType.ofValue (value : Value) : Validated NodeType :=
  match value.asText with
  | .ok text =>
    match NodeType.ofName? (String.ofList text) with
    | some type => .ok type
    | none => .fail .notAnOption
  | .error _ => .fail .notAnOption

/-- The normal form of a file extension, unless it is empty. -/
def normalizeExtension? (extension : Text) : Option Text :=
  match Text.toLower (Text.trim extension) with
  | [] => none
  | '.' :: rest => some ('.' :: rest)
  | rest => some ('.' :: rest)

/-- Read a list of file extensions. -/
def extensionsOfValue (value : Value) : Validated (List Text) :=
  match value.asList Value.asText with
  | .error errors => .error errors
  | .ok extensions =>
    match extensions.mapM normalizeExtension? with
    | some normal => .ok normal
    | none => .fail .refused

/-- Read settings from the fields of a record. -/
def Settings.ofFields (fields : Fields) : Validated Settings :=
  let defaults : Settings := {}
  let skipNodes := fields.optional "skip_nodes" defaults.skipNodes (Value.asList NodeType.ofValue)
  let checkLinks := fields.optional "check_links" defaults.checkLinks Value.asBool
  let extensions := fields.optional "extensions" defaults.extensions extensionsOfValue
  match Validated.both skipNodes (Validated.both checkLinks extensions) with
  | .ok (skipNodes, checkLinks, extensions) => .ok { skipNodes, checkLinks, extensions }
  | .error errors => .error errors

end JapaneseSpacing
