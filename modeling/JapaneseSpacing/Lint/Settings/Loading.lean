import JapaneseSpacing.Files.Disk
import JapaneseSpacing.Lint.Settings.Validation
import JapaneseSpacing.Text.Quoted

/-!
# Settings from a configuration file

A configuration file holds a mapping from the names of settings to their values, or nothing, in
a format of plain data. Without a given file, one of two names is looked for in the working
directory.

Loading goes through three stages: data are read from the file, they are taken as a mapping, and
settings are made of the mapping. What goes wrong in a stage is explained as a fault of the
configuration if the stage expects it, and is passed on as it is otherwise.
-/

namespace JapaneseSpacing

/-- What can go wrong while data are read and settings are made of them. -/
inductive LoadFault where
  /-- The path has a NUL in it, so that no file can be asked for. -/
  | nulInPath
  | text (problem : ReadError)
  | data (problem : DataError)
  /-- A key of the mapping names no setting because it is no text. -/
  | keyNotText
  | fields (errors : List FieldError)
deriving Repr, DecidableEq

/-- What a configuration file is blamed for. -/
inductive ConfigError where
  | unreadable
  | notAMapping (typeName : String)
  | invalid (errors : List FieldError)
deriving Repr, DecidableEq

/-- Why there are no settings. -/
inductive LoadError where
  /-- The configuration file is to blame. -/
  | config (problem : ConfigError)
  /-- A fault that no stage expects. -/
  | unexpected (fault : LoadFault)
deriving Repr, DecidableEq

/-- What is said about a configuration file at a path. -/
def ConfigError.explanation (path : Path) : ConfigError → Text
  | .unreadable => "Could not read config ".toList ++ path.text
  | .notAMapping typeName =>
    "Config ".toList ++ path.text ++ " must be a mapping, got ".toList ++ typeName.toList
  | .invalid _ => "Invalid config ".toList ++ path.text

/-- The names that a configuration file is looked for under, in this order. -/
def configNames : List Text :=
  [".ja-space-around-phrase.yaml", ".ja-space-around-phrase.yml"].map String.toList

/-- The configuration file in a directory. -/
def Disk.findConfig? (disk : Disk) (directory : Path) : Option Path :=
  (configNames.map fun name => directory.join [name]).find? disk.isFile

/-! ## Stages -/

/-- A stage that blames the configuration file for the faults it expects. -/
def LoadFault.expecting {α : Type} (expected : LoadFault → Option ConfigError) :
    Except LoadFault α → Except LoadError α
  | .ok value => .ok value
  | .error fault =>
    match expected fault with
    | some problem => .error (.config problem)
    | none => .error (.unexpected fault)

/-- The data in the file at a path. -/
def Disk.readData (format : DataFormat) (disk : Disk) (path : Path) : Except LoadFault Value :=
  if path.names.any (·.contains '\x00') then .error .nulInPath
  else
    match disk.readText path with
    | .error problem => .error (.text problem)
    | .ok text => (format text).mapError .data

/-- While data are read, a file that cannot be read or is not written in the format is expected. -/
def LoadFault.expectedInReading : LoadFault → Option ConfigError
  | .text (.access _) => some .unreadable
  | .data .malformed => some .unreadable
  | _ => none

/-- The entries of a mapping. Nothing is the same as a mapping without entries. -/
def Value.configEntries : Value → Except LoadError (List (Value × Value))
  | .null => .ok []
  | .mapping entries => .ok entries
  | data => .error (.config (.notAMapping data.typeName))

/-- The settings that the entries of a mapping make up. -/
def Settings.ofEntries (entries : List (Value × Value)) : Except LoadFault Settings :=
  match (Value.mapping entries).fields? with
  | none => .error .keyNotText
  | some fields => (Settings.ofFields fields).mapError .fields

/-- While settings are made, fields of the wrong kind are expected. -/
def LoadFault.expectedInMaking : LoadFault → Option ConfigError
  | .fields errors => some (.invalid errors)
  | _ => none

/-- The settings that plain data stands for. -/
def Settings.ofData (data : Value) : Except LoadError Settings := do
  let entries ← data.configEntries
  LoadFault.expecting LoadFault.expectedInMaking (Settings.ofEntries entries)

/-- The settings in the configuration file at a path. -/
def Disk.loadSettings (format : DataFormat) (disk : Disk) (path : Path) :
    Except LoadError Settings := do
  let data ← LoadFault.expecting LoadFault.expectedInReading (disk.readData format path)
  Settings.ofData data

/-! ## Settings in log records -/

/-- A list as log records show it. -/
def shownList (items : List Text) : Text :=
  ['['] ++ Text.join ", ".toList items ++ [']']

/-- A node type as log records show it. -/
def NodeType.shown (type : NodeType) : Text :=
  "<NodeType.".toList ++ type.name.toList ++ ": ".toList ++ Text.quoted type.name.toList ++ ['>']

/-- Settings as log records show them. -/
def Settings.shown (settings : Settings) : Text :=
  "skip_nodes=".toList ++ shownList (settings.skipNodes.map NodeType.shown)
    ++ " check_links=".toList ++ (if settings.checkLinks then "True" else "False").toList
    ++ " extensions=".toList ++ shownList (settings.extensions.map Text.quoted)

end JapaneseSpacing
