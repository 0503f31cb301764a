import JapaneseSpacing.Files.Disk
import JapaneseSpacing.Text.CaseMap

/-!
# Files to lint

A path to a file selects that file, whatever its name. A path to a directory selects every
file below it that has one of the wanted suffixes, in the order of the names that lead
there, and leaves out what lies in directories of tools. Any other path is missing.
-/

namespace JapaneseSpacing

/-- What one path contributes. -/
inductive Selection where
  | files (paths : List Path)
  | missing (path : Path)
deriving Repr, DecidableEq

/-- The selected files. -/
def Selection.paths : Selection → List Path
  | .files paths => paths
  | .missing _ => []

/-- The names that nothing selected from a directory goes through. -/
def skippedNames : List Text :=
  [".git", "node_modules", ".venv", "__pycache__"].map String.toList

/-- Whether a file that `names` lead to from a directory is one of the wanted ones. The case
of letters makes no difference to a suffix. -/
def isWanted (extensions : List Text) (names : List Text) : Bool :=
  !names.any skippedNames.contains
    && (extensions.map Text.toLower).contains (Text.toLower (fileSuffix (names.getLast?.getD [])))

/-- Whether a name comes before another one, by code points. -/
def nameBefore (first second : Text) : Bool :=
  List.lex first second fun a b => a.toNat < b.toNat

/-- Whether names come before other names, by the first names in which they differ. -/
def namesBefore (first second : List Text) : Bool :=
  List.lex first second nameBefore

/-- The names that lead to the wanted files of a directory, in ascending order. -/
def FileTree.wanted (extensions : List Text) (tree : FileTree) : List (List Text) :=
  ((tree.files.map (·.1)).filter (isWanted extensions)).mergeSort fun first second =>
    !namesBefore second first

/-- What a path contributes. -/
def Disk.select (disk : Disk) (extensions : List Text) (path : Path) : Selection :=
  match disk.get? path with
  | some (.directory entries) =>
    .files (((FileTree.directory entries).wanted extensions).map path.join)
  | some (.file _) => .files [path]
  | none => .missing path

end JapaneseSpacing
