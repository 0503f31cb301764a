import JapaneseSpacing.Files.Path
import JapaneseSpacing.Files.Tree
import JapaneseSpacing.Text.Line
import JapaneseSpacing.Text.Utf8

/-!
# Files by their paths

A path is followed name by name, and every name on the way has to be one of a directory,
even if two dots lead back from it. Texts are stored as UTF-8, and every way of ending a
line is read as a line feed.
-/

namespace JapaneseSpacing

/-- The files that can be reached, and the directory in which relative paths start. -/
structure Disk where
  root : FileTree
  workingDirectory : List Text

/-- Why there is nothing to read or no way to write at a path. -/
inductive AccessError where
  | missing
  | notADirectory
  | isADirectory
deriving Repr, DecidableEq

/-- Why there is no text to read at a path. -/
inductive ReadError where
  | access (cause : AccessError)
  | notUtf8
deriving Repr, DecidableEq

/-- Follow names from the place `here`, where two dots lead to the directory above. The last
name need not exist. -/
def FileTree.follow (root : FileTree) (here : List Text) :
    List Text → Except AccessError (List Text)
  | [] => .ok here
  | name :: rest =>
    match root.get? here with
    | some (.directory _) =>
      if name = ['.', '.'] then follow root here.dropLast rest
      else follow root (here ++ [name]) rest
    | some (.file _) => .error .notADirectory
    | none => .error .missing

namespace Disk

/-- The path of the working directory from the root. -/
def here (disk : Disk) : Path :=
  ⟨.root, disk.workingDirectory⟩

/-- The names that lead from the root to where a path leads. -/
def locate (disk : Disk) (path : Path) : Except AccessError (List Text) :=
  disk.root.follow (if path.start = .workingDirectory then disk.workingDirectory else []) path.names

/-- What is at a path. -/
def get? (disk : Disk) (path : Path) : Option FileTree :=
  match disk.locate path with
  | .ok names => disk.root.get? names
  | .error _ => none

/-- Whether a file is at a path. -/
def isFile (disk : Disk) (path : Path) : Bool :=
  match disk.get? path with
  | some (.file _) => true
  | _ => false

/-- The content of the file at a path. -/
def read (disk : Disk) (path : Path) : Except AccessError (List UInt8) := do
  match disk.root.get? (← disk.locate path) with
  | some (.file content) => .ok content
  | some (.directory _) => .error .isADirectory
  | none => .error .missing

/-- The text in the file at a path. -/
def readText (disk : Disk) (path : Path) : Except ReadError Text :=
  match disk.read path with
  | .error cause => .error (.access cause)
  | .ok content =>
    match decodeUtf8 content with
    | some text => .ok (Text.normalizeBreaks text)
    | none => .error .notUtf8

/-- The disk with a text written to the file at a path, whose directory must exist. -/
def writeText (disk : Disk) (path : Path) (text : Text) : Except AccessError Disk := do
  let names ← disk.locate path
  match disk.root.get? names with
  | some (.directory _) => .error .isADirectory
  | _ => .ok { disk with root := disk.root.put names (.file (encodeUtf8 text)) }

end Disk

end JapaneseSpacing
