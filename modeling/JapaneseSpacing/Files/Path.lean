import JapaneseSpacing.Text.Basic

/-!
# Paths

A path is a place to start from and the names that lead on from there. Slashes separate
names; empty names and single dots say nothing and are dropped, while two dots are kept,
because where they lead depends on the files that there are.
-/

namespace JapaneseSpacing

/-- Where a path starts. -/
inductive PathStart where
  | workingDirectory
  | root
  /-- The root, written with exactly two slashes. -/
  | doubleRoot
deriving Repr, DecidableEq

/-- The slashes that a path of this start is written with. -/
def PathStart.text : PathStart → Text
  | .workingDirectory => []
  | .root => ['/']
  | .doubleRoot => ['/', '/']

/-- The start that the first characters of a path stand for. -/
def PathStart.ofText : Text → PathStart
  | '/' :: '/' :: '/' :: _ => .root
  | '/' :: '/' :: _ => .doubleRoot
  | '/' :: _ => .root
  | _ => .workingDirectory

/-- A path as it is given and shown. -/
structure Path where
  start : PathStart := .workingDirectory
  names : List Text
deriving Repr, DecidableEq

namespace Path

/-- The path that a text stands for. -/
def ofText (text : Text) : Path where
  start := .ofText text
  names := (Text.splitWhere (· == '/') text).filter fun name => !name.isEmpty && name != ['.']

/-- A path as it is shown. The working directory itself is shown as a dot. -/
def text (path : Path) : Text :=
  match path.start, path.names with
  | .workingDirectory, [] => ['.']
  | start, names => start.text ++ Text.join ['/'] names

/-- The path that leads on by some names. -/
def join (path : Path) (names : List Text) : Path :=
  { path with names := path.names ++ names }

end Path

/-- The last dot of a file's name and what follows it. A dot at either end of the name
starts no suffix. -/
def fileSuffix (name : Text) : Text :=
  let ending := (name.reverse.takeWhile (· != '.')).reverse
  let stem := name.take (name.length - ending.length - 1)
  if name.contains '.' && !stem.isEmpty && !ending.isEmpty then '.' :: ending else []

end JapaneseSpacing
