import JapaneseSpacing.Text.Basic

/-!
# Trees of files

A directory holds files and further directories under their names. `FileTree.get?` says
what a list of names leads to, `FileTree.put` changes it, and `FileTree.files` lists every
file with the names that lead to it.
-/

namespace JapaneseSpacing

/-- A file, or a directory with what is in it. -/
inductive FileTree where
  | file (content : List UInt8)
  | directory (entries : List (Text × FileTree))
deriving Inhabited

namespace FileTree

/-- What a directory holds; a file holds nothing. -/
def entries : FileTree → List (Text × FileTree)
  | file _ => []
  | directory entries => entries

/-- What some names lead to. -/
def get? : FileTree → List Text → Option FileTree
  | tree, [] => some tree
  | tree, name :: rest =>
    match tree.entries.lookup name with
    | some below => below.get? rest
    | none => none

/-- The entries of a directory with one entry set. -/
def setEntry (name : Text) (tree : FileTree) : List (Text × FileTree) → List (Text × FileTree)
  | [] => [(name, tree)]
  | (other, below) :: rest =>
    if other = name then (name, tree) :: rest else (other, below) :: setEntry name tree rest

/-- The tree in which some names lead to `item`. Directories are made on the way. -/
def put : FileTree → List Text → FileTree → FileTree
  | _, [], item => item
  | tree, name :: rest, item =>
    let below := (tree.entries.lookup name).getD (directory [])
    directory (setEntry name (below.put rest item) tree.entries)

mutual

/-- Every file of a tree, with the names that lead to it. -/
def files : FileTree → List (List Text × List UInt8)
  | file content => [([], content)]
  | directory entries => filesOfEntries entries

/-- Every file in the entries of a directory. -/
def filesOfEntries : List (Text × FileTree) → List (List Text × List UInt8)
  | [] => []
  | (name, tree) :: rest =>
    (tree.files.map fun (names, content) => (name :: names, content)) ++ filesOfEntries rest

end

/-- Whether some names lead to a file of the given content. -/
def holds (tree : FileTree) (names : List Text) (content : List UInt8) : Bool :=
  match tree.get? names with
  | some (file found) => found == content
  | _ => false

/-- The files of a tree that another tree does not hold. -/
def newFiles (before after : FileTree) : List (List Text × List UInt8) :=
  after.files.filter fun (names, content) => !before.holds names content

end FileTree

end JapaneseSpacing
