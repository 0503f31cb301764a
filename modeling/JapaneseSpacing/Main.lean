import JapaneseSpacing.Command.Run

/-!
# The program

The program reads what a request looks at into a disk, runs the request on it, and then
prints, logs and writes what the outcome says. All decisions are those of the run.
-/

namespace JapaneseSpacing

namespace Program

/-- The place of the file system that names lead to from the root. -/
def placeOf (names : List Text) : String :=
  String.ofList (Path.text ⟨.root, names⟩)

/-- Whether a directory is at a place. -/
def isDirectory (names : List Text) : IO Bool := do
  ((← IO.currentDir) / placeOf names).isDir

/-- Whether anything is at a place. -/
def isPresent (names : List Text) : IO Bool := do
  ((← IO.currentDir) / placeOf names).pathExists

/-- The names in the directory at a place. -/
def entryNames (names : List Text) : IO (List Text) := do
  let entries ← ((← IO.currentDir) / placeOf names).readDir
  return entries.toList.map fun entry => entry.fileName.toList

/-- The file at a place. -/
def fileAt (names : List Text) : IO FileTree := do
  return .file (← IO.FS.readBinFile (placeOf names)).toList

/-- Everything at and below a place. -/
partial def treeAt (names : List Text) : IO FileTree := do
  if ← isDirectory names then
    let entries ← (← entryNames names).mapM fun name => do
      return (name, ← treeAt (names ++ [name]))
    return .directory entries
  else fileAt names

/-- Read what names lead to from the place `here` into a disk. -/
def readAlong (disk : Disk) (here : List Text) : List Text → IO Disk
  | [] => do
    if ← isPresent here then return { disk with root := disk.root.put here (← treeAt here) }
    else return disk
  | name :: rest => do
    if ← isDirectory here then
      let root := if (disk.root.get? here).isSome then disk.root
        else disk.root.put here (.directory [])
      readAlong { disk with root } (if name = ['.', '.'] then here.dropLast else here ++ [name]) rest
    else if ← isPresent here then
      return { disk with root := disk.root.put here (← fileAt here) }
    else return disk

/-- The paths that a request looks at. -/
def pathsOf (here : Path) : Command.Request → List Path
  | .text _ => []
  | .lint request =>
    let configs := match request.config with
      | some path => [path]
      | none => configNames.map fun name => here.join [name]
    configs ++ request.paths ++ request.output.toList

/-- The part of the file system that a request looks at. -/
def diskFor (request : Command.Request) : IO Disk := do
  let workingDirectory := (Path.ofText (toString (← IO.currentDir)).toList).names
  let disk : Disk := ⟨.directory [], workingDirectory⟩
  (pathsOf disk.here request).foldlM (fun disk path =>
    readAlong disk (if path.start = .workingDirectory then workingDirectory else []) path.names) disk

/-- All bytes that are left on a stream. -/
partial def readAll (stream : IO.FS.Stream) (sofar : ByteArray) : IO ByteArray := do
  let bytes ← stream.read 65536
  if bytes.isEmpty then return sofar else readAll stream (sofar ++ bytes)

/-- The input that a request asks for. -/
def inputFor (request : Command.Request) : IO (List UInt8) := do
  match request with
  | .text { source := .input, .. } => return (← readAll (← IO.getStdin) .empty).toList
  | _ => return []

/-- Tell what an outcome holds. -/
def tell (disk : Disk) (outcome : Command.Outcome) : IO Unit := do
  for record in outcome.log do
    IO.eprintln (String.ofList record.line)
  for (names, content) in FileTree.newFiles disk.root outcome.disk.root do
    IO.FS.writeBinFile (placeOf names) ⟨content.toArray⟩
  IO.print (String.ofList outcome.printed)
  match outcome.ending with
  | .broken cause => IO.eprintln (String.ofList cause.explanation)
  | _ => return

end Program

end JapaneseSpacing

open JapaneseSpacing in
/-- Run the command that the arguments name and give its exit code. -/
def main (words : List String) : IO UInt32 := do
  let words := words.map String.toList
  let (disk, input) ← match Command.Request.ofArguments words with
    | .ok request => pure (← Program.diskFor request, ← Program.inputFor request)
    | .error _ => pure (⟨.directory [], []⟩, [])
  let outcome := Command.run disk input words
  match outcome with
  | .ok outcome => Program.tell disk outcome
  | .error refusal => IO.eprintln (String.ofList refusal.explanation)
  return (Command.exitCode outcome).toUInt32
