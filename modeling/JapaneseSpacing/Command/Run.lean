import JapaneseSpacing.Command.Request
import JapaneseSpacing.Files.Selection
import JapaneseSpacing.Lint.Notes
import JapaneseSpacing.Lint.Settings.Loading
import JapaneseSpacing.Yaml.Document

/-!
# Running a command

A run turns a disk and the input into an outcome: what is printed, what is logged, the disk
afterwards, and how the run ended. A file that cannot be read is logged and has no bearing
on the other files. A run is refused, and does nothing, if its arguments or its
configuration are wrong.
-/

namespace JapaneseSpacing

namespace Command

/-- Why a run is refused. -/
inductive Refusal where
  | usage (problem : UsageError)
  | config (path : Path) (problem : ConfigError)
deriving Repr, DecidableEq

/-- What is said about a refused run. -/
def Refusal.explanation : Refusal → Text
  | .usage problem => problem.explanation
  | .config path problem => problem.explanation path

/-- Why a run breaks off. -/
inductive Failure where
  | config (fault : LoadFault)
  | inputNotUtf8
  | tree (problem : TreeError)
  | report (problem : ReportError)
  | output (problem : AccessError)
deriving Repr, DecidableEq

/-- What is said about a run that breaks off. -/
def Failure.explanation : Failure → Text
  | .config (.text .notUtf8) => "The configuration file is not UTF-8.".toList
  | .config .keyNotText => "The configuration file has a key that is no text.".toList
  | .config _ => "The configuration file could not be loaded.".toList
  | .inputNotUtf8 => "The input is not UTF-8.".toList
  | .tree _ => "A document has no tree.".toList
  | .report .integerTooLarge => "An integer is too large for the report.".toList
  | .output .missing => "The directory of the report does not exist.".toList
  | .output .notADirectory => "The report would be below a file.".toList
  | .output .isADirectory => "The report would replace a directory.".toList

/-- How a run ended: it found no problems or some, or it broke off. -/
inductive Ending where
  | clean
  | problems
  | broken (cause : Failure)
deriving Repr, DecidableEq

/-- All that a run leaves behind. -/
structure Outcome where
  ending : Ending
  printed : Text := []
  log : List LogRecord := []
  disk : Disk

/-- The exit code of a run, which tells a refused run, a run that found problems or broke
off, and a clean one apart. -/
def exitCode : Except Refusal Outcome → Nat
  | .error _ => 2
  | .ok outcome =>
    match outcome.ending with
    | .clean => 0
    | .problems => 1
    | .broken _ => 1

/-- The ending that some results call for. -/
def Ending.ofResults (results : List LintResult) : Ending :=
  if results.any fun result => !result.messages.isEmpty then .problems else .clean

/-- A report as it is printed: in full lines, of which no empty one comes last. -/
def printedReport (report : Text) : Text :=
  if report.isEmpty then []
  else (report.reverse.dropWhile (· == '\n')).reverse ++ ['\n']

/-- Write a report to a file, if there is one, and print it otherwise. -/
def deliver (disk : Disk) (output : Option Path) (report : Text) (log : List LogRecord)
    (ending : Ending) : Outcome :=
  match output with
  | none => { ending, printed := printedReport report, log, disk }
  | some path =>
    match disk.writeText path report with
    | .ok disk =>
      { ending, log := log ++ [⟨.info, "Wrote report to ".toList ++ path.text⟩], disk }
    | .error problem => { ending := .broken (.output problem), log, disk }

/-- Report the results of a run. -/
def finish (disk : Disk) (output : Option Path) (format : ReportFormat) (log : List LogRecord)
    (results : List LintResult) : Outcome :=
  match writeReport .standard format results with
  | .ok report => deliver disk output report log (.ofResults results)
  | .error problem => { ending := .broken (.report problem), log, disk }

/-- A way to lint a document: its messages, and the notes that are made meanwhile. -/
structure Linter where
  messages : Text → Settings → Except TreeError (List Message)
  notes : Text → Settings → List Text

/-- The linter of Markdown documents. -/
def markdownLinter : Linter :=
  ⟨lintMarkdown, markdownNotes⟩

/-- The warning about a path that leads nowhere. -/
def missingRecord (path : Path) : LogRecord :=
  ⟨.warning, "No such file or directory: ".toList ++ path.text⟩

/-- The warning about a file that is no text. -/
def unreadableRecord (path : Path) : LogRecord :=
  ⟨.warning, "Could not read ".toList ++ path.text⟩

/-- The warning that a selection calls for. -/
def selectionLog : Selection → List LogRecord
  | .files _ => []
  | .missing path => [missingRecord path]

/-- The record of how many messages a file has. -/
def countRecord (path : Path) (messages : List Message) : LogRecord :=
  .note (path.text ++ ": ".toList ++ Text.ofNat messages.length ++ " message(s)".toList)

/-- Lint files one after another. Files that cannot be read have no result. -/
def lintFiles (linter : Linter) (disk : Disk) (settings : Settings) :
    List Path → List LogRecord × Except TreeError (List LintResult)
  | [] => ([], .ok [])
  | path :: rest =>
    match disk.readText path with
    | .error _ =>
      let (log, results) := lintFiles linter disk settings rest
      (unreadableRecord path :: log, results)
    | .ok text =>
      let notes := (linter.notes text settings).map LogRecord.note
      match linter.messages text settings with
      | .error problem => (notes, .error problem)
      | .ok messages =>
        let (log, results) := lintFiles linter disk settings rest
        (notes ++ countRecord path messages :: log,
          results.map fun results => ⟨path.text, messages⟩ :: results)

/-- Lint what some paths select. -/
def lintPaths (linter : Linter) (disk : Disk) (request : LintRequest) (settings : Settings)
    (log : List LogRecord) : Outcome :=
  let selections := request.paths.map (disk.select settings.extensions)
  let files := selections.flatMap Selection.paths
  let count : LogRecord :=
    ⟨.info, "Linting ".toList ++ Text.ofNat files.length ++ " file(s)".toList⟩
  let (fileLog, results) := lintFiles linter disk settings files
  let log := log ++ selections.flatMap selectionLog ++ count :: fileLog
  match results with
  | .ok results => finish disk request.output request.format log results
  | .error problem => { ending := .broken (.tree problem), log, disk }

/-- Run the command that lints files. A configuration file that is to blame refuses the run, and
any other fault in loading it breaks the run off. -/
def runLint (linter : Linter) (format : DataFormat) (disk : Disk) (request : LintRequest) :
    Except Refusal Outcome :=
  match request.config <|> disk.findConfig? disk.here with
  | none => .ok (lintPaths linter disk request {} [])
  | some path =>
    match disk.loadSettings format path with
    | .ok settings =>
      let record : LogRecord :=
        .note ("Loaded config from ".toList ++ path.text ++ ": ".toList ++ settings.shown)
      .ok (lintPaths linter disk request settings [record])
    | .error (.config problem) => .error (.config path problem)
    | .error (.unexpected fault) => .ok { ending := .broken (.config fault), disk }

/-- Run the command that checks a text. -/
def runText (disk : Disk) (input : List UInt8) (request : TextRequest) : Outcome :=
  let source := match request.source with
    | .given text => some text
    | .input => (decodeUtf8 input).map Text.normalizeBreaks
  match source with
  | none => { ending := .broken .inputNotUtf8, disk }
  | some text =>
    finish disk none request.format ((plainTextNotes text).map LogRecord.note)
      [⟨"<text>".toList, lintText text⟩]

/-- Run a request. Only the records that its verbosity asks for are kept. -/
def Request.run (linter : Linter) (format : DataFormat) (disk : Disk) (input : List UInt8) :
    Request → Except Refusal Outcome
  | .lint request => do
    let outcome ← runLint linter format disk request
    return { outcome with log := outcome.log.filter (·.isShownAt request.verbosity) }
  | .text request =>
    let outcome := runText disk input request
    .ok { outcome with log := outcome.log.filter (·.isShownAt request.verbosity) }

/-- Run the command that arguments name, with a linter of documents and a format of configuration
files. -/
def runWith (linter : Linter) (format : DataFormat) (disk : Disk) (input : List UInt8)
    (words : List Text) : Except Refusal Outcome :=
  match Request.ofArguments words with
  | .ok request => request.run linter format disk input
  | .error problem => .error (.usage problem)

/-- Run the command that arguments name on Markdown documents, with configuration files in YAML. -/
def run (disk : Disk) (input : List UInt8) (words : List Text) : Except Refusal Outcome :=
  runWith markdownLinter Yaml.format disk input words

end Command

end JapaneseSpacing
