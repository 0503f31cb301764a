import JapaneseSpacing.Command.Run
import JapaneseSpacing.Proofs.Text.Utf8

/-!
# Configuration files without settings

A configuration file that gives no settings is blamed, and the run is refused, with a few
exceptions: a path with a NUL in it, bytes that are no text, a format that fails in a way of its
own, and a mapping one of whose keys is no text. On these a run breaks off, as if it had found
problems: `config_explained_iff`. All of this holds for any format of configuration files.
-/

namespace JapaneseSpacing

/-- The file at a path gives no settings, and it is blamed for that. -/
def Disk.RefusesConfig (format : DataFormat) (disk : Disk) (path : Path) : Prop :=
  ∃ problem, disk.loadSettings format path = .error (.config problem)

/-- The configuration files that give no settings and are not blamed. -/
inductive Disk.UnexplainedConfig (format : DataFormat) (disk : Disk) (path : Path) : Prop
  /-- No file can be asked for. -/
  | nulInPath (name : Text) (isName : name ∈ path.names) (hasNul : '\x00' ∈ name)
  /-- The bytes are those of no text. -/
  | notUtf8 (content : List UInt8) (read : disk.read path = .ok content)
      (noText : ∀ text : Text, encodeUtf8 text ≠ content)
  /-- Reading the text fails, but not because it is malformed. -/
  | unexpected (text : Text) (read : disk.read path = .ok (encodeUtf8 text))
      (fails : format (Text.normalizeBreaks text) = .error .unexpected)
  /-- The data are a mapping with a key that is no text. -/
  | keyNotText (text : Text) (entries : List (Value × Value)) (key value : Value)
      (read : disk.read path = .ok (encodeUtf8 text))
      (parsed : format (Text.normalizeBreaks text) = .ok (.mapping entries))
      (entry : (key, value) ∈ entries) (noName : ∀ name : Text, key ≠ .string name)

/-! ## Settings from data -/

/-- A mapping is no record exactly if one of its keys is no text. -/
theorem Value.fields?_eq_none_iff {entries : List (Value × Value)} :
    (Value.mapping entries).fields? = none ↔
      ∃ key value, (key, value) ∈ entries ∧ ∀ name : Text, key ≠ .string name := by
  rw [Value.fields?]
  induction entries with
  | nil => simp
  | cons entry rest inductionHypothesis =>
    obtain ⟨key, value⟩ := entry
    rw [List.mapM_cons]
    by_cases named : ∃ name : Text, key = .string name
    · obtain ⟨name, rfl⟩ := named
      simp only [Option.bind_eq_bind, Option.bind_some, Option.bind_eq_none_iff, Option.pure_def,
        reduceCtorEq, imp_false, List.mem_cons, Prod.mk.injEq]
      rw [← Option.eq_none_iff_forall_ne_some, inductionHypothesis]
      constructor
      · rintro ⟨key, value, member, noName⟩
        exact ⟨key, value, .inr member, noName⟩
      · rintro ⟨key, value, ⟨rfl, rfl⟩ | member, noName⟩
        · exact absurd rfl (noName name)
        · exact ⟨key, value, member, noName⟩
    · have noName : ∀ name : Text, key ≠ .string name := fun name same => named ⟨name, same⟩
      refine iff_of_true ?_ ⟨key, value, List.mem_cons_self, noName⟩
      cases key with
      | string name => exact absurd rfl (noName name)
      | _ => rfl

/-- Making settings of entries fails unexpectedly exactly if they are no record. -/
theorem Settings.ofEntries_unexpected_iff {entries : List (Value × Value)} :
    (∃ fault, Settings.ofEntries entries = .error fault ∧ fault.expectedInMaking = none)
      ↔ (Value.mapping entries).fields? = none := by
  rw [Settings.ofEntries]
  cases isRecord : (Value.mapping entries).fields? with
  | none => exact iff_of_true ⟨.keyNotText, rfl, rfl⟩ rfl
  | some fields =>
    refine iff_of_false ?_ nofun
    rintro ⟨fault, isFault, notExpected⟩
    dsimp only at isFault
    cases made : Settings.ofFields fields with
    | ok settings =>
      rw [made] at isFault
      cases isFault
    | error errors =>
      rw [made] at isFault
      cases isFault
      cases notExpected

/-! ## Stages -/

section Stages

variable {α : Type} {expected : LoadFault → Option ConfigError} {stage : Except LoadFault α}
  {fault : LoadFault}

/-- A stage passes on exactly the faults that it does not expect. -/
theorem LoadFault.expecting_eq_unexpected_iff :
    LoadFault.expecting expected stage = .error (.unexpected fault)
      ↔ stage = .error fault ∧ expected fault = none := by
  cases stage with
  | ok value => exact iff_of_false nofun nofun
  | error other =>
    rw [LoadFault.expecting]
    split
    · next problem isExpected =>
      refine iff_of_false nofun ?_
      rintro ⟨⟨⟩, notExpected⟩
      rw [isExpected] at notExpected
      cases notExpected
    · next notExpected =>
      constructor
      · rintro ⟨⟩
        exact ⟨rfl, notExpected⟩
      · rintro ⟨⟨⟩, _⟩
        rfl

end Stages

theorem Settings.ofData_eq {data : Value} {entries : List (Value × Value)}
    (isEntries : data.configEntries = .ok entries) :
    Settings.ofData data
      = LoadFault.expecting LoadFault.expectedInMaking (Settings.ofEntries entries) := by
  rw [Settings.ofData, isEntries]
  rfl

/-- Data give no settings unexpectedly exactly if they are a mapping that is no record. -/
theorem Settings.ofData_unexpected_iff {data : Value} :
    (∃ fault, Settings.ofData data = .error (.unexpected fault)) ↔
      ∃ entries, data = .mapping entries ∧ data.fields? = none := by
  have ofEntries : ∀ entries, data.configEntries = .ok entries →
      ((∃ fault, Settings.ofData data = .error (.unexpected fault))
        ↔ (Value.mapping entries).fields? = none) := by
    intro entries isEntries
    simp only [Settings.ofData_eq isEntries, LoadFault.expecting_eq_unexpected_iff]
    exact Settings.ofEntries_unexpected_iff
  cases data with
  | null =>
    rw [ofEntries [] rfl]
    exact iff_of_false nofun nofun
  | mapping entries =>
    rw [ofEntries entries rfl]
    constructor
    · exact fun noRecord => ⟨entries, rfl, noRecord⟩
    · exact fun ⟨_, _, noRecord⟩ => noRecord
  | _ => exact iff_of_false nofun nofun

/-! ## Settings from a file -/

namespace Disk

variable {disk : Disk} {path : Path}

theorem readText_of_not_read {cause : AccessError} (unread : disk.read path = .error cause) :
    disk.readText path = .error (.access cause) := by
  rw [readText, unread]

theorem readText_of_text {content : List UInt8} {text : Text} (read : disk.read path = .ok content)
    (isText : decodeUtf8 content = some text) :
    disk.readText path = .ok (Text.normalizeBreaks text) := by
  simp only [readText, read, isText]

theorem readText_of_no_text {content : List UInt8} (read : disk.read path = .ok content)
    (noText : decodeUtf8 content = none) : disk.readText path = .error .notUtf8 := by
  simp only [readText, read, noText]

theorem readText_eq_ok_iff {text : Text} :
    disk.readText path = .ok text ↔
      ∃ written, disk.read path = .ok (encodeUtf8 written)
        ∧ Text.normalizeBreaks written = text := by
  constructor
  · intro isRead
    cases read : disk.read path with
    | error cause =>
      rw [readText_of_not_read read] at isRead
      cases isRead
    | ok content =>
      cases decoded : decodeUtf8 content with
      | none =>
        rw [readText_of_no_text read decoded] at isRead
        cases isRead
      | some written =>
        rw [readText_of_text read decoded] at isRead
        exact ⟨written, by rw [decodeUtf8_eq_some_iff.1 decoded], Except.ok.inj isRead⟩
  · rintro ⟨written, read, rfl⟩
    exact readText_of_text read (decodeUtf8_encodeUtf8 written)

theorem readText_eq_notUtf8_iff :
    disk.readText path = .error .notUtf8 ↔
      ∃ content, disk.read path = .ok content ∧ ∀ text : Text, encodeUtf8 text ≠ content := by
  constructor
  · intro isNoText
    cases read : disk.read path with
    | error cause =>
      rw [readText_of_not_read read] at isNoText
      cases isNoText
    | ok content =>
      refine ⟨content, rfl, fun text same => ?_⟩
      rw [readText_of_text read (decodeUtf8_eq_some_iff.2 same)] at isNoText
      cases isNoText
  · rintro ⟨content, read, noText⟩
    refine readText_of_no_text read (Option.eq_none_iff_forall_ne_some.2 fun text isText => ?_)
    exact noText text (decodeUtf8_eq_some_iff.1 isText)

variable {format : DataFormat}

theorem readData_of_nul (hasNul : ∃ name ∈ path.names, '\x00' ∈ name) :
    disk.readData format path = .error .nulInPath := by
  obtain ⟨name, isName, inName⟩ := hasNul
  rw [readData, if_pos]
  exact List.any_eq_true.2 ⟨name, isName, List.contains_iff_mem.2 inName⟩

theorem readData_of_no_nul (noNul : ¬ ∃ name ∈ path.names, '\x00' ∈ name) :
    disk.readData format path =
      match disk.readText path with
      | .error problem => .error (.text problem)
      | .ok text => (format text).mapError .data := by
  refine if_neg fun some => noNul ?_
  obtain ⟨name, isName, inName⟩ := List.any_eq_true.1 some
  exact ⟨name, isName, List.contains_iff_mem.1 inName⟩

/-- Data are read of a text that the format reads. -/
theorem exists_text_of_readData {data : Value} (isData : disk.readData format path = .ok data) :
    ∃ text, disk.read path = .ok (encodeUtf8 text)
      ∧ format (Text.normalizeBreaks text) = .ok data := by
  by_cases hasNul : ∃ name ∈ path.names, '\x00' ∈ name
  · rw [readData_of_nul hasNul] at isData
    cases isData
  · rw [readData_of_no_nul hasNul] at isData
    cases isRead : disk.readText path with
    | error problem =>
      rw [isRead] at isData
      cases isData
    | ok text =>
      obtain ⟨written, read, rfl⟩ := readText_eq_ok_iff.1 isRead
      rw [isRead] at isData
      refine ⟨written, read, ?_⟩
      cases parsed : format (Text.normalizeBreaks written) with
      | error problem =>
        simp only [parsed] at isData
        cases isData
      | ok found =>
        simp only [parsed] at isData
        cases isData
        rfl

theorem loadSettings_of_data {data : Value} (isData : disk.readData format path = .ok data) :
    disk.loadSettings format path = Settings.ofData data := by
  rw [loadSettings, isData]
  rfl

theorem loadSettings_of_unexpected {fault : LoadFault}
    (fails : disk.readData format path = .error fault)
    (notExpected : fault.expectedInReading = none) :
    disk.loadSettings format path = .error (.unexpected fault) := by
  rw [loadSettings, fails, LoadFault.expecting_eq_unexpected_iff.2 ⟨rfl, notExpected⟩]
  rfl

/-- Loading meets a fault that no stage expects while data are read or while settings are made of
them. -/
theorem loadSettings_unexpected_iff :
    (∃ fault, disk.loadSettings format path = .error (.unexpected fault)) ↔
      (∃ fault, disk.readData format path = .error fault ∧ fault.expectedInReading = none)
      ∨ ∃ data, disk.readData format path = .ok data
        ∧ ∃ fault, Settings.ofData data = .error (.unexpected fault) := by
  cases isData : disk.readData format path with
  | ok data => simp [loadSettings_of_data isData]
  | error fault =>
    constructor
    · rintro ⟨other, loaded⟩
      cases expected : fault.expectedInReading with
      | none => exact .inl ⟨fault, rfl, expected⟩
      | some problem =>
        rw [loadSettings, isData, LoadFault.expecting, expected] at loaded
        cases loaded
    · rintro (⟨_, ⟨⟩, notExpected⟩ | ⟨_, ⟨⟩, _⟩)
      exact ⟨fault, loadSettings_of_unexpected isData notExpected⟩

/-- While data are read, a NUL, bytes that are no text and an unexpected failure of the format are
not expected. -/
theorem unexplainedConfig_of_readData {fault : LoadFault}
    (fails : disk.readData format path = .error fault)
    (notExpected : fault.expectedInReading = none) : disk.UnexplainedConfig format path := by
  by_cases hasNul : ∃ name ∈ path.names, '\x00' ∈ name
  · obtain ⟨name, isName, inName⟩ := hasNul
    exact .nulInPath name isName inName
  · rw [readData_of_no_nul hasNul] at fails
    cases isRead : disk.readText path with
    | error problem =>
      rw [isRead] at fails
      cases fails
      cases problem with
      | access cause => cases notExpected
      | notUtf8 =>
        obtain ⟨content, read, noText⟩ := readText_eq_notUtf8_iff.1 isRead
        exact .notUtf8 content read noText
    | ok text =>
      obtain ⟨written, read, rfl⟩ := readText_eq_ok_iff.1 isRead
      rw [isRead] at fails
      cases parsed : format (Text.normalizeBreaks written) with
      | ok data =>
        simp only [parsed] at fails
        cases fails
      | error problem =>
        simp only [parsed] at fails
        cases fails
        cases problem with
        | malformed => cases notExpected
        | unexpected => exact .unexpected written read parsed

/-- The files that are not blamed are those on which loading meets a fault that no stage
expects. -/
theorem unexplainedConfig_iff :
    disk.UnexplainedConfig format path
      ↔ ∃ fault, disk.loadSettings format path = .error (.unexpected fault) := by
  rw [loadSettings_unexpected_iff]
  constructor
  · intro unexplained
    by_cases hasNul : ∃ name ∈ path.names, '\x00' ∈ name
    · exact .inl ⟨.nulInPath, readData_of_nul hasNul, rfl⟩
    · rw [readData_of_no_nul hasNul]
      cases unexplained with
      | nulInPath name isName inName => exact absurd ⟨name, isName, inName⟩ hasNul
      | notUtf8 content read noText =>
        rw [readText_eq_notUtf8_iff.2 ⟨content, read, noText⟩]
        exact .inl ⟨.text .notUtf8, rfl, rfl⟩
      | unexpected text read fails =>
        rw [readText_eq_ok_iff.2 ⟨text, read, rfl⟩]
        simp only [fails]
        exact .inl ⟨.data .unexpected, rfl, rfl⟩
      | keyNotText text entries key value read parsed entry noName =>
        rw [readText_eq_ok_iff.2 ⟨text, read, rfl⟩]
        simp only [parsed]
        exact .inr ⟨_, rfl, Settings.ofData_unexpected_iff.2
          ⟨entries, rfl, Value.fields?_eq_none_iff.2 ⟨key, value, entry, noName⟩⟩⟩
  · rintro (⟨fault, fails, notExpected⟩ | ⟨data, isData, unexpected⟩)
    · exact unexplainedConfig_of_readData fails notExpected
    · obtain ⟨text, read, parsed⟩ := exists_text_of_readData isData
      obtain ⟨entries, rfl, noFields⟩ := Settings.ofData_unexpected_iff.1 unexpected
      obtain ⟨key, value, entry, noName⟩ := Value.fields?_eq_none_iff.1 noFields
      exact .keyNotText text entries key value read parsed entry noName

/-- Every other file gives settings or is blamed. -/
theorem loadSettings_explained_iff :
    ((∃ settings, disk.loadSettings format path = .ok settings) ∨ disk.RefusesConfig format path)
      ↔ ¬ disk.UnexplainedConfig format path := by
  rw [unexplainedConfig_iff, RefusesConfig]
  cases disk.loadSettings format path with
  | ok settings => exact iff_of_true (.inl ⟨settings, rfl⟩) nofun
  | error problem =>
    cases problem with
    | config problem => exact iff_of_true (.inr ⟨problem, rfl⟩) nofun
    | unexpected fault => exact iff_of_false nofun fun explained => explained ⟨fault, rfl⟩

end Disk

/-! ## The run -/

namespace Command

variable {linter : Linter} {format : DataFormat} {disk : Disk} {input : List UInt8}
  {words : List Text} {request : LintRequest} {path : Path}

/-- The exit code of a refused run is that of no other. -/
theorem exitCode_eq_two_iff {outcome : Except Refusal Outcome} :
    exitCode outcome = 2 ↔ ∃ refusal, outcome = .error refusal := by
  cases outcome with
  | error refusal => exact iff_of_true rfl ⟨refusal, rfl⟩
  | ok outcome =>
    refine iff_of_false ?_ nofun
    rw [exitCode]
    split <;> decide

/-- The records that are left out have no bearing on how a run ends. -/
theorem exitCode_runWith (isRequest : Request.ofArguments words = .ok (.lint request)) :
    exitCode (runWith linter format disk input words)
      = exitCode (runLint linter format disk request) := by
  rw [runWith, isRequest]
  simp only [Request.run]
  cases runLint linter format disk request <;> rfl

section Config

variable (isConfig : (request.config <|> disk.findConfig? disk.here) = some path)
include isConfig

theorem runLint_of_settings {settings : Settings}
    (loaded : disk.loadSettings format path = .ok settings) :
    ∃ outcome, runLint linter format disk request = .ok outcome := by
  rw [runLint, isConfig]
  simp only [loaded]
  exact ⟨_, rfl⟩

theorem runLint_of_refusesConfig (refuses : disk.RefusesConfig format path) :
    ∃ problem, runLint linter format disk request = .error (.config path problem) := by
  obtain ⟨problem, loaded⟩ := refuses
  rw [runLint, isConfig]
  simp only [loaded]
  exact ⟨problem, rfl⟩

/-- On a configuration file that is not blamed a run breaks off with nothing done. -/
theorem runLint_of_unexplainedConfig (unexplained : disk.UnexplainedConfig format path) :
    ∃ cause, runLint linter format disk request = .ok { ending := .broken cause, disk } := by
  obtain ⟨fault, loaded⟩ := Disk.unexplainedConfig_iff.1 unexplained
  rw [runLint, isConfig]
  simp only [loaded]
  exact ⟨.config fault, rfl⟩

/-- A run with a configuration file is refused exactly if the file is. -/
theorem exitCode_runLint_eq_two_iff :
    exitCode (runLint linter format disk request) = 2 ↔ disk.RefusesConfig format path := by
  rw [exitCode_eq_two_iff]
  constructor
  · rintro ⟨refusal, refused⟩
    by_cases unexplained : disk.UnexplainedConfig format path
    · obtain ⟨cause, breaks⟩ := @runLint_of_unexplainedConfig linter format disk request path
        isConfig unexplained
      exact absurd (refused.symm.trans breaks) nofun
    · rcases Disk.loadSettings_explained_iff.2 unexplained with ⟨settings, loaded⟩ | refuses
      · obtain ⟨outcome, runs⟩ := @runLint_of_settings linter format disk request path isConfig
          settings loaded
        exact absurd (refused.symm.trans runs) nofun
      · exact refuses
  · intro refuses
    obtain ⟨problem, refused⟩ := runLint_of_refusesConfig isConfig refuses
    exact ⟨.config path problem, refused⟩

end Config

/-- A configuration file gives settings or is blamed exactly if its path has no NUL, its content is
a text that the format reads or calls malformed, and, as a mapping, has texts as keys. A run is
refused exactly if its configuration file is, and it breaks off like a run that found problems if
the file is not blamed although it gives no settings. This holds for every format of configuration
files and every linter. -/
theorem config_explained_iff (linter : Linter) (format : DataFormat) (disk : Disk) (path : Path) :
    ((∃ settings, disk.loadSettings format path = .ok settings) ∨ disk.RefusesConfig format path
        ↔ ¬ disk.UnexplainedConfig format path)
      ∧ ∀ (input : List UInt8) (words : List Text) (request : LintRequest),
        Request.ofArguments words = .ok (.lint request) →
        (request.config <|> disk.findConfig? disk.here) = some path →
        (exitCode (runWith linter format disk input words) = 2 ↔ disk.RefusesConfig format path)
          ∧ (disk.UnexplainedConfig format path →
            exitCode (runWith linter format disk input words) = 1) := by
  refine ⟨Disk.loadSettings_explained_iff, fun input words request isRequest isConfig => ?_⟩
  rw [exitCode_runWith isRequest]
  refine ⟨exitCode_runLint_eq_two_iff isConfig, fun unexplained => ?_⟩
  obtain ⟨cause, breaks⟩ := @runLint_of_unexplainedConfig linter format disk request path isConfig
    unexplained
  rw [breaks]
  rfl

/-- The configuration file of the disks below. -/
def configPath : Path :=
  .ofText "c.yaml".toList

/-- A request to lint a file with that configuration. -/
def configWords : List Text :=
  ["lint".toList, "a.md".toList, "-cc.yaml".toList]

/-- A run is refused if its configuration file is missing. -/
theorem config_explained_iff_missing : exitCode (run ⟨.directory [], []⟩ [] configWords) = 2 :=
  (((config_explained_iff markdownLinter Yaml.format ⟨.directory [], []⟩ configPath).2 []
    configWords { paths := [.ofText "a.md".toList], config := some configPath } rfl rfl).1).2
    ⟨.unreadable, rfl⟩

/-- A disk with a configuration file of the given content. -/
def diskOfConfig (content : List UInt8) : Disk :=
  ⟨.directory [("c.yaml".toList, .file content)], []⟩

theorem strayByte_unexplainedConfig (format : DataFormat) :
    (diskOfConfig [0xFF]).UnexplainedConfig format configPath := by
  refine .notUtf8 [0xFF] rfl fun text same => ?_
  have unread : decodeUtf8 [0xFF] = none := by decide
  rw [decodeUtf8_eq_some_iff.2 same] at unread
  cases unread

/-- In YAML the word for consent is a flag. -/
theorem format_flagKey : Yaml.format "yes:".toList = .ok (.mapping [(.bool true, .null)]) := by
  have allowed : "yes:".toList.all Yaml.isAllowed = true := by decide +kernel
  have unbroken : Text.normalizeBreaks "yes:".toList = "yes:".toList := by decide +kernel
  have tokens : (Yaml.tokensOf "yes:".toList).toOption
      = some [.blockMapping, .key, .scalar "yes".toList true, .value, .blockEnd] := by
    decide +kernel
  rw [Yaml.format, Yaml.parse, if_pos allowed, unbroken]
  cases read : Yaml.tokensOf "yes:".toList with
  | error problem =>
    rw [read] at tokens
    cases tokens
  | ok found =>
    rw [read] at tokens
    cases tokens
    have isNode : Yaml.Parsing.document
        [.blockMapping, .key, .scalar "yes".toList true, .value, .blockEnd]
        = .ok (some (.mapping .mapping [(.scalar .bool "yes".toList, .scalar .null [])])) := rfl
    simp only [bind, Except.bind, isNode, Yaml.Node.value, Yaml.entriesOf, Yaml.mergedEntries,
      Yaml.ownEntries]
    rfl

theorem flagKey_unexplainedConfig :
    (diskOfConfig (encodeUtf8 "yes:".toList)).UnexplainedConfig Yaml.format configPath :=
  .keyNotText "yes:".toList [(.bool true, .null)] (.bool true) .null rfl format_flagKey
    List.mem_cons_self nofun

/-- A run is not refused for a configuration file that is not blamed. -/
theorem exitCode_ne_two_of_unexplainedConfig {content : List UInt8}
    (unexplained : (diskOfConfig content).UnexplainedConfig Yaml.format configPath) :
    exitCode (run (diskOfConfig content) [] configWords) ≠ 2 := by
  have isRequest : Request.ofArguments configWords
      = .ok (.lint { paths := [.ofText "a.md".toList], config := some configPath }) := rfl
  intro isTwo
  rw [run, exitCode_runWith isRequest, exitCode_runLint_eq_two_iff rfl] at isTwo
  exact Disk.loadSettings_explained_iff.1 (.inr isTwo) unexplained

/-- A stray byte and a key that is a flag give no settings, and the run is not refused. -/
theorem config_breaks_off :
    (¬ ((∃ settings, (diskOfConfig [0xFF]).loadSettings Yaml.format configPath = .ok settings)
        ∨ (diskOfConfig [0xFF]).RefusesConfig Yaml.format configPath)
      ∧ exitCode (run (diskOfConfig [0xFF]) [] configWords) ≠ 2)
    ∧ ¬ ((∃ settings, (diskOfConfig (encodeUtf8 "yes:".toList)).loadSettings Yaml.format configPath
          = .ok settings)
        ∨ (diskOfConfig (encodeUtf8 "yes:".toList)).RefusesConfig Yaml.format configPath)
      ∧ exitCode (run (diskOfConfig (encodeUtf8 "yes:".toList)) [] configWords) ≠ 2 := by
  have strayByte := strayByte_unexplainedConfig Yaml.format
  refine ⟨⟨fun explained => ?_, ?_⟩, fun explained => ?_, ?_⟩
  · exact Disk.loadSettings_explained_iff.1 explained strayByte
  · exact exitCode_ne_two_of_unexplainedConfig strayByte
  · exact Disk.loadSettings_explained_iff.1 explained flagKey_unexplainedConfig
  · exact exitCode_ne_two_of_unexplainedConfig flagKey_unexplainedConfig

end Command

end JapaneseSpacing
