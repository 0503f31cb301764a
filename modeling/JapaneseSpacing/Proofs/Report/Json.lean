import JapaneseSpacing.Lint.Message.Validation
import JapaneseSpacing.Proofs.Report.JsonData
import JapaneseSpacing.Report.Format
import Mathlib.Algebra.Ring.Int.Defs

/-!
# Reading a report in JSON

A result that is written in JSON is read back as it was, whether it stands on a line of its own
or in a report, and there is no report of a result with an integer that does not fit into 64
bits (`json_readBack`). All that this takes of the writer is that it keeps to the form of its
layouts, and of the reader that it takes texts and integers for what they are.
-/

namespace JapaneseSpacing

/-! ## Reading records -/

/-- A reader takes every text and every integer for what it is, whatever it takes for one
besides. -/
structure ScalarReader.Faithful (scalars : ScalarReader) : Prop where
  text : ∀ text, scalars.text (.string text) = .ok text
  int : ∀ value, scalars.int (.int value) = .ok value

theorem ScalarReader.lenient_faithful : lenient.Faithful :=
  ⟨fun _ => rfl, fun _ => rfl⟩

/-- What reads each of some items reads the list of them. -/
theorem Validated.each_map {α : Type} {read : Value → Validated α} {write : α → Value}
    (readBack : ∀ item, read (write item) = .ok item) (index : Nat) (items : List α) :
    Validated.each read index (items.map write) = .ok items := by
  induction items generalizing index with
  | nil => rfl
  | cons item rest inductionHypothesis =>
    rw [List.map_cons, Validated.each, readBack, inductionHypothesis]
    rfl

theorem Severity.ofValue_name (severity : Severity) :
    Severity.ofValue (.string severity.name.toList) = .ok severity := by
  cases severity <;> rfl

section Fields

variable {α : Type} {fields : Fields} {name : String} {value : Value} {result : α}
  {read : Value → Validated α}

theorem Fields.required_eq_ok (found : fields.get? name = some value)
    (isRead : read value = .ok result) : fields.required name read = .ok result := by
  rw [Fields.required, found]
  dsimp only
  rw [isRead]
  rfl

theorem Fields.optional_eq_ok (default : α) (found : fields.get? name = some value)
    (isRead : read value = .ok result) : fields.optional name default read = .ok result := by
  rw [Fields.optional, found]
  dsimp only
  rw [isRead]
  rfl

end Fields

section Records

variable {scalars : ScalarReader} (faithful : scalars.Faithful)
include faithful

theorem Span.ofValue_data (span : Span) :
    Span.ofValue scalars (.list [.int span.start, .int span.stop]) = .ok span := by
  rw [Span.ofValue, faithful.int, faithful.int]
  rfl

theorem Message.ofFix_data (fix : Option Fix) :
    Fix.ofValue? scalars ((fix.map Fix.toJson).getD .null).data = .ok fix := by
  cases fix with
  | none => rfl
  | some fix =>
    have fields : fix.toJson.data.fields? = some [("range".toList,
        .list [.int fix.span.start, .int fix.span.stop]), ("text".toList, .string fix.text)] :=
      JsonValue.fields?_data _
    rw [Option.map_some, Option.getD_some, Fix.ofValue?, Value.asRecord, fields]
    · dsimp only
      rw [Fix.ofFields, Fields.required_eq_ok rfl (Span.ofValue_data faithful fix.span),
        Fields.required_eq_ok rfl (faithful.text fix.text)]
      rfl
    · nofun

/-- The fields of a message as data. -/
def Message.jsonFields (message : Message) : Fields :=
  [("rule_id".toList, .string message.ruleId), ("message".toList, .string message.message),
    ("index".toList, .int message.index), ("line".toList, .int message.line),
    ("column".toList, .int message.column),
    ("severity".toList, .string message.severity.name.toList),
    ("fix".toList, ((message.fix.map Fix.toJson).getD .null).data)]

/-- A message is read back from its data. -/
theorem Message.ofFields_data (message : Message) :
    message.toJson.data.asRecord (Message.ofFields scalars) = .ok message := by
  have fields : message.toJson.data.fields? = some message.jsonFields := JsonValue.fields?_data _
  have ruleId : message.jsonFields.optional "rule_id" JapaneseSpacing.ruleId scalars.text
      = .ok message.ruleId := Fields.optional_eq_ok _ rfl (faithful.text _)
  have text : message.jsonFields.required "message" scalars.text = .ok message.message :=
    Fields.required_eq_ok rfl (faithful.text _)
  have index : message.jsonFields.required "index" scalars.int = .ok message.index :=
    Fields.required_eq_ok rfl (faithful.int _)
  have line : message.jsonFields.required "line" scalars.int = .ok message.line :=
    Fields.required_eq_ok rfl (faithful.int _)
  have column : message.jsonFields.required "column" scalars.int = .ok message.column :=
    Fields.required_eq_ok rfl (faithful.int _)
  have severity : message.jsonFields.optional "severity" .error Severity.ofValue
      = .ok message.severity := Fields.optional_eq_ok _ rfl (Severity.ofValue_name _)
  have fix : message.jsonFields.optional "fix" none (Fix.ofValue? scalars) = .ok message.fix :=
    Fields.optional_eq_ok _ rfl (Message.ofFix_data faithful _)
  rw [Value.asRecord, fields]
  dsimp only
  rw [Message.ofFields, ruleId, text, index, line, column, severity, fix]
  rfl

/-- The fields of a result as data. -/
def LintResult.jsonFields (result : LintResult) : Fields :=
  [("file_path".toList, .string result.filePath),
    ("messages".toList, (JsonValue.array (result.messages.map Message.toJson)).data)]

/-- A result is read back from its data. -/
theorem LintResult.ofValue_data (result : LintResult) :
    LintResult.ofValue scalars result.toJson.data = .ok result := by
  have fields : result.toJson.data.fields? = some result.jsonFields := JsonValue.fields?_data _
  have filePath : result.jsonFields.required "file_path" scalars.text = .ok result.filePath :=
    Fields.required_eq_ok rfl (faithful.text _)
  have items : Value.asList (fun value => value.asRecord (Message.ofFields scalars))
      (JsonValue.array (result.messages.map Message.toJson)).data = .ok result.messages := by
    rw [JsonValue.data, JsonValue.itemData_eq_map, List.map_map]
    exact Validated.each_map (Message.ofFields_data faithful) 0 result.messages
  have messages : result.jsonFields.optional "messages" []
      (Value.asList fun value => value.asRecord (Message.ofFields scalars)) = .ok result.messages :=
    Fields.optional_eq_ok _ rfl items
  rw [LintResult.ofValue, Value.asRecord, fields]
  dsimp only
  rw [LintResult.ofFields, filePath, messages]
  rfl

end Records

/-! ## Integers that fit -/

/-- The integers in a message. -/
def Message.integers (message : Message) : List Int :=
  [message.index, message.line, message.column]
    ++ match message.fix with
      | none => []
      | some fix => [fix.span.start, fix.span.stop]

/-- The integers in a result. -/
def LintResult.integers (result : LintResult) : List Int :=
  result.messages.flatMap Message.integers

/-- Every integer in a result fits into 64 bits, signed or unsigned. -/
def LintResult.IntegersFit (result : LintResult) : Prop :=
  ∀ value ∈ result.integers, -2 ^ 63 ≤ value ∧ value < 2 ^ 64

theorem JsonValue.intFits_iff {value : Int} :
    JsonValue.intFits value = true ↔ -2 ^ 63 ≤ value ∧ value < 2 ^ 64 := by
  rw [JsonValue.intFits, Bool.and_eq_true, decide_eq_true_iff, decide_eq_true_iff]
  omega

theorem Message.fits_toJson_iff {message : Message} :
    message.toJson.fits = true ↔ ∀ value ∈ message.integers, -2 ^ 63 ≤ value ∧ value < 2 ^ 64 := by
  rw [Message.toJson, Message.integers]
  cases message.fix with
  | none =>
    simp only [JsonValue.fits, JsonValue.fitsEntries, Option.map_none, Option.getD_none,
      Bool.and_eq_true, JsonValue.intFits_iff]
    simp
  | some fix =>
    simp only [JsonValue.fits, JsonValue.fitsEntries, JsonValue.fitsItems, Fix.toJson,
      Option.map_some, Option.getD_some, Bool.and_eq_true, JsonValue.intFits_iff]
    simp

/-- A result can be written exactly if its integers fit. -/
theorem LintResult.fits_toJson_iff {result : LintResult} :
    result.toJson.fits = true ↔ result.IntegersFit := by
  have messages : result.toJson.fits
      = (JsonValue.array (result.messages.map Message.toJson)).fits := by
    simp only [LintResult.toJson, JsonValue.fits, JsonValue.fitsEntries, Bool.true_and,
      Bool.and_true]
  rw [messages, JsonValue.fits_array, List.forall_mem_map]
  simp only [Message.fits_toJson_iff, LintResult.IntegersFit, LintResult.integers,
    List.mem_flatMap, forall_exists_index, and_imp]
  exact ⟨fun each value message member inMessage => each message member value inMessage,
    fun each message member value inMessage => each value message member inMessage⟩

/-! ## Reports -/

/-- The data of a value is read from the text of its layout. -/
theorem JsonValue.Written.readJson {layout : JsonLayout} {value : JsonValue} {text : Text}
    (written : value.Written layout.IsGap text) :
    JapaneseSpacing.readJson (text ++ ['\n']) = some value.data := by
  refine JsonValue.readJson_line (written.spells fun gap isGap char member => ?_)
  cases layout with
  | oneLine =>
    subst isGap
    cases member
  | indented => rcases isGap char member with rfl | rfl <;> rfl

section Writing

variable {writer : JsonWriter} (conforms : writer.Conforms)
include conforms

/-- A result whose integers fit is written on one line, which holds its data. -/
theorem LintResult.toJsonLine_of_fits {result : LintResult} (fits : result.IntegersFit) :
    ∃ line, result.toJsonLine writer = .ok (line ++ ['\n']) ∧ '\n' ∉ line
      ∧ readJson (line ++ ['\n']) = some result.toJson.data := by
  obtain ⟨line, isLine, written⟩ := conforms.writes .oneLine result.toJson (fits_toJson_iff.2 fits)
  exact ⟨line, isLine, written.noBreak, written.readJson⟩

/-- There is a report exactly if all integers fit, and it holds the data of all results. -/
theorem jsonReport_of_fits {results : List LintResult}
    (fits : ∀ result ∈ results, result.IntegersFit) :
    ∃ report, jsonReport writer results = .ok report
      ∧ readJson report = some (.list (results.map fun result => result.toJson.data)) := by
  have all : (JsonValue.array (results.map LintResult.toJson)).fits = true := by
    rw [JsonValue.fits_array, List.forall_mem_map]
    exact fun result member => LintResult.fits_toJson_iff.2 (fits result member)
  obtain ⟨report, isReport, written⟩ := conforms.writes .indented _ all
  refine ⟨_, isReport, ?_⟩
  rw [written.readJson, JsonValue.data, JsonValue.itemData_eq_map, List.map_map]
  rfl

end Writing

/-- A result whose integers fit is written on one line, with a line feed at its end and no other
one, and is read back from it. Results whose integers fit are read back from their report one by
one, each from the data that is also on its own line. If an integer does not fit, neither the
line nor the report is written. -/
theorem json_readBack (writer : JsonWriter) (conforms : writer.Conforms) (scalars : ScalarReader)
    (faithful : scalars.Faithful) (result : LintResult) (results : List LintResult) :
    (result.IntegersFit →
      ∃ line value, result.toJsonLine writer = .ok (line ++ ['\n']) ∧ '\n' ∉ line
        ∧ readJson (line ++ ['\n']) = some value ∧ LintResult.ofValue scalars value = .ok result)
    ∧ ((∀ result ∈ results, result.IntegersFit) →
      ∃ report values, writeReport writer .json results = .ok report
        ∧ readJson report = some (.list values)
        ∧ List.Forall₂ (fun result value => LintResult.ofValue scalars value = .ok result
            ∧ ∃ line, result.toJsonLine writer = .ok line ∧ readJson line = some value)
          results values)
    ∧ (¬ result.IntegersFit → result.toJsonLine writer = .error .integerTooLarge)
    ∧ ((∃ result ∈ results, ¬ result.IntegersFit) →
      writeReport writer .json results = .error .integerTooLarge) := by
  have refused {value : JsonValue} (layout : JsonLayout) (large : ¬ value.fits = true) :=
    conforms.refuses layout value (by simpa using large)
  refine ⟨fun fits => ?_, fun fits => ?_, fun large => ?_, fun ⟨other, member, large⟩ => ?_⟩
  · obtain ⟨line, written, noBreak, read⟩ := LintResult.toJsonLine_of_fits conforms fits
    exact ⟨line, _, written, noBreak, read, result.ofValue_data faithful⟩
  · obtain ⟨report, written, read⟩ := jsonReport_of_fits conforms fits
    refine ⟨report, _, written, read, ?_⟩
    rw [List.forall₂_map_right_iff, List.forall₂_same]
    intro each member
    obtain ⟨line, lineWritten, _, lineRead⟩ :=
      LintResult.toJsonLine_of_fits conforms (fits each member)
    exact ⟨each.ofValue_data faithful, _, lineWritten, lineRead⟩
  · exact refused .oneLine fun fits => large (LintResult.fits_toJson_iff.1 fits)
  · refine refused .indented fun fits => large (LintResult.fits_toJson_iff.1 ?_)
    rw [JsonValue.fits_array, List.forall_mem_map] at fits
    exact fits other member

/-- A result with characters that are escaped and with the outermost integers. -/
def escapedResult : LintResult :=
  ⟨"a\"b\\c.md".toList, [{
    message := "\x00\x08\x0c\x1f\x7f\r\n\t\u2028😀".toList
    index := -2 ^ 63
    line := 0
    column := 2 ^ 64 - 1
    severity := .warning
    fix := some ⟨⟨3, 4⟩, "/".toList⟩ }]⟩

/-- A result with an integer that does not fit. -/
def largeResult : LintResult :=
  ⟨"b.md".toList, [{ message := [], index := 2 ^ 64, line := 1, column := 1 }]⟩

theorem json_readBack_escaped :
    JsonWriter.standard.Conforms ∧ ScalarReader.lenient.Faithful
      ∧ (∃ line value, escapedResult.toJsonLine .standard = .ok (line ++ ['\n']) ∧ '\n' ∉ line
        ∧ readJson (line ++ ['\n']) = some value
        ∧ LintResult.ofValue .lenient value = .ok escapedResult)
      ∧ (∃ report values, writeReport .standard .json [escapedResult] = .ok report
        ∧ readJson report = some (.list values)
        ∧ List.Forall₂ (fun result value => LintResult.ofValue .lenient value = .ok result
            ∧ ∃ line, result.toJsonLine .standard = .ok line ∧ readJson line = some value)
          [escapedResult] values)
      ∧ largeResult.toJsonLine .standard = .error .integerTooLarge
      ∧ writeReport .standard .json [escapedResult, largeResult] = .error .integerTooLarge := by
  have fits : escapedResult.IntegersFit := by
    unfold LintResult.IntegersFit
    decide
  have large : ¬ largeResult.IntegersFit := by
    unfold LintResult.IntegersFit
    decide
  have readBack := json_readBack .standard JsonWriter.standard_conforms .lenient
    ScalarReader.lenient_faithful
  refine ⟨JsonWriter.standard_conforms, ScalarReader.lenient_faithful,
    (readBack escapedResult []).1 fits, (readBack escapedResult [escapedResult]).2.1 ?_,
    (readBack largeResult []).2.2.1 large,
    (readBack largeResult [escapedResult, largeResult]).2.2.2 ⟨largeResult, ?_, large⟩⟩
  · rintro result (_ | ⟨_, ⟨⟩⟩)
    exact fits
  · exact List.mem_cons_of_mem _ List.mem_cons_self

end JapaneseSpacing
