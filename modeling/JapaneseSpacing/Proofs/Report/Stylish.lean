import JapaneseSpacing.Lint.Rule
import JapaneseSpacing.Proofs.Spacing.Wording
import JapaneseSpacing.Proofs.Text.Decimal
import JapaneseSpacing.Proofs.Text.OnLine
import JapaneseSpacing.Proofs.Text.Position
import JapaneseSpacing.Report.Stylish

/-!
# The lines of a report for people

A report on one file gives each message a line of its own exactly if no message has a line feed
(`linePerMessage_iff`). The messages of a plain text have none exactly if no complaint shows a line
feed of the text (`stylishReport_lintText`).
-/

namespace JapaneseSpacing

/-- A report on one file has the path on its first line, then a line for each message in order,
which begins with its place and has its text in it, then an empty line and the number of
problems. -/
def LinePerMessage (filePath : Text) (messages : List Message) (report : Text) : Prop :=
  ∃ rows : List Text,
    Text.lines report = filePath :: rows ++ [[], "✖ ".toList ++ Text.ofNat messages.length
      ++ " problem".toList ++ (if messages.length = 1 then [] else ['s'])]
    ∧ List.Forall₂ (fun message row =>
      "  ".toList ++ Text.ofInt message.line ++ [':'] ++ Text.ofInt message.column <+: row
        ∧ message.message <:+: row) messages rows

/-! ## The report on one file -/

section Lines

variable {filePath : Text} {messages : List Message} {message : Message}

theorem LinePerMessage.length_lines {report : Text}
    (linePerMessage : LinePerMessage filePath messages report) :
    (Text.lines report).length = messages.length + 3 := by
  obtain ⟨rows, lines, paired⟩ := linePerMessage
  rw [lines, paired.length_eq]
  simp

theorem Severity.noBreak_name (severity : Severity) : '\n' ∉ severity.name.toList := by
  cases severity <;> simp [Severity.name]

/-- The text of a message is the only part of its line that can have a line feed. -/
theorem break_mem_stylishLine_iff (ruleNoBreak : '\n' ∉ message.ruleId) :
    '\n' ∈ stylishLine message ↔ '\n' ∈ message.message := by
  have noBlanks : '\n' ∉ "  ".toList := by simp
  have noColon : '\n' ∉ [':'] := by simp
  unfold stylishLine
  simp only [List.mem_append]
  -- The parts behind the message are taken off, then all in front of it at once.
  rw [or_iff_left ruleNoBreak, or_iff_left noBlanks, or_iff_right]
  simp only [not_or]
  exact ⟨⟨⟨⟨⟨⟨noBlanks, Text.noBreak_ofInt _⟩, noColon⟩, Text.noBreak_ofInt _⟩, noBlanks⟩,
    message.severity.noBreak_name⟩, noBlanks⟩

theorem noBreak_stylishSummary (total : Nat) : '\n' ∉ stylishSummary total := by
  have noNumber := Text.noBreak_ofNat total
  rw [stylishSummary]
  split <;> simp [noNumber]

/-- The place and the text of a message stand in its line. -/
theorem stylishLine_shows (message : Message) :
    "  ".toList ++ Text.ofInt message.line ++ [':'] ++ Text.ofInt message.column
        <+: stylishLine message
      ∧ message.message <:+: stylishLine message := by
  unfold stylishLine
  constructor
  · refine ⟨"  ".toList ++ (message.severity.name.toList ++ ("  ".toList ++ (message.message
      ++ ("  ".toList ++ message.ruleId)))), ?_⟩
    simp only [List.append_assoc]
  · exact ⟨_, "  ".toList ++ message.ruleId, (List.append_assoc _ _ _).symm⟩

/-- What a report on one file is joined from. -/
def stylishParts (filePath : Text) (messages : List Message) : List Text :=
  filePath :: messages.map stylishLine ++ [[], stylishSummary messages.length]

theorem stylishReport_eq_join (someMessages : messages ≠ []) :
    stylishReport [⟨filePath, messages⟩] = Text.join ['\n'] (stylishParts filePath messages) := by
  have notEmpty : messages.isEmpty = false := by simpa using someMessages
  have notZero : messages.length ≠ 0 := by simpa using someMessages
  simp [stylishReport, stylishLines, stylishParts, notEmpty, notZero]

theorem noBreak_stylishParts_iff (pathNoBreak : '\n' ∉ filePath)
    (rulesNoBreak : ∀ message ∈ messages, '\n' ∉ message.ruleId) :
    (∀ part ∈ stylishParts filePath messages, '\n' ∉ part)
      ↔ ∀ message ∈ messages, '\n' ∉ message.message := by
  constructor
  · intro noBreak message member
    have inParts : stylishLine message ∈ stylishParts filePath messages :=
      List.mem_append_left _ (List.mem_cons_of_mem _ (List.mem_map_of_mem member))
    rw [← break_mem_stylishLine_iff (rulesNoBreak message member)]
    exact noBreak _ inParts
  · intro noBreak part member
    simp only [stylishParts, List.mem_append, List.mem_cons, List.mem_map, List.not_mem_nil,
      or_false] at member
    rcases member with (rfl | ⟨message, isMessage, rfl⟩) | rfl | rfl
    · exact pathNoBreak
    · rw [break_mem_stylishLine_iff (rulesNoBreak message isMessage)]
      exact noBreak message isMessage
    · exact List.not_mem_nil
    · exact noBreak_stylishSummary _

/-- A report on one file has three lines more than there are messages exactly if no message has a
line feed. -/
theorem length_lines_stylishReport_iff (someMessages : messages ≠ []) (pathNoBreak : '\n' ∉ filePath)
    (rulesNoBreak : ∀ message ∈ messages, '\n' ∉ message.ruleId) :
    (Text.lines (stylishReport [⟨filePath, messages⟩])).length = messages.length + 3
      ↔ ∀ message ∈ messages, '\n' ∉ message.message := by
  have length : (stylishParts filePath messages).length = messages.length + 3 := by
    simp [stylishParts]
  rw [stylishReport_eq_join someMessages, ← length, Text.length_lines_join_iff (by simp [stylishParts]),
    noBreak_stylishParts_iff pathNoBreak rulesNoBreak]

/-- A report on one file gives each message a line of its own exactly if no message has a line
feed. -/
theorem linePerMessage_iff (someMessages : messages ≠ []) (pathNoBreak : '\n' ∉ filePath)
    (rulesNoBreak : ∀ message ∈ messages, '\n' ∉ message.ruleId) :
    LinePerMessage filePath messages (stylishReport [⟨filePath, messages⟩])
      ↔ ∀ message ∈ messages, '\n' ∉ message.message := by
  constructor
  · intro linePerMessage
    rw [← length_lines_stylishReport_iff someMessages pathNoBreak rulesNoBreak]
    exact linePerMessage.length_lines
  · intro noBreak
    have parts := (noBreak_stylishParts_iff pathNoBreak rulesNoBreak).2 noBreak
    refine ⟨messages.map stylishLine, ?_, ?_⟩
    · rw [stylishReport_eq_join someMessages, Text.lines_join (by simp [stylishParts]) parts]
      rfl
    · exact List.forall₂_map_right_iff.2 (List.forall₂_same.2 fun message _ =>
        stylishLine_shows message)

end Lines

/-! ## Plain text -/

section PlainText

variable {text : Text}

/-- The messages of a plain text are the complaints about all of it. -/
theorem lintText_eq (text : Text) :
    lintText text = (checkText text).map fun violation =>
      violation.toMessage text ⟨.leaf .str ⟨0, text.length⟩, []⟩ := by
  have whole : text.slice 0 text.length = text := by
    have slice := Text.slice_natCast (Nat.zero_le text.length) (Nat.le_refl text.length)
    rwa [List.take_length, List.drop_zero] at slice
  have source : (Node.leaf .str ⟨0, text.length⟩).source text = text := whole
  have alone : lintText text
      = nodeMessages text {} ⟨.leaf .str ⟨0, text.length⟩, []⟩ := List.append_nil _
  rw [alone, nodeMessages]
  -- A root has no ancestors, so no text is skipped.
  change (checkText ((Node.leaf .str ⟨0, text.length⟩).source text)).map _ = _
  rw [source]

theorem noBreak_ruleId {message : Message} (member : message ∈ lintText text) :
    '\n' ∉ message.ruleId := by
  rw [lintText_eq] at member
  obtain ⟨violation, -, rfl⟩ := List.mem_map.1 member
  change '\n' ∉ ruleId
  decide

/-- No message of a plain text has a line feed exactly if no complaint shows one. -/
theorem noBreak_lintText_iff :
    (∀ message ∈ lintText text, '\n' ∉ message.message) ↔ ¬ text.ShowsBreak := by
  rw [← exists_break_in_message_iff, lintText_eq, List.forall_mem_map]
  simp only [not_exists, not_and, Violation.toMessage]

end PlainText

/-- The report on a plain text is empty if there are no messages. Otherwise it has three lines more
than there are messages, and each message has one of its own, exactly if no complaint shows a line
feed of the text. -/
theorem stylishReport_lintText (text : Text) :
    let report := stylishReport [⟨"<text>".toList, lintText text⟩]
    (lintText text = [] → report = [])
    ∧ (lintText text ≠ [] →
      ((Text.lines report).length = (lintText text).length + 3 ↔ ¬ text.ShowsBreak)
      ∧ (LinePerMessage "<text>".toList (lintText text) report ↔ ¬ text.ShowsBreak)) := by
  have pathNoBreak : '\n' ∉ "<text>".toList := by decide
  have rulesNoBreak : ∀ message ∈ lintText text, '\n' ∉ message.ruleId :=
    fun _ member => noBreak_ruleId member
  refine ⟨fun noMessages => ?_, fun someMessages => ⟨?_, ?_⟩⟩
  · rw [noMessages]
    rfl
  · rw [length_lines_stylishReport_iff someMessages pathNoBreak rulesNoBreak,
      noBreak_lintText_iff]
  · rw [linePerMessage_iff someMessages pathNoBreak rulesNoBreak, noBreak_lintText_iff]

/-- The line feed of a phrase is not shown if it is far enough from the end that is complained
about. -/
theorem stylishReport_lintText_longPhrase :
    let text : Text := "あaaaaaaaaaa\nb い".toList
    lintText text ≠ [] ∧ ¬ text.ShowsBreak
      ∧ LinePerMessage "<text>".toList (lintText text)
        (stylishReport [⟨"<text>".toList, lintText text⟩]) := by
  intro text
  have someMessages : lintText text ≠ [] := by decide +kernel
  have noBreak : ¬ text.ShowsBreak := noBreak_lintText_iff.1 (by decide +kernel)
  exact ⟨someMessages, noBreak, ((stylishReport_lintText text).2 someMessages).2.2 noBreak⟩

/-- A complaint about a phrase on two lines takes two lines. -/
theorem stylishReport_breaks_line :
    ¬ ∀ text : Text,
      let report := stylishReport [⟨"<text>".toList, lintText text⟩]
      (lintText text = [] → report = [])
      ∧ (lintText text ≠ [] → LinePerMessage "<text>".toList (lintText text) report) := by
  intro everywhere
  have linePerMessage := (everywhere "あa\nbい".toList).2 (by decide +kernel)
  exact absurd linePerMessage.length_lines (by decide +kernel)

end JapaneseSpacing
