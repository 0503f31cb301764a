import JapaneseSpacing.Proofs.Report.Steps
import JapaneseSpacing.Proofs.Text.Pieces
import JapaneseSpacing.Report.Format

/-!
# Reading a report in CSV

A reader goes through a text character by character. Commas separate fields and line feeds end
rows, except between quotes, where a quote that stands for itself is written twice. Rows are
read as they were written, whatever their fields hold (`readCsv_rows`), and so is a whole report
(`csvReport_readBack`).
-/

namespace JapaneseSpacing

/-! ## The reader -/

/-- Where a reader stands in a field. -/
inductive CsvPlace where
  /-- In front of the field. -/
  | start
  /-- In a field without quotes. -/
  | bare
  /-- Between the quotes of a field. -/
  | quoted
  /-- Behind a quote that closes the field, unless another one follows. -/
  | closing
deriving Repr, DecidableEq

/-- What has been read: full rows, the fields of the row that is being read, and the field that
is being read. -/
structure CsvReader where
  rows : List (List Text) := []
  fields : List Text := []
  field : Text := []
  place : CsvPlace := .start
deriving Repr, DecidableEq

namespace CsvReader

/-- Read a character of the field. -/
def put (reader : CsvReader) (char : Char) (place : CsvPlace) : CsvReader :=
  { reader with field := reader.field ++ [char], place }

/-- Read the end of the field. -/
def endField (reader : CsvReader) : CsvReader :=
  { reader with fields := reader.fields ++ [reader.field], field := [], place := .start }

/-- Read the end of the row. -/
def endRow (reader : CsvReader) : CsvReader :=
  { rows := reader.rows ++ [reader.endField.fields] }

/-- Read one character. Nothing but a separator may follow a closing quote, and there are no
quotes in a field that does not begin with one. -/
def step (reader : CsvReader) (char : Char) : Option CsvReader :=
  match reader.place with
  | .quoted =>
    some (if char = '"' then { reader with place := .closing } else reader.put char .quoted)
  | place =>
    if char = ',' then some reader.endField
    else if char = '\n' then some reader.endRow
    else if char = '"' then
      match place with
      | .start => some { reader with place := .quoted }
      | .closing => some (reader.put '"' .quoted)
      | _ => none
    else if place = .closing then none
    else some (reader.put char .bare)

/-- The rows at the end of the text. The last row may lack its line feed, and a quote that is
open must be closed. -/
def finish (reader : CsvReader) : Option (List (List Text)) :=
  if reader.place = .quoted then none
  else if reader.place = .start ∧ reader.fields = [] then some reader.rows
  else some reader.endRow.rows

end CsvReader

/-- The rows of a text in CSV, if it is one. -/
def readCsv (text : Text) : Option (List (List Text)) :=
  (text.foldlM CsvReader.step {}).bind CsvReader.finish

/-! ## Fields and rows -/

namespace CsvReader

section Fields

variable {rows : List (List Text)} {fields : List Text} {read : Text} {place : CsvPlace}

/-- Outside quotes a comma ends the field. -/
theorem step_comma (outside : place ≠ .quoted) :
    step ⟨rows, fields, read, place⟩ ',' = some { rows, fields := fields ++ [read] } := by
  cases place with
  | quoted => exact absurd rfl outside
  | _ => rfl

/-- Outside quotes a line feed ends the row. -/
theorem step_lineFeed (outside : place ≠ .quoted) :
    step ⟨rows, fields, read, place⟩ '\n' = some { rows := rows ++ [fields ++ [read]] } := by
  cases place with
  | quoted => exact absurd rfl outside
  | _ => rfl

/-- A text that needs no quotes is read as it is. -/
theorem reads_bare {text : Text} (plain : csvNeedsQuotes text = false)
    (unquoted : place = .start ∨ place = .bare) :
    ∃ place', place' ≠ .quoted
      ∧ Steps step ⟨rows, fields, read, place⟩ text ⟨rows, fields, read ++ text, place'⟩ := by
  induction text generalizing read place with
  | nil =>
    refine ⟨place, by rcases unquoted with rfl | rfl <;> decide, ?_⟩
    rw [List.append_nil]
    exact .nil _ _
  | cons char rest inductionHypothesis =>
    simp only [csvNeedsQuotes, List.any_cons, Bool.or_eq_false_iff, beq_eq_false_iff_ne] at plain
    obtain ⟨⟨⟨noComma, noQuote⟩, noBreak⟩, plainRest⟩ := plain
    have head : step ⟨rows, fields, read, place⟩ char
        = some ⟨rows, fields, read ++ [char], .bare⟩ := by
      rcases unquoted with rfl | rfl <;> simp [step, put, noComma, noQuote, noBreak]
    obtain ⟨place', outside, tail⟩ :=
      @inductionHypothesis (read ++ [char]) .bare plainRest (.inr rfl)
    rw [List.append_assoc, List.singleton_append] at tail
    exact ⟨place', outside, .cons head tail⟩

/-- Between quotes a quote that is written twice is read once, and all else as it is. -/
theorem reads_doubled (text : Text) :
    Steps step ⟨rows, fields, read, .quoted⟩
      (text.flatMap fun char => if char = '"' then ['"', '"'] else [char])
      ⟨rows, fields, read ++ text, .quoted⟩ := by
  induction text generalizing read with
  | nil =>
    rw [List.append_nil]
    exact .nil _ _
  | cons char rest inductionHypothesis =>
    have tail := @inductionHypothesis (read ++ [char])
    rw [List.append_assoc, List.singleton_append] at tail
    rw [List.flatMap_cons]
    by_cases isQuote : char = '"'
    · subst isQuote
      rw [if_pos rfl]
      exact .append (.cons rfl (.cons rfl (.nil _ _))) tail
    · have head : step ⟨rows, fields, read, .quoted⟩ char
          = some ⟨rows, fields, read ++ [char], .quoted⟩ := by
        simp [step, put, isQuote]
      rw [if_neg isQuote]
      exact .cons head tail

/-- A field is read as it was written, and the reader is outside quotes behind it. -/
theorem reads_field (text : Text) :
    ∃ place', place' ≠ .quoted
      ∧ Steps step { rows, fields } (csvField text) ⟨rows, fields, text, place'⟩ := by
  rw [csvField]
  split
  · have opens : step { rows, fields } '"' = some ⟨rows, fields, [], .quoted⟩ := rfl
    have closes : step ⟨rows, fields, text, .quoted⟩ '"'
        = some ⟨rows, fields, text, .closing⟩ := rfl
    have inside := @reads_doubled rows fields [] text
    exact ⟨.closing, by decide, .append (.cons opens inside) (.cons closes (.nil _ _))⟩
  · next plain =>
    exact reads_bare (Bool.eq_false_iff.2 plain) (.inl rfl)

/-- The fields of a row are read as they were written. -/
theorem reads_row {more : List Text} (someFields : more ≠ []) :
    Steps step { rows, fields } (csvRow more) { rows := rows ++ [fields ++ more] } := by
  rw [csvRow]
  induction more generalizing fields with
  | nil => exact absurd rfl someFields
  | cons text rest inductionHypothesis =>
    obtain ⟨place', outside, field⟩ := @reads_field rows fields text
    cases rest with
    | nil => exact field.append (.cons (step_lineFeed outside) (.nil _ _))
    | cons next others =>
      have tail := @inductionHypothesis (fields ++ [text]) (List.cons_ne_nil _ _)
      rw [List.append_assoc, List.singleton_append] at tail
      rw [List.map_cons, List.map_cons, Text.join_cons_cons, List.append_assoc, List.append_assoc]
      exact field.append (.cons (step_comma outside) tail)

theorem reads_rows {more : List (List Text)} (someFields : ∀ row ∈ more, row ≠ []) :
    Steps step { rows } (more.flatMap csvRow) { rows := rows ++ more } := by
  induction more generalizing rows with
  | nil =>
    rw [List.append_nil]
    exact .nil _ _
  | cons row rest inductionHypothesis =>
    have tail := @inductionHypothesis (rows ++ [row])
      fun other member => someFields other (List.mem_cons_of_mem _ member)
    rw [List.append_assoc, List.singleton_append] at tail
    exact .append (reads_row (someFields row List.mem_cons_self)) tail

end Fields

end CsvReader

/-- Rows with at least one field each are read as they were written. -/
theorem readCsv_rows {rows : List (List Text)} (someFields : ∀ row ∈ rows, row ≠ []) :
    readCsv (rows.flatMap csvRow) = some rows := by
  have reads : Steps CsvReader.step {} (rows.flatMap csvRow) { rows := rows } :=
    @CsvReader.reads_rows [] rows someFields
  rw [readCsv, reads]
  rfl

/-- A quote inside a field is written twice, and a row may hold empty fields. -/
example : readCsv "a,\"b,\n\"\"\"\n,\n".toList
    = some [["a".toList, "b,\n\"".toList], [[], []]] := by
  decide +kernel

/-- The rows of a report in CSV. -/
def csvRows (results : List LintResult) : List (List Text) :=
  csvHeader :: results.flatMap fun result => result.messages.map (csvFields result.filePath)

theorem csvReport_eq_flatMap (results : List LintResult) :
    csvReport results = (csvRows results).flatMap csvRow := by
  simp only [csvReport, csvRows, List.flatMap_cons, List.flatMap_assoc, List.flatMap_map]

/-- There is a field for each column in a row. -/
theorem length_of_mem_csvRows {results : List LintResult} {row : List Text}
    (member : row ∈ csvRows results) : row.length = 7 := by
  rw [csvRows, List.mem_cons, List.mem_flatMap] at member
  rcases member with rfl | ⟨result, _, inResult⟩
  · rfl
  · obtain ⟨message, _, rfl⟩ := List.mem_map.1 inResult
    rfl

/-- A report in CSV is read back as the names of the columns and one row for each message, in
the order of the results and of the messages in them, with every text as it was given and every
integer in decimal. -/
theorem csvReport_readBack (writer : JsonWriter) (results : List LintResult) :
    ∃ report, writeReport writer .csv results = .ok report
      ∧ readCsv report = some
        (["file_path", "line", "column", "index", "severity", "rule_id", "message"].map
            String.toList
          :: results.flatMap fun result => result.messages.map fun message =>
            [result.filePath, Text.ofInt message.line, Text.ofInt message.column,
              Text.ofInt message.index, message.severity.name.toList, message.ruleId,
              message.message]) := by
  refine ⟨csvReport results, rfl, ?_⟩
  rw [csvReport_eq_flatMap, readCsv_rows]
  · rfl
  · rintro row member rfl
    exact absurd (length_of_mem_csvRows member) (by decide)

end JapaneseSpacing
