import JapaneseSpacing.Report.Json
import Mathlib.Data.List.Forall2
import Mathlib.Tactic.SplitIfs

/-!
# The form of JSON texts

The texts in which a value may be written, without a writer: `JsonValue.Written` leaves open how
a character is escaped that has to be, and what stands between the tokens of a value. A writer
keeps to the form of its layouts if every value that fits is written in it
(`JsonWriter.Conforms`), as the one of the program does (`JsonWriter.standard_conforms`).
-/

namespace JapaneseSpacing

/-! ## Strings -/

/-- The characters with an escape of their own, each with its mark. -/
def shortEscapes : List (Char × Char) :=
  [('"', '"'), ('\\', '\\'), ('\n', 'n'), ('\r', 'r'), ('\t', 't'), ('\x08', 'b'), ('\x0c', 'f')]

/-- A character of a JSON string as it may be written. Only quotes, backslashes and control
characters are escaped. -/
inductive EscapedAs : Char → Text → Prop
  | plain {char : Char} (noQuote : char ≠ '"') (noBackslash : char ≠ '\\')
      (noControl : 0x20 ≤ char.toNat) : EscapedAs char [char]
  | short {char mark : Char} (hasEscape : (char, mark) ∈ shortEscapes) : EscapedAs char ['\\', mark]
  | code {char : Char} (control : char.toNat < 0x20) :
      EscapedAs char ('\\' :: 'u' :: hexDigits 4 char.toNat)

/-- A JSON string as it may be written. -/
inductive WrittenString : Text → Text → Prop
  | quoted {text : Text} {parts : List Text} (escaped : List.Forall₂ EscapedAs text parts) :
      WrittenString text ('"' :: parts.flatten ++ ['"'])

/-! ## Values -/

/-- Parts between brackets, with commas between them and gaps of an allowed kind behind the
opening bracket, the commas and the last part. -/
inductive Enclosed (gap : Text → Prop) (opening closing : Char) : List Text → Text → Prop
  | empty : Enclosed gap opening closing [] [opening, closing]
  | some {parts : List Text} {front between back : Text} (someParts : parts ≠ [])
      (isFront : gap front) (isBetween : gap between) (isBack : gap back) :
      Enclosed gap opening closing parts
        (opening :: front ++ Text.join (',' :: between) parts ++ (back ++ [closing]))

namespace JsonValue

mutual

/-- A value as it may be written, with gaps of an allowed kind. -/
inductive Written (gap : Text → Prop) : JsonValue → Text → Prop
  | null : Written gap .null "null".toList
  | int (value : Int) : Written gap (.int value) (Text.ofInt value)
  | string {text written : Text} (isString : WrittenString text written) :
      Written gap (.string text) written
  | array {items : List JsonValue} {parts : List Text} {written : Text}
      (each : WrittenItems gap items parts) (enclosed : Enclosed gap '[' ']' parts written) :
      Written gap (.array items) written
  | object {entries : List (Text × JsonValue)} {parts : List Text} {written : Text}
      (each : WrittenEntries gap entries parts)
      (enclosed : Enclosed gap '\x7b' '\x7d' parts written) : Written gap (.object entries) written

/-- Values as they may be written. -/
inductive WrittenItems (gap : Text → Prop) : List JsonValue → List Text → Prop
  | nil : WrittenItems gap [] []
  | cons {item : JsonValue} {rest : List JsonValue} {part : Text} {parts : List Text}
      (first : Written gap item part) (others : WrittenItems gap rest parts) :
      WrittenItems gap (item :: rest) (part :: parts)

/-- Entries of a record as they may be written. -/
inductive WrittenEntries (gap : Text → Prop) : List (Text × JsonValue) → List Text → Prop
  | nil : WrittenEntries gap [] []
  | cons {key name between part : Text} {value : JsonValue} {rest : List (Text × JsonValue)}
      {parts : List Text} (isKey : WrittenString key name) (isBetween : gap between)
      (isValue : Written gap value part) (others : WrittenEntries gap rest parts) :
      WrittenEntries gap ((key, value) :: rest) ((name ++ ':' :: between ++ part) :: parts)

end

end JsonValue

/-! ## Layouts and writers -/

/-- What may stand between the tokens of a value: nothing on one line, and otherwise line feeds
and spaces. -/
def JsonLayout.IsGap : JsonLayout → Text → Prop
  | .oneLine, gap => gap = []
  | .indented, gap => ∀ char ∈ gap, char = '\n' ∨ char = ' '

/-- A writer keeps to the form of its layouts and puts a line feed behind a value. It refuses a
value with an integer that does not fit. -/
structure JsonWriter.Conforms (writer : JsonWriter) : Prop where
  writes : ∀ layout value, value.fits = true → ∃ text,
    writer.write layout value = .ok (text ++ ['\n']) ∧ value.Written layout.IsGap text
  refuses : ∀ layout value, value.fits = false →
    writer.write layout value = .error .integerTooLarge

namespace JsonValue

theorem escapedAs_escapedChar (char : Char) : EscapedAs char (escapedChar char) := by
  unfold escapedChar
  split_ifs with quote backslash _ _ _ _ _ control
  -- The first seven characters have escapes of their own.
  iterate 7
    · subst_vars
      exact .short (by decide)
  · exact .code control
  · exact .plain quote backslash (Nat.le_of_not_lt control)

theorem writtenString_quote (text : Text) : WrittenString text (quote text) := by
  have escaped : List.Forall₂ EscapedAs text (text.map escapedChar) := by
    rw [List.forall₂_map_right_iff, List.forall₂_same]
    exact fun char _ => escapedAs_escapedChar char
  exact .quoted escaped

theorem enclosed_oneLine (opening closing : Char) (parts : List Text) :
    Enclosed JsonLayout.oneLine.IsGap opening closing parts
      ([opening] ++ Text.join [','] parts ++ [closing]) := by
  cases parts with
  | nil => exact .empty
  | cons first more =>
    exact @Enclosed.some JsonLayout.oneLine.IsGap _ _ _ _ _ _ (List.cons_ne_nil _ _) rfl rfl rfl

mutual

theorem written_compact :
    (value : JsonValue) → value.Written JsonLayout.oneLine.IsGap value.compact
  | null => .null
  | int value => .int value
  | string text => .string (writtenString_quote text)
  | array items => .array (written_compactItems items) (enclosed_oneLine _ _ _)
  | object entries => .object (written_compactEntries entries) (enclosed_oneLine _ _ _)

theorem written_compactItems : (items : List JsonValue) →
    WrittenItems JsonLayout.oneLine.IsGap items (compactItems items)
  | [] => .nil
  | item :: rest => .cons (written_compact item) (written_compactItems rest)

theorem written_compactEntries : (entries : List (Text × JsonValue)) →
    WrittenEntries JsonLayout.oneLine.IsGap entries (compactEntries entries)
  | [] => .nil
  | (key, value) :: rest =>
    .cons (writtenString_quote key) rfl (written_compact value) (written_compactEntries rest)

end

theorem isGap_newLine (depth : Nat) : JsonLayout.indented.IsGap (newLine depth) := by
  intro char member
  rcases List.mem_cons.1 member with isBreak | inIndent
  · exact .inl isBreak
  · exact .inr (List.eq_of_mem_replicate inIndent)

theorem enclosed_bracketed (depth : Nat) (opening closing : Char) (parts : List Text) :
    Enclosed JsonLayout.indented.IsGap opening closing parts
      (bracketed depth opening closing parts) := by
  cases parts with
  | nil => exact .empty
  | cons first more =>
    rw [bracketed, List.isEmpty_cons, if_neg Bool.false_ne_true,
      List.append_assoc _ (newLine depth)]
    exact .some (List.cons_ne_nil _ _) (isGap_newLine _) (isGap_newLine _) (isGap_newLine _)

mutual

theorem written_indented (depth : Nat) :
    (value : JsonValue) → value.Written JsonLayout.indented.IsGap (value.indented depth)
  | null => .null
  | int value => .int value
  | string text => .string (writtenString_quote text)
  | array items => .array (written_indentedItems (depth + 1) items) (enclosed_bracketed _ _ _ _)
  | object entries =>
    .object (written_indentedEntries (depth + 1) entries) (enclosed_bracketed _ _ _ _)

theorem written_indentedItems (depth : Nat) : (items : List JsonValue) →
    WrittenItems JsonLayout.indented.IsGap items (indentedItems depth items)
  | [] => .nil
  | item :: rest => .cons (written_indented depth item) (written_indentedItems depth rest)

theorem written_indentedEntries (depth : Nat) : (entries : List (Text × JsonValue)) →
    WrittenEntries JsonLayout.indented.IsGap entries (indentedEntries depth entries)
  | [] => .nil
  | (key, value) :: rest =>
    .cons (writtenString_quote key) (by simp [JsonLayout.IsGap]) (written_indented depth value)
      (written_indentedEntries depth rest)

end

end JsonValue

/-- The writer of the program keeps to the form. -/
theorem JsonWriter.standard_conforms : standard.Conforms where
  writes layout value fits := by
    refine ⟨value.laidOut layout, if_pos fits, ?_⟩
    cases layout with
    | oneLine => exact value.written_compact
    | indented => exact value.written_indented 0
  refuses layout value large := if_neg (by simp [large])

end JapaneseSpacing
