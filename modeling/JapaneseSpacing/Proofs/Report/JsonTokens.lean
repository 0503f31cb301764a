import Mathlib.Data.List.Forall2
import Mathlib.Data.List.TakeWhile
import JapaneseSpacing.Proofs.Report.JsonForm
import JapaneseSpacing.Proofs.Report.JsonReader
import JapaneseSpacing.Proofs.Report.Steps
import JapaneseSpacing.Proofs.Text.Decimal
import JapaneseSpacing.Proofs.Text.Pieces
import JapaneseSpacing.Proofs.Text.Utf8

/-!
# The tokens of written JSON

However a value is written, it is made up of the same tokens (`JsonValue.Written.spells`),
because blanks between tokens have no meaning and nothing inside a string is taken for its end.
On one line a value has no line feed in it (`JsonValue.Written.noBreak`).
-/

namespace JapaneseSpacing

/-! ## Integers -/

/-- Digits do not begin with a needless zero. -/
theorem toDigits_eq_zero {value : Nat} (leads : (Nat.toDigits 10 value).head? = some '0') :
    value = 0 := by
  induction value using Nat.strongRecOn with
  | ind value inductionHypothesis =>
    rw [Nat.toDigits_eq_if (by decide)] at leads
    split at leads
    · next small =>
      rw [List.head?_cons, Option.some.injEq] at leads
      have only : ∀ digit < 10, Nat.digitChar digit = '0' → digit = 0 := by decide
      exact only value small leads
    · next large =>
      rw [List.head?_append_of_ne_nil _ Nat.toDigits_ne_nil] at leads
      have front := inductionHypothesis (value / 10) (by omega) leads
      omega

namespace JsonWord

theorem digits?_toDigits (value : Nat) : digits? (Nat.toDigits 10 value) = some value := by
  have areDigits : (Nat.toDigits 10 value).all Char.isDigit = true :=
    List.all_eq_true.2 fun _ member => Nat.isDigit_of_mem_toDigits (by decide) (by decide) member
  rw [digits?, if_pos ⟨Nat.toDigits_ne_nil, areDigits⟩, Nat.ofDigitChars_ten_toDigits]

theorem natural?_toDigits (value : Nat) : natural? (Nat.toDigits 10 value) = some value := by
  rw [natural?, if_neg, digits?_toDigits]
  rintro ⟨leads, others⟩
  rw [toDigits_eq_zero leads] at others
  exact others rfl

/-- Digits alone are an integer. -/
theorem number?_toDigits (value : Nat) :
    number? (Nat.toDigits 10 value) = some (.int value)
      ∧ number? ('-' :: Nat.toDigits 10 value) = some (.int (-(value : Int))) := by
  have areDigits : ∀ char ∈ Nat.toDigits 10 value, char.isDigit = true := fun _ member =>
    Nat.isDigit_of_mem_toDigits (by decide) (by decide) member
  have whole : (Nat.toDigits 10 value).takeWhile Char.isDigit = Nat.toDigits 10 value :=
    List.takeWhile_eq_self_iff.2 areDigits
  have noSign : sign (Nat.toDigits 10 value) = (false, Nat.toDigits 10 value) := by
    unfold sign
    split
    · next rest isMinus =>
      have isDigit := areDigits '-' (isMinus ▸ List.mem_cons_self)
      exact absurd isDigit (by decide)
    · rfl
  constructor
  · simp only [number?, noSign, whole, natural?_toDigits, List.drop_length]
    rfl
  · simp only [number?, sign, whole, natural?_toDigits, List.drop_length]
    rfl

/-- A word with a digit is no name. -/
theorem value?_of_digit {word : Text} {digit : Char} (member : digit ∈ word)
    (isDigit : digit.isDigit = true) : value? word = number? word := by
  have noName : ∀ name : Text, name.all (fun char => !char.isDigit) = true → word ≠ name := by
    rintro name noDigits rfl
    have refused := List.all_eq_true.1 noDigits digit member
    rw [isDigit] at refused
    cases refused
  rw [value?, if_neg (noName _ (by decide)), if_neg (noName _ (by decide)),
    if_neg (noName _ (by decide))]

end JsonWord

theorem JsonWord.value?_ofInt (value : Int) :
    JsonWord.value? (Text.ofInt value) = some (.int value) := by
  have exists_digit : ∀ size, ∃ digit ∈ Nat.toDigits 10 size, digit.isDigit = true := fun size => by
    obtain ⟨digit, more, shape⟩ := List.exists_cons_of_ne_nil (@Nat.toDigits_ne_nil size 10)
    have member : digit ∈ Nat.toDigits 10 size := shape ▸ List.mem_cons_self
    exact ⟨digit, member, Nat.isDigit_of_mem_toDigits (by decide) (by decide) member⟩
  rcases Text.ofInt_cases value with ⟨size, rfl, digits⟩ | ⟨size, rfl, digits⟩
  · obtain ⟨digit, member, isDigit⟩ := exists_digit size
    rw [digits, value?_of_digit member isDigit]
    exact (number?_toDigits size).1
  · obtain ⟨digit, member, isDigit⟩ := exists_digit size
    rw [digits, value?_of_digit (List.mem_cons_of_mem _ member) isDigit]
    exact (number?_toDigits size).2

/-- An integer is written in the characters of words. -/
theorem isJsonWordChar_ofInt {value : Int} {char : Char} (member : char ∈ Text.ofInt value) :
    isJsonWordChar char = true := by
  rcases Text.isDigit_of_mem_ofInt member with isDigit | rfl
  · simp [isJsonWordChar, isAsciiAlphanumeric, Char.isAlphanum, isDigit]
  · rfl

/-! ## Reading tokens one after another -/

namespace JsonLexer

/-- A text is read as some tokens, whatever stands in front of it, and the last one ends with the
text. -/
def Closed (text : Text) (tokens : List JsonToken) : Prop :=
  ∀ before, Steps step ⟨before, .between⟩ text ⟨before ++ tokens, .between⟩

/-- A text is read as some tokens, whatever stands in front of it, the last of which may be a
word that the text does not end. -/
def Spells (text : Text) (tokens : List JsonToken) : Prop :=
  ∀ before, ∃ lexer, Steps step ⟨before, .between⟩ text lexer
    ∧ lexer.settle = some ⟨before ++ tokens, .between⟩

/-- A text begins with a character that ends every word. -/
def EndsWord (text : Text) : Prop :=
  ∃ char rest, text = char :: rest ∧ isJsonWordChar char = false

/-- A character that is in no word is read in the same way behind a word and behind its end. -/
theorem step_settle {lexer settled : JsonLexer} {char : Char}
    (ends : lexer.settle = some settled) (noWord : isJsonWordChar char = false) :
    lexer.step char = settled.step char := by
  rcases lexer with ⟨tokens, place⟩
  cases place with
  | between =>
    cases ends
    rfl
  | word chars =>
    obtain ⟨value, isValue, rfl⟩ := Option.map_eq_some_iff.1 ends
    simp only [step, put, noWord, Bool.false_eq_true, if_false, ends, Option.bind_some]
  | string units => cases ends
  | escape units => cases ends
  | code units count value => cases ends

theorem Closed.spells {text : Text} {tokens : List JsonToken} (closed : Closed text tokens) :
    Spells text tokens :=
  fun before => ⟨_, closed before, rfl⟩

section Appending

variable {text more : Text} {tokens others : List JsonToken}

theorem Closed.append (front : Closed text tokens) (back : Closed more others) :
    Closed (text ++ more) (tokens ++ others) := by
  intro before
  rw [← List.append_assoc]
  exact (front before).append (back _)

theorem Closed.append_spells (front : Closed text tokens) (back : Spells more others) :
    Spells (text ++ more) (tokens ++ others) := by
  intro before
  obtain ⟨lexer, steps, ends⟩ := back (before ++ tokens)
  rw [List.append_assoc] at ends
  exact ⟨lexer, (front before).append steps, ends⟩

/-- A word ends in front of a character that is in no word. -/
theorem Spells.append (front : Spells text tokens) (back : Closed more others)
    (endsWord : EndsWord more) : Closed (text ++ more) (tokens ++ others) := by
  intro before
  obtain ⟨lexer, steps, ends⟩ := front before
  obtain ⟨char, rest, rfl, noWord⟩ := endsWord
  rw [← List.append_assoc]
  exact steps.append (.of_step_eq (step_settle ends noWord) (back _))

end Appending

/-! ## Words, blanks and strings -/

theorem spells_word {word : Text} {value : Value} (someChars : word ≠ [])
    (wordChars : ∀ char ∈ word, isJsonWordChar char = true)
    (isValue : JsonWord.value? word = some value) : Spells word [.scalar value] := by
  intro before
  have goesOn : ∀ chars more : Text, (∀ char ∈ more, isJsonWordChar char = true) →
      Steps step ⟨before, .word chars⟩ more ⟨before, .word (chars ++ more)⟩ := by
    intro chars more areWordChars
    induction more generalizing chars with
    | nil =>
      rw [List.append_nil]
      exact .nil _ _
    | cons char rest inductionHypothesis =>
      have tail := inductionHypothesis (chars ++ [char])
        fun other member => areWordChars other (List.mem_cons_of_mem _ member)
      rw [List.append_assoc, List.singleton_append] at tail
      refine .cons ?_ tail
      rw [step]
      simp only [areWordChars char List.mem_cons_self, if_true]
  cases word with
  | nil => exact absurd rfl someChars
  | cons char rest =>
    refine ⟨⟨before, .word (char :: rest)⟩, .cons ?_ (goesOn [char] rest fun other member =>
      wordChars other (List.mem_cons_of_mem _ member)), ?_⟩
    · rw [step]
      simp only [wordChars char List.mem_cons_self, if_true]
    · simp only [settle, isValue, Option.map_some]
      rfl

theorem spells_int (value : Int) : Spells (Text.ofInt value) [.scalar (.int value)] := by
  refine spells_word ?_ (fun char => isJsonWordChar_ofInt) (JsonWord.value?_ofInt value)
  rcases Text.ofInt_cases value with ⟨size, _, digits⟩ | ⟨size, _, digits⟩
  · rw [digits]
    exact Nat.toDigits_ne_nil
  · rw [digits]
    exact List.cons_ne_nil _ _

theorem spells_null : Spells "null".toList [.scalar .null] :=
  spells_word (by decide) (List.all_eq_true.1 (by decide)) rfl

theorem isJsonWordChar_blank {char : Char} (blank : isJsonBlank char = true) :
    isJsonWordChar char = false := by
  simp only [isJsonBlank, Bool.or_eq_true, beq_iff_eq] at blank
  rcases blank with ((rfl | rfl) | rfl) | rfl <;> decide

theorem closed_blanks {blanks : Text} (areBlank : ∀ char ∈ blanks, isJsonBlank char = true) :
    Closed blanks [] := by
  intro before
  rw [List.append_nil]
  induction blanks with
  | nil => exact .nil _ _
  | cons char rest inductionHypothesis =>
    have blank := areBlank char List.mem_cons_self
    refine .cons ?_ (inductionHypothesis fun other member =>
      areBlank other (List.mem_cons_of_mem _ member))
    simp only [step, isJsonWordChar_blank blank, Bool.false_eq_true, if_false, outside, blank,
      if_true]

end JsonLexer

/-- No character is a surrogate, so each is a code unit of its own. -/
theorem JsonString.text?_map_toNat (text : Text) :
    JsonString.text? (text.map Char.toNat) = some text := by
  have unit : ∀ char : Char, charOfCode? 0 char.toNat = some char := fun char =>
    charOfCode?_eq_some_iff.2 ⟨rfl, Nat.zero_le _⟩
  have noSurrogate : ∀ char : Char, ¬ (0xD800 ≤ char.toNat ∧ char.toNat < 0xDC00) := by
    intro char surrogate
    have valid : char.toNat < 0xD800 ∨ 0xDFFF < char.toNat ∧ char.toNat < 0x110000 := char.valid
    omega
  induction text with
  | nil => rfl
  | cons char rest inductionHypothesis =>
    cases rest with
    | nil => simp only [List.map_cons, List.map_nil, text?, unit, Option.map_some]
    | cons next others =>
      rw [List.map_cons] at inductionHypothesis
      have single : ¬ (0xD800 ≤ char.toNat ∧ char.toNat < 0xDC00 ∧ 0xDC00 ≤ next.toNat
          ∧ next.toNat < 0xE000) := fun pair => noSurrogate char ⟨pair.1, pair.2.1⟩
      rw [List.map_cons, List.map_cons, text?, if_neg single, unit, inductionHypothesis]
      rfl

namespace JsonLexer

variable {before : List JsonToken} {units : List Nat}

/-- The digits of a control character are read as its code. -/
theorem steps_code {code : Nat} (small : code < 0x20) :
    Steps step ⟨before, .code units 0 0⟩ (hexDigits 4 code)
      ⟨before, .string (units ++ [code])⟩ := by
  have shown : ∀ code < 0x20, hexDigits 4 code
      = ['0', '0', Nat.digitChar (code / 16), Nat.digitChar (code % 16)] := by decide
  have read : ∀ digit < 16, hexDigit? (Nat.digitChar digit) = some digit := by decide
  have value : (code / 16) * 16 + code % 16 = code := by omega
  rw [shown code small]
  refine .cons rfl (.cons rfl (.cons (?_ : _ = some ⟨before, .code units 3 (code / 16)⟩)
    (.single ?_)))
  · simp [step, read (code / 16) (by omega)]
  · simp [step, read (code % 16) (by omega), value]

/-- A character of a string is read as itself, however it is written. -/
theorem steps_escaped {char : Char} {written : Text} (escaped : EscapedAs char written) :
    Steps step ⟨before, .string units⟩ written ⟨before, .string (units ++ [char.toNat])⟩ := by
  cases escaped with
  | plain noQuote noBackslash noControl =>
    refine .single ?_
    simp only [step, inside, noQuote, noBackslash, Nat.not_lt.2 noControl, if_false]
  | short hasEscape =>
    simp only [shortEscapes, List.mem_cons, Prod.mk.injEq, List.not_mem_nil, or_false] at hasEscape
    rcases hasEscape with ⟨rfl, rfl⟩ | ⟨rfl, rfl⟩ | ⟨rfl, rfl⟩ | ⟨rfl, rfl⟩ | ⟨rfl, rfl⟩
      | ⟨rfl, rfl⟩ | ⟨rfl, rfl⟩ <;>
    exact .cons rfl (.single rfl)
  | code control => exact .cons rfl (.cons rfl (steps_code control))

/-- The characters of a string are read one after another. -/
theorem steps_parts {text : Text} {parts : List Text}
    (escaped : List.Forall₂ EscapedAs text parts) :
    Steps step ⟨before, .string units⟩ parts.flatten
      ⟨before, .string (units ++ text.map Char.toNat)⟩ := by
  induction escaped generalizing units with
  | nil =>
    rw [List.map_nil, List.append_nil]
    exact .nil _ _
  | @cons char part _ _ isEscaped _ inductionHypothesis =>
    have tail := @inductionHypothesis (units ++ [char.toNat])
    rw [List.append_assoc, List.singleton_append] at tail
    exact .append (steps_escaped isEscaped) tail

/-- A string is read as its text, however it is written. -/
theorem closed_string {text written : Text} (isString : WrittenString text written) :
    Closed written [.scalar (.string text)] := by
  obtain ⟨escaped⟩ := isString
  intro before
  have closes : step ⟨before, .string (text.map Char.toNat)⟩ '"'
      = some ⟨before ++ [.scalar (.string text)], .between⟩ := by
    simp only [step, inside, if_true, JsonString.text?_map_toNat, Option.map_some]
    rfl
  exact .append (.cons rfl (steps_parts escaped)) (.single closes)

end JsonLexer

/-! ## Values -/

namespace JsonValue

/-- Rows of tokens with a comma in front of each but the first one. -/
def separated : List (List JsonToken) → List JsonToken
  | [] => []
  | part :: rest => part ++ rest.flatMap (.comma :: ·)

theorem separated_single (part : List JsonToken) : separated [part] = part := List.append_nil part

theorem separated_cons_cons (first second : List JsonToken) (more : List (List JsonToken)) :
    separated (first :: second :: more) = first ++ .comma :: separated (second :: more) := rfl

mutual

/-- The tokens of a value. -/
def tokens : JsonValue → List JsonToken
  | null => [.scalar .null]
  | int value => [.scalar (.int value)]
  | string text => [.scalar (.string text)]
  | array items => .listStart :: (separated (itemTokens items) ++ [.listEnd])
  | object entries => .recordStart :: (separated (entryTokens entries) ++ [.recordEnd])

/-- The tokens of each of some values. -/
def itemTokens : List JsonValue → List (List JsonToken)
  | [] => []
  | item :: rest => tokens item :: itemTokens rest

/-- The tokens of each of some entries. -/
def entryTokens : List (Text × JsonValue) → List (List JsonToken)
  | [] => []
  | (key, value) :: rest => (.scalar (.string key) :: .colon :: tokens value) :: entryTokens rest

end

end JsonValue

namespace JsonLexer

/-- A mark is read as its token, and blanks behind it as nothing. -/
theorem closed_mark {mark : Char} {token : JsonToken} {blanks : Text}
    (closed : Closed [mark] [token]) (areBlank : ∀ char ∈ blanks, isJsonBlank char = true) :
    Closed (mark :: blanks) [token] :=
  closed.append (closed_blanks areBlank)

theorem closed_comma : Closed [','] [.comma] := fun _ => .single rfl

theorem closed_colon : Closed [':'] [.colon] := fun _ => .single rfl

/-- Two marks that enclose the parts of a value. -/
structure Brackets (opening closing : Char) (start stop : JsonToken) : Prop where
  opens : Closed [opening] [start]
  closes : Closed [closing] [stop]
  endsWord : isJsonWordChar closing = false

theorem listBrackets : Brackets '[' ']' .listStart .listEnd :=
  ⟨fun _ => .single rfl, fun _ => .single rfl, rfl⟩

theorem recordBrackets : Brackets '\x7b' '\x7d' .recordStart .recordEnd :=
  ⟨fun _ => .single rfl, fun _ => .single rfl, rfl⟩

section Parts

variable {parts : List Text} {tokens : List (List JsonToken)} {blanks : Text}
  (areBlank : ∀ char ∈ blanks, isJsonBlank char = true) (each : List.Forall₂ Spells parts tokens)
  (someParts : parts ≠ [])
include areBlank each someParts

/-- Parts with commas and blanks in between are read one after another. -/
theorem closed_join {behind : Text} {others : List JsonToken} (closed : Closed behind others)
    (endsWord : EndsWord behind) :
    Closed (Text.join (',' :: blanks) parts ++ behind) (JsonValue.separated tokens ++ others) := by
  induction each with
  | nil => exact absurd rfl someParts
  | cons first more inductionHypothesis =>
    cases more with
    | nil =>
      rw [JsonValue.separated_single]
      exact first.append closed endsWord
    | cons next later =>
      have tail := inductionHypothesis (List.cons_ne_nil _ _)
      rw [Text.join_cons_cons, List.append_assoc, List.append_assoc,
        JsonValue.separated_cons_cons, List.append_assoc]
      exact first.append ((closed_mark closed_comma areBlank).append tail) ⟨',', _, rfl, rfl⟩

/-- Parts between brackets are read as the brackets and what is between them. -/
theorem Brackets.closed_enclosed {opening closing : Char} {start stop : JsonToken}
    (brackets : Brackets opening closing start stop) {front back : Text}
    (frontBlank : ∀ char ∈ front, isJsonBlank char = true)
    (backBlank : ∀ char ∈ back, isJsonBlank char = true) :
    Closed (opening :: front ++ Text.join (',' :: blanks) parts ++ (back ++ [closing]))
      (start :: (JsonValue.separated tokens ++ [stop])) := by
  have endsWord : EndsWord (back ++ [closing]) := by
    cases back with
    | nil => exact ⟨closing, [], rfl, brackets.endsWord⟩
    | cons char rest =>
      exact ⟨char, _, rfl, isJsonWordChar_blank (backBlank char List.mem_cons_self)⟩
  have closes := (closed_blanks backBlank).append brackets.closes
  rw [List.append_assoc]
  exact (closed_mark brackets.opens frontBlank).append
    (closed_join areBlank each someParts closes endsWord)

end Parts

end JsonLexer

namespace JsonValue

open JsonLexer

section Spelling

variable {gap : Text → Prop} (areBlank : ∀ text, gap text → ∀ char ∈ text, isJsonBlank char = true)
include areBlank

/-- Parts between brackets are read as the brackets and what is between them. -/
theorem spells_enclosed {opening closing : Char} {start stop : JsonToken}
    (brackets : Brackets opening closing start stop) {parts : List Text} {written : Text}
    {tokens : List (List JsonToken)} (enclosed : Enclosed gap opening closing parts written)
    (each : List.Forall₂ Spells parts tokens) :
    Spells written (start :: (separated tokens ++ [stop])) := by
  cases enclosed with
  | empty =>
    cases each
    exact (brackets.opens.append brackets.closes).spells
  | some someParts isFront isBetween isBack =>
    exact (brackets.closed_enclosed (areBlank _ isBetween) each someParts (areBlank _ isFront)
      (areBlank _ isBack)).spells

mutual

/-- A value is read as its tokens, however it is written. -/
theorem Written.spells : {value : JsonValue} → {written : Text} → Written gap value written →
    Spells written value.tokens
  | _, _, .null => spells_null
  | _, _, .int value => spells_int value
  | _, _, .string isString => (closed_string isString).spells
  | _, _, .array each enclosed => spells_enclosed areBlank listBrackets enclosed each.spells
  | _, _, .object each enclosed => spells_enclosed areBlank recordBrackets enclosed each.spells

theorem WrittenItems.spells : {items : List JsonValue} → {parts : List Text} →
    WrittenItems gap items parts → List.Forall₂ Spells parts (itemTokens items)
  | _, _, .nil => .nil
  | _, _, .cons first others => .cons first.spells others.spells

theorem WrittenEntries.spells : {entries : List (Text × JsonValue)} → {parts : List Text} →
    WrittenEntries gap entries parts → List.Forall₂ Spells parts (entryTokens entries)
  | _, _, .nil => .nil
  | _, _, .cons isKey isBetween isValue others =>
    have name := (closed_string isKey).append (closed_mark closed_colon (areBlank _ isBetween))
    .cons (name.append_spells isValue.spells) others.spells

end

end Spelling

/-! ### On one line -/

/-- A string is written without line feeds. -/
theorem noBreak_string {text written : Text} (isString : WrittenString text written) :
    '\n' ∉ written := by
  have codes : ∀ code < 0x20, '\n' ∉ '\\' :: 'u' :: hexDigits 4 code := by decide
  have marks : ∀ escape ∈ shortEscapes, '\n' ∉ ['\\', escape.2] := by decide
  have chars {char : Char} {part : Text} (escaped : EscapedAs char part) : '\n' ∉ part := by
    cases escaped with
    | plain _ _ noControl =>
      intro member
      rw [← List.mem_singleton.1 member] at noControl
      exact absurd noControl (by decide)
    | short hasEscape => exact marks _ hasEscape
    | code control => exact codes _ control
  obtain @⟨parts, escaped⟩ := isString
  have inside : '\n' ∉ parts.flatten := by
    induction escaped with
    | nil => exact List.not_mem_nil
    | cons isEscaped _ inductionHypothesis =>
      rw [List.flatten_cons, List.mem_append, not_or]
      exact ⟨chars isEscaped, inductionHypothesis⟩
  simp [inside]

theorem noBreak_enclosed {opening closing : Char} {parts : List Text} {written : Text}
    (opens : opening ≠ '\n') (closes : closing ≠ '\n')
    (enclosed : Enclosed JsonLayout.oneLine.IsGap opening closing parts written)
    (noBreak : ∀ part ∈ parts, '\n' ∉ part) : '\n' ∉ written := by
  intro member
  cases enclosed with
  | empty => simp [opens.symm, closes.symm] at member
  | some _ isFront isBetween isBack =>
    subst isFront isBetween isBack
    simp only [List.mem_append, List.mem_singleton, opens.symm, closes.symm, false_or, or_false,
      List.not_mem_nil] at member
    rcases Text.mem_join member with inComma | ⟨part, isPart, inPart⟩
    · exact absurd inComma (by decide)
    · exact noBreak part isPart inPart

mutual

/-- A value on one line has no line feed in it. -/
theorem Written.noBreak : {value : JsonValue} → {written : Text} →
    Written JsonLayout.oneLine.IsGap value written → '\n' ∉ written
  | _, _, .null => by decide
  | _, _, .int _ => fun member => absurd (isJsonWordChar_ofInt member) (by decide)
  | _, _, .string isString => noBreak_string isString
  | _, _, .array each enclosed => noBreak_enclosed (by decide) (by decide) enclosed each.noBreak
  | _, _, .object each enclosed => noBreak_enclosed (by decide) (by decide) enclosed each.noBreak

theorem WrittenItems.noBreak : {items : List JsonValue} → {parts : List Text} →
    WrittenItems JsonLayout.oneLine.IsGap items parts → ∀ part ∈ parts, '\n' ∉ part
  | _, _, .nil => by simp
  | _, _, .cons first others => List.forall_mem_cons.2 ⟨first.noBreak, others.noBreak⟩

theorem WrittenEntries.noBreak : {entries : List (Text × JsonValue)} → {parts : List Text} →
    WrittenEntries JsonLayout.oneLine.IsGap entries parts → ∀ part ∈ parts, '\n' ∉ part
  | _, _, .nil => by simp
  | _, _, .cons isKey isBetween isValue others => by
    refine List.forall_mem_cons.2 ⟨?_, others.noBreak⟩
    subst isBetween
    have inName := noBreak_string isKey
    have inValue := isValue.noBreak
    simp [inName, inValue]

end

/-! ### In front of a line feed -/

/-- The tokens of a text that spells them in front of a line feed. -/
theorem jsonTokens_line {text : Text} {tokens : List JsonToken} (spells : Spells text tokens) :
    jsonTokens (text ++ ['\n']) = some tokens := by
  have lineFeed : Closed ['\n'] [] := closed_blanks (by simp [isJsonBlank])
  have line : Steps step {} (text ++ ['\n']) ⟨tokens ++ [], .between⟩ :=
    spells.append lineFeed ⟨'\n', [], rfl, rfl⟩ []
  rw [List.append_nil] at line
  rw [jsonTokens, line]
  rfl

end JsonValue

end JapaneseSpacing
