import JapaneseSpacing.Text.Utf8

/-!
# Decoding and encoding

Decoding reads back what encoding writes and accepts nothing else: `decodeUtf8_eq_some_iff`.
So bytes without a text are bytes that no text is written as.
-/

namespace JapaneseSpacing

/-! ## Bytes and code points -/

theorem eq_toUInt8 {byte : UInt8} {code : Nat} (same : byte.toNat = code) : code.toUInt8 = byte := by
  rw [← same]
  exact UInt8.ofNat_toNat

theorem toNat_toUInt8 {code : Nat} (small : code < 0x100) : code.toUInt8.toNat = code := by
  rw [Nat.toUInt8, UInt8.toNat_ofNat']
  omega

theorem toNat_lt_codes (char : Char) : char.toNat < 0x110000 := by
  rcases char.valid with low | high
  · exact Nat.lt_trans low (by decide)
  · exact high.2

theorem continuation?_eq_some_iff {byte : UInt8} {payload : Nat} :
    continuation? byte = some payload ↔ byte.toNat = 0x80 + payload ∧ payload < 0x40 := by
  rw [continuation?]
  split
  · rw [Option.some.injEq]
    omega
  · simp only [reduceCtorEq, false_iff]
    omega

theorem charOfCode?_eq_some_iff {char : Char} {least code : Nat} :
    charOfCode? least code = some char ↔ char.toNat = code ∧ least ≤ code := by
  rw [charOfCode?]
  constructor
  · intro found
    split at found
    · next valid =>
      rw [← Option.some.inj found, Char.ofNat, dif_pos valid.2]
      exact ⟨rfl, valid.1⟩
    · cases found
  · rintro ⟨rfl, enough⟩
    rw [if_pos ⟨enough, char.valid⟩, Char.ofNat_toNat]

/-- A step that succeeds hands on its value. Rewriting with this keeps the value as it is, where
unfolding the step would compute with it. -/
theorem bind_of_eq_some {α β : Type} {step : Option α} {value : α} {next : α → Option β}
    (found : step = some value) : (step >>= next) = next value := by
  rw [found]
  rfl

/-! ## One character

The bytes of a character are told by its code point; each form is written and read. -/

section Character

variable {char : Char} {first second third fourth : UInt8} {rest : List UInt8}

section One

variable (small : char.toNat < 0x80) (lead : first.toNat = char.toNat)
include small lead

theorem encodeCharUtf8_one : encodeCharUtf8 char = [first] := by
  simp only [encodeCharUtf8, if_pos small, eq_toUInt8 lead]

theorem decodeUtf8_one : decodeUtf8 (first :: rest) = (decodeUtf8 rest).map (char :: ·) := by
  have isOne : first.toNat < 0x80 := by omega
  rw [decodeUtf8.eq_def]
  simp only [if_pos isOne]
  rw [lead, Char.ofNat_toNat]
  cases decodeUtf8 rest <;> rfl

end One

section Two

variable (least : 0x80 ≤ char.toNat) (most : char.toNat < 0x800)
  (lead : first.toNat = 0xC0 + char.toNat / 0x40)
  (last : second.toNat = 0x80 + char.toNat % 0x40)
include least most lead last

theorem encodeCharUtf8_two : encodeCharUtf8 char = [first, second] := by
  simp only [encodeCharUtf8, if_neg (Nat.not_lt.2 least), if_pos most, eq_toUInt8 lead,
    eq_toUInt8 last]

theorem decodeUtf8_two :
    decodeUtf8 (first :: second :: rest) = (decodeUtf8 rest).map (char :: ·) := by
  have notOne : ¬ first.toNat < 0x80 := by omega
  have isTwo : 0xC0 ≤ first.toNat ∧ first.toNat < 0xE0 := by omega
  have isLast : continuation? second = some (char.toNat % 0x40) :=
    continuation?_eq_some_iff.2 ⟨last, by omega⟩
  have isChar : charOfCode? 0x80 ((first.toNat - 0xC0) * 0x40 + char.toNat % 0x40) = some char :=
    charOfCode?_eq_some_iff.2 ⟨by omega, by omega⟩
  rw [decodeUtf8.eq_def]
  simp only [if_neg notOne, if_pos isTwo]
  rw [bind_of_eq_some isLast, bind_of_eq_some isChar]
  cases decodeUtf8 rest <;> rfl

end Two

section Three

variable (least : 0x800 ≤ char.toNat) (most : char.toNat < 0x10000)
  (lead : first.toNat = 0xE0 + char.toNat / 0x1000)
  (middle : second.toNat = 0x80 + char.toNat / 0x40 % 0x40)
  (last : third.toNat = 0x80 + char.toNat % 0x40)
include least most lead middle last

theorem encodeCharUtf8_three : encodeCharUtf8 char = [first, second, third] := by
  have notOne : ¬ char.toNat < 0x80 := by omega
  simp only [encodeCharUtf8, if_neg notOne, if_neg (Nat.not_lt.2 least), if_pos most,
    eq_toUInt8 lead, eq_toUInt8 middle, eq_toUInt8 last]

theorem decodeUtf8_three :
    decodeUtf8 (first :: second :: third :: rest) = (decodeUtf8 rest).map (char :: ·) := by
  have notOne : ¬ first.toNat < 0x80 := by omega
  have notTwo : ¬ (0xC0 ≤ first.toNat ∧ first.toNat < 0xE0) := by omega
  have isThree : 0xE0 ≤ first.toNat ∧ first.toNat < 0xF0 := by omega
  have isMiddle : continuation? second = some (char.toNat / 0x40 % 0x40) :=
    continuation?_eq_some_iff.2 ⟨middle, by omega⟩
  have isLast : continuation? third = some (char.toNat % 0x40) :=
    continuation?_eq_some_iff.2 ⟨last, by omega⟩
  have isChar : charOfCode? 0x800 ((first.toNat - 0xE0) * 0x1000 + char.toNat / 0x40 % 0x40 * 0x40
      + char.toNat % 0x40) = some char :=
    charOfCode?_eq_some_iff.2 ⟨by omega, by omega⟩
  rw [decodeUtf8.eq_def]
  simp only [if_neg notOne, if_neg notTwo, if_pos isThree]
  rw [bind_of_eq_some isMiddle, bind_of_eq_some isLast, bind_of_eq_some isChar]
  cases decodeUtf8 rest <;> rfl

end Three

section Four

variable (least : 0x10000 ≤ char.toNat)
  (lead : first.toNat = 0xF0 + char.toNat / 0x40000)
  (middle : second.toNat = 0x80 + char.toNat / 0x1000 % 0x40)
  (inner : third.toNat = 0x80 + char.toNat / 0x40 % 0x40)
  (last : fourth.toNat = 0x80 + char.toNat % 0x40)
include least lead middle inner last

theorem encodeCharUtf8_four : encodeCharUtf8 char = [first, second, third, fourth] := by
  have notOne : ¬ char.toNat < 0x80 := by omega
  have notTwo : ¬ char.toNat < 0x800 := by omega
  simp only [encodeCharUtf8, if_neg notOne, if_neg notTwo, if_neg (Nat.not_lt.2 least),
    eq_toUInt8 lead, eq_toUInt8 middle, eq_toUInt8 inner, eq_toUInt8 last]

theorem decodeUtf8_four : decodeUtf8 (first :: second :: third :: fourth :: rest)
    = (decodeUtf8 rest).map (char :: ·) := by
  have most := toNat_lt_codes char
  have notOne : ¬ first.toNat < 0x80 := by omega
  have notTwo : ¬ (0xC0 ≤ first.toNat ∧ first.toNat < 0xE0) := by omega
  have notThree : ¬ (0xE0 ≤ first.toNat ∧ first.toNat < 0xF0) := by omega
  have isFour : 0xF0 ≤ first.toNat ∧ first.toNat < 0xF8 := by omega
  have isMiddle : continuation? second = some (char.toNat / 0x1000 % 0x40) :=
    continuation?_eq_some_iff.2 ⟨middle, by omega⟩
  have isInner : continuation? third = some (char.toNat / 0x40 % 0x40) :=
    continuation?_eq_some_iff.2 ⟨inner, by omega⟩
  have isLast : continuation? fourth = some (char.toNat % 0x40) :=
    continuation?_eq_some_iff.2 ⟨last, by omega⟩
  have isChar : charOfCode? 0x10000 ((first.toNat - 0xF0) * 0x40000
      + char.toNat / 0x1000 % 0x40 * 0x1000 + char.toNat / 0x40 % 0x40 * 0x40
      + char.toNat % 0x40) = some char :=
    charOfCode?_eq_some_iff.2 ⟨by omega, by omega⟩
  rw [decodeUtf8.eq_def]
  simp only [if_neg notOne, if_neg notTwo, if_neg notThree, if_pos isFour]
  rw [bind_of_eq_some isMiddle, bind_of_eq_some isInner, bind_of_eq_some isLast,
    bind_of_eq_some isChar]
  cases decodeUtf8 rest <;> rfl

end Four

end Character

/-! ## Whole texts -/

theorem encodeUtf8_cons (char : Char) (text : Text) :
    encodeUtf8 (char :: text) = encodeCharUtf8 char ++ encodeUtf8 text := rfl

/-- What is read is written as the bytes that it was read from. -/
theorem encodeUtf8_of_decodeUtf8 {bytes : List UInt8} {text : Text}
    (read : decodeUtf8 bytes = some text) : encodeUtf8 text = bytes := by
  fun_induction decodeUtf8 bytes generalizing text
  case case1 =>
    cases read
    rfl
  case case2 first rest lead small inductionHypothesis =>
    obtain ⟨more, isMore, same⟩ := Option.bind_eq_some_iff.1 read
    cases same
    have small : first.toNat < 0x80 := small
    have code : (Char.ofNat first.toNat).toNat = first.toNat := by
      have valid : first.toNat.isValidChar := .inl (by omega)
      rw [Char.ofNat, dif_pos valid]
      rfl
    rw [encodeUtf8_cons, inductionHypothesis isMore, encodeCharUtf8_one (by omega) code.symm]
    rfl
  case case3 first lead notSmall isLead second rest inductionHypothesis =>
    obtain ⟨payload, isSecond, read⟩ := Option.bind_eq_some_iff.1 read
    obtain ⟨char, isChar, read⟩ := Option.bind_eq_some_iff.1 read
    obtain ⟨more, isMore, same⟩ := Option.bind_eq_some_iff.1 read
    cases same
    have isLead : 0xC0 ≤ first.toNat ∧ first.toNat < 0xE0 := isLead
    obtain ⟨secondIs, secondSmall⟩ := continuation?_eq_some_iff.1 isSecond
    obtain ⟨code, least⟩ := charOfCode?_eq_some_iff.1 isChar
    have written : encodeCharUtf8 char = [first, second] :=
      encodeCharUtf8_two (by omega) (by omega) (by omega) (by omega)
    rw [encodeUtf8_cons, inductionHypothesis isMore, written]
    rfl
  case case5 first lead notSmall notTwo isLead second third rest inductionHypothesis =>
    obtain ⟨middle, isSecond, read⟩ := Option.bind_eq_some_iff.1 read
    obtain ⟨payload, isThird, read⟩ := Option.bind_eq_some_iff.1 read
    obtain ⟨char, isChar, read⟩ := Option.bind_eq_some_iff.1 read
    obtain ⟨more, isMore, same⟩ := Option.bind_eq_some_iff.1 read
    cases same
    have isLead : 0xE0 ≤ first.toNat ∧ first.toNat < 0xF0 := isLead
    obtain ⟨secondIs, secondSmall⟩ := continuation?_eq_some_iff.1 isSecond
    obtain ⟨thirdIs, thirdSmall⟩ := continuation?_eq_some_iff.1 isThird
    obtain ⟨code, least⟩ := charOfCode?_eq_some_iff.1 isChar
    have written : encodeCharUtf8 char = [first, second, third] :=
      encodeCharUtf8_three (by omega) (by omega) (by omega) (by omega) (by omega)
    rw [encodeUtf8_cons, inductionHypothesis isMore, written]
    rfl
  case case7 first lead notSmall notTwo notThree isLead second third fourth rest inductionHypothesis =>
    obtain ⟨middle, isSecond, read⟩ := Option.bind_eq_some_iff.1 read
    obtain ⟨inner, isThird, read⟩ := Option.bind_eq_some_iff.1 read
    obtain ⟨payload, isFourth, read⟩ := Option.bind_eq_some_iff.1 read
    obtain ⟨char, isChar, read⟩ := Option.bind_eq_some_iff.1 read
    obtain ⟨more, isMore, same⟩ := Option.bind_eq_some_iff.1 read
    cases same
    have isLead : 0xF0 ≤ first.toNat ∧ first.toNat < 0xF8 := isLead
    obtain ⟨secondIs, secondSmall⟩ := continuation?_eq_some_iff.1 isSecond
    obtain ⟨thirdIs, thirdSmall⟩ := continuation?_eq_some_iff.1 isThird
    obtain ⟨fourthIs, fourthSmall⟩ := continuation?_eq_some_iff.1 isFourth
    obtain ⟨code, least⟩ := charOfCode?_eq_some_iff.1 isChar
    have written : encodeCharUtf8 char = [first, second, third, fourth] :=
      encodeCharUtf8_four (by omega) (by omega) (by omega) (by omega) (by omega)
    rw [encodeUtf8_cons, inductionHypothesis isMore, written]
    rfl
  case case4 => cases read
  case case6 => cases read
  case case8 => cases read
  case case9 => cases read

/-- The bytes of a character are read as that character. -/
theorem decodeUtf8_encodeCharUtf8 (char : Char) (rest : List UInt8) :
    decodeUtf8 (encodeCharUtf8 char ++ rest) = (decodeUtf8 rest).map (char :: ·) := by
  have most := toNat_lt_codes char
  rw [encodeCharUtf8]
  split
  · next one => exact decodeUtf8_one one (toNat_toUInt8 (by omega))
  · next least =>
    split
    · next two =>
      exact decodeUtf8_two (Nat.not_lt.1 least) two (toNat_toUInt8 (by omega))
        (toNat_toUInt8 (by omega))
    · next least =>
      split
      · next three =>
        exact decodeUtf8_three (Nat.not_lt.1 least) three (toNat_toUInt8 (by omega))
          (toNat_toUInt8 (by omega)) (toNat_toUInt8 (by omega))
      · next least =>
        exact decodeUtf8_four (Nat.not_lt.1 least) (toNat_toUInt8 (by omega))
          (toNat_toUInt8 (by omega)) (toNat_toUInt8 (by omega)) (toNat_toUInt8 (by omega))

theorem decodeUtf8_encodeUtf8 (text : Text) : decodeUtf8 (encodeUtf8 text) = some text := by
  induction text with
  | nil => rfl
  | cons char rest inductionHypothesis =>
    rw [encodeUtf8_cons, decodeUtf8_encodeCharUtf8, inductionHypothesis]
    rfl

/-- Bytes are read as a text exactly if the text is written as these bytes. -/
theorem decodeUtf8_eq_some_iff {bytes : List UInt8} {text : Text} :
    decodeUtf8 bytes = some text ↔ encodeUtf8 text = bytes := by
  constructor
  · exact encodeUtf8_of_decodeUtf8
  · rintro rfl
    exact decodeUtf8_encodeUtf8 text

theorem encodeUtf8_injective {first second : Text} (same : encodeUtf8 first = encodeUtf8 second) :
    first = second := by
  have isSecond := decodeUtf8_eq_some_iff.2 same
  rw [decodeUtf8_encodeUtf8] at isSecond
  exact (Option.some.inj isSecond).symm

end JapaneseSpacing
