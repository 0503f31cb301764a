import JapaneseSpacing.HalfWidth.Address
import JapaneseSpacing.Proofs.Text.Stretch

/-!
# Addresses in front of other text

The address at the start of a text consists of ASCII characters. So text that goes on
beyond ASCII behind an address changes neither where the address ends nor its kind.
-/

namespace JapaneseSpacing

/-- A text that is empty or begins with a character beyond ASCII. -/
def BeginsBeyondAscii (text : Text) : Prop :=
  ∀ char ∈ text.head?, 128 ≤ char.toNat

/-- A character of a scheme. -/
def isSchemeChar (char : Char) : Bool :=
  isAsciiLetter char || char == '+'

section Classes

variable {char : Char} (beyond : 128 ≤ char.toNat)
include beyond

theorem contains_eq_false_of_beyond {letters : Text}
    (ascii : letters.all (·.toNat < 128) = true) : letters.contains char = false := by
  rw [← Bool.not_eq_true, List.contains_iff_mem]
  intro member
  have within := of_decide_eq_true (List.all_eq_true.1 ascii char member)
  omega

theorem isAsciiAlphanumeric_eq_false_of_beyond : isAsciiAlphanumeric char = false := by
  rw [← Bool.not_eq_true, isAsciiAlphanumeric_iff]
  omega

theorem isAsciiLetter_eq_false_of_beyond : isAsciiLetter char = false := by
  have neither := isAsciiAlphanumeric_eq_false_of_beyond beyond
  rw [isAsciiAlphanumeric, Char.isAlphanum, Bool.or_eq_false_iff] at neither
  exact neither.1

theorem beq_eq_false_of_beyond {letter : Char} (ascii : letter.toNat < 128) :
    (char == letter) = false := by
  rw [beq_eq_false_iff_ne]
  rintro rfl
  omega

theorem isSchemeChar_eq_false_of_beyond : isSchemeChar char = false := by
  rw [isSchemeChar, isAsciiLetter_eq_false_of_beyond beyond,
    beq_eq_false_of_beyond beyond (by decide), Bool.or_self]

theorem isLocalChar_eq_false_of_beyond : isLocalChar char = false := by
  rw [isLocalChar, isAsciiAlphanumeric_eq_false_of_beyond beyond,
    contains_eq_false_of_beyond beyond (by decide), Bool.or_self]

theorem isDomainChar_eq_false_of_beyond : isDomainChar char = false := by
  rw [isDomainChar, isAsciiAlphanumeric_eq_false_of_beyond beyond,
    beq_eq_false_of_beyond beyond (by decide), beq_eq_false_of_beyond beyond (by decide),
    Bool.or_self, Bool.or_self]

theorem isUrlChar_eq_false_of_beyond : isUrlChar char = false := by
  rw [isUrlChar, isAsciiAlphanumeric_eq_false_of_beyond beyond,
    contains_eq_false_of_beyond beyond (by decide), Bool.or_self]

end Classes

section Labels

variable {char : Char}

theorem isDomainChar_of_isLabelChar (inLabel : isLabelChar char = true) :
    isDomainChar char = true := by
  rw [isLabelChar, Bool.or_eq_true] at inLabel
  rw [isDomainChar, Bool.or_eq_true, Bool.or_eq_true]
  rcases inLabel with alphanumeric | hyphen
  · exact .inl (.inl alphanumeric)
  · exact .inr hyphen

theorem ne_dot_of_isLabelChar (inLabel : isLabelChar char = true) :
    (char == '.') = false := by
  rw [beq_eq_false_iff_ne]
  rintro rfl
  exact absurd inLabel (by decide)

theorem isLabelChar_of_isAsciiLetter (letter : isAsciiLetter char = true) :
    isLabelChar char = true := by
  have alphanumeric : isAsciiAlphanumeric char = true := by
    rw [isAsciiAlphanumeric, Char.isAlphanum, Bool.or_eq_true]
    exact .inl letter
  rw [isLabelChar, alphanumeric, Bool.true_or]

theorem isDomainChar_of_isAsciiLetter (letter : isAsciiLetter char = true) :
    isDomainChar char = true :=
  isDomainChar_of_isLabelChar (isLabelChar_of_isAsciiLetter letter)

end Labels

variable {text rest : Text}

/-- What stands behind the `://` that a text begins with. -/
def afterMarker? (text : Text) : Option Text :=
  if "://".toList.isPrefixOf text then some (text.drop 3) else none

theorem afterMarker?_eq_some_iff {after : Text} :
    afterMarker? text = some after ↔ text = "://".toList ++ after := by
  rw [afterMarker?]
  constructor
  · intro found
    split at found
    · next marked =>
      obtain ⟨behind, rfl⟩ := List.isPrefixOf_iff_prefix.1 marked
      rw [← Option.some.inj found]
      rfl
    · contradiction
  · rintro rfl
    rfl

theorem afterMarker?_append (beyond : BeginsBeyondAscii rest) :
    afterMarker? (text ++ rest) = (afterMarker? text).map (· ++ rest) := by
  cases rest with
  | nil => simp
  | cons next behind =>
    have nextBeyond := beyond next rfl
    have notColon := beq_eq_false_of_beyond nextBeyond (show ':'.toNat < 128 by decide)
    have notSlash := beq_eq_false_of_beyond nextBeyond (show '/'.toNat < 128 by decide)
    rw [beq_eq_false_iff_ne] at notColon notSlash
    rcases text with _ | ⟨first, _ | ⟨second, _ | ⟨third, more⟩⟩⟩
    · simp [afterMarker?, notColon.symm]
    · simp [afterMarker?, notSlash.symm]
    · simp [afterMarker?, notSlash.symm]
    · simp [afterMarker?]

theorem isLocalChar_of_isSchemeChar {char : Char}
    (inScheme : isSchemeChar char = true) : isLocalChar char = true := by
  rcases Bool.or_eq_true_iff.1 inScheme with letter | plus
  · have alphanumeric : isAsciiAlphanumeric char = true := by
      rw [isAsciiAlphanumeric, Char.isAlphanum, Bool.or_eq_true]
      exact Or.inl letter
    rw [isLocalChar, alphanumeric, Bool.true_or]
  · rw [beq_iff_eq.1 plus]
    decide

/-- The scheme characters behind the first letter of a text. -/
def schemeTail (text : Text) : Text :=
  text.takeWhile isSchemeChar

theorem splitScheme?_cons (first : Char) (behind : Text) :
    splitScheme? (first :: behind)
      = if isAsciiLetter first then
          (afterMarker? (behind.drop (schemeTail behind).length)).map
            (first :: schemeTail behind ++ "://".toList, ·)
        else none := by
  rw [splitScheme?]
  have read : behind.takeWhile (fun char => isAsciiLetter char || char == '+')
      = schemeTail behind := rfl
  simp only [read]
  split
  · generalize behind.drop _ = unread
    split
    · rfl
    · next unmarked =>
      cases marked : afterMarker? unread with
      | none => rfl
      | some after =>
        exact absurd (afterMarker?_eq_some_iff.1 marked) (unmarked after)
  · rfl

theorem splitScheme?_append (beyond : BeginsBeyondAscii rest) :
    splitScheme? (text ++ rest)
      = (splitScheme? text).map fun split => (split.1, split.2 ++ rest) := by
  cases text with
  | nil =>
    cases rest with
    | nil => rfl
    | cons next behind =>
      simp [splitScheme?, isAsciiLetter_eq_false_of_beyond (beyond next rfl)]
  | cons first behind =>
    have read : schemeTail (behind ++ rest) = schemeTail behind :=
      Text.takeWhile_append_stop fun char member =>
        isSchemeChar_eq_false_of_beyond (beyond char member)
    have within : (schemeTail behind).length ≤ behind.length :=
      (behind.takeWhile_prefix _).length_le
    rw [List.cons_append, splitScheme?_cons, splitScheme?_cons, read,
      List.drop_append_of_le_length within, afterMarker?_append beyond]
    split
    · rw [Option.map_map, Option.map_map]
      rfl
    · rfl

theorem splitScheme?_written {first : Char} {tail : Text} (letter : isAsciiLetter first = true)
    (inside : ∀ char ∈ tail, isSchemeChar char = true) (rest : Text) :
    splitScheme? (first :: tail ++ "://".toList ++ rest)
      = some (first :: tail ++ "://".toList, rest) := by
  have stops : ∀ char ∈ ("://".toList ++ rest).head?, isSchemeChar char = false := by
    rintro _ ⟨⟩
    decide
  have read : schemeTail (tail ++ ("://".toList ++ rest)) = tail :=
    Text.takeWhile_stretch inside stops
  rw [List.cons_append, List.cons_append, List.append_assoc, splitScheme?_cons, read,
    List.drop_left, if_pos letter, afterMarker?_eq_some_iff.2 rfl]
  rfl

/-- A scheme is a letter, then letters and plus signs, and its `://`. -/
theorem exists_scheme_of_splitScheme? {scheme after : Text}
    (found : splitScheme? text = some (scheme, after)) :
    ∃ first tail, isAsciiLetter first = true ∧ (∀ char ∈ tail, isSchemeChar char = true)
      ∧ scheme = first :: tail ++ "://".toList ∧ text = scheme ++ after := by
  cases text with
  | nil => simp [splitScheme?] at found
  | cons first behind =>
    rw [splitScheme?_cons] at found
    split at found
    · next letter =>
      obtain ⟨unread, marked, same⟩ := Option.map_eq_some_iff.1 found
      simp only [Prod.mk.injEq] at same
      obtain ⟨rfl, rfl⟩ := same
      have read : schemeTail behind ++ behind.drop (schemeTail behind).length = behind :=
        List.prefix_iff_eq_append.1 (behind.takeWhile_prefix _)
      rw [afterMarker?_eq_some_iff.1 marked] at read
      refine ⟨first, schemeTail behind, letter, fun char => List.mem_takeWhile_imp, rfl, ?_⟩
      rw [List.cons_append, List.cons_append, List.append_assoc, read]
    · contradiction

/-- A scheme consists of characters that a local part may have, and of its `://`. -/
theorem splitScheme?_eq_some {scheme after : Text}
    (found : splitScheme? text = some (scheme, after)) :
    ∃ letters, (∀ char ∈ letters, isLocalChar char = true) ∧ letters ≠ []
      ∧ scheme = letters ++ "://".toList ∧ text = scheme ++ after := by
  obtain ⟨first, tail, letter, inside, rfl, shape⟩ := exists_scheme_of_splitScheme? found
  refine ⟨first :: tail, ?_, List.cons_ne_nil _ _, rfl, shape⟩
  rintro char (_ | ⟨_, inTail⟩)
  · exact isLocalChar_of_isSchemeChar (by simp [isSchemeChar, letter])
  · exact isLocalChar_of_isSchemeChar (inside char inTail)

theorem splitLocalPart?_written {part : Text} (somePart : part ≠ [])
    (inside : ∀ char ∈ part, isLocalChar char = true) (rest : Text) :
    splitLocalPart? (part ++ '@' :: rest) = some (part ++ ['@'], rest) := by
  have stops : ∀ char ∈ ('@' :: rest).head?, isLocalChar char = false := by
    rintro _ ⟨⟩
    decide
  obtain ⟨first, more, rfl⟩ := List.exists_cons_of_ne_nil somePart
  rw [splitLocalPart?, Text.takeWhile_stretch inside stops, List.drop_left]
  rfl

theorem splitLocalPart?_append (beyond : BeginsBeyondAscii rest) :
    splitLocalPart? (text ++ rest)
      = (splitLocalPart? text).map fun split => (split.1, split.2 ++ rest) := by
  have read := @Text.takeWhile_append_stop isLocalChar rest text
    fun char member => isLocalChar_eq_false_of_beyond (beyond char member)
  have within := (text.takeWhile_prefix isLocalChar).length_le
  simp only [splitLocalPart?, read, List.drop_append_of_le_length within]
  cases text.takeWhile isLocalChar with
  | nil => rfl
  | cons first part =>
    cases text.drop (first :: part).length with
    | nil =>
      cases rest with
      | nil => rfl
      | cons next behind =>
        have noAt : next ≠ '@' := by
          rintro rfl
          exact absurd (beyond '@' rfl) (by decide)
        simp [noAt]
    | cons after more =>
      by_cases marker : after = '@'
      · subst marker
        rfl
      · simp [marker]

/-- A local part consists of characters that it may have, and of its `@`. -/
theorem splitLocalPart?_eq_some {part after : Text}
    (found : splitLocalPart? text = some (part, after)) :
    ∃ letters, (∀ char ∈ letters, isLocalChar char = true) ∧ letters ≠ []
      ∧ part = letters ++ ['@'] ∧ text = part ++ after := by
  have read : text.takeWhile isLocalChar ++ text.drop (text.takeWhile isLocalChar).length = text :=
    List.prefix_iff_eq_append.1 (text.takeWhile_prefix _)
  have inside : ∀ char ∈ text.takeWhile isLocalChar, isLocalChar char = true :=
    fun char => List.mem_takeWhile_imp
  rw [splitLocalPart?] at found
  split at found
  · contradiction
  · next marked someLetters =>
    rw [Option.some.injEq, Prod.mk.injEq] at found
    obtain ⟨rfl, rfl⟩ := found
    rw [marked] at read
    exact ⟨_, inside, someLetters, rfl, by simpa using read.symm⟩
  · contradiction

theorem domainLength?_le {length : Nat} (found : domainLength? text = some length) :
    length ≤ text.length := by
  obtain ⟨dot, member, ends⟩ := List.exists_of_findSome?_eq_some found
  have within := (text.takeWhile_prefix isDomainChar).length_le
  have letters := (List.takeWhile_prefix (l := (text.takeWhile isDomainChar).drop (dot + 1))
    isAsciiLetter).length_le
  rw [List.mem_reverse, List.mem_range] at member
  rw [List.length_drop] at letters
  dsimp only at ends
  split at ends
  · have same := Option.some.inj ends
    omega
  · contradiction

theorem domainLength?_append (beyond : BeginsBeyondAscii rest) :
    domainLength? (text ++ rest) = domainLength? text := by
  rw [domainLength?, Text.takeWhile_append_stop fun char member =>
    isDomainChar_eq_false_of_beyond (beyond char member)]
  rfl

theorem leadingUrlLength?_append (beyond : BeginsBeyondAscii rest) :
    leadingUrlLength? (text ++ rest) = leadingUrlLength? text := by
  rw [leadingUrlLength?, leadingUrlLength?, splitScheme?_append beyond]
  cases splitScheme? text with
  | none => rfl
  | some split =>
    simp only [Option.map_some]
    rw [Text.takeWhile_append_stop fun char member =>
      isUrlChar_eq_false_of_beyond (beyond char member)]

theorem leadingEmailLength?_append (beyond : BeginsBeyondAscii rest) :
    leadingEmailLength? (text ++ rest) = leadingEmailLength? text := by
  rw [leadingEmailLength?, leadingEmailLength?, splitLocalPart?_append beyond]
  cases splitLocalPart? text with
  | none => rfl
  | some split => simp only [Option.map_some, domainLength?_append beyond]

theorem leadingUrlLength?_le {length : Nat} (found : leadingUrlLength? text = some length) :
    length ≤ text.length := by
  rw [leadingUrlLength?] at found
  split at found
  · next scheme after split =>
    obtain ⟨_, _, _, _, whole⟩ := splitScheme?_eq_some split
    have within := (after.takeWhile_prefix isUrlChar).length_le
    dsimp only at found
    split at found
    · contradiction
    · rw [whole, List.length_append, ← Option.some.inj found]
      omega
  · contradiction

theorem leadingEmailLength?_le {length : Nat} (found : leadingEmailLength? text = some length) :
    length ≤ text.length := by
  rw [leadingEmailLength?] at found
  split at found
  · next part after split =>
    obtain ⟨_, _, _, _, whole⟩ := splitLocalPart?_eq_some split
    obtain ⟨domain, isDomain, rfl⟩ := Option.map_eq_some_iff.1 found
    have within := domainLength?_le isDomain
    rw [whole, List.length_append]
    omega
  · contradiction

/-- What starts like a URL does not start like an email address. -/
theorem splitLocalPart?_of_splitScheme? {scheme after : Text}
    (found : splitScheme? text = some (scheme, after)) : splitLocalPart? text = none := by
  obtain ⟨letters, lettersLocal, someLetters, rfl, rfl⟩ := splitScheme?_eq_some found
  have stops : ∀ char ∈ ("://".toList ++ after).head?, isLocalChar char = false := by
    intro char member
    rw [← Option.some.inj member]
    decide
  rw [splitLocalPart?, List.append_assoc, Text.takeWhile_stretch lettersLocal stops,
    List.drop_left]
  cases letters with
  | nil => exact absurd rfl someLetters
  | cons first more => rfl

/-- A URL ends where a character follows that it cannot go on with. -/
theorem leadingUrlLength?_of_split {scheme body more : Text}
    (split : splitScheme? text = some (scheme, body ++ more))
    (bodyUrl : ∀ char ∈ body, isUrlChar char = true)
    (stops : ∀ char ∈ more.head?, isUrlChar char = false) :
    leadingUrlLength? text = if body.isEmpty then none else some (scheme.length + body.length) := by
  rw [leadingUrlLength?, split]
  simp only [Text.takeWhile_stretch bodyUrl stops]

theorem leadingEmailLength?_of_isWholeEmail (email : isWholeEmail text = true) :
    leadingEmailLength? text = some text.length := by
  rw [isWholeEmail] at email
  split at email
  · next part domain split =>
    obtain ⟨_, _, _, _, whole⟩ := splitLocalPart?_eq_some split
    rw [leadingEmailLength?, split]
    simp only [beq_iff_eq.1 email, Option.map_some, whole, List.length_append]
  · contradiction

/-- Text that goes on beyond ASCII behind an address stays behind it. -/
theorem LeadingAddress.ofText_append (beyond : BeginsBeyondAscii rest)
    (known : (LeadingAddress.ofText text).kind ≠ .unknown) :
    LeadingAddress.ofText (text ++ rest)
      = { LeadingAddress.ofText text with
          trailing := (LeadingAddress.ofText text).trailing ++ rest } := by
  simp only [LeadingAddress.ofText, leadingUrlLength?_append beyond,
    leadingEmailLength?_append beyond] at known ⊢
  cases url : leadingUrlLength? text with
  | some length =>
    have within := leadingUrlLength?_le url
    simp only [List.take_append_of_le_length within, List.drop_append_of_le_length within]
  | none =>
    cases email : leadingEmailLength? text with
    | some length =>
      have within := leadingEmailLength?_le email
      simp only [List.take_append_of_le_length within, List.drop_append_of_le_length within]
    | none => simp [url, email] at known

/-- Nothing is lost between an address and what follows it. -/
theorem LeadingAddress.content_append_trailing (text : Text) :
    (LeadingAddress.ofText text).content ++ (LeadingAddress.ofText text).trailing = text := by
  rw [LeadingAddress.ofText]
  split
  · exact List.take_append_drop _ text
  · exact List.take_append_drop _ text
  · exact List.append_nil text

end JapaneseSpacing
