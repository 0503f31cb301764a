import JapaneseSpacing.Proofs.HalfWidth.LongestAddress
import JapaneseSpacing.Proofs.Markdown.Pattern

/-!
# Email addresses by a pattern

Whether a text is an email address can also be asked of a pattern that has to match up to the
end of the text: a local part, `@`, characters of domains, a dot and at least two letters. The
pattern matches exactly the texts of that form (`mem_emailPattern`), so it agrees with the
search for a local part and the longest domain (`isEmail_eq_matches`).
-/

namespace JapaneseSpacing

/-- The end of a text, or the line feed with which it ends. -/
def Pattern.lastLineEnd : Pattern := fun text =>
  if text = [] ∨ text = ['\n'] then [text] else []

open Pattern in
/-- An email address up to the end of a text. -/
def emailPattern : Pattern :=
  sequence [(char isLocalChar).oneOrMore, char (· == '@'), (char isDomainChar).oneOrMore,
    char (· == '.'), char isAsciiLetter, (char isAsciiLetter).oneOrMore, lastLineEnd]

section EmailPattern

open Pattern

variable {text rest : Text}

theorem mem_lastLineEnd : rest ∈ lastLineEnd text ↔ rest = text ∧ (text = [] ∨ text = ['\n']) := by
  rw [lastLineEnd]
  split
  · next ends => simp [ends]
  · next noEnd => simp [noEnd]

theorem mem_char_beq {mark : Char} : rest ∈ char (· == mark) text ↔ text = mark :: rest := by
  rw [mem_char]
  simp

/-- The pattern matches an email address in front of the end of a text. -/
theorem mem_emailPattern :
    rest ∈ emailPattern text
      ↔ ∃ email, EmailForm email ∧ text = email ++ rest ∧ (rest = [] ∨ rest = ['\n']) := by
  simp only [emailPattern, mem_sequence_cons, mem_sequence_nil, mem_oneOrMore_char, mem_char_beq,
    mem_lastLineEnd]
  constructor
  · rintro ⟨_, ⟨part, rfl, somePart, inPart⟩, _, rfl, _, ⟨front, rfl, someFront, inFront⟩, _, rfl,
      _, isFirst, _, ⟨letters, rfl, someLetters, inLetters⟩, _, ⟨rfl, ends⟩, rfl⟩
    obtain ⟨letter, rfl, isLetter⟩ := mem_char.1 isFirst
    have topLevel : DomainForm (front ++ '.' :: letter :: letters) :=
      .written someFront inFront (Nat.succ_le_succ (List.length_pos_iff.2 someLetters))
        (List.forall_mem_cons.2 ⟨isLetter, inLetters⟩)
    exact ⟨_, .written somePart inPart topLevel, by simp, ends⟩
  · rintro ⟨_, @⟨part, domain, somePart, inPart, isDomain⟩, rfl, ends⟩
    obtain @⟨front, topLevel, someFront, inFront, length, inTopLevel⟩ := isDomain
    obtain ⟨letter, letters, rfl⟩ := List.exists_cons_of_length_pos (by omega : 0 < topLevel.length)
    have someLetters : letters ≠ [] :=
      List.length_pos_iff.1 (Nat.lt_of_succ_lt_succ length)
    have inLetters : ∀ char ∈ letters, isAsciiLetter char = true := fun char member =>
      inTopLevel char (List.mem_cons_of_mem _ member)
    have split : part ++ '@' :: (front ++ '.' :: letter :: letters) ++ rest
        = part ++ '@' :: (front ++ '.' :: letter :: (letters ++ rest)) := by simp
    rw [split]
    exact ⟨_, ⟨part, rfl, somePart, inPart⟩, _, rfl, _, ⟨front, rfl, someFront, inFront⟩, _, rfl,
      _, mem_char.2 ⟨letter, rfl, inTopLevel letter List.mem_cons_self⟩, _,
      ⟨letters, rfl, someLetters, inLetters⟩, _, ⟨rfl, ends⟩, rfl⟩

/-- A text is an email address exactly if the pattern matches it. -/
theorem isEmail_eq_matches (text : Text) : isEmail text = (emailPattern.length? text).isSome := by
  have isMatch : (emailPattern.length? text).isSome = true ↔ ∃ rest, rest ∈ emailPattern text := by
    rw [length?, Option.isSome_map, List.isSome_head?]
    refine ⟨List.exists_mem_of_ne_nil _, ?_⟩
    rintro ⟨rest, isRest⟩
    exact List.ne_nil_of_mem isRest
  rw [Bool.eq_iff_iff, isMatch, isEmail, Bool.or_eq_true, Bool.and_eq_true, beq_iff_eq,
    isWholeEmail_iff, isWholeEmail_iff]
  constructor
  · rintro (form | ⟨isBreak, form⟩)
    · exact ⟨[], mem_emailPattern.2 ⟨text, form, (List.append_nil text).symm, .inl rfl⟩⟩
    · exact ⟨['\n'], mem_emailPattern.2 ⟨text.dropLast, form,
        (List.dropLast_append_getLast? '\n' isBreak).symm, .inr rfl⟩⟩
  · rintro ⟨rest, isRest⟩
    obtain ⟨email, form, rfl, rfl | rfl⟩ := mem_emailPattern.1 isRest
    · rw [List.append_nil]
      exact .inl form
    · rw [List.dropLast_concat, List.getLast?_concat]
      exact .inr ⟨rfl, form⟩

end EmailPattern

end JapaneseSpacing
