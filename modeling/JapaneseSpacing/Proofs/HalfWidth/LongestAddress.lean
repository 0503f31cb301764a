import JapaneseSpacing.Proofs.HalfWidth.Address

/-!
# The longest address

URLs, domains and email addresses are described by their parts, without a search. What is found
at the start of a text is the longest text of such a form: a URL if there is one, or else an
email address (`LeadingAddress.ofText_longest`). For a domain this takes an argument, since
several of its dots may be followed by letters: the search takes the last such dot, and the
letters behind an earlier one end in front of it (`domainEnd?_mono`).
-/

namespace JapaneseSpacing

/-! ## Forms of addresses -/

/-- A URL as it is written: a scheme of a letter and then letters and plus signs, `://`, and at
least one character of URLs. -/
inductive UrlForm : Text → Prop
  | written {first : Char} {tail body : Text} (letter : isAsciiLetter first = true)
      (scheme : ∀ char ∈ tail, isSchemeChar char = true) (someBody : body ≠ [])
      (inside : ∀ char ∈ body, isUrlChar char = true) :
      UrlForm (first :: tail ++ "://".toList ++ body)

/-- A domain as it is written: characters of domains, a dot and at least two letters. -/
inductive DomainForm : Text → Prop
  | written {front topLevel : Text} (someFront : front ≠ [])
      (inside : ∀ char ∈ front, isDomainChar char = true) (length : 2 ≤ topLevel.length)
      (letters : ∀ char ∈ topLevel, isAsciiLetter char = true) :
      DomainForm (front ++ '.' :: topLevel)

/-- An email address as it is written: characters of local parts, `@` and a domain. -/
inductive EmailForm : Text → Prop
  | written {part domain : Text} (somePart : part ≠ [])
      (inside : ∀ char ∈ part, isLocalChar char = true) (isDomain : DomainForm domain) :
      EmailForm (part ++ '@' :: domain)

/-- A text is of some form and no longer text that another one starts with is. -/
structure LongestPrefix (form : Text → Prop) (front text : Text) : Prop where
  isForm : form front
  isPrefix : front <+: text
  longest : ∀ other, form other → other <+: text → other.length ≤ front.length

/-- A text in front of which a character stops another one is in front of that character. -/
theorem prefix_of_prefix_append_cons {other front rest : Text} {stop : Char}
    (starts : other <+: front ++ stop :: rest) (missing : stop ∉ other) : other <+: front := by
  by_contra beyond
  have longer : (front ++ [stop]).length ≤ other.length := by
    rw [List.length_append, List.length_singleton]
    by_contra short
    exact beyond (List.prefix_of_prefix_length_le starts (List.prefix_append front _) (by omega))
  have whole : front ++ [stop] <+: front ++ stop :: rest := ⟨rest, by simp⟩
  have inside := List.prefix_of_prefix_length_le whole starts longer
  exact missing (inside.subset (by simp))

namespace LongestPrefix

variable {form : Text → Prop} {front other text : Text}

theorem unique (first : LongestPrefix form front text) (second : LongestPrefix form other text) :
    front = other := by
  have shorter := second.longest front first.isForm first.isPrefix
  have longer := first.longest other second.isForm second.isPrefix
  exact (List.prefix_of_prefix_length_le first.isPrefix second.isPrefix shorter).eq_of_length_le
    longer

/-- A text is the longest of its form in front of a character that no text of the form has. -/
theorem of_stop {stop : Char} (isForm : form front) (missing : ∀ other, form other → stop ∉ other)
    (rest : Text) : LongestPrefix form front (front ++ stop :: rest) where
  isForm := isForm
  isPrefix := List.prefix_append front _
  longest := fun other isOther starts =>
    (prefix_of_prefix_append_cons starts (missing other isOther)).length_le

end LongestPrefix

/-! ## URLs -/

section Url

variable {text url : Text}

theorem isUrlChar_of_isSchemeChar {char : Char} (inScheme : isSchemeChar char = true) :
    isUrlChar char = true := by
  rcases Bool.or_eq_true_iff.1 inScheme with letter | plus
  · have alphanumeric : isAsciiAlphanumeric char = true := by
      rw [isAsciiAlphanumeric, Char.isAlphanum, Bool.or_eq_true]
      exact .inl letter
    rw [isUrlChar, alphanumeric, Bool.true_or]
  · rw [beq_iff_eq.1 plus]
    decide

/-- A URL consists of characters of URLs. -/
theorem UrlForm.isUrlChar_of_mem (form : UrlForm url) {char : Char} (member : char ∈ url) :
    isUrlChar char = true := by
  obtain @⟨first, tail, body, letter, scheme, someBody, inside⟩ := form
  rcases List.mem_append.1 member with inFront | inBody
  · rcases List.mem_append.1 inFront with inScheme | inMarker
    · rcases List.mem_cons.1 inScheme with rfl | inTail
      · exact isUrlChar_of_isSchemeChar (by simp [isSchemeChar, letter])
      · exact isUrlChar_of_isSchemeChar (scheme char inTail)
    · have all : "://".toList.all isUrlChar = true := by decide
      exact List.all_eq_true.1 all char inMarker
  · exact inside char inBody

/-- A URL at the start of a text is not longer than the one that is found there. -/
theorem UrlForm.le_leadingUrlLength? (form : UrlForm url) (starts : url <+: text) :
    ∃ length, leadingUrlLength? text = some length ∧ url.length ≤ length := by
  obtain ⟨rest, rfl⟩ := starts
  obtain @⟨first, tail, body, letter, scheme, someBody, inside⟩ := form
  have split := splitScheme?_written letter scheme (body ++ rest)
  rw [← List.append_assoc] at split
  rw [leadingUrlLength?, split]
  simp only [List.takeWhile_append_of_pos inside, List.isEmpty_iff, List.append_eq_nil_iff,
    someBody, false_and, if_false]
  refine ⟨_, rfl, ?_⟩
  simp only [List.length_append]
  omega

/-- What is found as a URL at the start of a text is one. -/
theorem urlForm_of_leadingUrlLength? {length : Nat} (found : leadingUrlLength? text = some length) :
    UrlForm (text.take length) := by
  rw [leadingUrlLength?] at found
  split at found
  · next scheme after split =>
    obtain ⟨first, tail, letter, inScheme, rfl, rfl⟩ := exists_scheme_of_splitScheme? split
    obtain ⟨body, rest, rfl, inside, stops⟩ := Text.exists_stretch isUrlChar after
    simp only [Text.takeWhile_stretch inside stops] at found
    split at found
    · contradiction
    · next someBody =>
      obtain rfl := Option.some.inj found
      rw [← List.append_assoc, ← List.length_append, List.take_left]
      exact .written letter inScheme (by simpa using someBody) inside
  · contradiction

end Url

/-! ## Domains -/

section Domain

variable {text domain run : Text} {dot length : Nat}

/-- Where a domain ends whose last dot is at a given place: behind the letters that follow the
dot, if there are at least two. -/
def domainEnd? (run : Text) (dot : Nat) : Option Nat :=
  let letters := (run.drop (dot + 1)).takeWhile isAsciiLetter
  if 1 ≤ dot ∧ run[dot]? = some '.' ∧ 2 ≤ letters.length then some (dot + 1 + letters.length)
  else none

theorem domainLength?_eq (text : Text) :
    domainLength? text = (List.range (text.takeWhile isDomainChar).length).reverse.findSome?
      (domainEnd? (text.takeWhile isDomainChar)) := rfl

theorem domainEnd?_eq_some_iff :
    domainEnd? run dot = some length ↔ 1 ≤ dot ∧ run[dot]? = some '.'
      ∧ 2 ≤ ((run.drop (dot + 1)).takeWhile isAsciiLetter).length
      ∧ dot + 1 + ((run.drop (dot + 1)).takeWhile isAsciiLetter).length = length := by
  rw [domainEnd?]
  split
  · next ends => simp [ends]
  · next noEnd =>
    simp only [reduceCtorEq, false_iff]
    exact fun ⟨first, isDot, length, _⟩ => noEnd ⟨first, isDot, length⟩

/-- A search from the back stops at the last index that gives something. -/
theorem exists_last_of_findSome? {α : Type} {give : Nat → Option α} {count : Nat} {value : α}
    (found : (List.range count).reverse.findSome? give = some value) :
    ∃ index < count, give index = some value
      ∧ ∀ later, index < later → later < count → give later = none := by
  induction count with
  | zero => cases found
  | succ count inductionHypothesis =>
    rw [List.range_succ, List.reverse_append, List.reverse_singleton, List.singleton_append,
      List.findSome?_cons] at found
    split at found
    · next atLast =>
      obtain rfl := Option.some.inj found
      exact ⟨count, Nat.lt_succ_self count, atLast, fun later above below => by omega⟩
    · next atLast =>
      obtain ⟨index, below, gives, others⟩ := inductionHypothesis found
      refine ⟨index, by omega, gives, fun later above inside => ?_⟩
      by_cases isLast : later = count
      · rw [isLast, atLast]
      · exact others later above (by omega)

/-- The letters behind a dot end in front of the next one, so a domain with a later last dot is
longer. -/
theorem domainEnd?_mono {later laterLength : Nat} (ends : domainEnd? run dot = some length)
    (endsLater : domainEnd? run later = some laterLength) (order : dot ≤ later) :
    length ≤ laterLength := by
  rcases Nat.eq_or_lt_of_le order with rfl | before
  · rw [ends, Option.some.injEq] at endsLater
    exact Nat.le_of_eq endsLater
  obtain ⟨_, _, _, rfl⟩ := domainEnd?_eq_some_iff.1 ends
  obtain ⟨_, isDot, _, rfl⟩ := domainEnd?_eq_some_iff.1 endsLater
  have stops : ((run.drop (dot + 1)).takeWhile isAsciiLetter).length ≤ later - (dot + 1) := by
    by_contra reaches
    obtain ⟨rest, read⟩ := List.takeWhile_prefix (l := run.drop (dot + 1)) isAsciiLetter
    have atDot : (run.drop (dot + 1))[later - (dot + 1)]? = some '.' := by
      rw [List.getElem?_drop, Nat.add_sub_cancel' before, isDot]
    rw [← read, List.getElem?_append_left (by omega)] at atDot
    have letter := List.mem_takeWhile_imp (List.mem_of_getElem? atDot)
    exact absurd letter (by decide)
  omega

/-- The domain that is found is the one with the last of the dots that can be its last. -/
theorem domainEnd?_le_domainLength?
    (ends : domainEnd? (text.takeWhile isDomainChar) dot = some length) :
    ∃ longest, domainLength? text = some longest ∧ length ≤ longest := by
  have inside : dot < (text.takeWhile isDomainChar).length :=
    (List.getElem?_eq_some_iff.1 (domainEnd?_eq_some_iff.1 ends).2.1).1
  cases found : domainLength? text with
  | none =>
    rw [domainLength?_eq, List.findSome?_eq_none_iff] at found
    have missing := found dot (by simpa using inside)
    rw [ends] at missing
    contradiction
  | some longest =>
    obtain ⟨last, _, endsLast, others⟩ := exists_last_of_findSome? found
    refine ⟨longest, rfl, domainEnd?_mono ends endsLast ?_⟩
    by_contra before
    have missing := others dot (by omega) inside
    have noEnd := ends.symm.trans missing
    contradiction

/-- A domain at the start of a text is not longer than the one that is found there. -/
theorem DomainForm.le_domainLength? (form : DomainForm domain) (starts : domain <+: text) :
    ∃ longest, domainLength? text = some longest ∧ domain.length ≤ longest := by
  obtain ⟨rest, rfl⟩ := starts
  obtain @⟨front, topLevel, someFront, inside, length, letters⟩ := form
  have read : (front ++ '.' :: topLevel ++ rest).takeWhile isDomainChar
      = front ++ '.' :: (topLevel ++ rest.takeWhile isDomainChar) := by
    have isDot : isDomainChar '.' = true := by decide
    have lettersInside : ∀ char ∈ topLevel, isDomainChar char = true := fun char member =>
      isDomainChar_of_isAsciiLetter (letters char member)
    rw [List.append_assoc, List.takeWhile_append_of_pos inside, List.cons_append,
      List.takeWhile_cons_of_pos isDot, List.takeWhile_append_of_pos lettersInside]
  have behind : ((front ++ '.' :: (topLevel ++ rest.takeWhile isDomainChar)).drop
      (front.length + 1)).takeWhile isAsciiLetter
      = topLevel ++ (rest.takeWhile isDomainChar).takeWhile isAsciiLetter := by
    rw [← List.drop_drop, List.drop_left, List.drop_one, List.tail_cons,
      List.takeWhile_append_of_pos letters]
  have ends : domainEnd? ((front ++ '.' :: topLevel ++ rest).takeWhile isDomainChar) front.length
      = some (front.length + 1 + (topLevel
        ++ (rest.takeWhile isDomainChar).takeWhile isAsciiLetter).length) := by
    rw [read, domainEnd?_eq_some_iff, behind]
    refine ⟨List.length_pos_iff.2 someFront, by simp, ?_, rfl⟩
    rw [List.length_append]
    omega
  obtain ⟨longest, found, longer⟩ := domainEnd?_le_domainLength? ends
  refine ⟨longest, found, ?_⟩
  simp only [List.length_append, List.length_cons] at longer ⊢
  omega

/-- The parts of a domain whose last dot is at a given place. -/
theorem exists_parts_of_domainEnd? (ends : domainEnd? run dot = some length) :
    ∃ front topLevel behind, run = front ++ '.' :: topLevel ++ behind
      ∧ (front ++ '.' :: topLevel).length = length ∧ front ≠ [] ∧ 2 ≤ topLevel.length
      ∧ ∀ char ∈ topLevel, isAsciiLetter char = true := by
  obtain ⟨first, isDot, twoLetters, rfl⟩ := domainEnd?_eq_some_iff.1 ends
  obtain ⟨behind, letters⟩ := List.takeWhile_prefix (l := run.drop (dot + 1)) isAsciiLetter
  obtain ⟨within, isChar⟩ := List.getElem?_eq_some_iff.1 isDot
  have size : (run.take dot).length = dot := List.length_take_of_le (Nat.le_of_lt within)
  refine ⟨run.take dot, _, behind, ?_, ?_, ?_, twoLetters, fun char => List.mem_takeWhile_imp⟩
  · rw [List.append_assoc, List.cons_append, letters, ← isChar, List.getElem_cons_drop,
      List.take_append_drop]
  · rw [List.length_append, List.length_cons, size]
    omega
  · rw [← List.length_pos_iff, size]
    exact first

/-- What is found as a domain at the start of a text is one. -/
theorem domainForm_of_domainLength? (found : domainLength? text = some length) :
    DomainForm (text.take length) := by
  rw [domainLength?_eq] at found
  obtain ⟨dot, _, ends, _⟩ := exists_last_of_findSome? found
  obtain ⟨front, topLevel, behind, isRun, rfl, someFront, twoLetters, letters⟩ :=
    exists_parts_of_domainEnd? ends
  obtain ⟨rest, read⟩ := text.takeWhile_prefix isDomainChar
  rw [isRun, List.append_assoc] at read
  rw [← read, List.take_left]
  refine .written someFront (fun char member => ?_) twoLetters letters
  have inRun : char ∈ text.takeWhile isDomainChar := by
    rw [isRun]
    exact List.mem_append_left _ (List.mem_append_left _ member)
  exact List.mem_takeWhile_imp inRun

end Domain

/-! ## Email addresses -/

section Email

variable {text email : Text}

theorem isLocalChar_of_isDomainChar {char : Char} (inDomain : isDomainChar char = true) :
    isLocalChar char = true := by
  rw [isDomainChar, Bool.or_eq_true, Bool.or_eq_true, beq_iff_eq, beq_iff_eq] at inDomain
  rcases inDomain with (alphanumeric | rfl) | rfl
  · rw [isLocalChar, alphanumeric, Bool.true_or]
  · decide
  · decide

/-- An email address consists of characters of local parts and of its `@`. -/
theorem EmailForm.isLocalChar_of_mem (form : EmailForm email) {char : Char}
    (member : char ∈ email) : isLocalChar char = true ∨ char = '@' := by
  obtain @⟨part, _, somePart, inside, isDomain⟩ := form
  obtain @⟨front, topLevel, someFront, inFront, length, letters⟩ := isDomain
  rw [List.mem_append, List.mem_cons, List.mem_append, List.mem_cons] at member
  rcases member with inPart | isMarker | inDomain | isDot | inTopLevel
  · exact .inl (inside char inPart)
  · exact .inr isMarker
  · exact .inl (isLocalChar_of_isDomainChar (inFront char inDomain))
  · rw [isDot]
    decide
  · have letter := letters char inTopLevel
    exact .inl (isLocalChar_of_isDomainChar (isDomainChar_of_isAsciiLetter letter))

/-- An email address at the start of a text is not longer than the one that is found there. -/
theorem EmailForm.le_leadingEmailLength? (form : EmailForm email) (starts : email <+: text) :
    ∃ length, leadingEmailLength? text = some length ∧ email.length ≤ length := by
  obtain ⟨rest, rfl⟩ := starts
  obtain @⟨part, domain, somePart, inside, isDomain⟩ := form
  obtain ⟨length, found, longer⟩ := isDomain.le_domainLength? (List.prefix_append domain rest)
  rw [List.append_assoc, List.cons_append, leadingEmailLength?,
    splitLocalPart?_written somePart inside]
  simp only [found, Option.map_some]
  refine ⟨_, rfl, ?_⟩
  simp only [List.length_append, List.length_cons, List.length_nil]
  omega

/-- What is found as an email address at the start of a text is one. -/
theorem emailForm_of_leadingEmailLength? {length : Nat}
    (found : leadingEmailLength? text = some length) : EmailForm (text.take length) := by
  rw [leadingEmailLength?] at found
  split at found
  · next part after split =>
    obtain ⟨domain, isDomain, rfl⟩ := Option.map_eq_some_iff.1 found
    obtain ⟨letters, inside, someLetters, rfl, rfl⟩ := splitLocalPart?_eq_some split
    rw [List.take_length_add_append, List.append_assoc, List.singleton_append]
    exact .written someLetters inside (domainForm_of_domainLength? isDomain)
  · contradiction

/-- The whole text is recognised as an email address if it is one. -/
theorem isWholeEmail_iff : isWholeEmail text = true ↔ EmailForm text := by
  constructor
  · intro whole
    have form := emailForm_of_leadingEmailLength? (leadingEmailLength?_of_isWholeEmail whole)
    rwa [List.take_length] at form
  · rintro @⟨part, domain, somePart, inside, isDomain⟩
    obtain ⟨length, found, longer⟩ := isDomain.le_domainLength? List.prefix_rfl
    rw [isWholeEmail, splitLocalPart?_written somePart inside]
    simp only [found, beq_iff_eq, Option.some.injEq]
    exact Nat.le_antisymm (domainLength?_le found) longer

/-- No text starts both with a URL and with an email address. -/
theorem EmailForm.leadingUrlLength?_eq_none (form : EmailForm email) (starts : email <+: text) :
    leadingUrlLength? text = none := by
  obtain ⟨rest, rfl⟩ := starts
  obtain @⟨part, domain, somePart, inside, isDomain⟩ := form
  cases split : splitScheme? (part ++ '@' :: domain ++ rest) with
  | none => rw [leadingUrlLength?, split]
  | some found =>
    have noLocalPart := splitLocalPart?_of_splitScheme? split
    rw [List.append_assoc, List.cons_append, splitLocalPart?_written somePart inside] at noLocalPart
    contradiction

end Email

/-! ## The address at the start of a text -/

section Leading

variable {text : Text}

/-- What is found as a URL is the longest one at the start of a text. -/
theorem longestPrefix_of_leadingUrlLength? {length : Nat}
    (found : leadingUrlLength? text = some length) :
    LongestPrefix UrlForm (text.take length) text where
  isForm := urlForm_of_leadingUrlLength? found
  isPrefix := List.take_prefix length text
  longest := by
    intro other form starts
    obtain ⟨same, isLength, longer⟩ := form.le_leadingUrlLength? starts
    rw [found, Option.some.injEq] at isLength
    rwa [List.length_take_of_le (leadingUrlLength?_le found), isLength]

/-- What is found as an email address is the longest one at the start of a text. -/
theorem longestPrefix_of_leadingEmailLength? {length : Nat}
    (found : leadingEmailLength? text = some length) :
    LongestPrefix EmailForm (text.take length) text where
  isForm := emailForm_of_leadingEmailLength? found
  isPrefix := List.take_prefix length text
  longest := by
    intro other form starts
    obtain ⟨same, isLength, longer⟩ := form.le_leadingEmailLength? starts
    rw [found, Option.some.injEq] at isLength
    rwa [List.length_take_of_le (leadingEmailLength?_le found), isLength]

namespace LeadingAddress

/-- What is split off is a URL, an email address or all of the text. -/
theorem ofText_cases (text : Text) :
    ((ofText text).kind = .url ∧ LongestPrefix UrlForm (ofText text).content text)
    ∨ ((ofText text).kind = .email ∧ LongestPrefix EmailForm (ofText text).content text
      ∧ ∀ url, UrlForm url → ¬ url <+: text)
    ∨ (ofText text = ⟨text, [], .unknown⟩ ∧ (∀ url, UrlForm url → ¬ url <+: text)
      ∧ ∀ email, EmailForm email → ¬ email <+: text) := by
  rw [ofText]
  cases isUrl : leadingUrlLength? text with
  | some length => exact .inl ⟨rfl, longestPrefix_of_leadingUrlLength? isUrl⟩
  | none =>
    have noUrl : ∀ url, UrlForm url → ¬ url <+: text := by
      intro url form starts
      obtain ⟨length, found, _⟩ := form.le_leadingUrlLength? starts
      rw [isUrl] at found
      contradiction
    cases isEmail : leadingEmailLength? text with
    | some length =>
      exact .inr (.inl ⟨rfl, longestPrefix_of_leadingEmailLength? isEmail, noUrl⟩)
    | none =>
      refine .inr (.inr ⟨rfl, noUrl, fun email form starts => ?_⟩)
      obtain ⟨length, found, _⟩ := form.le_leadingEmailLength? starts
      rw [isEmail] at found
      contradiction

/-- A URL is split off as a whole. -/
theorem ofText_of_urlForm (form : UrlForm text) : ofText text = ⟨text, [], .url⟩ := by
  obtain ⟨length, found, longer⟩ := form.le_leadingUrlLength? List.prefix_rfl
  obtain rfl := Nat.le_antisymm longer (leadingUrlLength?_le found)
  simp only [ofText, found, List.take_length, List.drop_length]

/-- An email address is split off as a whole. -/
theorem ofText_of_emailForm (form : EmailForm text) : ofText text = ⟨text, [], .email⟩ := by
  simp only [ofText, form.leadingUrlLength?_eq_none List.prefix_rfl,
    leadingEmailLength?_of_isWholeEmail (isWholeEmail_iff.2 form), List.take_length,
    List.drop_length]

/-- The longest URL at the start of a text is split off. -/
theorem ofText_of_longestUrl {front rest : Text}
    (longest : LongestPrefix UrlForm front (front ++ rest)) :
    ofText (front ++ rest) = ⟨front, rest, .url⟩ := by
  have whole := content_append_trailing (front ++ rest)
  rcases found : ofText (front ++ rest) with ⟨content, trailing, kind⟩
  have cases := ofText_cases (front ++ rest)
  rw [found] at whole cases
  rcases cases with ⟨rfl, isLongest⟩ | ⟨_, _, noUrl⟩ | ⟨_, noUrl, _⟩
  · obtain rfl := isLongest.unique longest
    obtain rfl := List.append_cancel_left whole
    rfl
  · exact absurd longest.isPrefix (noUrl front longest.isForm)
  · exact absurd longest.isPrefix (noUrl front longest.isForm)

/-- The longest email address at the start of a text is split off. -/
theorem ofText_of_longestEmail {front rest : Text}
    (longest : LongestPrefix EmailForm front (front ++ rest)) :
    ofText (front ++ rest) = ⟨front, rest, .email⟩ := by
  have whole := content_append_trailing (front ++ rest)
  rcases found : ofText (front ++ rest) with ⟨content, trailing, kind⟩
  have cases := ofText_cases (front ++ rest)
  rw [found] at whole cases
  rcases cases with ⟨_, isUrl⟩ | ⟨rfl, isLongest, _⟩ | ⟨_, _, noEmail⟩
  · obtain ⟨length, found, _⟩ := isUrl.isForm.le_leadingUrlLength? isUrl.isPrefix
    rw [longest.isForm.leadingUrlLength?_eq_none longest.isPrefix] at found
    contradiction
  · obtain rfl := isLongest.unique longest
    obtain rfl := List.append_cancel_left whole
    rfl
  · exact absurd longest.isPrefix (noEmail front longest.isForm)

/-- Behind an address and a character that no address has, any text can stand. -/
theorem ofText_stop {front : Text} {stop : Char} {kind : AddressKind}
    (whole : ofText front = ⟨front, [], kind⟩) (known : kind ≠ .unknown)
    (noUrl : isUrlChar stop = false) (noEmail : isLocalChar stop = false) (noMarker : stop ≠ '@')
    (rest : Text) : ofText (front ++ stop :: rest) = ⟨front, stop :: rest, kind⟩ := by
  have cases := ofText_cases front
  rw [whole] at cases
  rcases cases with ⟨rfl, longest⟩ | ⟨rfl, longest, _⟩ | ⟨rest, _⟩
  · refine ofText_of_longestUrl (.of_stop longest.isForm (fun other form member => ?_) rest)
    have inside := form.isUrlChar_of_mem member
    rw [noUrl] at inside
    contradiction
  · refine ofText_of_longestEmail (.of_stop longest.isForm (fun other form member => ?_) rest)
    rcases form.isLocalChar_of_mem member with inside | isMarker
    · rw [noEmail] at inside
      contradiction
    · exact noMarker isMarker
  · rw [LeadingAddress.mk.injEq] at rest
    exact absurd rest.2.2 known

/-- An address that has been split off is split off again as a whole. -/
theorem ofText_content (known : (ofText text).kind ≠ .unknown) :
    ofText (ofText text).content = ⟨(ofText text).content, [], (ofText text).kind⟩ := by
  rcases ofText_cases text with ⟨isUrl, longest⟩ | ⟨isEmail, longest, _⟩ | ⟨rest, _⟩
  · rw [isUrl, ofText_of_urlForm longest.isForm]
  · rw [isEmail, ofText_of_emailForm longest.isForm]
  · rw [rest] at known
    contradiction

/-- Nothing remains behind an email address exactly if the text is one. -/
theorem ofText_email_iff :
    (ofText text).kind = .email ∧ (ofText text).trailing = [] ↔ EmailForm text := by
  constructor
  · rintro ⟨isEmail, noTrailing⟩
    have whole := content_append_trailing text
    rw [noTrailing, List.append_nil] at whole
    rcases ofText_cases text with ⟨isUrl, _⟩ | ⟨_, longest, _⟩ | ⟨rest, _⟩
    · rw [isEmail] at isUrl
      contradiction
    · rw [← whole]
      exact longest.isForm
    · rw [rest] at isEmail
      contradiction
  · intro form
    rw [ofText_of_emailForm form]
    exact ⟨rfl, rfl⟩

/-- The text is split into an address and what follows. The address is the longest URL that the
text starts with, or else the longest email address, or else all of the text, and is split off
again as a whole. A text is recognised as an email address exactly if nothing remains behind the
one that is split off. -/
theorem ofText_longest (text : Text) :
    (ofText text).content ++ (ofText text).trailing = text
    ∧ ((∃ url, UrlForm url ∧ url <+: text) →
      (ofText text).kind = .url ∧ LongestPrefix UrlForm (ofText text).content text)
    ∧ ((¬ ∃ url, UrlForm url ∧ url <+: text) → (∃ email, EmailForm email ∧ email <+: text) →
      (ofText text).kind = .email ∧ LongestPrefix EmailForm (ofText text).content text)
    ∧ ((¬ ∃ url, UrlForm url ∧ url <+: text) → (¬ ∃ email, EmailForm email ∧ email <+: text) →
      (ofText text).kind = .unknown ∧ (ofText text).content = text)
    ∧ ((ofText text).kind = .url ∨ (ofText text).kind = .email →
      ofText (ofText text).content = ⟨(ofText text).content, [], (ofText text).kind⟩)
    ∧ (text.getLast? ≠ some '\n' →
      (isEmail text = true ↔ (ofText text).kind = .email ∧ (ofText text).trailing = [])) := by
  refine ⟨content_append_trailing text, ?_, ?_, ?_, ?_, ?_⟩
  · rintro ⟨url, form, starts⟩
    rcases ofText_cases text with found | ⟨_, _, noUrl⟩ | ⟨_, noUrl, _⟩
    · exact found
    · exact absurd starts (noUrl url form)
    · exact absurd starts (noUrl url form)
  · rintro noUrl ⟨email, form, starts⟩
    rcases ofText_cases text with ⟨_, longest⟩ | ⟨isEmail, longest, _⟩ | ⟨_, _, noEmail⟩
    · exact absurd ⟨_, longest.isForm, longest.isPrefix⟩ noUrl
    · exact ⟨isEmail, longest⟩
    · exact absurd starts (noEmail email form)
  · intro noUrl noEmail
    rcases ofText_cases text with ⟨_, longest⟩ | ⟨_, longest, _⟩ | ⟨rest, _⟩
    · exact absurd ⟨_, longest.isForm, longest.isPrefix⟩ noUrl
    · exact absurd ⟨_, longest.isForm, longest.isPrefix⟩ noEmail
    · rw [rest]
      exact ⟨rfl, rfl⟩
  · intro known
    apply ofText_content
    rcases known with isUrl | isEmail
    · simp [isUrl]
    · simp [isEmail]
  · intro noBreak
    rw [ofText_email_iff, ← isWholeEmail_iff, JapaneseSpacing.isEmail]
    simp [noBreak]

/-- The last dot is followed by one letter only, so the domain ends in front of it. -/
example : ofText "me@a.b-1.jp.cです".toList
    = ⟨"me@a.b-1.jp".toList, ".cです".toList, .email⟩ := by
  decide

end LeadingAddress

end Leading

end JapaneseSpacing
