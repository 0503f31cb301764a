import JapaneseSpacing.Proofs.HalfWidth.LongestAddress
import JapaneseSpacing.Proofs.Spacing.Link

/-!
# Addresses next to Japanese text

A URL or an email address between two full-width characters can be checked as part of a
plain text or as an automatic link. Both ask for a space on each side, but for a URL with
an ampersand: the check of a link takes the URL to end there. `checkLink_agrees_iff`
says exactly when the two agree.
-/

namespace JapaneseSpacing

/-- Where a violation is reported, and the fix it suggests. -/
def Violation.place (violation : Violation) : Int × Option Fix :=
  (violation.index, violation.fix)

/-- A report that a space is missing at an offset, with the fix that puts it there. -/
def spaceMissingAt (index : Int) : Int × Option Fix :=
  (index, some (.insertSpace index))

/-- A URL with an ampersand somewhere behind the first character that follows its scheme. -/
def isCutUrl (address : Text) : Bool :=
  match splitScheme? address with
  | some (_, after) => after.contains '&' && after.head? != some '&'
  | none => false

/-- A full-width character is beyond ASCII. -/
theorem beyond_of_isSpacingTarget {char : Char} (target : isSpacingTarget char = true) :
    128 ≤ char.toNat := by
  have fullWidth := (isFullWidth_iff char).1 ((isSpacingTarget_iff char).1 target).1
  omega

theorem isRunChar_eq_false_of_isSpacingTarget {char : Char} (target : isSpacingTarget char = true)
    (unspaced : isBlank char = false) : isRunChar char = false := by
  have beyond := beyond_of_isSpacingTarget target
  rw [isRunChar, isAsciiAlphanumeric_eq_false_of_beyond beyond, unspaced,
    contains_eq_false_of_beyond beyond (by decide), Bool.or_self, Bool.or_self]

/-- The ampersand is the one character of a run that no URL goes on with. -/
theorem isUrlChar_of_isRunChar {char : Char} (inside : isRunChar char = true)
    (unspaced : isBlank char = false) (other : char ≠ '&') : isUrlChar char = true := by
  rw [isRunChar, unspaced, Bool.or_false, Bool.or_eq_true, List.contains_iff_mem] at inside
  rcases inside with alphanumeric | member
  · rw [isUrlChar, alphanumeric, Bool.true_or]
  · have all : ".:/?#&=_%+@-".toList.all (fun char => char == '&' || isUrlChar char) = true := by
      decide
    have either := Bool.or_eq_true_iff.1 (List.all_eq_true.1 all char member)
    exact either.resolve_left (by simpa using other)

section Text

variable {address : Text} {left right : Char}

/-- A plain text complains on both sides of a phrase between full-width characters. -/
theorem checkText_wholePhrase (whole : (halfWidthCores address).map (·.text) = [address])
    (phrase : isPhraseText address = true)
    (leftTarget : isSpacingTarget left = true) (leftUnspaced : isBlank left = false)
    (rightTarget : isSpacingTarget right = true) (rightUnspaced : isBlank right = false) :
    (checkText (left :: address ++ [right])).map Violation.place
      = [spaceMissingAt 1, spaceMissingAt (1 + address.length)] := by
  obtain ⟨parts, rfl, isCore⟩ := RunParts.exists_of_whole whole
  obtain ⟨noLead, noBefore, noAfter, noTail⟩ := parts.alone isCore
  have leftOutside := isRunChar_eq_false_of_isSpacingTarget leftTarget leftUnspaced
  have rightOutside := isRunChar_eq_false_of_isSpacingTarget rightTarget rightUnspaced
  have leftNoSymbol := ((isSpacingTarget_iff left).1 leftTarget).2
  have empty : ∀ previous next, runViolations previous next [] = [] :=
    fun previous next => runViolations_bare (by simp)
  have split : left :: parts.text ++ [right] = [] ++ left :: (parts.text ++ right :: []) := rfl
  rw [checkText_eq, split, violationsBehind_cut (by simp [IsRun]) leftOutside,
    violationsBehind_cut parts.text_run rightOutside, violationsBehind_run (by simp [IsRun]),
    empty, empty, parts.runViolations_text, noLead, noTail]
  simp [neighbourViolations, leftViolations, rightViolations, violationBefore?, violationAfter?,
    RunParts.coreAt, noLead, noBefore, noAfter, isCore, phrase, leftTarget, rightTarget,
    leftNoSymbol, spaceMissingAt, Violation.place, Violation.shift, spaceRequired, Fix.shift,
    Span.shift, Fix.insertSpace]

theorem LeadingAddress.ofText_email (unspaced : ∀ char ∈ address, isBlank char = false)
    (email : isEmail address = true) : LeadingAddress.ofText address = ⟨address, [], .email⟩ := by
  apply LeadingAddress.ofText_of_emailForm
  apply isWholeEmail_iff.1
  rcases Bool.or_eq_true_iff.1 email with whole | lineFeed
  · exact whole
  · have isLast := beq_iff_eq.1 (Bool.and_eq_true_iff.1 lineFeed).1
    have blank := unspaced '\n' (List.mem_of_getLast? isLast)
    exact absurd blank (by decide)

/-- What the check of a link takes for the address in front, of a URL that consists of
characters of runs. -/
theorem LeadingAddress.ofText_url {scheme after : Text} (inside : IsRun address)
    (unspaced : ∀ char ∈ address, isBlank char = false)
    (split : splitScheme? address = some (scheme, after)) (someAfter : after ≠ []) :
    if isCutUrl address then ∃ behind, (LeadingAddress.ofText address).trailing = '&' :: behind
    else ∃ kind, LeadingAddress.ofText address = ⟨address, [], kind⟩ := by
  obtain ⟨_, _, _, _, isWhole⟩ := splitScheme?_eq_some split
  obtain ⟨body, more, rfl, bodyUrl, moreStops⟩ := Text.exists_stretch isUrlChar after
  have url := leadingUrlLength?_of_split split bodyUrl moreStops
  have email : leadingEmailLength? address = none := by
    rw [leadingEmailLength?, splitLocalPart?_of_splitScheme? split]
  have bodyNoAmpersand : '&' ∉ body := fun member => by
    have accepted := bodyUrl '&' member
    exact absurd accepted (by decide)
  rw [isCutUrl, split]
  simp only [LeadingAddress.ofText, url, email]
  cases more with
  | nil =>
    rw [List.append_nil] at someAfter isWhole
    have taken : (scheme ++ body).take (scheme.length + body.length) = scheme ++ body :=
      List.take_of_length_le (by simp)
    simp [bodyNoAmpersand, someAfter, isWhole, taken]
  | cons first behind =>
    have isAmpersand : first = '&' := by
      by_contra other
      have member : first ∈ address := by simp [isWhole]
      have accepted := isUrlChar_of_isRunChar (inside first member) (unspaced first member) other
      rw [moreStops first rfl] at accepted
      exact Bool.false_ne_true accepted
    subst isAmpersand
    cases body with
    | nil => simp
    | cons opening inner =>
      have notFirst : opening ≠ '&' := fun same => bodyNoAmpersand (by simp [same])
      simp [notFirst, isWhole]

/-- What the check of a link takes for the address in front, of a text that is all one
core. -/
theorem LeadingAddress.ofText_whole (whole : (halfWidthCores address).map (·.text) = [address])
    (unspaced : ∀ char ∈ address, isBlank char = false)
    (known : isUrl address = true ∨ isEmail address = true) :
    if isCutUrl address then ∃ behind, (LeadingAddress.ofText address).trailing = '&' :: behind
    else ∃ kind, LeadingAddress.ofText address = ⟨address, [], kind⟩ := by
  obtain ⟨parts, rfl, isCore⟩ := RunParts.exists_of_whole whole
  cases split : splitScheme? parts.text with
  | none =>
    have email : isEmail parts.text = true := known.resolve_left (by simp [isUrl, split])
    rw [if_neg (by simp [isCutUrl, split])]
    exact ⟨.email, LeadingAddress.ofText_email unspaced email⟩
  | some found =>
    obtain ⟨scheme, after⟩ := found
    refine LeadingAddress.ofText_url parts.text_run unspaced split ?_
    -- The last character is a letter or digit, so it is not the last slash of the scheme.
    rintro rfl
    obtain ⟨letters, _, _, rfl, isWhole⟩ := splitScheme?_eq_some split
    obtain ⟨last, isLast, closes⟩ := parts.core_closes
    rw [isCore, isWhole, List.append_nil, List.getLast?_append] at isLast
    rw [← Option.some.inj isLast] at closes
    exact absurd closes (by decide)

/-- Before a character that is no opening bracket a link is automatic. -/
theorem isAutoLink_of_whole (whole : (halfWidthCores address).map (·.text) = [address]) :
    isAutoLink address = true := by
  obtain ⟨parts, rfl, isCore⟩ := RunParts.exists_of_whole whole
  obtain ⟨first, isFirst, opens⟩ := parts.core_opens
  rw [isCore, Option.mem_def] at isFirst
  rw [isAutoLink, isFirst, bne_iff_ne, Ne, Option.some.injEq]
  rintro rfl
  exact absurd opens (by decide)

/-- The check of a link misses the space behind a cut URL and no other. -/
theorem checkLink_whole (whole : (halfWidthCores address).map (·.text) = [address])
    (unspaced : ∀ char ∈ address, isBlank char = false)
    (known : isUrl address = true ∨ isEmail address = true)
    (leftTarget : isSpacingTarget left = true) (rightTarget : isSpacingTarget right = true) :
    (checkLink address 1 (1 + address.length) (left :: address ++ [right])).map
        (fun violation => (violation.inParent 1).place)
      = if isCutUrl address then [spaceMissingAt 1]
        else [spaceMissingAt 1, spaceMissingAt (1 + address.length)] := by
  have leading : ∀ label, leadingLinkViolation? label 1 (left :: address ++ [right])
      = some (leadingSpaceRequired label 1) := by
    intro label
    simp only [leadingLinkViolation?, List.cons_append, List.length_cons]
    rw [if_pos]
    refine ⟨by omega, by omega, ?_⟩
    simpa using leftTarget
  have extracted := LeadingAddress.ofText_whole whole unspaced known
  rw [checkLink, if_pos (isAutoLink_of_whole whole)]
  simp only [leading]
  cases cut : isCutUrl address with
  | true =>
    rw [if_pos cut] at extracted
    obtain ⟨behind, trailing⟩ := extracted
    have noTarget : isSpacingTarget '&' = false := by decide
    have silent : trailingLinkViolation? (LeadingAddress.ofText address) (1 + address.length)
        (left :: address ++ [right]) = none := by
      rw [trailingLinkViolation?, trailing]
      simp only [noTarget, Bool.false_eq_true, if_false]
    rw [silent, if_pos rfl]
    rfl
  | false =>
    rw [if_neg (by simp [cut])] at extracted
    obtain ⟨kind, found⟩ := extracted
    have behind := @trailingLinkViolation?_stopped address [left] [] right kind
    have atOne : (([left].length : Nat) : Int) = 1 := rfl
    rw [if_pos rightTarget, atOne, List.singleton_append] at behind
    rw [found, behind, if_neg Bool.false_ne_true]
    rfl

/-- Between full-width characters the check of a plain text asks for a space on both sides
of a URL or an email address. The check of a link reports the same, except that it misses
the space behind a cut URL. -/
theorem checkLink_agrees_iff (whole : (halfWidthCores address).map (·.text) = [address])
    (unspaced : ∀ char ∈ address, isBlank char = false)
    (known : isUrl address = true ∨ isEmail address = true)
    (leftTarget : isSpacingTarget left = true) (leftUnspaced : isBlank left = false)
    (rightTarget : isSpacingTarget right = true) (rightUnspaced : isBlank right = false) :
    (checkText (left :: address ++ [right])).map Violation.place
      = [spaceMissingAt 1, spaceMissingAt (1 + address.length)]
    ∧ (checkLink address 1 (1 + address.length) (left :: address ++ [right])).map
        (fun violation => (violation.inParent 1).place)
      = (if isCutUrl address then [spaceMissingAt 1]
        else [spaceMissingAt 1, spaceMissingAt (1 + address.length)])
    ∧ ((checkLink address 1 (1 + address.length) (left :: address ++ [right])).map
          (fun violation => (violation.inParent 1).place)
        = (checkText (left :: address ++ [right])).map Violation.place
      ↔ isCutUrl address = false) := by
  have phrase : isPhraseText address = true := by
    rw [isPhraseText]
    rcases known with url | email
    · simp [url]
    · simp [email]
  have plain := checkText_wholePhrase whole phrase leftTarget leftUnspaced rightTarget
    rightUnspaced
  have link := checkLink_whole whole unspaced known leftTarget rightTarget
  refine ⟨plain, link, ?_⟩
  rw [plain, link]
  cases isCutUrl address <;> simp

/-! A query with two parameters, between two kana. -/

theorem query_unspaced : ∀ char ∈ "http://a?b&c".toList, isBlank char = false := by
  have all : "http://a?b&c".toList.all (!isBlank ·) = true := by decide
  intro char member
  simpa using List.all_eq_true.1 all char member

theorem query_whole : (halfWidthCores "http://a?b&c".toList).map (·.text)
    = ["http://a?b&c".toList] := by
  decide +kernel

theorem query_isCutUrl : isCutUrl "http://a?b&c".toList = true := by
  decide

theorem kana_isSpacingTarget : isSpacingTarget 'あ' = true ∧ isSpacingTarget 'い' = true := by
  decide +kernel

/-- The URL is cut: the space behind it is missed. -/
theorem checkLink_agrees_iff_query :
    isCutUrl "http://a?b&c".toList = true
    ∧ (checkLink "http://a?b&c".toList 1 13 "あhttp://a?b&cい".toList).map
        (fun violation => (violation.inParent 1).place)
      ≠ (checkText "あhttp://a?b&cい".toList).map Violation.place := by
  have agrees := (@checkLink_agrees_iff "http://a?b&c".toList 'あ' 'い' query_whole
    query_unspaced (by decide) kana_isSpacingTarget.1 (by decide) kana_isSpacingTarget.2
    (by decide)).2.2
  refine ⟨query_isCutUrl, fun same => ?_⟩
  have notCut := agrees.1 same
  rw [query_isCutUrl] at notCut
  exact Bool.false_ne_true notCut.symm

/-- Not every URL between full-width characters is reported on both sides as a link. -/
theorem checkLink_misses_space :
    ¬ ∀ (address : Text) (left right : Char),
      (∀ char ∈ address, isBlank char = false) →
      (halfWidthCores address).map (·.text) = [address] →
      isUrl address = true ∨ isEmail address = true →
      isSpacingTarget left = true → isBlank left = false →
      isSpacingTarget right = true → isBlank right = false →
      (checkText (left :: address ++ [right])).map Violation.place
        = [spaceMissingAt 1, spaceMissingAt (1 + address.length)]
      ∧ (checkLink address 1 (1 + address.length) (left :: address ++ [right])).map
          (fun violation => (violation.inParent 1).place)
        = [spaceMissingAt 1, spaceMissingAt (1 + address.length)] := by
  intro everywhere
  have known : isUrl "http://a?b&c".toList = true ∨ isEmail "http://a?b&c".toList = true := by
    decide
  have both := (everywhere "http://a?b&c".toList 'あ' 'い' query_unspaced query_whole known
    kana_isSpacingTarget.1 (by decide) kana_isSpacingTarget.2 (by decide)).2
  rw [checkLink_whole query_whole query_unspaced known kana_isSpacingTarget.1
    kana_isSpacingTarget.2, if_pos query_isCutUrl] at both
  simp at both

end Text

end JapaneseSpacing
