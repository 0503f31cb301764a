import JapaneseSpacing.Markdown.EmailLink
import JapaneseSpacing.Proofs.HalfWidth.LongestAddress
import JapaneseSpacing.Proofs.Text.Lines

/-!
# Email addresses as they are written

A local part, an `@`, labels, and a last label of at least two letters. Wherever such an
address stands in front of text beyond ASCII, it is read as a whole: as a literal in plain
text (`emailLiteralLength?_text`) and as the address of a link (`ofText_text`).
-/

namespace JapaneseSpacing

/-- An email address by its parts. -/
structure EmailAddress where
  localPart : Text
  labels : List Text
  topLevel : Text
  localPart_nonempty : localPart ≠ []
  localPart_inside : ∀ char ∈ localPart, isLocalChar char = true
  labels_nonempty : labels ≠ []
  labels_inside : ∀ label ∈ labels, label ≠ [] ∧ ∀ char ∈ label, isLabelChar char = true
  topLevel_length : 2 ≤ topLevel.length
  topLevel_inside : ∀ char ∈ topLevel, isAsciiLetter char = true

/-! ## Labels between dots -/

/-- What labels behind a first one take, with the dots in front of them. -/
def dottedLength : List Text → Nat
  | [] => 0
  | label :: more => label.length + 1 + dottedLength more

theorem length_join_dot (first : Text) (labels : List Text) :
    (Text.join ['.'] (first :: labels)).length = first.length + dottedLength labels := by
  induction labels generalizing first with
  | nil => rfl
  | cons label more inductionHypothesis =>
    rw [Text.join_cons_cons, List.length_append, List.length_append, inductionHypothesis label]
    simp only [dottedLength, List.length_singleton]
    omega

theorem join_dot_ne_nil {first : Text} (someFirst : first ≠ []) (labels : List Text) :
    Text.join ['.'] (first :: labels) ≠ [] := by
  rw [← List.length_pos_iff, length_join_dot]
  have positive := List.length_pos_iff.2 someFirst
  omega

theorem domainStop?_label {label : Text} (someLabel : label ≠ []) (length : Nat)
    (found : Option Nat) (rest : List Text) :
    domainStop? length found (label :: rest)
      = domainStop? (length + 1 + label.length)
          (if isTopLevelLabel label then some (length + 1 + label.length) else found) rest := by
  cases label with
  | nil => exact absurd rfl someLabel
  | cons first more => rfl

/-- Behind labels that are not empty a domain stops at its last label of letters. -/
theorem domainStop?_topLevel {labels : List Text} {topLevel : Text} (length : Nat)
    (found : Option Nat) (someLabels : ∀ label ∈ labels, label ≠ [])
    (ends : isTopLevelLabel topLevel = true) :
    domainStop? length found (labels ++ [topLevel])
      = some (length + dottedLength (labels ++ [topLevel])) := by
  have someTopLevel : topLevel ≠ [] := by
    rintro rfl
    exact absurd ends (by decide)
  induction labels generalizing length found with
  | nil =>
    rw [List.nil_append, domainStop?_label someTopLevel, if_pos ends, domainStop?]
    rw [dottedLength, dottedLength]
    congr 1
    omega
  | cons label more inductionHypothesis =>
    rw [List.cons_append, domainStop?_label (someLabels label List.mem_cons_self),
      inductionHypothesis _ _ fun other member => someLabels other (List.mem_cons_of_mem _ member)]
    rw [dottedLength]
    congr 1
    omega

/-! ## Reading addresses -/

namespace EmailAddress

variable (address : EmailAddress) {rest : Text}

/-- What stands behind the `@`. -/
def domain : Text :=
  Text.join ['.'] (address.labels ++ [address.topLevel])

/-- The characters of an address. -/
def text : Text :=
  address.localPart ++ '@' :: address.domain

theorem domain_eq : address.domain = Text.join ['.'] address.labels ++ '.' :: address.topLevel := by
  rw [domain, Text.join_append address.labels_nonempty (List.cons_ne_nil _ _), List.append_assoc,
    List.singleton_append]
  rfl

theorem label_inside {label : Text} (member : label ∈ address.labels ++ [address.topLevel]) :
    ∀ char ∈ label, isLabelChar char = true := by
  intro char inLabel
  rcases List.mem_append.1 member with isLabel | isLast
  · exact (address.labels_inside label isLabel).2 char inLabel
  · rw [List.mem_singleton.1 isLast] at inLabel
    exact isLabelChar_of_isAsciiLetter (address.topLevel_inside char inLabel)

theorem domain_inside : ∀ char ∈ address.domain, isDomainChar char = true := by
  intro char member
  rcases Text.mem_join member with isDot | ⟨label, isLabel, inLabel⟩
  · rw [List.mem_singleton.1 isDot]
    decide
  · exact isDomainChar_of_isLabelChar (address.label_inside isLabel char inLabel)

theorem topLevel_ends : isTopLevelLabel address.topLevel = true := by
  rw [isTopLevelLabel, Bool.and_eq_true, decide_eq_true_eq, List.all_eq_true]
  exact ⟨address.topLevel_length, address.topLevel_inside⟩

theorem splitLocalPart?_text :
    splitLocalPart? (address.text ++ rest)
      = some (address.localPart ++ ['@'], address.domain ++ rest) := by
  rw [text, List.append_assoc, List.cons_append]
  exact splitLocalPart?_written address.localPart_nonempty address.localPart_inside _

/-- The domain of an address is read up to its last label. -/
theorem literalDomainLength?_domain (beyond : BeginsBeyondAscii rest) :
    literalDomainLength? (address.domain ++ rest) = some address.domain.length := by
  have read : (address.domain ++ rest).takeWhile isDomainChar = address.domain :=
    Text.takeWhile_stretch address.domain_inside fun char member =>
      isDomainChar_eq_false_of_beyond (beyond char member)
  have split : Text.splitWhere (· == '.') address.domain = address.labels ++ [address.topLevel] :=
    Text.splitWhere_join (by simp) fun label member char inLabel =>
      ne_dot_of_isLabelChar (address.label_inside member char inLabel)
  obtain ⟨first, more, isLabels⟩ := List.exists_cons_of_ne_nil address.labels_nonempty
  obtain ⟨initial, others, isFirst⟩ := List.exists_cons_of_ne_nil
    (address.labels_inside first (by rw [isLabels]; exact List.mem_cons_self)).1
  have someMore : ∀ label ∈ more, label ≠ [] := fun label member =>
    (address.labels_inside label (by rw [isLabels]; exact List.mem_cons_of_mem _ member)).1
  have stop := domainStop?_topLevel first.length none someMore address.topLevel_ends
  rw [← length_join_dot, ← List.cons_append, ← isLabels] at stop
  rw [literalDomainLength?, read, split, isLabels, isFirst, List.cons_append]
  rw [isFirst] at stop
  exact stop

/-- In front of text beyond ASCII an address is read as a literal. -/
theorem emailLiteralLength?_text (beyond : BeginsBeyondAscii rest) :
    emailLiteralLength? (address.text ++ rest) = some address.text.length := by
  rw [emailLiteralLength?, address.splitLocalPart?_text]
  simp only [address.literalDomainLength?_domain beyond, Option.map_some]
  simp only [text, List.length_append, List.length_cons, List.length_nil]
  congr 1
  omega

/-- An address has the form that the links of a document are recognised by. -/
theorem emailForm_text : EmailForm address.text := by
  have someFront : Text.join ['.'] address.labels ≠ [] := by
    obtain ⟨first, more, isLabels⟩ := List.exists_cons_of_ne_nil address.labels_nonempty
    rw [isLabels]
    exact join_dot_ne_nil
      (address.labels_inside first (by rw [isLabels]; exact List.mem_cons_self)).1 more
  have frontInside : ∀ char ∈ Text.join ['.'] address.labels, isDomainChar char = true := by
    intro char member
    exact address.domain_inside char (by rw [domain_eq]; exact List.mem_append_left _ member)
  have isDomain : DomainForm address.domain := by
    rw [domain_eq]
    exact .written someFront frontInside address.topLevel_length address.topLevel_inside
  exact .written address.localPart_nonempty address.localPart_inside isDomain

/-- A link to an address ends with it. -/
theorem ofText_text : LeadingAddress.ofText address.text = ⟨address.text, [], .email⟩ :=
  LeadingAddress.ofText_of_emailForm address.emailForm_text

end EmailAddress

end JapaneseSpacing
