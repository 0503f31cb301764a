import JapaneseSpacing.Proofs.HalfWidth.LongestAddress
import JapaneseSpacing.Proofs.Spacing.AllFixes
import JapaneseSpacing.Proofs.Spacing.Link
import JapaneseSpacing.Proofs.Spacing.SeparatedLink
import JapaneseSpacing.Proofs.Text.Occurrence

/-!
# Fixes of links

The fixes that a link suggests put spaces in front of it, behind its address or behind the link.
Such a space ends the address where it ended before, so once all fixes have been carried out
nothing is left to report about the link (`checkLink_settled_by_fixes`).
-/

namespace JapaneseSpacing

instance : DecidablePred Violation.IsLeading := fun violation =>
  decidable_of_iff (∃ kind ∈ [AddressKind.url, .email, .unknown],
      violation = leadingSpaceRequired kind.label violation.index) <| by
    constructor
    · rintro ⟨kind, _, isReport⟩
      exact ⟨kind, _, isReport⟩
    · rintro ⟨kind, index, rfl⟩
      exact ⟨kind, by cases kind <;> decide, rfl⟩

/-- Where a link stands once the fixes of its violations have been carried out: it is moved by
a space put in front of it and extended by a space put inside. A space put at its end is none
of its text. -/
def Span.afterFixes (violations : List Violation) (link : Span) : Span :=
  let front : Int := if ∃ violation ∈ violations, violation.IsLeading then 1 else 0
  let inside : Int := if ∃ violation ∈ violations, violation.anchor = .node then 1 else 0
  ⟨link.start + front, link.stop + front + inside⟩

/-- The space that a character asks for. -/
def dueSpace (neighbour : Option Char) : Text :=
  if neighbour.any isSpacingTarget then [' '] else []

theorem isSpacingTarget_space : isSpacingTarget ' ' = false := by
  decide

theorem any_getLast?_append_dueSpace (front : Text) :
    (front ++ dueSpace front.getLast?).getLast?.any isSpacingTarget = false := by
  rw [dueSpace]
  split
  · rw [List.getLast?_concat]
    exact isSpacingTarget_space
  · next quiet => simpa using quiet

theorem any_head?_dueSpace_append (back : Text) :
    (dueSpace back.head? ++ back).head?.any isSpacingTarget = false := by
  rw [dueSpace]
  split
  · exact isSpacingTarget_space
  · next quiet => simpa using quiet

/-- A space behind an address sets apart what stood there. -/
theorem LeadingAddress.ofText_dueSpace {source content trailing : Text} {kind : AddressKind}
    (split : ofText source = ⟨content, trailing, kind⟩) (goesOn : trailing ≠ [])
    (neighbour : Option Char) :
    ofText (content ++ (dueSpace neighbour ++ trailing))
      = ⟨content, dueSpace neighbour ++ trailing, kind⟩ := by
  have whole := content_append_trailing source
  rw [split] at whole
  rw [dueSpace]
  split
  · have known : (ofText source).kind ≠ .unknown := by
      intro unknown
      rcases ofText_cases source with ⟨isUrl, _⟩ | ⟨isEmail, _⟩ | ⟨rest, _⟩
      · rw [isUrl] at unknown
        contradiction
      · rw [isEmail] at unknown
        contradiction
      · rw [rest, LeadingAddress.mk.injEq] at split
        exact goesOn split.2.1.symm
    have alone := ofText_content known
    rw [split] at alone known
    exact ofText_stop alone known (by decide) (by decide) (by decide) trailing
  · rw [List.nil_append, whole, split]

/-! ## A link between two texts -/

section Link

variable {front source content trailing back : Text} {kind : AddressKind}

/-- What is reported about a space that is missing behind an address: the end of the link or, if
the link goes on behind its address, a place in it. -/
def spaceMissingBehind (kind : AddressKind) (front content trailing : Text) : Violation :=
  if trailing.isEmpty then
    trailingSpaceRequired kind.label (front.length + content.length : Nat) .parent
  else trailingSpaceRequired kind.label content.length .node

/-- The reports about a link between two texts. -/
theorem checkLink_between (auto : isAutoLink source = true)
    (split : LeadingAddress.ofText source = ⟨content, trailing, kind⟩) :
    checkLink source front.length (front.length + source.length : Nat) (front ++ source ++ back)
      = (if front.getLast?.any isSpacingTarget then
          [leadingSpaceRequired kind.label front.length] else [])
        ++ (if (trailing ++ back).head?.any isSpacingTarget then
          [spaceMissingBehind kind front content trailing] else []) := by
  have whole := LeadingAddress.content_append_trailing source
  rw [split] at whole
  have leading := leadingLinkViolation?_front kind.label front (source ++ back)
  rw [← List.append_assoc] at leading
  rw [checkLink, if_pos auto]
  simp only [split, leading]
  congr 1
  · split <;> rfl
  · cases trailing with
    | nil =>
      rw [List.append_nil] at whole
      subst whole
      rw [trailingLinkViolation?_behind, List.nil_append, spaceMissingBehind]
      split <;> rfl
    | cons absorbed rest =>
      rw [trailingLinkViolation?, List.cons_append, List.head?_cons, Option.any_some]
      dsimp only
      cases isSpacingTarget absorbed <;> rfl

/-- A link whose neighbours ask for no space is not reported. -/
theorem checkLink_between_quiet
    (split : LeadingAddress.ofText source = ⟨content, trailing, kind⟩)
    (leading : front.getLast?.any isSpacingTarget = false)
    (behind : (trailing ++ back).head?.any isSpacingTarget = false) :
    checkLink source front.length (front.length + source.length : Nat) (front ++ source ++ back)
      = [] := by
  cases auto : isAutoLink source with
  | false => simp [checkLink, auto]
  | true =>
    rw [checkLink_between auto split, leading, behind]
    rfl

/-! ## What the fixes do -/

theorem isLeading_leadingSpaceRequired (kind : AddressKind) (index : Int) :
    (leadingSpaceRequired kind.label index).IsLeading :=
  ⟨kind, index, rfl⟩

theorem not_isLeading_spaceMissingBehind :
    ¬ (spaceMissingBehind kind front content trailing).IsLeading := by
  intro leading
  apply leading.not_isTrailing
  rw [spaceMissingBehind]
  split
  · exact ⟨kind, _, _, rfl⟩
  · exact ⟨kind, _, _, rfl⟩

theorem anchor_spaceMissingBehind :
    (spaceMissingBehind kind front content trailing).anchor = .node ↔ trailing ≠ [] := by
  rw [spaceMissingBehind]
  cases trailing with
  | nil => simp [trailingSpaceRequired]
  | cons absorbed rest => simp [trailingSpaceRequired]

theorem fix_spaceMissingBehind :
    ((spaceMissingBehind kind front content trailing).inParent front.length).fix
      = some (.insertSpace (front.length + content.length : Nat)) := by
  rw [spaceMissingBehind]
  split
  · rfl
  · rw [trailingSpaceRequired_node_inParent, Int.natCast_add]
    rfl

/-- The fixes of a link put spaces in front of it and behind its address. -/
theorem fixesOf_checkLink_between (auto : isAutoLink source = true)
    (split : LeadingAddress.ofText source = ⟨content, trailing, kind⟩) :
    fixesOf ((checkLink source front.length (front.length + source.length : Nat)
        (front ++ source ++ back)).map (·.inParent front.length))
      = (if front.getLast?.any isSpacingTarget then [.insertSpace front.length] else [])
        ++ (if (trailing ++ back).head?.any isSpacingTarget then
          [.insertSpace (front.length + content.length : Nat)] else []) := by
  rw [checkLink_between auto split, List.map_append, fixesOf_append]
  congr 1
  · split <;> rfl
  · split
    · rw [List.map_singleton, fixesOf, List.filterMap_cons_some fix_spaceMissingBehind]
      rfl
    · rfl

theorem applyTogether_insertSpace (text : Text) (position place : Nat) (rest : List Fix) :
    text.applyTogether position (.insertSpace place :: rest)
      = (text.take place).drop position ++ ' ' :: text.applyTogether place rest := by
  simp only [Text.applyTogether, Fix.insertSpace, Int.toNat_natCast, List.append_assoc,
    List.singleton_append]

theorem applyTogether_nil (text : Text) (position : Nat) :
    text.applyTogether position [] = text.drop position := rfl

/-- Spaces put in front of a part of a text and behind it. -/
theorem applyTogether_spaces (front part behind : Text) (before after : Bool) :
    (front ++ part ++ behind).applyTogether 0
        ((if before then [.insertSpace front.length] else [])
          ++ (if after then [.insertSpace (front.length + part.length : Nat)] else []))
      = front ++ (if before then [' '] else []) ++ part
        ++ ((if after then [' '] else []) ++ behind) := by
  have upTo : (front ++ part ++ behind).take (front.length + part.length) = front ++ part := by
    rw [← List.length_append, List.take_left]
  have beyond : (front ++ part ++ behind).drop (front.length + part.length) = behind := by
    rw [← List.length_append, List.drop_left]
  have upToFront : (front ++ part ++ behind).take front.length = front := by
    rw [List.append_assoc, List.take_left]
  have beyondFront : (front ++ part ++ behind).drop front.length = part ++ behind := by
    rw [List.append_assoc, List.drop_left]
  cases before <;> cases after <;>
    simp only [Bool.false_eq_true, if_true, if_false, List.nil_append, List.append_nil,
      List.singleton_append, applyTogether_insertSpace, applyTogether_nil, upTo, beyond, upToFront,
      beyondFront, List.drop_left, List.drop_zero]
  · simp only [List.append_assoc, List.cons_append, List.nil_append]
  · simp only [List.append_assoc, List.cons_append, List.nil_append]

theorem length_dueSpace (neighbour : Option Char) :
    (dueSpace neighbour).length = if neighbour.any isSpacingTarget then 1 else 0 := by
  rw [dueSpace]
  split <;> rfl

/-- Where a link stands once its fixes have been carried out. -/
theorem afterFixes_checkLink_between (auto : isAutoLink source = true)
    (split : LeadingAddress.ofText source = ⟨content, trailing, kind⟩) :
    Span.afterFixes (checkLink source front.length (front.length + source.length : Nat)
        (front ++ source ++ back)) ⟨front.length, (front.length + source.length : Nat)⟩
      = ⟨(front ++ dueSpace front.getLast?).length, ((front ++ dueSpace front.getLast?).length
          + (source.length
            + if trailing = [] then 0 else (dueSpace (trailing ++ back).head?).length) : Nat)⟩ := by
  have leading := isLeading_leadingSpaceRequired kind front.length
  have behind := @not_isLeading_spaceMissingBehind front content trailing kind
  have inside := @anchor_spaceMissingBehind front content trailing kind
  have outside : (leadingSpaceRequired kind.label front.length).anchor = .parent := rfl
  have front_iff : (∃ violation ∈ checkLink source front.length
        (front.length + source.length : Nat) (front ++ source ++ back), violation.IsLeading)
      ↔ front.getLast?.any isSpacingTarget = true := by
    rw [checkLink_between auto split]
    split <;> split <;> simp_all
  have inside_iff : (∃ violation ∈ checkLink source front.length
        (front.length + source.length : Nat) (front ++ source ++ back), violation.anchor = .node)
      ↔ (trailing ++ back).head?.any isSpacingTarget = true ∧ trailing ≠ [] := by
    rw [checkLink_between auto split]
    split <;> split <;> simp_all
  simp only [Span.afterFixes, front_iff, inside_iff, List.length_append, length_dueSpace,
    Span.mk.injEq]
  generalize front.getLast?.any isSpacingTarget = due
  generalize (trailing ++ back).head?.any isSpacingTarget = dueBehind
  by_cases stops : trailing = [] <;> cases due <;> cases dueBehind <;> simp [stops] <;> omega

end Link

/-- Once all fixes of a link have been carried out nothing is left to report about it. -/
theorem checkLink_settled_by_fixes (parentText : Text) (start stop : Int) (first : 0 ≤ start)
    (ordered : start ≤ stop) (last : stop ≤ parentText.length) :
    let violations := checkLink (parentText.slice start stop) start stop parentText
    let fixed := parentText.applyTogether 0 (fixesOf (violations.map (·.inParent start)))
    let link := Span.afterFixes violations ⟨start, stop⟩
    checkLink (fixed.slice link.start link.stop) link.start link.stop fixed = [] := by
  obtain ⟨front, source, back, rfl, rfl, rfl⟩ := Fix.exists_middle first ordered last
  rw [Text.slice_stretch]
  cases auto : isAutoLink source with
  | false =>
    have unreported : ∀ text : Text, ∀ start stop : Int, checkLink source start stop text = [] := by
      intro text start stop
      simp [checkLink, auto]
    have unmoved : Span.afterFixes [] ⟨front.length, (front.length + source.length : Nat)⟩
        = ⟨front.length, (front.length + source.length : Nat)⟩ := by
      simp [Span.afterFixes]
    simp only [unreported, unmoved, List.map_nil, fixesOf, List.filterMap_nil, applyTogether_nil,
      List.drop_zero, Text.slice_stretch]
  | true =>
    rcases split : LeadingAddress.ofText source with ⟨content, trailing, kind⟩
    have whole := LeadingAddress.content_append_trailing source
    rw [split] at whole
    dsimp only at whole
    have text : (front ++ source ++ back).applyTogether 0 (fixesOf ((checkLink source front.length
        (front.length + source.length : Nat) (front ++ source ++ back)).map
        (·.inParent front.length)))
        = front ++ dueSpace front.getLast? ++ content
          ++ (dueSpace (trailing ++ back).head? ++ (trailing ++ back)) := by
      have spaces := applyTogether_spaces front content (trailing ++ back)
        (front.getLast?.any isSpacingTarget) ((trailing ++ back).head?.any isSpacingTarget)
      rw [fixesOf_checkLink_between auto split]
      rwa [← List.append_assoc, List.append_assoc front, whole] at spaces
    simp only [text, afterFixes_checkLink_between auto split]
    have leading := any_getLast?_append_dueSpace front
    have behind := any_head?_dueSpace_append (trailing ++ back)
    generalize front ++ dueSpace front.getLast? = newFront at *
    by_cases stops : trailing = []
    · -- The link stops at its address, and a space behind it is none of its text.
      subst stops
      rw [List.append_nil] at whole
      subst whole
      rw [if_pos rfl, Nat.add_zero, Text.slice_stretch]
      exact checkLink_between_quiet split leading behind
    · -- A space inside the link takes the place of the text that the link had absorbed.
      have again := LeadingAddress.ofText_dueSpace split stops (trailing ++ back).head?
      have shape : newFront ++ content ++ (dueSpace (trailing ++ back).head? ++ (trailing ++ back))
          = newFront ++ (content ++ (dueSpace (trailing ++ back).head? ++ trailing)) ++ back := by
        simp only [List.append_assoc]
      have length : source.length + (dueSpace (trailing ++ back).head?).length
          = (content ++ (dueSpace (trailing ++ back).head? ++ trailing)).length := by
        simp only [← whole, List.length_append]
        omega
      rw [if_neg stops, shape, length, Text.slice_stretch]
      rw [← List.append_assoc] at behind
      exact checkLink_between_quiet again leading behind

/-- An address that has absorbed Japanese text: one space is put in front of the link and one
inside. -/
theorem checkLink_settled_by_fixes_absorbed :
    fixesOf ((checkLink "me@a.jpを".toList 1 9 "はme@a.jpをご".toList).map (·.inParent 1))
      = [.insertSpace 1, .insertSpace 8]
    ∧ Span.afterFixes (checkLink "me@a.jpを".toList 1 9 "はme@a.jpをご".toList) ⟨1, 9⟩ = ⟨2, 11⟩
    ∧ checkLink "me@a.jp を".toList 2 11 "は me@a.jp をご".toList = [] := by
  have violations : checkLink "me@a.jpを".toList 1 9 "はme@a.jpをご".toList
      = [leadingSpaceRequired AddressKind.email.label 1,
        trailingSpaceRequired AddressKind.email.label 7 .node] := by rfl
  have fixes : fixesOf ((checkLink "me@a.jpを".toList 1 9 "はme@a.jpをご".toList).map
      (·.inParent 1)) = [.insertSpace 1, .insertSpace 8] := by
    rw [violations]
    rfl
  have moved : Span.afterFixes (checkLink "me@a.jpを".toList 1 9 "はme@a.jpをご".toList) ⟨1, 9⟩
      = ⟨2, 11⟩ := by
    rw [violations]
    decide
  have source : Text.slice "はme@a.jpをご".toList 1 9 = "me@a.jpを".toList := by decide
  have fixed : Text.applyTogether "はme@a.jpをご".toList 0 [.insertSpace 1, .insertSpace 8]
      = "は me@a.jp をご".toList := by decide
  have shown : Text.slice "は me@a.jp をご".toList 2 11 = "me@a.jp を".toList := by decide
  have settled := checkLink_settled_by_fixes "はme@a.jpをご".toList 1 9 (by decide) (by decide)
    (by decide)
  simp only [source, fixes, moved, fixed, shown] at settled
  exact ⟨fixes, moved, settled⟩

end JapaneseSpacing
