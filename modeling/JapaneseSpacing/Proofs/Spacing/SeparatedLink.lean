import JapaneseSpacing.Spacing.Link
import JapaneseSpacing.Text.Blank

/-!
# Links beside blanks

A blank that is no full-width character keeps a link apart from what stands beyond it. The
ideographic space is a blank and counts as full-width, so the check of a link asks for a
space beside it. `checkLink_beside_blank` says that this is the only such blank.
-/

namespace JapaneseSpacing

/-- The blank of full width. -/
def ideographicSpace : Char := '\u3000'

/-- A report about the start of a link. -/
def Violation.IsLeading (violation : Violation) : Prop :=
  ∃ (kind : AddressKind) (index : Int), violation = leadingSpaceRequired kind.label index

/-- A report about the end of a link. -/
def Violation.IsTrailing (violation : Violation) : Prop :=
  ∃ (kind : AddressKind) (index : Int) (anchor : Anchor),
    violation = trailingSpaceRequired kind.label index anchor

/-- The character that decides about the end of a link: the first one absorbed into it, or
else the parent's character behind it. -/
def decidingChar? (source : Text) (stop : Int) (parentText : Text) : Option Char :=
  (LeadingAddress.ofText source).trailing.head?.or (item? parentText stop)

/-- Of all blanks only the ideographic space is one that the convention reacts to. -/
theorem isSpacingTarget_blank_iff {char : Char} (blank : isBlank char = true) :
    isSpacingTarget char = true ↔ char = ideographicSpace := by
  constructor
  · intro target
    have fullWidth := (isFullWidth_iff char).1 ((isSpacingTarget_iff char).1 target).1
    simp only [isBlank, Bool.or_eq_true, Bool.and_eq_true, decide_eq_true_eq, beq_iff_eq] at blank
    have code : char.toNat = ideographicSpace.toNat := by
      have isCode : ideographicSpace.toNat = 0x3000 := rfl
      omega
    exact Char.toNat_inj.1 code
  · rintro rfl
    decide +kernel

/-! ## The two kinds of reports -/

theorem head?_append_some {front behind : Text} {first : Char} (opens : front.head? = some first) :
    (front ++ behind).head? = some first := by
  rw [List.head?_append, opens, Option.some_or]

theorem leadingSpaceRequired_opens (label : Text) (index : Int) :
    (leadingSpaceRequired label index).message.head? = some '全' := by
  have wording : "全角文字と".toList.head? = some '全' := by decide +kernel
  exact head?_append_some (head?_append_some wording)

theorem trailingSpaceRequired_opens (kind : AddressKind) (index : Int) (anchor : Anchor) :
    ∃ first, (trailingSpaceRequired kind.label index anchor).message.head? = some first
      ∧ first ≠ '全' := by
  obtain ⟨first, isFirst, differs⟩ : ∃ first, kind.label.head? = some first ∧ first ≠ '全' := by
    cases kind with
    | url => exact ⟨'U', by decide +kernel, by decide⟩
    | email => exact ⟨'メ', by decide +kernel, by decide⟩
    | unknown => exact ⟨'U', by decide +kernel, by decide⟩
  exact ⟨first, head?_append_some isFirst, differs⟩

/-- No report is about both ends of a link: they begin with different words. -/
theorem Violation.IsLeading.not_isTrailing {violation : Violation} (leading : violation.IsLeading) :
    ¬ violation.IsTrailing := by
  obtain ⟨kind, index, rfl⟩ := leading
  rintro ⟨other, otherIndex, anchor, same⟩
  obtain ⟨first, isFirst, differs⟩ := trailingSpaceRequired_opens other otherIndex anchor
  rw [← same, leadingSpaceRequired_opens, Option.some.injEq] at isFirst
  exact differs isFirst.symm

theorem leadingLinkViolation?_isLeading {kind : AddressKind} {start : Int} {parentText : Text}
    {violation : Violation}
    (found : leadingLinkViolation? kind.label start parentText = some violation) :
    violation.IsLeading := by
  rw [leadingLinkViolation?] at found
  split at found
  · exact ⟨kind, start, (Option.some.inj found).symm⟩
  · cases found

theorem trailingLinkViolation?_isTrailing {address : LeadingAddress} {stop : Int}
    {parentText : Text} {violation : Violation}
    (found : trailingLinkViolation? address stop parentText = some violation) :
    violation.IsTrailing := by
  rw [trailingLinkViolation?] at found
  split at found <;> split at found
  · exact ⟨_, _, _, (Option.some.inj found).symm⟩
  · cases found
  · exact ⟨_, _, _, (Option.some.inj found).symm⟩
  · cases found

/-- What a link reports is about its start or about its end. -/
theorem mem_checkLink {source parentText : Text} {start stop : Int} {violation : Violation} :
    violation ∈ checkLink source start stop parentText
      ↔ isAutoLink source = true
        ∧ (leadingLinkViolation? (LeadingAddress.ofText source).kind.label start parentText
            = some violation
          ∨ trailingLinkViolation? (LeadingAddress.ofText source) stop parentText
            = some violation) := by
  rw [checkLink]
  split
  · next auto => simp [auto, Option.mem_toList]
  · next explicit => simp [explicit]

section Sides

variable (source parentText : Text) (start stop : Int)

/-- The start of a link is reported if the character in front of it asks for a space. -/
theorem exists_leading_iff :
    (∃ violation ∈ checkLink source start stop parentText, violation.IsLeading)
      ↔ isAutoLink source = true ∧ 0 < start
        ∧ (item? parentText (start - 1)).any isSpacingTarget = true := by
  have place (positive : 0 < start) :
      item? parentText (start - 1) = parentText[(start - 1).toNat]? := by
    rw [item?, if_pos (by omega)]
  constructor
  · rintro ⟨violation, member, leading⟩
    obtain ⟨auto, found | found⟩ := mem_checkLink.1 member
    · rw [leadingLinkViolation?] at found
      split at found
      · next inside => exact ⟨auto, inside.1, by rw [place inside.1]; exact inside.2.2⟩
      · cases found
    · exact absurd (trailingLinkViolation?_isTrailing found) leading.not_isTrailing
  · rintro ⟨auto, positive, target⟩
    rw [place positive] at target
    have within : start ≤ parentText.length := by
      refine Int.not_lt.1 fun beyond => ?_
      rw [List.getElem?_eq_none (by omega)] at target
      cases target
    exact ⟨_, mem_checkLink.2 ⟨auto, .inl (if_pos ⟨positive, within, target⟩)⟩, _, _, rfl⟩

/-- The end of a link is reported if the character that decides about it asks for a
space. -/
theorem exists_trailing_iff :
    (∃ violation ∈ checkLink source start stop parentText, violation.IsTrailing)
      ↔ isAutoLink source = true
        ∧ ((LeadingAddress.ofText source).trailing = [] → 0 ≤ stop)
        ∧ (decidingChar? source stop parentText).any isSpacingTarget = true := by
  have onlyTrailing : (∃ violation ∈ checkLink source start stop parentText, violation.IsTrailing)
      ↔ isAutoLink source = true
        ∧ ∃ violation, trailingLinkViolation? (LeadingAddress.ofText source) stop parentText
          = some violation := by
    constructor
    · rintro ⟨violation, member, trailing⟩
      obtain ⟨auto, found | found⟩ := mem_checkLink.1 member
      · exact absurd trailing (leadingLinkViolation?_isLeading found).not_isTrailing
      · exact ⟨auto, violation, found⟩
    · rintro ⟨auto, violation, found⟩
      exact ⟨violation, mem_checkLink.2 ⟨auto, .inr found⟩,
        trailingLinkViolation?_isTrailing found⟩
  rw [onlyTrailing, trailingLinkViolation?, decidingChar?]
  refine and_congr_right fun _ => ?_
  cases (LeadingAddress.ofText source).trailing with
  | nil =>
    by_cases inside : 0 ≤ stop
    · simp [item?, inside]
    · simp [inside]
  | cons absorbed rest => simp

end Sides

/-- Beside a blank a link is reported only if that blank is the ideographic space, and then
it is reported as if the blank were a letter. -/
theorem checkLink_beside_blank (source parentText : Text) (start stop : Int) (char : Char)
    (blank : isBlank char = true) :
    (item? parentText (start - 1) = some char →
      ((∃ violation ∈ checkLink source start stop parentText, violation.IsLeading)
        ↔ isAutoLink source = true ∧ 0 < start ∧ char = ideographicSpace))
    ∧ (decidingChar? source stop parentText = some char →
      ((∃ violation ∈ checkLink source start stop parentText, violation.IsTrailing)
        ↔ isAutoLink source = true
          ∧ ((LeadingAddress.ofText source).trailing = [] → 0 ≤ stop)
          ∧ char = ideographicSpace)) := by
  constructor
  · intro before
    rw [exists_leading_iff, before, Option.any_some, isSpacingTarget_blank_iff blank]
  · intro decides
    rw [exists_trailing_iff, decides, Option.any_some, isSpacingTarget_blank_iff blank]

/-- A no-break space keeps a URL apart, an ideographic space does not. -/
theorem checkLink_beside_blank_noBreakSpace :
    item? "\u00A0http://a.b\u3000".toList (1 - 1) = some '\u00A0'
    ∧ ¬ (∃ violation ∈ checkLink "http://a.b".toList 1 11 "\u00A0http://a.b\u3000".toList,
      violation.IsLeading)
    ∧ decidingChar? "http://a.b".toList 11 "\u00A0http://a.b\u3000".toList = some ideographicSpace
    ∧ ∃ violation ∈ checkLink "http://a.b".toList 1 11 "\u00A0http://a.b\u3000".toList,
      violation.IsTrailing := by
  have before : item? "\u00A0http://a.b\u3000".toList (1 - 1) = some '\u00A0' := by decide +kernel
  have decides : decidingChar? "http://a.b".toList 11 "\u00A0http://a.b\u3000".toList
      = some ideographicSpace := by decide +kernel
  refine ⟨before, fun leading => ?_, decides, ?_⟩
  · have reported := ((checkLink_beside_blank "http://a.b".toList _ 1 11 '\u00A0'
      (by decide)).1 before).1 leading
    exact absurd reported.2.2 (by decide)
  · exact ((checkLink_beside_blank "http://a.b".toList _ 1 11 ideographicSpace
      (by decide)).2 decides).2 ⟨by decide, fun _ => by decide, rfl⟩

/-- Blanks on both sides of a URL do not always keep it from being reported. -/
theorem checkLink_reports_separated :
    ¬ ∀ (source parentText : Text) (start stop : Int) (char : Char), isBlank char = true →
      (item? parentText (start - 1) = some char →
        ¬ ∃ violation ∈ checkLink source start stop parentText, violation.IsLeading)
      ∧ (decidingChar? source stop parentText = some char →
        ¬ ∃ violation ∈ checkLink source start stop parentText, violation.IsTrailing) := by
  intro never
  have leading : leadingSpaceRequired AddressKind.url.label 1
      ∈ checkLink "http://a.b".toList 1 11 "\u3000http://a.b\u3000".toList := by decide +kernel
  exact (never "http://a.b".toList "\u3000http://a.b\u3000".toList 1 11 '\u3000' (by decide)).1
    (by decide +kernel) ⟨_, leading, .url, 1, rfl⟩

end JapaneseSpacing
