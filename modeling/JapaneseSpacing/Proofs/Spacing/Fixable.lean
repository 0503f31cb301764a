import JapaneseSpacing.Proofs.HalfWidth.Address
import JapaneseSpacing.Proofs.Spacing.Convention
import JapaneseSpacing.Proofs.Spacing.Fix
import JapaneseSpacing.Proofs.Spacing.SeparatedLink
import JapaneseSpacing.Proofs.Text.Occurrence

/-!
# Fixes beside the characters they are about

A fix either puts one space beside a character that must be set apart, or it takes away all
blanks between such a character and a letter or digit. This is said of the text that the
offsets of a violation point into: of the checked text itself (`checkText_fixable`), and for a
link of its own text or of its parent's (`checkLink_fixable`).
-/

namespace JapaneseSpacing

/-- A fix puts a space beside a character that must be set apart. -/
structure Fix.Separates (fix : Fix) (text : Text) : Prop where
  text_eq : fix.text = [' ']
  empty : fix.span.stop = fix.span.start
  beside : ∃ place : Nat, (fix.span.start = place + 1 ∨ fix.span.start = place)
    ∧ text.Has isSpacingTarget place

/-- A fix takes away blanks, and on its two sides stand a letter or digit and a character that
must not be set apart from a word. -/
structure Fix.Joins (fix : Fix) (text : Text) : Prop where
  text_eq : fix.text = []
  nonempty : fix.span.start < fix.span.stop
  blank : ∀ place : Nat, fix.span.start ≤ place → place < fix.span.stop → text.Has isBlank place
  between : ∃ left right : Nat, fix.span.start = left + 1 ∧ fix.span.stop = right
    ∧ ((text.Has isAsciiAlphanumeric left ∧ text.Has isSpacingTarget right)
      ∨ (text.Has isSpacingTarget left ∧ text.Has isAsciiAlphanumeric right))

/-- A violation has a fix at its index, and the fix puts or takes away blanks where it should. -/
def Violation.Fixable (violation : Violation) (text : Text) : Prop :=
  ∃ fix, violation.fix = some fix ∧ fix.span.start = violation.index
    ∧ (fix.Separates text ∨ fix.Joins text)

section Bounds

variable {fix : Fix} {text : Text}

theorem Fix.Separates.bounds (separates : fix.Separates text) :
    0 ≤ fix.span.start ∧ fix.span.stop ≤ text.length := by
  obtain ⟨place, atPlace, has⟩ := separates.beside
  have inside := has.lt_length
  have empty := separates.empty
  omega

theorem Fix.Joins.bounds (joins : fix.Joins text) :
    0 ≤ fix.span.start ∧ fix.span.stop ≤ text.length := by
  obtain ⟨left, right, isLeft, isRight, sides⟩ := joins.between
  have inside : right < text.length := by
    rcases sides with ⟨_, target⟩ | ⟨_, letter⟩
    · exact target.lt_length
    · exact letter.lt_length
  omega

/-- The fix of a violation spans a stretch of the text. -/
theorem Fix.bounds_of_fixes (fixes : fix.Separates text ∨ fix.Joins text) :
    0 ≤ fix.span.start ∧ fix.span.start ≤ fix.span.stop ∧ fix.span.stop ≤ text.length := by
  rcases fixes with separates | joins
  · have bounds := separates.bounds
    have empty := separates.empty
    omega
  · have bounds := joins.bounds
    have nonempty := joins.nonempty
    omega

end Bounds

/-! ## Stretches of a text -/

section Slices

variable {text : Text} {start stop : Int}

/-- A character of a stretch of a text is one of the text. -/
theorem Text.Has.of_slice {accepts : Char → Bool} {place : Nat} (first : 0 ≤ start)
    (ordered : start ≤ stop) (last : stop ≤ text.length)
    (has : (text.slice start stop).Has accepts place) :
    text.Has accepts (start.toNat + place) := by
  obtain ⟨front, middle, back, rfl, rfl, rfl⟩ := Fix.exists_middle first ordered last
  rw [Text.slice_stretch] at has
  have within := has.lt_length
  obtain ⟨char, found, accepted⟩ := has
  refine ⟨char, ?_, accepted⟩
  rw [Text.getElem?_stretch (by omega) (by omega), ← found]
  congr 1
  omega

/-- What a fix does in a stretch of a text it does in the text, further back. -/
theorem Fix.Separates.of_slice {fix : Fix} (first : 0 ≤ start) (ordered : start ≤ stop)
    (last : stop ≤ text.length) (separates : fix.Separates (text.slice start stop)) :
    (fix.shift start).Separates text where
  text_eq := separates.text_eq
  empty := congrArg (start + ·) separates.empty
  beside := by
    obtain ⟨place, atPlace, has⟩ := separates.beside
    refine ⟨start.toNat + place, ?_, has.of_slice first ordered last⟩
    rw [Fix.shift_start]
    omega

theorem Fix.Joins.of_slice {fix : Fix} (first : 0 ≤ start) (ordered : start ≤ stop)
    (last : stop ≤ text.length) (joins : fix.Joins (text.slice start stop)) :
    (fix.shift start).Joins text where
  text_eq := joins.text_eq
  nonempty := Int.add_lt_add_left joins.nonempty start
  blank := by
    intro place lower upper
    rw [Fix.shift_start] at lower
    rw [Fix.shift_stop] at upper
    have bounds := joins.bounds
    have blank := joins.blank (place - start.toNat) (by omega) (by omega)
    have here := blank.of_slice first ordered last
    rwa [show start.toNat + (place - start.toNat) = place by omega] at here
  between := by
    obtain ⟨left, right, isLeft, isRight, sides⟩ := joins.between
    refine ⟨start.toNat + left, start.toNat + right, ?_, ?_, ?_⟩
    · rw [Fix.shift_start]
      omega
    · rw [Fix.shift_stop]
      omega
    · exact sides.imp
        (fun both => ⟨both.1.of_slice first ordered last, both.2.of_slice first ordered last⟩)
        (fun both => ⟨both.1.of_slice first ordered last, both.2.of_slice first ordered last⟩)

end Slices

/-! ## Plain text -/

namespace CoreSpan

variable {text : Text} {span : CoreSpan} {first last : Nat} {side : Side} {neighbour : Char}

/-- A neighbour in front of a core is the character in front of the blanks there. -/
theorem has_of_neighbour_before (isNeighbour : span.neighbour? text .before = some neighbour)
    (target : isSpacingTarget neighbour = true) :
    ∃ place, place + 1 = span.outerStart ∧ text.Has isSpacingTarget place := by
  rw [neighbour?] at isNeighbour
  split at isNeighbour
  · cases isNeighbour
  · exact ⟨span.outerStart - 1, by omega, neighbour, isNeighbour, target⟩

/-- The complaint about a side that breaks the convention can be fixed. -/
theorem Of.fixable_report (ofRun : span.Of text first last)
    (breaks : span.Breaks text side neighbour) :
    (span.report text side neighbour).Fixable text := by
  obtain ⟨isNeighbour, target, misplaced⟩ := breaks
  have outerStart := ofRun.outerStart_le
  have outerStop := ofRun.stop_le_outer
  have startStop := ofRun.start_lt
  rw [report]
  by_cases phrase : isPhraseText (span.body text) = true
  · -- No blanks stand between a phrase and its neighbour, so they touch at the edge.
    have noBlanks : ¬ (span.blanks side).start < (span.blanks side).stop := fun apart =>
      misplaced (iff_of_true phrase apart)
    rw [if_pos phrase]
    refine ⟨_, rfl, rfl, .inl ⟨rfl, rfl, ?_⟩⟩
    cases side with
    | before =>
      obtain ⟨place, isLast, has⟩ := has_of_neighbour_before isNeighbour target
      simp only [blanks] at noBlanks
      exact ⟨place, .inl (by simp only [edge]; omega), has⟩
    | after =>
      simp only [blanks] at noBlanks
      have touches : span.outerStop = span.stop := by omega
      exact ⟨span.stop, .inr rfl, neighbour, touches ▸ isNeighbour, target⟩
  · have someBlanks : (span.blanks side).start < (span.blanks side).stop := by
      by_contra none
      exact misplaced (iff_of_false phrase none)
    rw [if_neg phrase]
    refine ⟨_, rfl, rfl, .inr ⟨rfl, someBlanks, ?_, ?_⟩⟩
    · intro place lower upper
      cases side with
      | before => exact ofRun.before_blank place (Int.ofNat_le.1 lower) (Int.ofNat_lt.1 upper)
      | after => exact ofRun.behind_blank place (Int.ofNat_le.1 lower) (Int.ofNat_lt.1 upper)
    · cases side with
      | before =>
        obtain ⟨place, isLast, has⟩ := has_of_neighbour_before isNeighbour target
        exact ⟨place, span.start, by simp only [blanks]; omega, rfl, .inr ⟨has, ofRun.opens⟩⟩
      | after =>
        exact ⟨span.stop - 1, span.outerStop, by simp only [blanks]; omega, rfl,
          .inl ⟨ofRun.closes, neighbour, isNeighbour, target⟩⟩

end CoreSpan

/-- Every violation of a plain text has a fix at its index that puts one space beside a
character that must be set apart or takes blanks away beside one. -/
theorem checkText_fixable {text : Text} {violation : Violation}
    (member : violation ∈ checkText text) :
    violation.anchor = .node ∧ violation.Fixable text := by
  obtain ⟨span, side, neighbour, ⟨first, last, _, ofRun⟩, ⟨breaks, _⟩, rfl⟩ :=
    mem_checkText_iff.1 member
  refine ⟨?_, ofRun.fixable_report breaks⟩
  rw [CoreSpan.report]
  split <;> rfl

/-! ## Links -/

/-- Two neighbours of a link. -/
theorem fixable_insertSpace {text wording : Text} {index : Int} {anchor : Anchor} {place : Nat}
    (atPlace : index = place + 1 ∨ index = place) (has : text.Has isSpacingTarget place) :
    (Violation.mk wording index anchor (some (.insertSpace index))).Fixable text :=
  ⟨_, rfl, rfl, .inl ⟨rfl, rfl, place, atPlace, has⟩⟩

theorem leadingLinkViolation?_fixable {label parentText : Text} {start : Int}
    {violation : Violation}
    (found : leadingLinkViolation? label start parentText = some violation) :
    violation.anchor = .parent ∧ violation.Fixable parentText := by
  rw [leadingLinkViolation?] at found
  split at found
  · next inside =>
    obtain rfl := Option.some.inj found
    obtain ⟨char, isChar, target⟩ := (Option.any_eq_true _ _).1 inside.2.2
    exact ⟨rfl, fixable_insertSpace (.inl (by omega)) ⟨char, isChar, target⟩⟩
  · cases found

/-- The offset of a violation at the end of a link points into the text that its anchor names. -/
theorem trailingLinkViolation?_fixable {source parentText : Text} {stop : Int}
    {violation : Violation}
    (found : trailingLinkViolation? (LeadingAddress.ofText source) stop parentText
      = some violation) :
    violation.anchor = .parent ∧ violation.Fixable parentText
      ∨ violation.anchor = .node ∧ violation.Fixable source := by
  rw [trailingLinkViolation?] at found
  split at found
  · next absorbed rest trailing =>
    split at found
    · next target =>
      obtain rfl := Option.some.inj found
      have whole := LeadingAddress.content_append_trailing source
      rw [trailing] at whole
      have behind : ((LeadingAddress.ofText source).content
          ++ absorbed :: rest)[(LeadingAddress.ofText source).content.length]? = some absorbed := by
        rw [List.getElem?_append_right (Nat.le_refl _), Nat.sub_self, List.getElem?_cons_zero]
      rw [whole] at behind
      exact .inr ⟨rfl, fixable_insertSpace (.inr rfl) ⟨absorbed, behind, target⟩⟩
    · cases found
  · split at found
    · next inside =>
      obtain rfl := Option.some.inj found
      obtain ⟨char, isChar, target⟩ := (Option.any_eq_true _ _).1 inside.2
      exact .inl ⟨rfl, fixable_insertSpace (.inr (by omega)) ⟨char, isChar, target⟩⟩
    · cases found

/-- Every violation of a link has a fix at its index that puts one space beside a character
that must be set apart, in the text that its anchor names. -/
theorem checkLink_fixable {source parentText : Text} {start stop : Int} {violation : Violation}
    (member : violation ∈ checkLink source start stop parentText) :
    violation.anchor = .parent ∧ violation.Fixable parentText
      ∨ violation.anchor = .node ∧ violation.Fixable source := by
  obtain ⟨_, leading | trailing⟩ := mem_checkLink.1 member
  · exact .inl (leadingLinkViolation?_fixable leading)
  · exact trailingLinkViolation?_fixable trailing

end JapaneseSpacing
