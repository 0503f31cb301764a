import JapaneseSpacing.Proofs.Spacing.Context

/-!
# Cutting a text in two

A character outside every run keeps the runs on its two sides apart, and it is the only one
that both sides look at. So a text can be cut there, the character being left in both parts,
and what is said about the whole is what is said about the parts (`checkText_cut`).
-/

namespace JapaneseSpacing

theorem isRun_nil : IsRun [] :=
  fun _ member => (List.not_mem_nil member).elim

section Cuts

variable {previous : Option Char} {outside : Char} (front behind : Text)

/-- A text that begins with a character outside every run is checked behind that character,
whatever stands in front of it. -/
theorem violationsBehind_outside (notInside : isRunChar outside = false) :
    violationsBehind previous (outside :: behind)
      = (violationsBehind (some outside) behind).map (·.shift (1 : Nat)) := by
  have cut := @violationsBehind_cut previous [] behind outside isRun_nil notInside
  rwa [runViolations_bare (by simp), List.nil_append, List.nil_append, List.length_nil,
    Nat.zero_add] at cut

/-- The part up to a character outside every run and the part from that character on are
checked one by one. -/
theorem violationsBehind_split (notInside : isRunChar outside = false) :
    violationsBehind previous (front ++ outside :: behind)
      = violationsBehind previous (front ++ [outside])
        ++ (violationsBehind none (outside :: behind)).map (·.shift front.length) := by
  -- The induction follows the runs of the front; the last one ends at the cut.
  induction front using Text.runInduction generalizing previous with
  | run run inside =>
    have alone := @violationsBehind_cut previous run [] outside inside notInside
    have nothing : violationsBehind (some outside) [] = [] :=
      (violationsBehind_run isRun_nil).trans (runViolations_bare (by simp))
    rw [violationsBehind_cut inside notInside, alone, nothing, List.map_nil, List.append_nil,
      violationsBehind_outside behind notInside, List.map_map]
    congr 2
    funext violation
    rw [Function.comp_apply, Violation.shift_shift, Int.natCast_add]
  | cut run first rest inside firstOutside inductionHypothesis =>
    rw [List.append_assoc, List.cons_append, List.append_assoc, List.cons_append,
      violationsBehind_cut inside firstOutside, violationsBehind_cut inside firstOutside,
      inductionHypothesis, List.map_append, List.map_map, List.append_assoc]
    congr 3
    funext violation
    rw [Function.comp_apply, Violation.shift_shift]
    congr 1
    simp only [List.length_append, List.length_cons]
    omega

end Cuts

/-- Checking is local. At a character that is no letter or digit of ASCII, no blank and no
mark of a URL or path, a text can be cut: the violations are those of the part up to this
character and, moved to their places, those of the part from this character on. -/
theorem checkText_cut (front behind : Text) (outside : Char)
    (noLetter : isAsciiAlphanumeric outside = false) (noBlank : isBlank outside = false)
    (noMark : outside ∉ ".:/?#&=_%+@-".toList) :
    checkText (front ++ outside :: behind)
      = checkText (front ++ [outside])
        ++ (checkText (outside :: behind)).map (·.shift front.length) := by
  have notInside : isRunChar outside = false := by
    rw [isRunChar, noLetter, noBlank, Bool.false_or, Bool.false_or]
    simpa using noMark
  rw [checkText_eq, checkText_eq, checkText_eq, violationsBehind_split front behind notInside]

/-- A kana between a phrase and a word: it asks for a space behind the one and refuses the
blank in front of the other. -/
theorem checkText_cut_kana :
    isAsciiAlphanumeric 'と' = false ∧ isBlank 'と' = false ∧ 'と' ∉ ".:/?#&=_%+@-".toList
    ∧ (checkText "はa bと".toList).map (·.index) = [1, 4]
    ∧ (checkText "と cで".toList).map (·.index) = [1]
    ∧ checkText "はa bと cで".toList
      = checkText "はa bと".toList ++ (checkText "と cで".toList).map (·.shift 4) := by
  have noLetter : isAsciiAlphanumeric 'と' = false := by decide
  have noBlank : isBlank 'と' = false := by decide
  have noMark : 'と' ∉ ".:/?#&=_%+@-".toList := by decide
  exact ⟨noLetter, noBlank, noMark, by decide +kernel, by decide +kernel,
    checkText_cut "はa b".toList " cで".toList 'と' noLetter noBlank noMark⟩

end JapaneseSpacing
