import JapaneseSpacing.Proofs.Spacing.Settled

/-!
# All fixes of a text

The fixes that a text suggests lie apart from each other, so the order in which they are
carried out does not matter. `checkText_settled_by_fixes` says what each of them and all
of them together do.
-/

namespace JapaneseSpacing

/-- The fixes that a list of violations suggests. -/
def fixesOf (violations : List Violation) : List Fix :=
  violations.filterMap (·.fix)

theorem fixesOf_shift (violations : List Violation) (distance : Int) :
    fixesOf (violations.map (·.shift distance)) = (fixesOf violations).map (·.shift distance) := by
  rw [fixesOf, fixesOf, List.filterMap_map, List.map_filterMap]
  rfl

theorem fixesOf_append (first second : List Violation) :
    fixesOf (first ++ second) = fixesOf first ++ fixesOf second :=
  List.filterMap_append

theorem apart_fixesOf_left (left : Option Char) {core : HalfWidthCore} {first last : Int}
    (between : core.Between first last) :
    Fix.Apart first core.start (fixesOf (leftViolations left core)) := by
  have outerStart := between.first_le
  have start := between.outerStart_le
  cases complaint : left.bind (violationBefore? · core) with
  | none =>
    rw [leftViolations, complaint]
    trivial
  | some violation =>
    obtain ⟨neighbour, _, found⟩ := Option.bind_eq_some_iff.1 complaint
    rw [leftViolations, complaint, Option.toList_some, fixesOf, List.filterMap_cons_some
      (violationBefore?_eq_some found).2.2]
    split
    · exact ⟨by simp only [Fix.insertSpace]; omega, Int.le_refl _, Int.le_refl _, trivial⟩
    · exact ⟨outerStart, start, Int.le_refl _, trivial⟩

theorem apart_fixesOf_right (right : Option Char) {core : HalfWidthCore} {first last : Int}
    (between : core.Between first last) :
    Fix.Apart (core.start + 1) last (fixesOf (rightViolations right core)) := by
  have start := between.start_lt
  have stop := between.stop_le
  have outerStop := between.outerStop_le
  cases complaint : right.bind (violationAfter? · core) with
  | none =>
    rw [rightViolations, complaint]
    trivial
  | some violation =>
    obtain ⟨neighbour, _, found⟩ := Option.bind_eq_some_iff.1 complaint
    rw [rightViolations, complaint, Option.toList_some, fixesOf, List.filterMap_cons_some
      (violationAfter?_eq_some found).2.2]
    split
    · exact ⟨start, Int.le_refl _, by simp only [Fix.insertSpace]; omega, trivial⟩
    · exact ⟨start, stop, outerStop, trivial⟩

/-- The fixes for the two sides of one core lie apart. -/
theorem apart_fixesOf_neighbour (left right : Option Char) {core : HalfWidthCore}
    {first last : Int} (between : core.Between first last) :
    Fix.Apart first last (fixesOf (neighbourViolations left right core)) := by
  have ⟨outerStart, start, length, stop, outerStop⟩ := between
  rw [neighbourViolations]
  split
  · trivial
  · rw [fixesOf_append]
    exact Fix.apart_append (by omega) (apart_fixesOf_left left between)
      (apart_fixesOf_right right between) (by omega)

theorem apart_fixesOf_run {previous next : Option Char} {run : Text} (inside : IsRun run) :
    Fix.Apart 0 run.length (fixesOf (runViolations previous next run)) := by
  by_cases alphanumeric : ∃ char ∈ run, isAsciiAlphanumeric char = true
  · obtain ⟨parts, rfl⟩ := RunParts.exists_of_run inside alphanumeric
    rw [parts.runViolations_text]
    have between := parts.coreAt_between 0
    rw [Int.natCast_zero, Int.zero_add] at between
    exact apart_fixesOf_neighbour _ _ between
  · rw [runViolations_bare (by simpa using alphanumeric)]
    trivial

/-- The fixes suggested for a text lie apart. -/
theorem apart_fixesOf (previous : Option Char) (text : Text) :
    Fix.Apart 0 text.length (fixesOf (violationsBehind previous text)) := by
  induction text using Text.runInduction generalizing previous with
  | run run inside =>
    rw [violationsBehind_run inside]
    exact apart_fixesOf_run inside
  | cut run outside rest inside notInside inductionHypothesis =>
    have front := @apart_fixesOf_run previous (some outside) run inside
    have back := (inductionHypothesis (some outside)).shift (run.length + 1 : Nat)
    rw [violationsBehind_cut inside notInside, fixesOf_append, fixesOf_shift]
    rw [Int.add_zero, Int.natCast_add, Int.natCast_one] at back
    have length : ((run ++ outside :: rest).length : Int) = run.length + 1 + rest.length := by
      simp only [List.length_append, List.length_cons]
      omega
    rw [length]
    exact Fix.apart_append (by omega) front back (by omega)

/-- Once all fixes have been carried out there is nothing left to complain about, and no
character but blanks has come or gone. -/
theorem violationsBehind_foldr (previous : Option Char) (text : Text) :
    violationsBehind previous
        ((fixesOf (violationsBehind previous text)).foldr Fix.applyTo text) = []
      ∧ ((fixesOf (violationsBehind previous text)).foldr Fix.applyTo text).filter (!isBlank ·)
        = text.filter (!isBlank ·) := by
  induction size : (violationsBehind previous text).length generalizing text with
  | zero =>
    have quiet := List.length_eq_zero_iff.1 size
    rw [quiet]
    exact ⟨quiet, rfl⟩
  | succ count inductionHypothesis =>
    obtain ⟨violation, rest, found⟩ := List.exists_cons_of_length_eq_add_one size
    obtain ⟨fix, isFix, settles⟩ := @exists_settling_fix previous text violation [] rest found
    have apart := apart_fixesOf previous text
    have violations := settles.violations
    rw [List.nil_append] at violations
    have fixes : fixesOf (violationsBehind previous text) = fix :: fixesOf rest := by
      rw [found, fixesOf, List.filterMap_cons_some isFix]
      rfl
    rw [fixes] at apart
    have remaining : (fixesOf (violationsBehind previous text)).foldr Fix.applyTo text
        = (fixesOf (violationsBehind previous (fix.applyTo text))).foldr Fix.applyTo
          (fix.applyTo text) := by
      rw [fixes, List.foldr_cons, apart.2.2.2.applyTo_foldr settles.first settles.ordered
        (by omega), violations, fixesOf_shift]
    have fewer : (violationsBehind previous (fix.applyTo text)).length = count := by
      rw [found, List.length_cons] at size
      rw [violations, List.length_map]
      omega
    obtain ⟨quiet, solid⟩ := inductionHypothesis (fix.applyTo text) fewer
    rw [remaining]
    exact ⟨quiet, solid.trans settles.solid⟩

/-- Each suggested fix is exact: it takes its own violation out of the list, those in front
stay and those behind are moved by what the text has grown. All fixes can be carried out
in any order or at once, with the same outcome: a text without violations whose characters
other than blanks are those of the text. -/
theorem checkText_settled_by_fixes (text : Text) :
    (∀ before violation after, checkText text = before ++ violation :: after →
      ∃ fix : Fix, violation.fix = some fix
        ∧ 0 ≤ fix.span.start ∧ fix.span.start ≤ fix.span.stop ∧ fix.span.stop ≤ text.length
        ∧ checkText (fix.applyTo text)
          = before ++ after.map (·.shift ((fix.applyTo text).length - text.length)))
    ∧ (∀ order, order.Perm (fixesOf (checkText text)) →
        text.applyInOrder order = text.applyTogether 0 (fixesOf (checkText text)))
    ∧ checkText (text.applyTogether 0 (fixesOf (checkText text))) = []
    ∧ (text.applyTogether 0 (fixesOf (checkText text))).filter (!isBlank ·)
        = text.filter (!isBlank ·) := by
  have apart : Fix.Apart 0 text.length (fixesOf (checkText text)) := by
    rw [checkText_eq]
    exact apart_fixesOf none text
  have together : text.applyTogether 0 (fixesOf (checkText text))
      = (fixesOf (checkText text)).foldr Fix.applyTo text :=
    apart.applyTogether_eq (Int.le_refl _)
  refine ⟨?_, ?_, ?_⟩
  · intro before violation after found
    rw [checkText_eq] at found
    obtain ⟨fix, isFix, settles⟩ := exists_settling_fix found
    refine ⟨fix, isFix, settles.first, settles.ordered, settles.last, ?_⟩
    have length := Fix.length_applyTo settles.first settles.ordered settles.last
    have grown : ((fix.applyTo text).length : Int) - text.length = fix.growth := by omega
    rw [grown, checkText_eq, settles.violations]
  · intro order reordered
    rw [together, apart.applyInOrder_eq (Int.le_refl _) reordered]
  · rw [together, checkText_eq, checkText_eq]
    exact violationsBehind_foldr none text

/-- Three fixes of one text, carried out from the back. -/
theorem checkText_settled_by_fixes_backwards :
    (fixesOf (checkText "あa bい　cう".toList)).length = 3
    ∧ Text.applyInOrder "あa bい　cう".toList (fixesOf (checkText "あa bい　cう".toList)).reverse
      = "あ a b いcう".toList := by
  refine ⟨by decide +kernel, ?_⟩
  obtain ⟨_, orders, _⟩ := checkText_settled_by_fixes "あa bい　cう".toList
  rw [orders _ (List.reverse_perm _)]
  decide +kernel

end JapaneseSpacing
