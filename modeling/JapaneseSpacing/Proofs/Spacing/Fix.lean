import JapaneseSpacing.Proofs.Spacing.Context
import Mathlib.Data.List.Perm.Basic

/-!
# Carrying out fixes

A fix replaces a span of a text. Fixes that lie apart can be carried out together, or
one by one in any order as long as each one still to come is moved along:
`Apart.applyInOrder_eq` says that the order does not matter.
-/

namespace JapaneseSpacing

namespace Fix

/-- The text with the span of the fix replaced by the text of the fix. -/
def applyTo (fix : Fix) (text : Text) : Text :=
  text.take fix.span.start.toNat ++ fix.text ++ text.drop fix.span.stop.toNat

/-- How much longer a fix makes a text. -/
def growth (fix : Fix) : Int :=
  fix.text.length - (fix.span.stop - fix.span.start)

/-- Where a fix has to be carried out once another one has been: behind that one it is
moved along with the text, in front of it it stays. -/
def movedBy (other applied : Fix) : Fix :=
  if applied.span.stop ≤ other.span.start then other.shift applied.growth else other

/-- The fixes follow each other between two offsets, and no two of them touch. -/
def Apart (first last : Int) : List Fix → Prop
  | [] => True
  | fix :: rest => first ≤ fix.span.start ∧ fix.span.start ≤ fix.span.stop
      ∧ fix.span.stop ≤ last ∧ Apart (fix.span.stop + 1) last rest

end Fix

namespace Text

/-- The text from `position` on with all fixes carried out at once, their spans being
offsets into the text as it is. -/
def applyTogether (text : Text) (position : Nat) : List Fix → Text
  | [] => text.drop position
  | fix :: rest =>
    (text.take fix.span.start.toNat).drop position ++ fix.text
      ++ applyTogether text fix.span.stop.toNat rest

/-- The text after the fixes have been carried out one after the other in the given
order, each being moved by those before it. -/
def applyInOrder (text : Text) : List Fix → Text
  | [] => text
  | fix :: rest => applyInOrder (fix.applyTo text) (rest.map (·.movedBy fix))
termination_by order => order.length
decreasing_by simp

end Text

namespace Fix

@[simp]
theorem shift_start (fix : Fix) (distance : Int) :
    (fix.shift distance).span.start = distance + fix.span.start := rfl

@[simp]
theorem shift_stop (fix : Fix) (distance : Int) :
    (fix.shift distance).span.stop = distance + fix.span.stop := rfl

@[simp]
theorem shift_text (fix : Fix) (distance : Int) : (fix.shift distance).text = fix.text := rfl

theorem shift_growth (fix : Fix) (distance : Int) :
    (fix.shift distance).growth = fix.growth := by
  simp only [growth, shift_text, shift_start, shift_stop]
  omega

theorem length_applyTo {fix : Fix} {text : Text} (first : 0 ≤ fix.span.start)
    (ordered : fix.span.start ≤ fix.span.stop) (last : fix.span.stop ≤ text.length) :
    ((fix.applyTo text).length : Int) = text.length + fix.growth := by
  simp only [applyTo, growth, List.length_append, List.length_take, List.length_drop]
  omega

/-- A fix of the middle of a text. -/
theorem applyTo_middle {fix : Fix} {front middle back : Text}
    (start : fix.span.start = front.length)
    (stop : fix.span.stop = (front.length + middle.length : Nat)) :
    fix.applyTo (front ++ middle ++ back) = front ++ fix.text ++ back := by
  have startPlace : fix.span.start.toNat = front.length := by omega
  have stopPlace : fix.span.stop.toNat = (front ++ middle).length := by
    simp only [List.length_append]
    omega
  rw [applyTo, startPlace, stopPlace, List.drop_left, List.append_assoc front middle,
    List.take_left]

/-- A fix leaves alone what stands in front of its span. -/
theorem applyTo_append_right {fix : Fix} (front text : Text) (first : 0 ≤ fix.span.start)
    (ordered : fix.span.start ≤ fix.span.stop) :
    (fix.shift front.length).applyTo (front ++ text) = front ++ fix.applyTo text := by
  have start : (fix.shift front.length).span.start.toNat
      = front.length + fix.span.start.toNat := by
    simp only [shift_start]
    omega
  have stop : (fix.shift front.length).span.stop.toNat
      = front.length + fix.span.stop.toNat := by
    simp only [shift_stop]
    omega
  rw [applyTo, start, stop, List.take_length_add_append, List.drop_length_add_append, applyTo,
    shift_text]
  simp only [List.append_assoc]

/-- A fix leaves alone what stands behind its span. -/
theorem applyTo_append_left {fix : Fix} {text : Text} (more : Text)
    (ordered : fix.span.start ≤ fix.span.stop) (last : fix.span.stop ≤ text.length) :
    fix.applyTo (text ++ more) = fix.applyTo text ++ more := by
  rw [applyTo, List.take_append_of_le_length (by omega), List.drop_append_of_le_length (by omega),
    applyTo]
  simp only [List.append_assoc]

/-- A text whose length reaches `stop` has the span from `start` to `stop` as its middle. -/
theorem exists_middle {text : Text} {start stop : Int} (first : 0 ≤ start)
    (ordered : start ≤ stop) (last : stop ≤ text.length) :
    ∃ front middle back, text = front ++ middle ++ back ∧ start = front.length
      ∧ stop = (front.length + middle.length : Nat) := by
  refine ⟨text.take start.toNat, (text.take stop.toNat).drop start.toNat,
    text.drop stop.toNat, ?_, ?_, ?_⟩
  · have front : text.take start.toNat = (text.take stop.toNat).take start.toNat := by
      rw [List.take_take, Nat.min_eq_left (by omega)]
    rw [front, List.take_append_drop, List.take_append_drop]
  · rw [List.length_take]
    omega
  · rw [List.length_drop, List.length_take, List.length_take]
    omega

/-- Two fixes that lie apart can change places. -/
theorem applyTo_comm {earlier later : Fix} {text : Text} (first : 0 ≤ earlier.span.start)
    (ordered : earlier.span.start ≤ earlier.span.stop)
    (apart : earlier.span.stop ≤ later.span.start)
    (laterOrdered : later.span.start ≤ later.span.stop) (last : later.span.stop ≤ text.length) :
    earlier.applyTo (later.applyTo text)
      = (later.shift earlier.growth).applyTo (earlier.applyTo text) := by
  obtain ⟨front, second, back, rfl, laterStart, laterStop⟩ :=
    exists_middle (by omega) laterOrdered last
  obtain ⟨start, first, between, rfl, earlierStart, earlierStop⟩ :=
    exists_middle first ordered (laterStart ▸ apart)
  have earlierFirst : earlier.applyTo (start ++ first ++ between ++ second ++ back)
      = start ++ earlier.text ++ between ++ second ++ back := by
    rw [List.append_assoc _ between, List.append_assoc _ (between ++ second),
      applyTo_middle earlierStart earlierStop]
    simp only [List.append_assoc]
  have growth : earlier.growth = (earlier.text.length : Int) - first.length := by
    rw [Fix.growth]
    omega
  rw [applyTo_middle laterStart laterStop, earlierFirst]
  rw [List.append_assoc _ later.text, List.append_assoc _ between,
    applyTo_middle earlierStart earlierStop, applyTo_middle]
  · simp only [List.append_assoc, shift_text]
  · simp only [shift_start, growth, laterStart, List.length_append]
    omega
  · simp only [shift_stop, growth, laterStop, List.length_append]
    omega

theorem Apart.mono {first first' last : Int} {fixes : List Fix} (apart : Apart first last fixes)
    (earlier : first' ≤ first) : Apart first' last fixes := by
  cases fixes with
  | nil => trivial
  | cons fix rest =>
    obtain ⟨start, ordered, stop, restApart⟩ := apart
    exact ⟨by omega, ordered, stop, restApart⟩

/-- Fixes in two neighbouring stretches of a text lie apart if those of each do. -/
theorem apart_append {first middle last : Int} {front back : List Fix}
    (ordered : middle + 1 ≤ last) (frontApart : Apart first middle front)
    (backApart : Apart (middle + 1) last back) (firstLe : first ≤ middle + 1) :
    Apart first last (front ++ back) := by
  induction front generalizing first with
  | nil => exact backApart.mono firstLe
  | cons fix rest inductionHypothesis =>
    obtain ⟨start, startLe, stop, restApart⟩ := frontApart
    exact ⟨start, startLe, by omega, inductionHypothesis restApart (by omega)⟩

/-- Each of the fixes has its span between the two offsets. -/
theorem Apart.bounds {first last : Int} {fixes : List Fix} (apart : Apart first last fixes)
    {fix : Fix} (member : fix ∈ fixes) : first ≤ fix.span.start
      ∧ fix.span.start ≤ fix.span.stop ∧ fix.span.stop ≤ last := by
  induction fixes generalizing first with
  | nil => contradiction
  | cons head rest inductionHypothesis =>
    obtain ⟨start, ordered, stop, restApart⟩ := apart
    rcases List.mem_cons.1 member with rfl | inRest
    · exact ⟨start, ordered, stop⟩
    · have bounds := inductionHypothesis restApart inRest
      exact ⟨by omega, bounds.2⟩

theorem Apart.shift {first last : Int} {fixes : List Fix} (apart : Apart first last fixes)
    (distance : Int) :
    Apart (distance + first) (distance + last) (fixes.map (·.shift distance)) := by
  induction fixes generalizing first with
  | nil => trivial
  | cons fix rest inductionHypothesis =>
    obtain ⟨start, ordered, stop, restApart⟩ := apart
    refine ⟨by simp only [shift_start]; omega, by simp only [shift_start, shift_stop]; omega,
      by simp only [shift_stop]; omega, ?_⟩
    rw [shift_stop, Int.add_assoc]
    exact inductionHypothesis restApart

/-- Carried out from the last to the first, fixes that lie apart keep their offsets, since
the text in front of them is still as it was. -/
theorem Apart.take_foldr {first : Int} {fixes : List Fix} {text : Text} {count : Nat}
    (apart : Apart first text.length fixes) (before : count ≤ first)
    (within : count ≤ text.length) :
    (fixes.foldr applyTo text).take count = text.take count := by
  induction fixes generalizing first count with
  | nil => rfl
  | cons fix rest inductionHypothesis =>
    obtain ⟨start, ordered, stop, restApart⟩ := apart
    have front : (rest.foldr applyTo text).take fix.span.start.toNat
        = text.take fix.span.start.toNat :=
      inductionHypothesis restApart (by omega) (by omega)
    rw [List.foldr_cons, applyTo, front, List.append_assoc,
      List.take_append_of_le_length (by rw [List.length_take]; omega), List.take_take,
      Nat.min_eq_left (by omega)]

theorem Apart.le_length_foldr {first : Int} {fixes : List Fix} {text : Text} {count : Nat}
    (apart : Apart first text.length fixes) (before : count ≤ first)
    (within : count ≤ text.length) : count ≤ (fixes.foldr applyTo text).length := by
  have kept := congrArg List.length (apart.take_foldr before within)
  rw [List.length_take, List.length_take] at kept
  omega

/-- Carrying out fixes at once is carrying them out from the last to the first. -/
theorem Apart.applyTogether_eq {first : Int} {fixes : List Fix} {text : Text} {position : Nat}
    (apart : Apart first text.length fixes) (before : position ≤ first) :
    text.applyTogether position fixes = (fixes.foldr applyTo text).drop position := by
  induction fixes generalizing first position with
  | nil => rfl
  | cons fix rest inductionHypothesis =>
    obtain ⟨start, ordered, stop, restApart⟩ := apart
    have front : (rest.foldr applyTo text).take fix.span.start.toNat
        = text.take fix.span.start.toNat :=
      restApart.take_foldr (by omega) (by omega)
    rw [Text.applyTogether, List.foldr_cons, applyTo, front,
      inductionHypothesis restApart (by omega), List.append_assoc, List.append_assoc,
      List.drop_append_of_le_length (by rw [List.length_take]; omega)]

/-- A fix can be carried out before the fixes behind it if these are moved along. -/
theorem Apart.applyTo_foldr {fix : Fix} {first : Int} {fixes : List Fix} {text : Text}
    (apart : Apart first text.length fixes) (start : 0 ≤ fix.span.start)
    (ordered : fix.span.start ≤ fix.span.stop) (before : fix.span.stop ≤ first) :
    fix.applyTo (fixes.foldr applyTo text)
      = (fixes.map (·.shift fix.growth)).foldr applyTo (fix.applyTo text) := by
  induction fixes generalizing first with
  | nil => rfl
  | cons next rest inductionHypothesis =>
    obtain ⟨nextStart, nextOrdered, nextStop, restApart⟩ := apart
    have within : next.span.stop.toNat ≤ (rest.foldr applyTo text).length :=
      restApart.le_length_foldr (by omega) (by omega)
    rw [List.foldr_cons, applyTo_comm start ordered (by omega) nextOrdered (by omega),
      inductionHypothesis restApart (by omega)]
    rfl

/-- Any one of several fixes can be carried out first. -/
theorem Apart.foldr_middle {fix : Fix} {first : Int} {front back : List Fix} {text : Text}
    (apart : Apart first text.length (front ++ fix :: back)) (nonneg : 0 ≤ first) :
    (front ++ fix :: back).foldr applyTo text
      = (front ++ back.map (·.shift fix.growth)).foldr applyTo (fix.applyTo text) := by
  induction front generalizing first with
  | nil =>
    obtain ⟨start, ordered, stop, backApart⟩ := apart
    exact backApart.applyTo_foldr (by omega) ordered (by omega)
  | cons earlier rest inductionHypothesis =>
    obtain ⟨start, ordered, stop, restApart⟩ := apart
    rw [List.cons_append, List.foldr_cons, inductionHypothesis restApart (by omega)]
    rfl

/-- The fixes in front of one of several fixes stay and those behind it are moved. -/
theorem Apart.map_movedBy {fix : Fix} {first last : Int} {front back : List Fix}
    (apart : Apart first last (front ++ fix :: back)) :
    (front ++ back).map (·.movedBy fix) = front ++ back.map (·.shift fix.growth) := by
  induction front generalizing first with
  | nil =>
    obtain ⟨start, ordered, stop, backApart⟩ := apart
    apply List.map_congr_left
    intro other member
    have bounds := backApart.bounds member
    rw [movedBy, if_pos (by omega)]
  | cons earlier rest inductionHypothesis =>
    obtain ⟨start, ordered, stop, restApart⟩ := apart
    have bounds := restApart.bounds (List.mem_append_right rest List.mem_cons_self)
    rw [List.cons_append, List.map_cons, inductionHypothesis restApart, movedBy,
      if_neg (by omega), List.cons_append]

/-- After one of several fixes the others still lie apart. -/
theorem Apart.moved {fix : Fix} {first last : Int} {front back : List Fix}
    (apart : Apart first last (front ++ fix :: back)) :
    Apart first (last + fix.growth) (front ++ back.map (·.shift fix.growth)) := by
  induction front generalizing first with
  | nil =>
    obtain ⟨start, ordered, stop, backApart⟩ := apart
    have shifted := backApart.shift fix.growth
    rw [Int.add_comm fix.growth last] at shifted
    refine shifted.mono ?_
    rw [growth]
    omega
  | cons earlier rest inductionHypothesis =>
    obtain ⟨start, ordered, stop, restApart⟩ := apart
    have bounds := restApart.bounds (List.mem_append_right rest List.mem_cons_self)
    refine ⟨start, ordered, ?_, inductionHypothesis restApart⟩
    rw [growth]
    omega

/-- The order in which fixes that lie apart are carried out does not matter. -/
theorem Apart.applyInOrder_eq {first : Int} {fixes order : List Fix} {text : Text}
    (apart : Apart first text.length fixes) (nonneg : 0 ≤ first) (reordered : order.Perm fixes) :
    text.applyInOrder order = fixes.foldr applyTo text := by
  induction length : order.length generalizing order fixes text with
  | zero =>
    obtain rfl := List.length_eq_zero_iff.1 length
    obtain rfl := reordered.nil_eq
    rw [Text.applyInOrder]
    rfl
  | succ count inductionHypothesis =>
    obtain ⟨fix, rest, rfl⟩ := List.exists_cons_of_length_eq_add_one length
    obtain ⟨front, back, rfl⟩ := List.append_of_mem (reordered.subset List.mem_cons_self)
    have others : rest.Perm (front ++ back) :=
      (reordered.trans List.perm_middle).cons_inv
    have moved : (rest.map (·.movedBy fix)).Perm (front ++ back.map (·.shift fix.growth)) := by
      rw [← apart.map_movedBy]
      exact others.map _
    have bounds := apart.bounds (List.mem_append_right front List.mem_cons_self)
    have remaining := apart.moved
    rw [← length_applyTo (by omega) bounds.2.1 bounds.2.2] at remaining
    rw [Text.applyInOrder, inductionHypothesis remaining moved (by simpa using length),
      apart.foldr_middle nonneg]

end Fix

end JapaneseSpacing
