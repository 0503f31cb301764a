import JapaneseSpacing.Proofs.HalfWidth.MaximalRun
import JapaneseSpacing.Proofs.HalfWidth.Parts

/-!
# The places of a core

`CoreSpan.Of` says where the core of a maximal run starts and stops and how far the blanks
beside it reach; a run has one such span only (`CoreSpan.Of.unique`). `RunParts.spanAt_of` says
that these are the places of the parts.
-/

namespace JapaneseSpacing

/-- The places of a core and of the blanks beside it. -/
structure CoreSpan where
  outerStart : Nat
  start : Nat
  stop : Nat
  outerStop : Nat

/-- A span reaches from the first letter or digit of a run to the last one, and its outer
span takes in all the blanks right beside it. -/
structure CoreSpan.Of (span : CoreSpan) (text : Text) (first last : Nat) : Prop where
  first_le : first ≤ span.start
  opens : text.Has isAsciiAlphanumeric span.start
  before_bare : ∀ place, first ≤ place → place < span.start →
    ¬ text.Has isAsciiAlphanumeric place
  start_lt : span.start < span.stop
  stop_le : span.stop ≤ last
  closes : text.Has isAsciiAlphanumeric (span.stop - 1)
  behind_bare : ∀ place, span.stop ≤ place → place < last →
    ¬ text.Has isAsciiAlphanumeric place
  outerStart_le : span.outerStart ≤ span.start
  before_blank : ∀ place, span.outerStart ≤ place → place < span.start →
    text.Has isBlank place
  before_maximal : ∀ place, place + 1 = span.outerStart → ¬ text.Has isBlank place
  stop_le_outer : span.stop ≤ span.outerStop
  behind_blank : ∀ place, span.stop ≤ place → place < span.outerStop → text.Has isBlank place
  behind_maximal : ¬ text.Has isBlank span.outerStop

/-- The core with the given places in a text. -/
def CoreSpan.core (span : CoreSpan) (text : Text) : HalfWidthCore :=
  let body := (text.take span.stop).drop span.start
  { text := body
    start := span.start
    stop := span.stop
    outerStart := span.outerStart
    outerStop := span.outerStop
    isPhrase := body.any isBlank || isUrl body || isEmail body
    hasBlankBefore := span.outerStart < span.start
    hasBlankAfter := span.stop < span.outerStop }

theorem CoreSpan.Of.hasAlphanumeric {text : Text} {span : CoreSpan} {first last : Nat}
    (ofRun : span.Of text first last) : HasAlphanumeric text first last :=
  ⟨span.start, ofRun.first_le, Nat.lt_of_lt_of_le ofRun.start_lt ofRun.stop_le, ofRun.opens⟩

/-- The outer span of a core stays inside its run. -/
theorem CoreSpan.Of.within {text : Text} {span : CoreSpan} {first last : Nat}
    (ofRun : span.Of text first last) (maximal : IsMaximalRun text first last) :
    first ≤ span.outerStart ∧ span.outerStop ≤ last := by
  have blankInside : ∀ place, text.Has isBlank place → text.Has isRunChar place :=
    fun place blank => blank.mono fun _ => isRunChar_of_isBlank
  constructor
  · by_contra before
    have firstLe := ofRun.first_le
    have blank := ofRun.before_blank (first - 1) (by omega) (by omega)
    exact maximal.before (first - 1) (by omega) (blankInside _ blank)
  · by_contra behind
    exact maximal.behind (blankInside last (ofRun.behind_blank last ofRun.stop_le (by omega)))

theorem CoreSpan.Of.between {text : Text} {span : CoreSpan} {first last : Nat}
    (ofRun : span.Of text first last) (maximal : IsMaximalRun text first last) :
    (span.core text).Between first last := by
  obtain ⟨firstLe, leLast⟩ := ofRun.within maximal
  have outerStart := ofRun.outerStart_le
  have start := ofRun.start_lt
  have outerStop := ofRun.stop_le_outer
  constructor <;> simp only [CoreSpan.core] <;> omega

section Uniqueness

variable {text : Text} {span other : CoreSpan} {first last : Nat}

theorem CoreSpan.Of.start_le_start (ofRun : span.Of text first last)
    (otherOfRun : other.Of text first last) : span.start ≤ other.start := by
  by_contra behind
  exact ofRun.before_bare other.start otherOfRun.first_le (Nat.lt_of_not_le behind) otherOfRun.opens

theorem CoreSpan.Of.stop_le_stop (ofRun : span.Of text first last)
    (otherOfRun : other.Of text first last) : other.stop ≤ span.stop := by
  by_contra behind
  have otherStop := otherOfRun.stop_le
  have otherStart := otherOfRun.start_lt
  exact ofRun.behind_bare (other.stop - 1) (by omega) (by omega) otherOfRun.closes

theorem CoreSpan.Of.outerStart_le_outerStart (ofRun : span.Of text first last)
    (otherOfRun : other.Of text first last) (sameStart : span.start = other.start) :
    span.outerStart ≤ other.outerStart := by
  by_contra behind
  have outerStart := ofRun.outerStart_le
  exact ofRun.before_maximal (span.outerStart - 1) (by omega)
    (otherOfRun.before_blank _ (by omega) (by omega))

theorem CoreSpan.Of.outerStop_le_outerStop (ofRun : span.Of text first last)
    (otherOfRun : other.Of text first last) (sameStop : span.stop = other.stop) :
    other.outerStop ≤ span.outerStop := by
  by_contra behind
  have outerStop := ofRun.stop_le_outer
  exact ofRun.behind_maximal (otherOfRun.behind_blank _ (by omega) (by omega))

/-- The places of a core are told by its run. -/
theorem CoreSpan.Of.unique (ofRun : span.Of text first last)
    (otherOfRun : other.Of text first last) : span = other := by
  have sameStart := Nat.le_antisymm (ofRun.start_le_start otherOfRun)
    (otherOfRun.start_le_start ofRun)
  have sameStop := Nat.le_antisymm (otherOfRun.stop_le_stop ofRun) (ofRun.stop_le_stop otherOfRun)
  have sameOuterStart := Nat.le_antisymm (ofRun.outerStart_le_outerStart otherOfRun sameStart)
    (otherOfRun.outerStart_le_outerStart ofRun sameStart.symm)
  have sameOuterStop := Nat.le_antisymm (otherOfRun.outerStop_le_outerStop ofRun sameStop.symm)
    (ofRun.outerStop_le_outerStop otherOfRun sameStop)
  cases span
  cases other
  simp_all

end Uniqueness

namespace RunParts

variable {front rest : Text}

/-- The places of the core of a run that begins at `offset`. -/
def spanAt (parts : RunParts) (offset : Nat) : CoreSpan where
  outerStart := offset + parts.lead.length
  start := offset + parts.lead.length + parts.blanksBefore.length
  stop := offset + parts.lead.length + parts.blanksBefore.length + parts.core.length
  outerStop := offset + parts.lead.length + parts.blanksBefore.length + parts.core.length
    + parts.blanksAfter.length

/-- The parts of a maximal run have the places that the conditions on a span ask for. -/
theorem spanAt_of (parts : RunParts)
    (frontStops : ∀ char ∈ front.getLast?, isRunChar char = false)
    (restStops : ∀ char ∈ rest.head?, isRunChar char = false) :
    (parts.spanAt front.length).Of (front ++ parts.text ++ rest) front.length
      (front.length + parts.text.length) := by
  have coreLength : 0 < parts.core.length := List.length_pos_of_ne_nil parts.core_ne_nil
  have atFront : front ++ parts.text ++ rest = front ++ (parts.lead ++ parts.blanksBefore)
      ++ (parts.core ++ (parts.blanksAfter ++ parts.tail ++ rest)) := by simp [text]
  have atBlanks : front ++ parts.text ++ rest = (front ++ parts.lead) ++ parts.blanksBefore
      ++ (parts.core ++ (parts.blanksAfter ++ parts.tail ++ rest)) := by simp [text]
  have atBack : front ++ parts.text ++ rest
      = (front ++ parts.lead ++ parts.blanksBefore ++ parts.core)
        ++ (parts.blanksAfter ++ parts.tail) ++ rest := by simp [text]
  have atTail : front ++ parts.text ++ rest
      = (front ++ parts.lead ++ parts.blanksBefore ++ parts.core)
        ++ parts.blanksAfter ++ (parts.tail ++ rest) := by simp [text]
  have lengths := parts.length_text
  exact
  { first_le := by simp only [spanAt]; omega
    opens := by
      obtain ⟨first, isFirst, opens⟩ := parts.core_opens
      rw [Option.mem_def] at isFirst
      rw [atBlanks, show (parts.spanAt front.length).start
        = (front ++ parts.lead ++ parts.blanksBefore).length by simp [spanAt, Nat.add_assoc]]
      exact Text.has_head.2 ⟨first, by simp [List.head?_append, isFirst], opens⟩
    before_bare := by
      intro place lower upper
      rw [atFront]
      refine Text.not_has_stretch parts.front_bare lower ?_
      simpa [spanAt, Nat.add_assoc] using upper
    start_lt := by simp only [spanAt]; omega
    stop_le := by simp only [spanAt]; omega
    closes := by
      obtain ⟨last, isLast, closes⟩ := parts.core_closes
      rw [Option.mem_def] at isLast
      rw [atBack, List.append_assoc]
      refine (Text.has_getLast ?_).2 ⟨last, by simp [List.getLast?_append, isLast], closes⟩
      simp only [spanAt, List.length_append]
      omega
    behind_bare := by
      intro place lower upper
      rw [atBack]
      refine Text.not_has_stretch parts.back_bare ?_ ?_
      · simpa [spanAt, Nat.add_assoc] using lower
      · simpa [lengths, Nat.add_assoc] using upper
    outerStart_le := by simp only [spanAt]; omega
    before_blank := by
      intro place lower upper
      rw [atBlanks]
      refine Text.has_stretch parts.blanksBefore_blank ?_ ?_
      · simpa [spanAt, Nat.add_assoc] using lower
      · simpa [spanAt, Nat.add_assoc] using upper
    before_maximal := by
      intro place isLast
      rw [atBlanks, List.append_assoc]
      refine Text.not_has_getLast ?_ (parts.lead_stops_blanks frontStops)
      simpa [spanAt] using isLast
    stop_le_outer := by simp only [spanAt]; omega
    behind_blank := by
      intro place lower upper
      rw [atTail]
      refine Text.has_stretch parts.blanksAfter_blank ?_ ?_
      · simpa [spanAt, Nat.add_assoc] using lower
      · simpa [spanAt, Nat.add_assoc] using upper
    behind_maximal := by
      rw [atTail, show (parts.spanAt front.length).outerStop = (front ++ parts.lead
        ++ parts.blanksBefore ++ parts.core ++ parts.blanksAfter).length by
        simp [spanAt, Nat.add_assoc]]
      exact Text.not_has_head (parts.tail_stops_blanks restStops) }

theorem spanAt_core (parts : RunParts) :
    (parts.spanAt front.length).core (front ++ parts.text ++ rest)
      = parts.coreAt front.length := by
  have body : ((front ++ parts.text ++ rest).take (parts.spanAt front.length).stop).drop
      (parts.spanAt front.length).start = parts.core := by
    have whole : front ++ parts.text ++ rest
        = (front ++ parts.lead ++ parts.blanksBefore ++ parts.core)
          ++ (parts.blanksAfter ++ parts.tail ++ rest) := by simp [text]
    rw [whole, List.take_left' (by simp [spanAt, Nat.add_assoc]),
      List.drop_left' (by simp [spanAt, Nat.add_assoc])]
  simp only [CoreSpan.core, body]
  simp [spanAt, coreAt, isPhraseText]

end RunParts

end JapaneseSpacing
