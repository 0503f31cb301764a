import JapaneseSpacing.Proofs.Source.Locate

/-!
# Searches that never go back

A part counts as being found at its first occurrence between the bounds of the search, and never
in front of the floor (`Finding.sound`). One search after another for the lines of a content
therefore leads forward, however many of them find nothing and wherever a search is refused
(`lineFindings_forward`).
-/

namespace JapaneseSpacing

/-! ## One search -/

section Place

variable {text part : Text} {window : Int × Int}

/-- A part without characters and one that is not found count as being found where the window
starts, any other part where it is found. -/
theorem placeIn_cases (text part : Text) (window : Int × Int) :
    (part = [] ∧ placeIn text part window = window.1)
      ∨ (part ≠ [] ∧ text.find? part window.1 window.2 = none
        ∧ placeIn text part window = window.1)
      ∨ ∃ found : Nat, part ≠ [] ∧ text.find? part window.1 window.2 = some found
        ∧ placeIn text part window = found := by
  rw [placeIn, occurrenceIn?]
  cases part with
  | nil => exact .inl ⟨rfl, rfl⟩
  | cons char rest =>
    have someChars : char :: rest ≠ [] := List.cons_ne_nil _ _
    rw [List.isEmpty_cons, if_neg Bool.false_ne_true]
    cases text.find? (char :: rest) window.1 window.2 with
    | none => exact .inr (.inl ⟨someChars, rfl, rfl⟩)
    | some found => exact .inr (.inr ⟨found, someChars, rfl, rfl⟩)

/-- No part counts as being found in front of the window. -/
theorem le_placeIn (text part : Text) (window : Int × Int) :
    window.1 ≤ placeIn text part window := by
  rcases placeIn_cases text part window with
    ⟨_, atStart⟩ | ⟨_, _, atStart⟩ | ⟨found, someChars, isFound, atFound⟩
  · exact Int.le_of_eq atStart.symm
  · exact Int.le_of_eq atStart.symm
  · rw [atFound]
    exact Text.le_find? someChars isFound

variable (first : 0 ≤ window.1) (inside : 0 ≤ window.2) (last : window.2 ≤ text.length)
include first inside last

/-- A part that occurs in the window counts as being found at its first occurrence there. -/
theorem placeIn_first {place : Int} (occurs : text.OccursBetween part window.1 window.2 place) :
    text.OccursBetween part window.1 window.2 (placeIn text part window)
      ∧ placeIn text part window ≤ place := by
  rcases placeIn_cases text part window with
    ⟨rfl, atStart⟩ | ⟨someChars, missing, _⟩ | ⟨found, someChars, isFound, atFound⟩
  · have lower := occurs.lower
    have upper := occurs.upper
    rw [atStart]
    exact ⟨⟨Int.le_refl _, Int.le_trans (Int.add_le_add_right lower _) upper, List.nil_prefix⟩,
      lower⟩
  · exact absurd occurs (Text.find?_eq_none someChars first inside last missing place)
  · have leftmost := Text.find?_eq_some someChars first inside last isFound
    rw [atFound]
    exact ⟨leftmost.1, leftmost.2 place occurs⟩

/-- A part that does not occur in the window counts as being found at its start. -/
theorem placeIn_missing
    (missing : ∀ place, ¬ text.OccursBetween part window.1 window.2 place) :
    placeIn text part window = window.1 := by
  rcases placeIn_cases text part window with
    ⟨_, atStart⟩ | ⟨_, _, atStart⟩ | ⟨found, someChars, isFound, _⟩
  · exact atStart
  · exact atStart
  · exact absurd (Text.find?_eq_some someChars first inside last isFound).1 (missing found)

end Place

/-- A search that is refused leaves everything as it is. -/
theorem locatePart_fails {text part : Text} {line : Option Int} {state after : ReadState}
    {problem : TreeError}
    (fails : (locatePart (SourceLines.ofText text) part line).Fails state problem after) :
    after = state := by
  cases bounds : searchBounds? text line state.floor with
  | none =>
    have both := fails.symm.trans (locatePart_refused bounds)
    exact congrArg Prod.snd both
  | some window =>
    exact ((locatePart_between bounds).not_fails fails).elim

/-- A search that was carried out: the state that it began in, where the part counts as being
found, and the state that it left. -/
structure Finding (source : SourceLines) where
  part : Text
  line : Option Int
  before : ReadState
  position : Int
  after : ReadState
  found : (locatePart source part line).Gives before position after

/-- What is promised of a search: it does not go back behind the floor, it moves the floor
behind the part, and it stops at the first occurrence between its bounds, or at the lower one if
there is none. -/
structure Finding.Sound {text : Text} (finding : Finding (SourceLines.ofText text)) : Prop where
  forward : finding.before.floor ≤ finding.position
  floor_eq : finding.after.floor = finding.position + finding.part.length
  first : ∃ lower upper,
    searchBounds? text finding.line finding.before.floor = some (lower, upper)
    ∧ (∀ place, text.OccursBetween finding.part lower upper place →
      text.OccursBetween finding.part lower upper finding.position ∧ finding.position ≤ place)
    ∧ ((∀ place, ¬ text.OccursBetween finding.part lower upper place) →
      finding.position = lower)

namespace Finding

variable {text : Text} (finding : Finding (SourceLines.ofText text))

/-- A search that was carried out had bounds, and they decide where it ends. -/
theorem exists_window : ∃ window,
    searchBounds? text finding.line finding.before.floor = some window
    ∧ finding.position = placeIn text finding.part window
    ∧ finding.after.floor = finding.position + finding.part.length := by
  cases bounds : searchBounds? text finding.line finding.before.floor with
  | none =>
    exact (finding.found.not_fails (locatePart_refused bounds)).elim
  | some window =>
    obtain ⟨position, after⟩ := finding.found.unique (locatePart_between bounds)
    refine ⟨window, rfl, position, ?_⟩
    rw [after, position]

theorem floor_le_position : finding.before.floor ≤ finding.position := by
  obtain ⟨window, bounds, position, _⟩ := finding.exists_window
  have behind := (searchBounds?_inside bounds).1
  have lower := le_placeIn text finding.part window
  omega

theorem after_floor : finding.after.floor = finding.position + finding.part.length := by
  obtain ⟨_, _, _, after⟩ := finding.exists_window
  exact after

theorem floor_le_after : finding.before.floor ≤ finding.after.floor := by
  have behind := finding.floor_le_position
  have after := finding.after_floor
  omega

/-- A search from inside the document or behind it keeps all that is promised. -/
theorem sound (started : 0 ≤ finding.before.floor) : finding.Sound := by
  obtain ⟨window, bounds, position, _⟩ := finding.exists_window
  obtain ⟨behind, inside, last⟩ := searchBounds?_inside bounds
  have first : 0 ≤ window.1 := Int.le_trans started behind
  refine ⟨finding.floor_le_position, finding.after_floor, window.1, window.2, bounds, ?_, ?_⟩
  · intro place occurs
    rw [position]
    exact placeIn_first first inside last occurs
  · intro missing
    rw [position]
    exact placeIn_missing first inside last missing

end Finding

/-! ## One search after another -/

/-- One search ends in front of the other. -/
structure Finding.Precedes {source : SourceLines} (earlier later : Finding source) : Prop where
  apart : earlier.position + earlier.part.length ≤ later.position
  floors : earlier.after.floor ≤ later.before.floor

/-- The searches lead from one floor to another and never go back in between. -/
def Forward {source : SourceLines} (first last : Int) : List (Finding source) → Prop
  | [] => first ≤ last
  | finding :: rest => first ≤ finding.before.floor ∧ Forward finding.after.floor last rest

namespace Forward

variable {text : Text} {first between last : Int}
  {findings others : List (Finding (SourceLines.ofText text))}

theorem le (forward : Forward first last findings) : first ≤ last := by
  induction findings generalizing first with
  | nil => exact forward
  | cons finding rest inductionHypothesis =>
    exact Int.le_trans forward.1
      (Int.le_trans finding.floor_le_after (inductionHypothesis forward.2))

theorem append (earlier : Forward first between findings)
    (later : Forward between last others) : Forward first last (findings ++ others) := by
  induction findings generalizing first with
  | nil =>
    cases others with
    | nil => exact Int.le_trans earlier later
    | cons finding rest => exact ⟨Int.le_trans earlier later.1, later.2⟩
  | cons finding rest inductionHypothesis => exact ⟨earlier.1, inductionHypothesis earlier.2⟩

/-- Every search starts at or behind the first floor. -/
theorem le_before (forward : Forward first last findings) {finding : Finding (.ofText text)}
    (member : finding ∈ findings) : first ≤ finding.before.floor := by
  induction findings generalizing first with
  | nil => cases member
  | cons other rest inductionHypothesis =>
    rcases List.mem_cons.1 member with rfl | later
    · exact forward.1
    · exact Int.le_trans forward.1
        (Int.le_trans other.floor_le_after (inductionHypothesis forward.2 later))

/-- The parts that were found follow each other in the document. -/
theorem pairwise (forward : Forward first last findings) :
    findings.Pairwise Finding.Precedes := by
  induction findings generalizing first with
  | nil => exact .nil
  | cons finding rest inductionHypothesis =>
    refine .cons (fun later member => ?_) (inductionHypothesis forward.2)
    have floors := forward.2.le_before member
    have after := finding.after_floor
    have behind := later.floor_le_position
    exact ⟨by omega, floors⟩

end Forward

/-! ## The lines of a content -/

/-- The searches for lines one after another, up to the first one that is refused. -/
def lineFindings (source : SourceLines) (state : ReadState) (line : Option Int) :
    List Text → List (Finding source)
  | [] => []
  | part :: rest =>
    match found : (locatePart source part line).run.run state with
    | (.ok position, after) =>
      ⟨part, line, state, position, after, found⟩
        :: lineFindings source after (line.map (· + 1)) rest
    | (.error _, _) => []

section Lines

variable {source : SourceLines} {state after : ReadState} {line : Option Int} {part : Text}
  {position : Int} {problem : TreeError}

theorem lineFindings_gives (found : (locatePart source part line).Gives state position after)
    (rest : List Text) :
    lineFindings source state line (part :: rest)
      = ⟨part, line, state, position, after, found⟩
        :: lineFindings source after (line.map (· + 1)) rest := by
  rw [lineFindings]
  split
  · next other next same =>
    obtain ⟨rfl, rfl⟩ := found.unique same
    rfl
  · next other next refused => exact (found.not_fails refused).elim

theorem lineFindings_fails (refused : (locatePart source part line).Fails state problem after)
    (rest : List Text) : lineFindings source state line (part :: rest) = [] := by
  rw [lineFindings]
  split
  · next other next found => exact (Reading.Gives.not_fails found refused).elim
  · rfl

/-- A single search leads forward, also if it is refused. -/
theorem locatePart_forward (text part : Text) (state : ReadState) (line : Option Int) :
    Forward state.floor ((locatePart (SourceLines.ofText text) part line).after state).floor
      (lineFindings (SourceLines.ofText text) state line [part]) := by
  rcases (locatePart (.ofText text) part line).gives_or_fails state with
    ⟨position, after, found⟩ | ⟨problem, after, refused⟩
  · rw [found.after_eq, lineFindings_gives found]
    exact ⟨Int.le_refl _, Int.le_refl _⟩
  · rw [refused.after_eq, lineFindings_fails refused, locatePart_fails refused]
    exact Int.le_refl _

/-- The searches for lines lead from the floor to the one that they leave. -/
theorem lineFindings_forward (text : Text) (state : ReadState) (line : Option Int) (offset : Int)
    (parts : List Text) :
    Forward state.floor ((locateLines (SourceLines.ofText text) line offset parts).after state).floor
      (lineFindings (SourceLines.ofText text) state line parts) := by
  induction parts generalizing state line offset with
  | nil => exact Int.le_refl _
  | cons part rest inductionHypothesis =>
    rw [locateLines]
    rcases (locatePart (.ofText text) part line).gives_or_fails state with
      ⟨position, after, found⟩ | ⟨problem, after, refused⟩
    · rw [found.after_bind, lineFindings_gives found]
      refine ⟨Int.le_refl _, ?_⟩
      rw [Reading.KeepsFloor.after_bind fun _ => .pure _]
      exact inductionHypothesis after _ _
    · rw [refused.after_bind, lineFindings_fails refused, locatePart_fails refused]
      exact Int.le_refl _

end Lines

end JapaneseSpacing
