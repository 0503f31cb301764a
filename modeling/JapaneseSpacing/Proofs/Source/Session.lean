import JapaneseSpacing.Proofs.Source.Contents

/-!
# Reading sessions

A document can be read in steps of any kind and in any order, and a step that fails keeps what
it has read by then. Each step leads forward (`SessionStep.forward`), and so does a session
(`session_forward`): what has been located once is never gone back over
(`session_never_goes_back`).
-/

namespace JapaneseSpacing

/-- One step of reading a document: locating a part, asking for the end of a line, for the span
of some lines or for that of a link, filling a container with an inline token, or building a
whole tree. -/
inductive SessionStep where
  | locate (part : Text) (line : Option Int)
  | lineStop (line : Int)
  | lineSpan (range : Option (Int × Int))
  | linkSpan (children : List Token) (index : Int) (content : Text) (cursor : Int)
  | inline (token : BlockToken) (container : OpenNode)
  | build (tokens : List BlockToken)

namespace SessionStep

/-- The state that a step leaves, whether it succeeds or fails. -/
def after (source : SourceLines) (state : ReadState) : SessionStep → ReadState
  | locate part line => (locatePart source part line).after state
  | lineStop line => (Reading.ofOffset (source.lineStop line)).after state
  | lineSpan none => state
  | lineSpan (some (first, last)) => (Reading.ofOffset (source.rangeSpan first last)).after state
  | linkSpan children index content cursor =>
    (linkSpanAt children index content cursor).after state
  | inline token container => (fillContainer source token container).after state
  | build tokens => (buildTree source tokens).after state

/-- The searches in the document that a step carries out. -/
def findings (source : SourceLines) (state : ReadState) : SessionStep → List (Finding source)
  | locate part line => lineFindings source state line [part]
  | inline token _ =>
    lineFindings source state (token.lineRange.map (·.1)) (Text.lines token.content)
  | build tokens =>
    blockFindings source state
      (.inside [] { type := .document, span := ⟨0, source.text.length⟩ }) tokens
  | _ => []

/-- The contents that a step reads into containers. -/
def readings (source : SourceLines) (state : ReadState) : SessionStep → List ContentReading
  | inline token container => [⟨state, token, container⟩]
  | build tokens =>
    blockReadings source state
      (.inside [] { type := .document, span := ⟨0, source.text.length⟩ }) tokens
  | _ => []

/-- The searches for a content stand one behind the other among those of the step. -/
theorem infix_findings {source : SourceLines} {state : ReadState} {step : SessionStep}
    {reading : ContentReading} (member : reading ∈ step.readings source state) :
    reading.findings source <:+: step.findings source state := by
  cases step with
  | inline token container =>
    rw [List.mem_singleton.1 member]
    exact List.infix_rfl
  | build tokens => exact infix_blockFindings member
  | locate | lineStop | lineSpan | linkSpan => cases member

/-- A step of any kind leads forward. -/
theorem forward (text : Text) (state : ReadState) (step : SessionStep) :
    Forward state.floor (step.after (.ofText text) state).floor
      (step.findings (.ofText text) state) := by
  cases step with
  | locate part line => exact locatePart_forward text part state line
  | lineStop line => exact Int.le_of_eq (Reading.KeepsFloor.ofOffset _ state).symm
  | lineSpan range =>
    rcases range with _ | ⟨first, last⟩
    · exact Int.le_refl _
    · exact Int.le_of_eq (Reading.KeepsFloor.ofOffset _ state).symm
  | linkSpan children index content cursor =>
    exact Int.le_of_eq (linkSpanAt_keepsFloor children index content cursor state).symm
  | inline token container =>
    rw [after, fillContainer_floor]
    exact lineFindings_forward text state _ 0 _
  | build tokens => exact readBlocks_forward text state _ tokens

end SessionStep

/-- The state that the steps of a session leave one after another. -/
def sessionAfter (source : SourceLines) (state : ReadState) : List SessionStep → ReadState
  | [] => state
  | step :: rest => sessionAfter source (step.after source state) rest

/-- The states of a session: one in front of each step and one at the end. -/
def sessionStates (source : SourceLines) (state : ReadState) : List SessionStep → List ReadState
  | [] => [state]
  | step :: rest => state :: sessionStates source (step.after source state) rest

/-- The searches that the steps of a session carry out, in their order. -/
def sessionFindings (source : SourceLines) (state : ReadState) :
    List SessionStep → List (Finding source)
  | [] => []
  | step :: rest =>
    step.findings source state ++ sessionFindings source (step.after source state) rest

/-- The contents that the steps of a session read into containers, in their order. -/
def sessionReadings (source : SourceLines) (state : ReadState) :
    List SessionStep → List ContentReading
  | [] => []
  | step :: rest =>
    step.readings source state ++ sessionReadings source (step.after source state) rest

section Session

variable (text : Text) (state : ReadState) (steps : List SessionStep)

/-- A session leads forward. -/
theorem session_forward :
    Forward state.floor (sessionAfter (.ofText text) state steps).floor
      (sessionFindings (.ofText text) state steps) := by
  induction steps generalizing state with
  | nil => exact Int.le_refl _
  | cons step rest inductionHypothesis =>
    exact (step.forward text state).append (inductionHypothesis (step.after (.ofText text) state))

/-- Every state of a session has the floor of its start or a later one. -/
theorem le_of_mem_sessionStates {later : ReadState}
    (member : later ∈ sessionStates (.ofText text) state steps) : state.floor ≤ later.floor := by
  induction steps generalizing state with
  | nil => exact Int.le_of_eq (congrArg _ (List.mem_singleton.1 member).symm)
  | cons step rest inductionHypothesis =>
    rcases List.mem_cons.1 member with rfl | behind
    · exact Int.le_refl _
    · exact Int.le_trans (step.forward text state).le (inductionHypothesis _ behind)

/-- The floors of a session never decrease from one step to another. -/
theorem sessionStates_ascending :
    (sessionStates (.ofText text) state steps).Pairwise (·.floor ≤ ·.floor) := by
  induction steps generalizing state with
  | nil => exact List.pairwise_singleton _ _
  | cons step rest inductionHypothesis =>
    refine .cons (fun later behind => ?_) (inductionHypothesis _)
    exact Int.le_trans (step.forward text state).le (le_of_mem_sessionStates text _ rest behind)

variable {state steps} {source : SourceLines}

/-- The searches of a session go on from the state that earlier steps leave. -/
theorem sessionFindings_append (earlier later : List SessionStep) :
    sessionFindings source state (earlier ++ later)
      = sessionFindings source state earlier
        ++ sessionFindings source (sessionAfter source state earlier) later := by
  induction earlier generalizing state with
  | nil => rfl
  | cons step rest inductionHypothesis =>
    rw [List.cons_append, sessionFindings, sessionFindings, inductionHypothesis,
      List.append_assoc]
    rfl

/-- No part that a step of a session locates is missing among its searches. -/
theorem mem_sessionFindings {earlier later : List SessionStep} {part : Text} {line : Option Int}
    {position : Int} {after : ReadState}
    (found : (locatePart source part line).Gives (sessionAfter source state earlier) position
      after) :
    ⟨part, line, sessionAfter source state earlier, position, after, found⟩
      ∈ sessionFindings source state (earlier ++ .locate part line :: later) := by
  rw [sessionFindings_append, sessionFindings, SessionStep.findings, lineFindings_gives found]
  exact List.mem_append_right _ (List.mem_append_left _ List.mem_cons_self)

/-- What a step reads from the state that the steps in front of it leave is read in the session. -/
theorem mem_sessionReadings {reading : ContentReading} (earlier : List SessionStep)
    {step : SessionStep} {later : List SessionStep}
    (member : reading ∈ step.readings source (sessionAfter source state earlier)) :
    reading ∈ sessionReadings source state (earlier ++ step :: later) := by
  induction earlier generalizing state with
  | nil => exact List.mem_append_left _ member
  | cons first rest inductionHypothesis =>
    exact List.mem_append_right _ (inductionHypothesis member)

/-- The searches for a content stand one behind the other among those of the session. -/
theorem infix_sessionFindings {reading : ContentReading}
    (member : reading ∈ sessionReadings source state steps) :
    reading.findings source <:+: sessionFindings source state steps := by
  induction steps generalizing state with
  | nil => cases member
  | cons step rest inductionHypothesis =>
    rcases List.mem_append.1 member with here | later
    · exact (SessionStep.infix_findings here).trans (List.prefix_append _ _).isInfix
    · exact (inductionHypothesis later).trans (List.suffix_append _ _).isInfix

end Session

/-- In a session of any steps on any text the floor never decreases. Every search, be it a step
of its own or carried out inside another step, ends at or behind the floor before it, at the
first occurrence between its bounds if there is one, and moves the floor behind the part, so that
the parts located in the session follow each other in the document. The places of the lines of a
content are found by such searches, and the map from the content to the document therefore never
decreases. A container that is filled in the session, by a step of its own or while a tree is
built, has its span and its nodes where this map sends them, and what lies on a line of the
content is sent along to where the search for the line ended. -/
theorem session_never_goes_back (text : Text) (steps : List SessionStep) :
    (sessionStates (.ofText text) {} steps).Pairwise (·.floor ≤ ·.floor)
    ∧ (∀ finding ∈ sessionFindings (.ofText text) {} steps, finding.Sound)
    ∧ (sessionFindings (.ofText text) {} steps).Pairwise Finding.Precedes
    ∧ (∀ (earlier later : List SessionStep) (part : Text) (line : Option Int) (position : Int)
        (after : ReadState) (found : (locatePart (.ofText text) part line).Gives
          (sessionAfter (.ofText text) {} earlier) position after),
      steps = earlier ++ .locate part line :: later →
      ⟨part, line, _, position, after, found⟩ ∈ sessionFindings (.ofText text) {} steps)
    ∧ (∀ (token : BlockToken) (state after : ReadState) (offsets : LineOffsets),
      (locateLines (.ofText text) (token.lineRange.map (·.1)) 0
        (Text.lines token.content)).Gives state offsets after →
      offsets.document = (lineFindings (.ofText text) state (token.lineRange.map (·.1))
          (Text.lines token.content)).map (·.position)
        ∧ offsets.NonDecreasing)
    ∧ (∀ (earlier later : List SessionStep) (step : SessionStep),
      steps = earlier ++ step :: later →
      step.readings (.ofText text) (sessionAfter (.ofText text) {} earlier)
        ⊆ sessionReadings (.ofText text) {} steps)
    ∧ ∀ reading ∈ sessionReadings (.ofText text) {} steps,
      reading.findings (.ofText text) <:+: sessionFindings (.ofText text) {} steps
      ∧ ∀ (filled : OpenNode) (after : ReadState),
        (fillContainer (.ofText text) reading.token reading.container).Gives reading.before filled
          after →
        ∃ offsets place, reading.FilledBy text offsets place filled := by
  have forward := session_forward text {} steps
  refine ⟨sessionStates_ascending text {} steps, fun finding member => ?_, forward.pairwise,
    ?_, ?_, ?_, fun reading member => ⟨infix_sessionFindings member, fun filled after gives => ?_⟩⟩
  · exact finding.sound (forward.le_before member)
  · rintro earlier later part line position after found rfl
    exact mem_sessionFindings found
  · intro token state after offsets gives
    obtain ⟨_, places, _⟩ := @locateLines_findings _ _ 0 _ _ _ _ gives
    exact ⟨places, locateLines_nonDecreasing gives⟩
  · rintro earlier later step rfl reading member
    exact mem_sessionReadings earlier member
  · exact ContentReading.filledBy gives

/-- A document of three lines. -/
def strayingText : Text :=
  "い a\nい b\nc".toList

/-- A line that the document does not have, and one that it does. -/
def strayingContent : BlockToken where
  kind := .inline
  content := "x\nc".toList
  lineRange := some (1, 3)
  children := some [.ofText ['x'] 0, { kind := .softBreak }, .ofText ['c'] 0]

/-- A part that is found, one that is not, a line in front of the first one, and a content of two
lines, the second of which is found. -/
def strayingSession : List SessionStep :=
  [.locate ['a'] (some 0), .locate ['a'] (some 1), .locate ['b'] (some (-4)),
    .inline strayingContent ⟨.paragraph, ⟨0, 0⟩, []⟩]

/-- The reading of the content in the session. -/
def strayingReading : ContentReading where
  before := sessionAfter (.ofText strayingText) {} (strayingSession.take 3)
  token := strayingContent
  container := ⟨.paragraph, ⟨0, 0⟩, []⟩

/-- The content has one text node. -/
theorem fillContainer_straying :
    ∃ filled after, (fillContainer (.ofText strayingText) strayingReading.token
        strayingReading.container).Gives strayingReading.before filled after
      ∧ filled.places = (⟨5, 9⟩, [(.str, ⟨5, 9⟩)]) :=
  Reading.exists_gives (by decide +kernel)

/-- What is not found counts as being found at the floor or at the start of its line, and what
follows is looked for behind it. The text of the content is sent to where its two lines are taken
to stand. -/
theorem session_never_goes_back_straying :
    (sessionStates (.ofText strayingText) {} strayingSession).map (·.floor) = [0, 3, 5, 5, 9]
    ∧ (sessionFindings (.ofText strayingText) {} strayingSession).map (·.position) = [2, 4, 5, 8]
    ∧ (sessionFindings (.ofText strayingText) {} strayingSession).Pairwise Finding.Precedes
    ∧ (∀ finding ∈ sessionFindings (.ofText strayingText) {} strayingSession, finding.Sound)
    ∧ ∃ reading ∈ sessionReadings (.ofText strayingText) {} strayingSession,
      ∃ offsets place filled, reading.FilledBy strayingText offsets place filled
        ∧ filled.places = (⟨5, 9⟩, [(.str, ⟨5, 9⟩)]) := by
  obtain ⟨_, sound, ordered, _, _, reads, fills⟩ :=
    session_never_goes_back strayingText strayingSession
  have isReading : strayingReading ∈ sessionReadings (.ofText strayingText) {} strayingSession :=
    reads (strayingSession.take 3) [] (.inline strayingContent ⟨.paragraph, ⟨0, 0⟩, []⟩) rfl
      List.mem_cons_self
  obtain ⟨filled, after, gives, isPlaces⟩ := fillContainer_straying
  obtain ⟨offsets, place, filledBy⟩ := (fills _ isReading).2 filled after gives
  exact ⟨by decide +kernel, by decide +kernel, ordered, sound, strayingReading, isReading, offsets,
    place, filled, filledBy, isPlaces⟩

end JapaneseSpacing
