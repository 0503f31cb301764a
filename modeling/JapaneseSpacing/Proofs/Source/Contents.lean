import JapaneseSpacing.Proofs.Source.Floor
import JapaneseSpacing.Proofs.Source.OffsetMap
import JapaneseSpacing.Proofs.Source.Unlocated

/-!
# Contents that are read into containers

An inline token is read into a container by searching for the lines of its content. Where the
searches end decides where every offset into the content is sent, and with that the container's
span and the spans of its nodes (`ContentReading.filledBy`): they are those of the token in a
document that is its own content, sent along. A list of blocks reads its inline tokens in the
same way, each from the state in which it finds the document, and their searches are among those
of the list (`infix_blockFindings`).
-/

namespace JapaneseSpacing

open Reading

/-- An inline token that is read into a container, and the state in which this begins. -/
structure ContentReading where
  before : ReadState
  token : BlockToken
  container : OpenNode

namespace ContentReading

/-- The searches for the lines of the content. -/
def findings (source : SourceLines) (reading : ContentReading) : List (Finding source) :=
  lineFindings source reading.before (reading.token.lineRange.map (·.1))
    (Text.lines reading.token.content)

/-- A container is filled by sending offsets into the content along with its lines: what lies on a
line to where the search for the line ended, and the nodes and the container to the places of
their own offsets into the content. -/
structure FilledBy (text : Text) (reading : ContentReading) (offsets : LineOffsets)
    (place : Int → Int) (filled : OpenNode) : Prop where
  located : ∃ after, (locateLines (.ofText text) (reading.token.lineRange.map (·.1)) 0
    (Text.lines reading.token.content)).Gives reading.before offsets after
  sendTo : offsets.SendTo place
  onLine : ∀ (number start distance : Nat) (finding : Finding (.ofText text)),
    (reading.findings (.ofText text))[number]? = some finding →
    (Text.lineStarts reading.token.content)[number]? = some start →
    distance ≤ finding.part.length →
    offsets.locate (start + distance) = .ok (finding.position + distance)
  span : filled.span = ⟨place 0, place reading.token.content.length⟩
  nodes : ∃ own after,
    (fillContainer (.ofText reading.token.content) reading.token.alone
      ⟨reading.container.type, ⟨0, 0⟩, []⟩).Gives {} own after
    ∧ filled.children = reading.container.children ++ Node.relocateAll place own.children

/-- The searches for the lines of a content decide where everything in its container lies. -/
theorem filledBy {text : Text} {reading : ContentReading} {filled : OpenNode} {after : ReadState}
    (gives : (fillContainer (.ofText text) reading.token reading.container).Gives reading.before
      filled after) : ∃ offsets place, reading.FilledBy text offsets place filled := by
  obtain ⟨before, token, container⟩ := reading
  obtain ⟨offsets, located, lines, _⟩ := Gives.exists_between gives
  obtain ⟨place, sendTo⟩ := (locateLines_covers lines).exists_sendTo
  obtain ⟨nodes, ⟨ownAfter, own⟩, elsewhere⟩ := exists_nodes_sentTo token container.type
  obtain ⟨last, sent⟩ := elsewhere _ before located offsets place lines sendTo
  obtain ⟨rfl, _⟩ := gives.unique (sent container)
  refine ⟨offsets, place, ⟨located, lines⟩, sendTo, ?_, rfl, _, ownAfter, own, rfl⟩
  intro number start distance finding isFinding isStart inside
  obtain ⟨areStarts, arePlaces, areParts⟩ := @locateLines_findings _ _ 0 _ _ _ _ lines
  obtain ⟨starts, places⟩ := offsets
  dsimp only at areStarts arePlaces
  subst areStarts arePlaces
  have isLine : (Text.lines token.content)[number]? = some finding.part := by
    rw [areParts, List.getElem?_map]
    exact congrArg _ isFinding
  refine locate_line isLine isStart ?_ inside
  rw [List.getElem?_map]
  exact congrArg _ isFinding

end ContentReading

/-! ## Lists of blocks -/

/-- The content that a block token reads into the innermost open node. -/
def tokenReadings (state : ReadState) (token : BlockToken) (container : OpenNode) :
    List ContentReading :=
  if token.nesting ≠ 1 ∧ token.nesting ≠ -1 ∧ token.kind = .inline then
    [⟨state, token, container⟩]
  else []

/-- The contents that block tokens read one after another, up to the first token that cannot be
read. -/
def blockReadings (source : SourceLines) (state : ReadState) :
    OpenBlocks → List BlockToken → List ContentReading
  | .inside blocks document, token :: rest =>
    tokenReadings state token (innermost blocks document)
      ++ match (readBlock source token blocks document).run.run state with
        | (.ok next, after) => blockReadings source after next rest
        | (.error _, _) => []
  | _, _ => []

/-- The searches of a block token are those for the content that it reads. -/
theorem tokenReadings_findings {source : SourceLines} {state : ReadState} {token : BlockToken}
    {container : OpenNode} {reading : ContentReading}
    (member : reading ∈ tokenReadings state token container) :
    reading.findings source = tokenFindings source state token := by
  rw [tokenReadings] at member
  split at member
  · next isInline =>
    rw [List.mem_singleton.1 member, tokenFindings, if_pos isInline]
    rfl
  · cases member

/-- The searches for a content stand one behind the other among those of the blocks. -/
theorem infix_blockFindings {source : SourceLines} {state : ReadState} {blocks : OpenBlocks}
    {tokens : List BlockToken} {reading : ContentReading}
    (member : reading ∈ blockReadings source state blocks tokens) :
    reading.findings source <:+: blockFindings source state blocks tokens := by
  induction tokens generalizing blocks state with
  | nil => cases blocks <;> cases member
  | cons token rest inductionHypothesis =>
    cases blocks with
    | closed document => cases member
    | inside blocks document =>
      rw [blockReadings, List.mem_append] at member
      rw [blockFindings]
      rcases member with here | later
      · rw [tokenReadings_findings here]
        exact (List.prefix_append _ _).isInfix
      · rcases (readBlock source token blocks document).gives_or_fails state with
          ⟨next, after, gives⟩ | ⟨problem, after, fails⟩
        · rw [gives] at later ⊢
          exact (inductionHypothesis later).trans (List.suffix_append _ _).isInfix
        · rw [fails] at later
          cases later

end JapaneseSpacing
