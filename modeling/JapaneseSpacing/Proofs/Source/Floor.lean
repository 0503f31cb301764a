import JapaneseSpacing.Proofs.Source.Search

/-!
# Who moves the floor

Only searches and blocks without children move the floor: the walk over the tokens of a content
reads places that have been found and leaves it where it is (`walkTokens_keepsFloor`). A block
of any kind leads forward from the floor to the one that it leaves, by way of the searches for
its lines (`readBlock_forward`), and so does a whole list of blocks, also where it breaks off
(`readBlocks_forward`).
-/

namespace JapaneseSpacing

open Reading

/-! ## Inline content -/

theorem LineOffsets.span_keepsFloor (offsets : LineOffsets) (start stop : Int) :
    (offsets.span start stop).KeepsFloor :=
  .bind (.ofOffset _) fun _ => .bind (.ofOffset _) fun _ => .pure _

theorem findToken_keepsFloor (content : Text) (cursor : Int) (kind : TokenKind) (needle : Text) :
    (findToken content cursor kind needle).KeepsFloor := by
  rw [findToken]
  cases if needle.isEmpty then none
      else (content.find? needle cursor content.length).map Int.ofNat with
  | none => exact .bind (.note _) fun _ => .pure _
  | some start => exact .pure _

theorem linkSpan_keepsFloor (token : Token) (label : Option Token) (content : Text)
    (cursor : Int) : (linkSpan token label content cursor).KeepsFloor := by
  unfold linkSpan
  dsimp only
  split
  · split
    · exact .pure _
    · exact .bind (.note _) fun _ => .pure _
  · split
    · split
      · split
        · exact .pure _
        · exact .pure _
      · exact .pure _
    · split
      · exact .bind (.ofOffset _) fun _ => .pure _
      · exact .bind (.note _) fun _ => .pure _

theorem linkSpanAt_keepsFloor (children : List Token) (index : Int) (content : Text)
    (cursor : Int) : (linkSpanAt children index content cursor).KeepsFloor := by
  rw [linkSpanAt]
  split
  · exact .throw _
  · exact linkSpan_keepsFloor _ _ content cursor

namespace InlineWalk

variable (offsets : LineOffsets) (content : Text) (token : Token) (walk : InlineWalk)

theorem flush_keepsFloor : (walk.flush offsets).KeepsFloor := by
  rw [flush]
  split
  · exact .pure _
  · exact .bind (offsets.span_keepsFloor _ _) fun _ => .pure _

theorem walkText_keepsFloor (needle : Text) : (walkText content token needle walk).KeepsFloor := by
  refine .bind (findToken_keepsFloor _ _ _ _) fun found => ?_
  cases found with
  | none => exact .pure _
  | some start => exact .pure _

theorem walkNode_keepsFloor (next : Option Token) :
    (walkNode offsets content token next walk).KeepsFloor := by
  have leaf : ∀ (start stop : Int) (rest : Span → InlineWalk),
      Reading.KeepsFloor (do return rest (← offsets.span start stop)) := fun start stop rest =>
    .bind (offsets.span_keepsFloor start stop) fun _ => .pure _
  have ignored : ∀ kind : TokenKind,
      Reading.KeepsFloor (do Reading.note (.tokenIgnored kind); return walk) := fun kind =>
    .bind (.note _) fun _ => .pure _
  unfold walkNode
  split
  · exact .bind (linkSpan_keepsFloor token next content _) fun source => leaf _ _ _
  · dsimp only
    split
    · exact .pure _
    · exact .pure _
  · exact .bind (findToken_keepsFloor _ _ _ _) fun found =>
      .bind (.ofOffset _) fun stop => leaf _ _ _
  · exact .bind (findToken_keepsFloor _ _ _ _) fun found => leaf _ _ _
  · refine .bind (findToken_keepsFloor _ _ _ _) fun found => ?_
    cases found with
    | none => exact .pure _
    | some start => exact leaf _ _ _
  · refine .bind (findToken_keepsFloor _ _ _ _) fun found => ?_
    cases found with
    | none => exact .pure _
    | some start => exact leaf _ _ _
  · split
    · exact ignored _
    · exact .bind (findToken_keepsFloor _ _ _ _) fun found => leaf _ _ _
  · split
    · exact ignored _
    · exact .bind (findToken_keepsFloor _ _ _ _) fun found => .bind (.ofOffset _) fun _ => .pure _
  · exact ignored _

/-- The walk over the tokens of a content looks for them in the content and not in the
document. -/
theorem walkTokens_keepsFloor (tokens : List Token) :
    (walkTokens offsets content walk tokens).KeepsFloor := by
  induction tokens generalizing walk with
  | nil => exact flush_keepsFloor offsets walk
  | cons token rest inductionHypothesis =>
    rw [walkTokens]
    split
    · exact .bind (walkText_keepsFloor content token walk _) fun walk => inductionHypothesis walk
    · exact .bind (flush_keepsFloor offsets walk) fun flushed =>
        .bind (walkNode_keepsFloor offsets content token flushed _) fun walk =>
          inductionHypothesis walk

end InlineWalk

/-- The lines of an inline content decide how far a container moves the floor. -/
theorem fillContainer_floor (source : SourceLines) (token : BlockToken) (container : OpenNode)
    (state : ReadState) :
    ((fillContainer source token container).after state).floor
      = ((locateLines source (token.lineRange.map (·.1)) 0 (Text.lines token.content)).after
        state).floor :=
  KeepsFloor.after_bind (fun offsets => .bind (offsets.span_keepsFloor _ _) fun _ =>
    .bind (InlineWalk.walkTokens_keepsFloor _ _ _ _) fun _ => .pure _) state

/-! ## Blocks -/

theorem blockSpan_keepsFloor (source : SourceLines) (token : BlockToken) :
    (blockSpan source token).KeepsFloor := by
  rw [blockSpan]
  split
  · exact .ofOffset _
  · exact .bind .get fun _ => .pure _

/-- The searches that a block token leads to: those for the lines of an inline content, which
is neither an opening nor a closing token. -/
def tokenFindings (source : SourceLines) (state : ReadState) (token : BlockToken) :
    List (Finding source) :=
  if token.nesting ≠ 1 ∧ token.nesting ≠ -1 ∧ token.kind = .inline then
    lineFindings source state (token.lineRange.map (·.1)) (Text.lines token.content)
  else []

/-- The searches that block tokens lead to one after another, up to the first token that cannot
be read. -/
def blockFindings (source : SourceLines) (state : ReadState) :
    OpenBlocks → List BlockToken → List (Finding source)
  | .inside blocks document, token :: rest =>
    tokenFindings source state token
      ++ match (readBlock source token blocks document).run.run state with
        | (.ok next, after) => blockFindings source after next rest
        | (.error _, _) => []
  | _, _ => []

variable (text : Text) (state : ReadState)

/-- One block leads forward. -/
theorem readBlock_forward (token : BlockToken) (blocks : List OpenBlock) (document : OpenNode) :
    Forward state.floor
      ((readBlock (SourceLines.ofText text) token blocks document).after state).floor
      (tokenFindings (.ofText text) state token) := by
  have stays : ∀ {step : Reading OpenBlocks}, step.KeepsFloor →
      state.floor ≤ (step.after state).floor := fun keeps =>
    Int.le_of_eq (keeps state).symm
  rw [readBlock, tokenFindings]
  by_cases opens : token.nesting = 1
  · rw [if_pos opens, if_neg (fun both => both.1 opens)]
    split
    · exact stays (.pure _)
    · exact stays (.bind (blockSpan_keepsFloor _ _) fun _ => .pure _)
  by_cases closes : token.nesting = -1
  · rw [if_neg opens, if_pos closes, if_neg (fun both => both.2.1 closes)]
    exact stays (.pure _)
  rw [if_neg opens, if_neg closes]
  by_cases inline : token.kind = .inline
  · rw [if_pos inline, if_pos ⟨opens, closes, inline⟩, KeepsFloor.after_bind fun _ => .pure _,
      fillContainer_floor]
    exact lineFindings_forward text state _ 0 _
  · rw [if_neg inline, if_neg (fun both => inline both.2.2)]
    split
    · exact stays (.pure _)
    · -- A block without children pushes the floor to its end, if it is not there yet.
      have before := blockSpan_keepsFloor (.ofText text) token state
      rcases (blockSpan (.ofText text) token).gives_or_fails state with
        ⟨span, between, gives⟩ | ⟨problem, between, fails⟩
      · rw [gives.after_eq] at before
        rw [gives.after_bind, (Gives.get between).after_bind, (Gives.setFloor _ between).after_bind,
          (Gives.pure _ _).after_eq]
        change state.floor ≤ max between.floor span.stop
        omega
      · rw [fails.after_eq] at before
        rw [fails.after_bind]
        exact Int.le_of_eq before.symm

/-- A list of blocks leads forward, also where it breaks off. -/
theorem readBlocks_forward (blocks : OpenBlocks) (tokens : List BlockToken) :
    Forward state.floor ((readBlocks (SourceLines.ofText text) blocks tokens).after state).floor
      (blockFindings (.ofText text) state blocks tokens) := by
  induction tokens generalizing blocks state with
  | nil => cases blocks <;> exact Int.le_refl _
  | cons token rest inductionHypothesis =>
    cases blocks with
    | closed document => exact Int.le_refl _
    | inside blocks document =>
      have block := readBlock_forward text state token blocks document
      rw [readBlocks, blockFindings]
      rcases (readBlock (.ofText text) token blocks document).gives_or_fails state with
        ⟨next, after, gives⟩ | ⟨problem, after, fails⟩
      · rw [gives.after_eq] at block
        rw [gives.after_bind, gives]
        exact block.append (inductionHypothesis after next)
      · rw [fails.after_eq] at block
        rw [fails.after_bind, fails, List.append_nil]
        exact block

end JapaneseSpacing
