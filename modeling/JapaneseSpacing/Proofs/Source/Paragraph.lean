import JapaneseSpacing.Markdown.Block.Context
import JapaneseSpacing.Proofs.Source.TreeWalk

/-!
# A document of one paragraph

The tokens of a paragraph on a single line give a document with this paragraph, which holds
what its inline token is filled with.
-/

namespace JapaneseSpacing

theorem lineStarts_of_noBreak {text : Text} (oneLine : '\n' ∉ text) :
    Text.lineStarts text = [0] := by
  rw [Text.lineStarts_eq, Text.lines_of_noBreak oneLine]
  rfl

/-- A single line spans the whole text. -/
theorem rangeSpan_oneLine {text : Text} (oneLine : '\n' ∉ text) :
    (SourceLines.ofText text).rangeSpan 0 1 = .ok ⟨0, text.length⟩ := by
  have source : SourceLines.ofText text = ⟨text, [text], [0]⟩ := by
    rw [SourceLines.ofText, Text.lines_of_noBreak oneLine, lineStarts_of_noBreak oneLine]
  have stop : (SourceLines.mk text [text] [0]).lineStop 0 = .ok (0 + (text.length : Int)) := rfl
  rw [Int.zero_add] at stop
  rw [source, SourceLines.rangeSpan]
  change (do
    let start ← (SourceLines.mk text [text] [0]).lineStart 0
    let last ← (SourceLines.mk text [text] [0]).lineStop 0
    return Span.mk start last) = _
  rw [stop]
  rfl

/-- The document of a paragraph on a single line. -/
theorem buildTree_paragraph {token : BlockToken} {nodes : List Node} {after : ReadState}
    (isInline : token.kind = .inline) (single : token.nesting = 0)
    (oneLine : '\n' ∉ token.content)
    (filled : (fillContainer (SourceLines.ofText token.content) token
      ⟨.paragraph, ⟨0, token.content.length⟩, []⟩).Gives {}
      ⟨.paragraph, ⟨0, token.content.length⟩, nodes⟩ after) :
    (buildTree (SourceLines.ofText token.content)
      (BlockToken.enclose .paragraph (some (0, 1)) [token])).Gives {}
      (.mk .document ⟨0, token.content.length⟩ [.mk .paragraph ⟨0, token.content.length⟩ nodes])
      after := by
  have opened : (readBlock (SourceLines.ofText token.content)
      { kind := .opening .paragraph, nesting := 1, lineRange := some (0, 1) } []
      ⟨.document, ⟨0, token.content.length⟩, []⟩).Gives {}
      (.inside [.node ⟨.paragraph, ⟨0, token.content.length⟩, []⟩]
        ⟨.document, ⟨0, token.content.length⟩, []⟩) {} := by
    have span : (blockSpan (SourceLines.ofText token.content)
        { kind := .opening .paragraph, nesting := 1, lineRange := some (0, 1) }).Gives {}
        ⟨0, token.content.length⟩ {} := by
      rw [blockSpan]
      dsimp only
      rw [rangeSpan_oneLine oneLine]
      exact .ofOffset _ _
    exact .bind span (.pure _ _)
  have read : (readBlock (SourceLines.ofText token.content) token
      [.node ⟨.paragraph, ⟨0, token.content.length⟩, []⟩]
      ⟨.document, ⟨0, token.content.length⟩, []⟩).Gives {}
      (.inside [.node ⟨.paragraph, ⟨0, token.content.length⟩, nodes⟩]
        ⟨.document, ⟨0, token.content.length⟩, []⟩) after := by
    rw [readBlock, single, isInline]
    exact .bind filled (.pure _ _)
  have closed : (readBlock (SourceLines.ofText token.content)
      { kind := .closing .paragraph, nesting := -1 }
      [.node ⟨.paragraph, ⟨0, token.content.length⟩, nodes⟩]
      ⟨.document, ⟨0, token.content.length⟩, []⟩).Gives after
      (.inside [] ⟨.document, ⟨0, token.content.length⟩,
        [.mk .paragraph ⟨0, token.content.length⟩ nodes]⟩) after := by
    have kept : (OpenNode.mk .paragraph ⟨0, token.content.length⟩ nodes).widen
        = ⟨.paragraph, ⟨0, token.content.length⟩, nodes⟩ := by
      rw [OpenNode.widen]
      split
      · exact if_pos rfl
      · rfl
    have block : closeBlock [.node ⟨.paragraph, ⟨0, token.content.length⟩, nodes⟩]
        ⟨.document, ⟨0, token.content.length⟩, []⟩
        = .inside [] ⟨.document, ⟨0, token.content.length⟩,
          [.mk .paragraph ⟨0, token.content.length⟩ nodes]⟩ := by
      rw [closeBlock, kept]
      rfl
    rw [← block]
    exact .pure _ _
  have finished : (readBlocks (SourceLines.ofText token.content)
      (.inside [] ⟨.document, ⟨0, token.content.length⟩,
        [.mk .paragraph ⟨0, token.content.length⟩ nodes]⟩) []).Gives after
      (.mk .document ⟨0, token.content.length⟩ [.mk .paragraph ⟨0, token.content.length⟩ nodes])
      after := by
    rw [readBlocks, finishBlocks]
    exact .pure _ _
  exact .bind opened (.bind read (.bind closed finished))

end JapaneseSpacing
