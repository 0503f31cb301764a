import JapaneseSpacing.Proofs.Source.Reading
import JapaneseSpacing.Proofs.Text.Occurrence

/-!
# Text nodes of a walk

The walk over the tokens of a content collects running text, token by token, and makes it a
node when something else follows. Tokens of running text are found one behind the other
(`FoundRun`), so a text node stands for one stretch of the content, from the first token's start
to the last token's stop, and no other step adds text nodes (`walkTokens_texts`).
-/

namespace JapaneseSpacing

open Reading

/-! ## Text nodes of a tree -/

/-- A node is one of some nodes, or lies somewhere below them. -/
inductive Node.Within : Node → List Node → Prop
  | here {node : Node} {nodes : List Node} (member : node ∈ nodes) : Within node nodes
  | deeper {node parent : Node} {nodes : List Node} (member : parent ∈ nodes)
      (within : Within node parent.children) : Within node nodes

/-- Every text node among some nodes and below them has a span of some kind. -/
def Node.TextSpans (kind : Span → Prop) (nodes : List Node) : Prop :=
  ∀ node : Node, node.Within nodes → node.type = .str → kind node.span

namespace Node

variable {kind : Span → Prop} {nodes more children : List Node}

theorem Within.exists_root {node : Node} (within : node.Within nodes) :
    ∃ root ∈ nodes, node.Within [root] := by
  cases within with
  | here member => exact ⟨node, member, .here List.mem_cons_self⟩
  | deeper member inside => exact ⟨_, member, .deeper List.mem_cons_self inside⟩

theorem TextSpans.nil : TextSpans kind [] := by
  intro node within
  obtain ⟨root, member, _⟩ := within.exists_root
  cases member

theorem TextSpans.append (first : TextSpans kind nodes) (second : TextSpans kind more) :
    TextSpans kind (nodes ++ more) := by
  intro node within
  obtain ⟨root, member, inRoot⟩ := within.exists_root
  have inside : ∀ others : List Node, root ∈ others → node.Within others := by
    intro others isOther
    cases inRoot with
    | here isRoot =>
      obtain rfl := List.mem_singleton.1 isRoot
      exact .here isOther
    | deeper isRoot inner =>
      obtain rfl := List.mem_singleton.1 isRoot
      exact .deeper isOther inner
  rcases List.mem_append.1 member with inFirst | inSecond
  · exact first node (inside _ inFirst)
  · exact second node (inside _ inSecond)

theorem TextSpans.single {type : NodeType} {span : Span} (isKind : type = .str → kind span)
    (below : TextSpans kind children) : TextSpans kind [.mk type span children] := by
  intro node within isText
  cases within with
  | here member =>
    obtain rfl := List.mem_singleton.1 member
    exact isKind isText
  | deeper member inside =>
    obtain rfl := List.mem_singleton.1 member
    exact below node inside isText

end Node

/-- An open node is not a text node, and the text nodes in it have spans of some kind. -/
structure OpenNode.Texts (kind : Span → Prop) (opened : OpenNode) : Prop where
  noText : opened.type ≠ .str
  children : Node.TextSpans kind opened.children

namespace OpenNode.Texts

variable {kind : Span → Prop} {opened : OpenNode} (texts : opened.Texts kind)
include texts

theorem append {child : Node} (isChild : Node.TextSpans kind [child]) :
    (opened.append child).Texts kind :=
  ⟨texts.noText, texts.children.append isChild⟩

theorem close : Node.TextSpans kind [opened.close] :=
  .single (fun isText => absurd isText texts.noText) texts.children

end OpenNode.Texts

/-! ## Running text -/

/-- A token of running text, and how it is written in the content. -/
inductive Token.WrittenAs : Token → Text → Prop
  | text {token : Token} (isText : token.kind = .text) : WrittenAs token token.content
  | special {token : Token} (isSpecial : token.kind = .special) : WrittenAs token token.markup
  | softBreak {token : Token} (isBreak : token.kind = .softBreak) : WrittenAs token ['\n']

theorem Token.textNeedle?_eq_some_iff {token : Token} {needle : Text} :
    token.textNeedle? = some needle ↔ token.WrittenAs needle := by
  constructor
  · intro isNeedle
    rw [textNeedle?] at isNeedle
    split at isNeedle
    · next isText => exact Option.some.inj isNeedle ▸ .text isText
    · next isSpecial => exact Option.some.inj isNeedle ▸ .special isSpecial
    · next isBreak => exact Option.some.inj isNeedle ▸ .softBreak isBreak
    · cases isNeedle
  · rintro (isText | isSpecial | isBreak)
    · rw [textNeedle?, isText]
    · rw [textNeedle?, isSpecial]
    · rw [textNeedle?, isBreak]

/-- Tokens of running text, of which the first one is found, and the stretch of the content from
the first one to the last one that is found. Each is looked for behind the one that was found
before it, and found where it occurs first. -/
inductive FoundRun (content : Text) : List Token → Nat → Nat → Prop
  | first {token : Token} {needle : Text} {cursor : Int} {place : Nat}
      (written : token.WrittenAs needle) (someChars : needle ≠ [])
      (found : content.find? needle cursor content.length = some place) :
      FoundRun content [token] place (place + needle.length)
  | found {tokens : List Token} {start stop : Nat} (run : FoundRun content tokens start stop)
      {token : Token} {needle : Text} {place : Nat} (written : token.WrittenAs needle)
      (someChars : needle ≠ []) (found : content.find? needle stop content.length = some place) :
      FoundRun content (tokens ++ [token]) start (place + needle.length)
  | missing {tokens : List Token} {start stop : Nat} (run : FoundRun content tokens start stop)
      {token : Token} {needle : Text} (written : token.WrittenAs needle)
      (missing : needle = [] ∨ content.find? needle stop content.length = none) :
      FoundRun content (tokens ++ [token]) start stop

/-- The stretch of a content from the first to the last token that is found of some running text
among its tokens. What follows the running text is something else. -/
def IsTextStretch (content : Text) (tokens : List Token) (start stop : Nat) : Prop :=
  ∃ before run behind, tokens = before ++ run ++ behind ∧ FoundRun content run start stop
    ∧ ∀ next ∈ behind.head?, ∀ needle, ¬ next.WrittenAs needle

/-- The stretch of a run is not empty and lies in the content. -/
theorem FoundRun.inside {content : Text} {tokens : List Token} {start stop : Nat}
    (run : FoundRun content tokens start stop) : start < stop ∧ stop ≤ content.length := by
  induction run with
  | first written someChars found =>
    have chars := List.length_pos_iff.2 someChars
    exact ⟨by omega, Text.find?_add_length_le someChars found⟩
  | found run written someChars found inductionHypothesis =>
    have behind := Text.le_find? someChars found
    have chars := List.length_pos_iff.2 someChars
    exact ⟨by omega, Text.find?_add_length_le someChars found⟩
  | missing run written missing inductionHypothesis => exact inductionHypothesis

theorem IsTextStretch.inside {content : Text} {tokens : List Token} {start stop : Nat}
    (stretch : IsTextStretch content tokens start stop) : start < stop ∧ stop ≤ content.length := by
  obtain ⟨_, _, _, _, run, _⟩ := stretch
  exact run.inside

/-! ## The walk -/

/-- A span of the document stands for the stretch of the content that some running text among
its tokens takes. -/
def LineOffsets.Shows (offsets : LineOffsets) (content : Text) (tokens : List Token)
    (span : Span) : Prop :=
  ∃ start stop : Nat, IsTextStretch content tokens start stop
    ∧ offsets.locate start = .ok span.start ∧ offsets.locate stop = .ok span.stop

theorem LineOffsets.span_yields (offsets : LineOffsets) (start stop : Int) :
    (offsets.span start stop).Yields fun span =>
      offsets.locate start = .ok span.start ∧ offsets.locate stop = .ok span.stop :=
  .bind (.ofOffset _) fun _ isStart => .bind (.ofOffset _) fun _ isStop => .pure ⟨isStart, isStop⟩

/-- A token that is found has characters and is found where they occur first. -/
theorem findToken_yields (content : Text) (cursor : Int) (kind : TokenKind) (needle : Text) :
    (findToken content cursor kind needle).Yields fun found =>
      (found = none ∧ (needle = [] ∨ content.find? needle cursor content.length = none))
      ∨ ∃ place : Nat, found = some (place : Int) ∧ needle ≠ []
        ∧ content.find? needle cursor content.length = some place := by
  rw [findToken]
  cases needle with
  | nil => exact .behind fun _ => .pure (.inl ⟨rfl, .inl rfl⟩)
  | cons first rest =>
    cases content.find? (first :: rest) cursor content.length with
    | none => exact .behind fun _ => .pure (.inl ⟨rfl, .inr rfl⟩)
    | some place => exact .pure (.inr ⟨place, rfl, List.cons_ne_nil _ _, rfl⟩)

theorem Element.inlineNodeType?_ne_str {element : Element} {type : NodeType}
    (isType : element.inlineNodeType? = some type) : type ≠ .str := by
  rintro rfl
  cases element <;> cases isType

namespace InlineWalk

theorem pending_leave (walk : InlineWalk) : walk.leave.pending = walk.pending := by
  rcases walk with ⟨inner, _ | ⟨parent, outer⟩, linkStops, cursor, pending⟩ <;> rfl

theorem pending_stopInner (walk : InlineWalk) (stop : Int) :
    (walk.stopInner stop).pending = walk.pending := by
  rcases walk with ⟨inner, _ | ⟨parent, outer⟩, linkStops, cursor, pending⟩ <;> rfl

/-- Behind the tokens `past`, the text nodes of a walk stand for running text among all the
tokens, and the text found since the last node is that of the last of `past`, which are running
text, up to the cursor. -/
structure Texts (offsets : LineOffsets) (content : Text) (tokens past : List Token)
    (walk : InlineWalk) : Prop where
  opened : ∀ opened ∈ walk.inner :: walk.outer, opened.Texts (offsets.Shows content tokens)
  pending : ∀ span ∈ walk.pending, ∃ (before run : List Token) (start stop : Nat),
    span = ⟨start, stop⟩ ∧ walk.cursor = stop ∧ past = before ++ run
      ∧ FoundRun content run start stop

namespace Texts

variable {offsets : LineOffsets} {content : Text} {tokens past : List Token} {walk : InlineWalk}

/-- Without pending text only the open nodes matter. -/
theorem of_opened
    (opened : ∀ opened ∈ walk.inner :: walk.outer, opened.Texts (offsets.Shows content tokens))
    (noPending : walk.pending = none) : walk.Texts offsets content tokens past :=
  ⟨opened, by simp [noPending]⟩

variable (texts : walk.Texts offsets content tokens past)
include texts

theorem append {child : Node} (isChild : Node.TextSpans (offsets.Shows content tokens) [child]) :
    ∀ opened ∈ (walk.append child).inner :: (walk.append child).outer,
      opened.Texts (offsets.Shows content tokens) := by
  obtain ⟨inner, outer⟩ := List.forall_mem_cons.1 texts.opened
  exact List.forall_mem_cons.2 ⟨inner.append isChild, outer⟩

theorem enter {type : NodeType} (noText : type ≠ .str) (span : Span) :
    ∀ opened ∈ (walk.enter type span).inner :: (walk.enter type span).outer,
      opened.Texts (offsets.Shows content tokens) :=
  List.forall_mem_cons.2 ⟨⟨noText, .nil⟩, texts.opened⟩

theorem leave : ∀ opened ∈ walk.leave.inner :: walk.leave.outer,
    opened.Texts (offsets.Shows content tokens) := by
  rcases walk with ⟨inner, _ | ⟨parent, outer⟩, linkStops, cursor, pending⟩
  · exact texts.opened
  · obtain ⟨isInner, others⟩ := List.forall_mem_cons.1 texts.opened
    obtain ⟨isParent, isOuter⟩ := List.forall_mem_cons.1 others
    exact List.forall_mem_cons.2 ⟨isParent.append isInner.close, isOuter⟩

theorem stopInner (stop : Int) : (walk.stopInner stop).Texts offsets content tokens past := by
  rcases walk with ⟨inner, _ | ⟨parent, outer⟩, linkStops, cursor, pending⟩
  · exact texts
  · obtain ⟨isInner, others⟩ := List.forall_mem_cons.1 texts.opened
    exact ⟨List.forall_mem_cons.2 ⟨⟨isInner.noText, isInner.children⟩, others⟩, texts.pending⟩

/-- A node that is no text may be appended. -/
theorem yields_leaf (noPending : walk.pending = none) {type : NodeType} (noText : type ≠ .str)
    (start stop cursor : Int) (later : List Token) :
    Reading.Yields
      (do
        let span ← offsets.span start stop
        return { walk.append (.leaf type span) with cursor })
      (Texts offsets content tokens later) := by
  refine .behind fun span => .pure (.of_opened (texts.append ?_) noPending)
  exact .single (fun isText => absurd isText noText) .nil

/-- A node that is no text may be opened. -/
theorem yields_enter (noPending : walk.pending = none) {type : NodeType} (noText : type ≠ .str)
    (start stop cursor : Int) (linkStops : List Int) (later : List Token) :
    Reading.Yields
      (do
        let span ← offsets.span start stop
        return { walk.enter type span with linkStops, cursor })
      (Texts offsets content tokens later) :=
  .behind fun span => .pure (.of_opened (texts.enter noText span) noPending)

/-- The text nodes in the container once every open node is closed. -/
theorem container : Node.TextSpans (offsets.Shows content tokens) walk.container.children := by
  rcases walk with ⟨inner, outer, linkStops, cursor, pending⟩
  induction outer generalizing inner with
  | nil => exact (texts.opened inner List.mem_cons_self).children
  | cons parent outer inductionHypothesis =>
    exact inductionHypothesis _ ⟨texts.leave, texts.pending⟩

end Texts

variable (offsets : LineOffsets) (content : Text) {tokens past : List Token} {walk : InlineWalk}

/-- Pending text becomes a node once something else follows. -/
theorem flush_texts {rest : List Token} (texts : walk.Texts offsets content tokens past)
    (split : tokens = past ++ rest)
    (stops : ∀ next ∈ rest.head?, ∀ needle, ¬ next.WrittenAs needle) :
    (walk.flush offsets).Yields fun last =>
      last.Texts offsets content tokens past ∧ last.pending = none := by
  rw [flush]
  split
  · next noPending => exact .pure ⟨texts, noPending⟩
  · next pending isPending =>
    obtain ⟨before, run, start, stop, rfl, _, rfl, found⟩ := texts.pending pending isPending
    refine .bind (offsets.span_yields start stop) fun span ⟨isStart, isStop⟩ => .pure ⟨?_, rfl⟩
    have isNode : Node.TextSpans (offsets.Shows content tokens) [.leaf .str span] :=
      .single (fun _ => ⟨start, stop, ⟨before, run, rest, split, found, stops⟩, isStart, isStop⟩)
        .nil
    exact .of_opened (texts.append isNode) rfl

/-- A token of running text goes on with the stretch in front of it. -/
theorem walkText_texts {token : Token} {needle : Text} (written : token.WrittenAs needle)
    (texts : walk.Texts offsets content tokens past) :
    (walkText content token needle walk).Yields fun last =>
      last.Texts offsets content tokens (past ++ [token]) := by
  refine .bind (findToken_yields _ _ _ _) fun found isFound => ?_
  rcases isFound with ⟨rfl, missing⟩ | ⟨place, rfl, someChars, isPlace⟩
  · refine .pure ⟨texts.opened, fun pending isPending => ?_⟩
    obtain ⟨before, run, start, stop, rfl, isCursor, rfl, found⟩ := texts.pending pending isPending
    rw [isCursor] at missing
    exact ⟨before, run ++ [token], start, stop, rfl, isCursor, List.append_assoc _ _ _,
      found.missing written missing⟩
  · refine .pure ⟨texts.opened, ?_⟩
    rintro _ ⟨⟩
    cases isPending : walk.pending with
    | none =>
      exact ⟨past, [token], place, place + needle.length, rfl, rfl, rfl,
        .first written someChars isPlace⟩
    | some pending =>
      obtain ⟨before, run, start, stop, rfl, isCursor, rfl, found⟩ :=
        texts.pending pending isPending
      rw [isCursor] at isPlace
      exact ⟨before, run ++ [token], start, place + needle.length, rfl, rfl,
        List.append_assoc _ _ _, found.found written someChars isPlace⟩

/-- A token that is not running text adds no text nodes. -/
theorem walkNode_texts (token : Token) (next : Option Token) (later : List Token)
    (texts : walk.Texts offsets content tokens past) (noPending : walk.pending = none) :
    (walkNode offsets content token next walk).Yields fun last =>
      last.Texts offsets content tokens later := by
  have ignored : ∀ kind : TokenKind, Reading.Yields
      (do Reading.note (.tokenIgnored kind); return walk) (Texts offsets content tokens later) :=
    fun kind => .behind fun _ => .pure (.of_opened texts.opened noPending)
  unfold walkNode
  split
  · exact .behind fun source => texts.yields_enter noPending (by decide) _ _ _ _ _
  · dsimp only
    have left : walk.leave.pending = none := walk.pending_leave.trans noPending
    split
    · exact .pure (.of_opened texts.leave left)
    · exact .pure (.of_opened texts.leave left)
  · exact .behind fun found => .behind fun stop => texts.yields_leaf noPending (by decide) _ _ _ _
  · exact .behind fun found => texts.yields_leaf noPending (by decide) _ _ _ _
  · refine .behind fun found => ?_
    cases found with
    | none => exact .pure (.of_opened texts.opened noPending)
    | some start => exact texts.yields_leaf noPending (by decide) _ _ _ _
  · refine .behind fun found => ?_
    cases found with
    | none => exact .pure (.of_opened texts.opened noPending)
    | some start => exact texts.yields_leaf noPending (by decide) _ _ _ _
  · split
    · exact ignored _
    · next isType =>
      exact .behind fun found =>
        texts.yields_enter noPending (Element.inlineNodeType?_ne_str isType) _ _ _ _ _
  · split
    · exact ignored _
    · refine .behind fun found => .behind fun absolute => .pure ?_
      refine .of_opened (texts.stopInner absolute).leave ?_
      exact (pending_leave _).trans ((walk.pending_stopInner absolute).trans noPending)
  · exact ignored _

/-- The walk over the tokens of a content makes text nodes of running text only. -/
theorem walkTokens_texts (rest : List Token) (texts : walk.Texts offsets content tokens past)
    (split : tokens = past ++ rest) :
    (walkTokens offsets content walk rest).Yields fun last =>
      last.Texts offsets content tokens tokens := by
  induction rest generalizing walk past with
  | nil =>
    rw [List.append_nil] at split
    subst split
    exact fun before last after gives =>
      (flush_texts offsets content texts (List.append_nil _).symm nofun _ _ _ gives).1
  | cons token rest inductionHypothesis =>
    have splitBehind : tokens = past ++ [token] ++ rest := by rw [split, List.append_cons]
    rw [walkTokens]
    cases isNeedle : token.textNeedle? with
    | some needle =>
      have written := Token.textNeedle?_eq_some_iff.1 isNeedle
      exact .bind (walkText_texts offsets content written texts) fun _ walked =>
        inductionHypothesis walked splitBehind
    | none =>
      have stops : ∀ next ∈ (token :: rest).head?, ∀ needle, ¬ next.WrittenAs needle := by
        rintro _ ⟨⟩ needle written
        rw [Token.textNeedle?_eq_some_iff.2 written] at isNeedle
        cases isNeedle
      exact .bind (flush_texts offsets content texts split stops) fun _ ⟨flushed, noPending⟩ =>
        .bind (walkNode_texts offsets content token _ _ flushed noPending) fun _ walked =>
          inductionHypothesis walked splitBehind

end InlineWalk

/-- The text nodes of a container that was empty stand for the running text of its content. -/
theorem fillContainer_texts {source : SourceLines} {token : BlockToken} {state located : ReadState}
    {offsets : LineOffsets}
    (lines : (locateLines source (token.lineRange.map (·.1)) 0 (Text.lines token.content)).Gives
      state offsets located) {type : NodeType} (noText : type ≠ .str) {span : Span}
    {filled : OpenNode} {after : ReadState}
    (gives : (fillContainer source token ⟨type, span, []⟩).Gives state filled after) :
    Node.TextSpans (offsets.Shows token.content (token.children.getD [])) filled.children := by
  rw [fillContainer] at gives
  obtain ⟨others, between, isOthers, gives⟩ := gives.exists_between
  obtain ⟨rfl, rfl⟩ := lines.unique isOthers
  obtain ⟨whole, _, _, gives⟩ := gives.exists_between
  obtain ⟨walk, last, isWalk, isFilled⟩ := gives.exists_between
  obtain ⟨rfl, _⟩ := isFilled.unique (.pure _ _)
  have started : InlineWalk.Texts offsets token.content (token.children.getD []) []
      { inner := ⟨type, whole, []⟩ } := by
    refine .of_opened (fun opened member => ?_) rfl
    obtain rfl := List.mem_singleton.1 member
    exact ⟨noText, .nil⟩
  exact (InlineWalk.walkTokens_texts offsets token.content _ started rfl _ _ _ isWalk).container

end JapaneseSpacing
