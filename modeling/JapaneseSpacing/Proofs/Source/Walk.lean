import JapaneseSpacing.Proofs.Source.CodeSpan
import JapaneseSpacing.Proofs.Source.Locate

/-!
# Walking over written tokens

A walk that stands where a token's source starts finds it there and goes on behind it: one
lemma for running text, one for each kind of leaf, and one for each kind of element, which
takes the walk over what is inside as given.
-/

namespace JapaneseSpacing

/-- A token is found where the walk stands. -/
theorem findToken_here {front needle behind : Text} (nonempty : needle ≠ []) (kind : TokenKind)
    (state : ReadState) :
    (findToken (front ++ needle ++ behind) front.length kind needle).Gives state
      (some (front.length : Int)) state := by
  have some_needle : needle.isEmpty = false := by simpa using nonempty
  have within : front.length + needle.length ≤ (front ++ needle ++ behind).length := by
    simp only [List.length_append]
    omega
  have found := Text.find?_here within (Nat.le_refl _)
  rw [findToken, some_needle, if_neg Bool.false_ne_true, found]
  exact .pure _ _

namespace InlineWalk

/-- A walk that has found some more nodes and has come to a place of the content, where
running text may have started before. -/
def upTo (walk : InlineWalk) (nodes : List Node) (started : Option Nat) (place : Nat) :
    InlineWalk :=
  { walk with
    inner := { walk.inner with children := walk.inner.children ++ nodes }
    cursor := place
    pending := started.map fun start => ⟨start, place⟩ }

theorem append_upTo (walk : InlineWalk) (nodes : List Node) (place : Nat) (node : Node) :
    (walk.upTo nodes none place).append node = walk.upTo (nodes ++ [node]) none place := by
  simp [upTo, append, OpenNode.append]

end InlineWalk

section Steps

variable {offsets : LineOffsets} {content : Text} {walk next last : InlineWalk}
  {nodes : List Node} {place : Nat} {token : Token} {tokens : List Token}
  {state between after : ReadState}

/-- Where no running text has started, nothing ends. -/
theorem flush_upTo_none :
    ((walk.upTo nodes none place).flush offsets).Gives state (walk.upTo nodes none place) state :=
  .pure _ _

/-- A token that is no text is read where the walk stands. -/
theorem walkTokens_node (noText : token.textNeedle? = none)
    (read : (walkNode offsets content token tokens.head? (walk.upTo nodes none place)).Gives state
      next between)
    (others : (walkTokens offsets content next tokens).Gives between last after) :
    (walkTokens offsets content (walk.upTo nodes none place) (token :: tokens)).Gives state
      last after := by
  rw [walkTokens, noText]
  exact .bind flush_upTo_none (.bind read others)

/-- An item of running text is read where the walk stands. -/
theorem walkTokens_running {item : RunningText} (wellFormed : item.WellFormed)
    {front behind : Text} {started : Option Nat}
    (others : (walkTokens offsets (front ++ item.source ++ behind)
      (walk.upTo nodes (started.or (some front.length)) (front ++ item.source).length)
      tokens).Gives state last after) :
    (walkTokens offsets (front ++ item.source ++ behind) (walk.upTo nodes started front.length)
      (item.token :: tokens)).Gives state last after := by
  have needle : item.token.textNeedle? = some item.source := by cases item <;> rfl
  have nonempty : item.source ≠ [] := by
    cases item with
    | plain content => exact wellFormed.1
    | special markup => exact wellFormed.1
    | softBreak => exact List.cons_ne_nil _ _
  rw [walkTokens, needle]
  refine .bind (.bind (findToken_here nonempty _ state) ?_) others
  rw [List.length_append]
  cases started with
  | none => exact .pure _ _
  | some start => exact .pure _ _

end Steps

/-- Offsets into the content are offsets into the document. -/
def LineOffsets.IsIdentity (offsets : LineOffsets) : Prop :=
  ∀ offset : Int, 0 ≤ offset → offsets.locate offset = .ok offset

namespace LineOffsets.IsIdentity

variable {offsets : LineOffsets} (identity : offsets.IsIdentity)
include identity

theorem span (start stop : Nat) (state : ReadState) :
    (offsets.span start stop).Gives state ⟨start, stop⟩ state := by
  rw [LineOffsets.span, identity start (Int.natCast_nonneg _), identity stop (Int.natCast_nonneg _)]
  exact .bind (.ofOffset _ _) (.bind (.ofOffset _ _) (.pure _ _))

/-- Running text becomes a node when something else follows. -/
theorem flush (walk : InlineWalk) (nodes : List Node) (started : Option Nat) (place : Nat)
    (state : ReadState) :
    ((walk.upTo nodes started place).flush offsets).Gives state
      (walk.upTo (nodes ++ InlineTree.textNode started place) none place) state := by
  cases started with
  | none =>
    rw [InlineTree.textNode, List.append_nil]
    exact flush_upTo_none
  | some start =>
    rw [InlineTree.textNode, ← InlineWalk.append_upTo]
    exact .bind (identity.span start place state) (.pure _ _)

/-- Tokens that do not go on with running text end it. -/
theorem walkTokens_flush {content : Text} {walk last : InlineWalk} {nodes : List Node}
    {started : Option Nat} {place : Nat} {tokens : List Token} {state after : ReadState}
    (ends : ∀ token ∈ tokens.head?, token.textNeedle? = none)
    (flushed : (walkTokens offsets content
      (walk.upTo (nodes ++ InlineTree.textNode started place) none place) tokens).Gives state
        last after) :
    (walkTokens offsets content (walk.upTo nodes started place) tokens).Gives state
      last after := by
  have ended := identity.flush walk nodes started place state
  cases tokens with
  | nil =>
    obtain ⟨rfl, rfl⟩ := Reading.Gives.unique flush_upTo_none flushed
    exact ended
  | cons token rest =>
    have noText := ends token rfl
    rw [walkTokens, noText] at flushed ⊢
    exact .bind ended ((Reading.Gives.bind_iff flush_upTo_none).1 flushed)

/-! ### Items without others inside -/

/-- A node is added and the walk goes on behind it. -/
theorem appendLeaf (walk : InlineWalk) (nodes : List Node) (place start stop : Nat)
    (type : NodeType) (state : ReadState) :
    Reading.Gives (do
      let span ← offsets.span start stop
      return { (walk.upTo nodes none place).append (.leaf type span) with cursor := stop }) state
      (walk.upTo (nodes ++ [.leaf type ⟨start, stop⟩]) none stop) state := by
  refine .bind (identity.span start stop state) ?_
  rw [InlineWalk.append_upTo]
  exact .pure _ _

variable {front behind : Text} (next : Option Token) (walk : InlineWalk) (nodes : List Node)
  (state : ReadState)

theorem walkNode_html {content : Text} (nonempty : content ≠ []) :
    (walkNode offsets (front ++ content ++ behind) { kind := .rawHtml, content } next
      (walk.upTo nodes none front.length)).Gives state
      (walk.upTo (nodes ++ [(InlineLeaf.html content).node front.length]) none
        (front ++ content).length) state := by
  rw [walkNode, List.length_append]
  exact .bind (findToken_here nonempty _ state) (identity.appendLeaf ..)

theorem walkNode_image {label target : Text} (balancedLabel : Balanced .square label)
    (balancedTarget : Balanced .round target) :
    (walkNode offsets (front ++ (InlineLeaf.image label target).source ++ behind)
      { kind := .image } next (walk.upTo nodes none front.length)).Gives state
      (walk.upTo (nodes ++ [(InlineLeaf.image label target).node front.length]) none
        (front ++ (InlineLeaf.image label target).source).length) state := by
  have marker : front ++ (InlineLeaf.image label target).source ++ behind
      = front ++ ['!', '['] ++ (label ++ [']'] ++ BracketPair.round.enclose target ++ behind) := by
    simp [InlineLeaf.source, linkSource, BracketPair.enclose, BracketPair.square]
  have found : (findToken (front ++ (InlineLeaf.image label target).source ++ behind) front.length
      .image ['!', '[']).Gives state (some (front.length : Int)) state := by
    rw [marker]
    exact findToken_here (List.cons_ne_nil _ _) _ state
  have stop : linkSourceEnd (front ++ (InlineLeaf.image label target).source ++ behind)
      ((front.length : Int) + 1)
      = .ok ((front.length + (InlineLeaf.image label target).source.length : Nat) : Int) := by
    have link := @linkSourceEnd_linkSource (front ++ ['!']) label target behind balancedLabel
      balancedTarget
    rw [List.append_assoc front, List.singleton_append, List.length_append,
      List.length_append] at link
    exact link
  rw [walkNode, List.length_append]
  refine .bind found (.bind ?_ (identity.appendLeaf ..))
  rw [Option.getD_some, stop]
  exact .ofOffset _ _

theorem walkNode_hardBreak (mark : BreakMark) :
    (walkNode offsets (front ++ (InlineLeaf.hardBreak mark).source ++ behind)
      { kind := .hardBreak } next (walk.upTo nodes none front.length)).Gives state
      (walk.upTo (nodes ++ [(InlineLeaf.hardBreak mark).node front.length]) none
        (front ++ (InlineLeaf.hardBreak mark).source).length) state := by
  have oneLine : '\n' ∉ mark.text := by cases mark <;> decide
  have shape : front ++ (InlineLeaf.hardBreak mark).source ++ behind
      = front ++ (mark.text ++ '\n' :: behind) := by
    simp [InlineLeaf.source]
  have found : (findToken (front ++ (InlineLeaf.hardBreak mark).source ++ behind) front.length
      .hardBreak ['\n']).Gives state
      (some ((front.length + mark.text.length : Nat) : Int)) state := by
    rw [shape, findToken, List.isEmpty_cons, if_neg Bool.false_ne_true, Text.find?_char oneLine]
    exact .pure _ _
  have length : (front ++ (InlineLeaf.hardBreak mark).source).length
      = front.length + mark.text.length + 1 := by
    simp [InlineLeaf.source, Nat.add_assoc]
  rw [walkNode, length]
  exact .bind found (identity.appendLeaf ..)

theorem walkNode_code {count : Nat} {body : Text}
    (wellFormed : (InlineLeaf.code count body).WellFormed behind) :
    (walkNode offsets (front ++ (InlineLeaf.code count body).source ++ behind)
      { kind := .codeSpan, markup := backticks count } next
      (walk.upTo nodes none front.length)).Gives state
      (walk.upTo (nodes ++ [(InlineLeaf.code count body).node front.length]) none
        (front ++ (InlineLeaf.code count body).source).length) state := by
  have some_run : backticks count ≠ [] := by
    rw [← List.length_pos_iff, length_backticks]
    exact wellFormed.1
  have shape : front ++ (InlineLeaf.code count body).source ++ behind
      = front ++ backticks count ++ (body ++ backticks count ++ behind) := by
    simp [InlineLeaf.source]
  have found : (findToken (front ++ (InlineLeaf.code count body).source ++ behind) front.length
      .codeSpan (backticks count)).Gives state (some (front.length : Int)) state := by
    rw [shape]
    exact findToken_here some_run _ state
  have stop := @codeSpanStop_source count body behind front wellFormed
  rw [List.length_append] at stop
  rw [walkNode, List.length_append]
  refine .bind found ?_
  dsimp only [Option.getD_some]
  rw [stop]
  exact identity.appendLeaf ..

/-! ### Items around others -/

/-- The markup in front of enclosed items opens a node that is empty so far. -/
theorem walkNode_opening (kind : Enclosure) {markup : Text} (nonempty : markup ≠ []) :
    (walkNode offsets (front ++ markup ++ behind) { kind := .opening kind.element, markup } next
      (walk.upTo nodes none front.length)).Gives state
      (((walk.upTo nodes none front.length).enter kind.nodeType ⟨front.length, front.length⟩).upTo
        [] none (front ++ markup).length) state := by
  have found := @findToken_here front markup behind nonempty (.opening kind.element) state
  have opened : Reading.Gives (do
      let start := (← findToken (front ++ markup ++ behind) front.length (.opening kind.element)
        markup).getD (front.length : Int)
      let span ← offsets.span start start
      return { (walk.upTo nodes none front.length).enter kind.nodeType span with
        cursor := start + markup.length }) state
      (((walk.upTo nodes none front.length).enter kind.nodeType ⟨front.length, front.length⟩).upTo
        [] none (front ++ markup).length) state := by
    refine .bind found (.bind (identity.span front.length front.length state) ?_)
    rw [List.length_append]
    exact .pure _ _
  cases kind with
  | emphasis => exact opened
  | strong => exact opened
  | strikethrough => exact opened

/-- The markup behind enclosed items closes their node. -/
theorem walkNode_closing (kind : Enclosure) {markup : Text} {start : Nat} {children : List Node}
    (nonempty : markup ≠ []) :
    (walkNode offsets (front ++ markup ++ behind) { kind := .closing kind.element, markup } next
      (((walk.upTo nodes none start).enter kind.nodeType ⟨start, start⟩).upTo children none
        front.length)).Gives state
      (walk.upTo (nodes ++ [.mk kind.nodeType ⟨start, (front ++ markup).length⟩ children]) none
        (front ++ markup).length) state := by
  have found := @findToken_here front markup behind nonempty (.closing kind.element) state
  have stop := identity (front ++ markup).length (Int.natCast_nonneg _)
  have closed : Reading.Gives (do
      let absolute ← .ofOffset (offsets.locate ((front.length : Int) + markup.length))
      return { ((((walk.upTo nodes none start).enter kind.nodeType ⟨start, start⟩).upTo children
        none front.length).stopInner absolute).leave with
          cursor := (front.length : Int) + markup.length }) state
      (walk.upTo (nodes ++ [.mk kind.nodeType ⟨start, (front ++ markup).length⟩ children]) none
        (front ++ markup).length) state := by
    rw [← Int.natCast_add, ← List.length_append, stop]
    refine .bind (.ofOffset _ _) ?_
    rw [← InlineWalk.append_upTo]
    exact .pure _ _
  cases kind with
  | emphasis => exact .bind found closed
  | strong => exact .bind found closed
  | strikethrough => exact .bind found closed

/-- The token that opens a link enters its node, and the walk goes on inside. -/
theorem walkNode_linkOpening {content : Text} {opening : Token} {start stop inner : Nat}
    (isOpening : opening.kind = .opening .link)
    (source : (linkSpan opening next content start).Gives state ⟨start, stop⟩ state)
    (cursor : (if opening.markup = plainLinkMarkup then (start : Int)
      else min ((start : Int) + 1) stop) = inner) :
    (walkNode offsets content opening next (walk.upTo nodes none start)).Gives state
      (({ (walk.upTo nodes none start).enter .link ⟨start, stop⟩ with
        linkStops := stop :: walk.linkStops } : InlineWalk).upTo [] none inner) state := by
  rw [walkNode]
  simp only [isOpening]
  refine .bind source (.bind (identity.span start stop state) ?_)
  dsimp only
  rw [cursor]
  exact .pure _ _

omit identity in
/-- The token that closes a link leads behind the link's source. -/
theorem walkNode_linkClosing {content : Text} {start stop place : Nat} {children : List Node} :
    (walkNode offsets content { kind := .closing .link } next
      (({ (walk.upTo nodes none start).enter .link ⟨start, stop⟩ with
        linkStops := stop :: walk.linkStops } : InlineWalk).upTo children none place)).Gives state
      (walk.upTo (nodes ++ [.mk .link ⟨start, stop⟩ children]) none stop) state := by
  rw [← InlineWalk.append_upTo]
  exact .pure _ _

end LineOffsets.IsIdentity

end JapaneseSpacing
