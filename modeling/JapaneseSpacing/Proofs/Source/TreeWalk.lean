import JapaneseSpacing.Proofs.Source.Walk

/-!
# Walking over a written tree

The walk over the tokens of a well-formed tree finds the nodes of the tree, by induction on
the tree (`walkTokens_tree`). With the lines of a document that is the tree's source, this
gives what a container is filled with.
-/

namespace JapaneseSpacing

/-! ## Where links start and stop -/

section LinkSpan

variable {front behind : Text} (state : ReadState)

/-- A plain link is found by the text that it shows. -/
theorem linkSpan_plain {shown : Text} (nonempty : shown ≠ []) :
    (linkSpan { kind := .opening .link, markup := plainLinkMarkup }
      (some { kind := .text, content := shown }) (front ++ shown ++ behind) front.length).Gives
      state (InlineLeaf.spanAt front.length shown) state := by
  have some_shown : shown.isEmpty = false := by simpa using nonempty
  have within : front.length + shown.length ≤ (front ++ shown ++ behind).length := by
    simp only [List.length_append]
    omega
  have found := Text.find?_here within (Nat.le_refl _)
  simp only [linkSpan, if_pos, some_shown, Bool.false_eq_true, if_false, found]
  rw [InlineLeaf.spanAt, Int.natCast_add]
  exact .pure _ _

/-- A link in angle brackets is found by these. -/
theorem linkSpan_angle {address : Text} (next : Option Token) (oneBracket : '>' ∉ address) :
    (linkSpan { kind := .opening .link, markup := angleLinkMarkup } next
      (front ++ ('<' :: address ++ ['>']) ++ behind) front.length).Gives
      state (InlineLeaf.spanAt front.length ('<' :: address ++ ['>'])) state := by
  have notPlain : ¬ angleLinkMarkup = plainLinkMarkup := by decide
  have opening : front ++ ('<' :: address ++ ['>']) ++ behind
      = front ++ ['<'] ++ (address ++ '>' :: behind) := by simp
  have closing : front ++ ('<' :: address ++ ['>']) ++ behind
      = front ++ ('<' :: address ++ '>' :: behind) := by simp
  have start : (front ++ ('<' :: address ++ ['>']) ++ behind).find? ['<'] front.length
      (front ++ ('<' :: address ++ ['>']) ++ behind).length = some front.length := by
    rw [opening]
    exact Text.find?_here (by simp) (Nat.le_refl _)
  have stop : (front ++ ('<' :: address ++ ['>']) ++ behind).find? ['>'] front.length
      (front ++ ('<' :: address ++ ['>']) ++ behind).length
      = some (front.length + ('<' :: address).length) := by
    rw [closing]
    exact Text.find?_char (by simp [oneBracket])
  have length : ((front.length + ('<' :: address).length : Nat) : Int) + 1
      = (front.length + ('<' :: address ++ ['>']).length : Nat) := by
    simp [Int.add_assoc]
  simp only [linkSpan, if_neg notPlain, if_true, start, stop, length]
  exact .pure _ _

/-- Any other link is found by its label's bracket. -/
theorem linkSpan_target {label target : Text} (next : Option Token)
    (balancedLabel : Balanced .square label) (balancedTarget : Balanced .round target) :
    (linkSpan { kind := .opening .link } next (front ++ linkSource label target ++ behind)
      front.length).Gives
      state (InlineLeaf.spanAt front.length (linkSource label target)) state := by
  have notPlain : ¬ ([] : Text) = plainLinkMarkup := by decide
  have notAngle : ¬ ([] : Text) = angleLinkMarkup := by decide
  have bracket : front ++ linkSource label target ++ behind
      = front ++ ['['] ++ (label ++ [']'] ++ BracketPair.round.enclose target ++ behind) := by
    simp [linkSource, BracketPair.enclose, BracketPair.square]
  have start : (front ++ linkSource label target ++ behind).find? ['['] front.length
      (front ++ linkSource label target ++ behind).length = some front.length := by
    rw [bracket]
    exact Text.find?_here (by simp) (Nat.le_refl _)
  have stop := @linkSourceEnd_linkSource front label target behind balancedLabel balancedTarget
  rw [List.length_append] at stop
  simp only [linkSpan, if_neg notPlain, if_neg notAngle, start, stop]
  exact .bind (.ofOffset _ _) (.pure _ _)

end LinkSpan

/-! ## The walk over a tree -/

/-- The tokens of a leaf do not go on with running text. -/
theorem InlineLeaf.head_tokens (item : InlineLeaf) (more : List Token) :
    ∀ token ∈ (item.tokens ++ more).head?, token.textNeedle? = none := by
  cases item <;> rintro _ ⟨⟩ <;> rfl

namespace LineOffsets.IsIdentity

variable {offsets : LineOffsets} (identity : offsets.IsIdentity) {front behind : Text}
  {walk last : InlineWalk} {nodes : List Node} {more : List Token} {state after : ReadState}
include identity

/-- A link is read as one node if what is inside is. -/
theorem walkTokens_link (opening : Token) (inside : List Token) (place : Nat)
    {content source : Text} {inner : Nat} {children : List Node}
    (isOpening : opening.kind = .opening .link)
    (found : (linkSpan opening (inside ++ { kind := .closing .link } :: more).head? content
      front.length).Gives state (InlineLeaf.spanAt front.length source) state)
    (cursor : (if opening.markup = plainLinkMarkup then (front.length : Int)
      else min ((front.length : Int) + 1) (front.length + source.length : Nat)) = inner)
    (read : ∀ walk : InlineWalk,
      (walkTokens offsets content (walk.upTo children none place)
        ({ kind := .closing .link } :: more)).Gives state last after →
      (walkTokens offsets content (walk.upTo [] none inner)
        (inside ++ { kind := .closing .link } :: more)).Gives state last after)
    (others : (walkTokens offsets content
      (walk.upTo (nodes ++ [.mk .link (InlineLeaf.spanAt front.length source) children]) none
        (front ++ source).length) more).Gives state last after) :
    (walkTokens offsets content (walk.upTo nodes none front.length)
      (opening :: inside ++ { kind := .closing .link } :: more)).Gives state last after := by
  have noText : opening.textNeedle? = none := by rw [Token.textNeedle?, isOpening]
  rw [List.length_append] at others
  refine walkTokens_node noText (identity.walkNode_linkOpening _ _ _ _ isOpening found cursor) ?_
  exact read _ (walkTokens_node rfl (walkNode_linkClosing _ _ _ _) others)

omit identity in
/-- The walk goes on behind the bracket that opens a link. -/
theorem cursor_behind_bracket {source markup : Text} (notPlain : markup ≠ plainLinkMarkup)
    (nonempty : source ≠ []) :
    (if markup = plainLinkMarkup then (front.length : Int)
      else min ((front.length : Int) + 1) (front.length + source.length : Nat))
      = (front.length + 1 : Nat) := by
  have some_source : 0 < source.length := List.length_pos_iff.2 nonempty
  rw [if_neg notPlain, Int.min_eq_left (by omega), Int.natCast_add, Int.natCast_one]

/-- The text that a link shows becomes its only node. -/
theorem walkTokens_shown {shown : Text} (wellFormed : (RunningText.plain shown).WellFormed)
    {token : Token} (ends : token.textNeedle? = none)
    (others : (walkTokens offsets (front ++ shown ++ behind)
      (walk.upTo [.leaf .str (InlineLeaf.spanAt front.length shown)] none
        (front ++ shown).length) (token :: more)).Gives state last after) :
    (walkTokens offsets (front ++ shown ++ behind) (walk.upTo [] none front.length)
      ({ kind := .text, content := shown } :: token :: more)).Gives state last after := by
  refine walkTokens_running wellFormed (identity.walkTokens_flush ?_ ?_)
  · rintro _ ⟨⟩
    exact ends
  · simpa only [InlineTree.textNode, InlineLeaf.spanAt, RunningText.source, Option.none_or,
      List.nil_append, List.length_append] using others

/-- A leaf is read as its node. -/
theorem walkTokens_leaf {item : InlineLeaf} (wellFormed : item.WellFormed behind)
    (others : (walkTokens offsets (front ++ item.source ++ behind)
      (walk.upTo (nodes ++ [item.node front.length]) none (front ++ item.source).length) more).Gives
      state last after) :
    (walkTokens offsets (front ++ item.source ++ behind) (walk.upTo nodes none front.length)
      (item.tokens ++ more)).Gives state last after := by
  cases item with
  | code count body =>
    exact walkTokens_node rfl (identity.walkNode_code _ _ _ _ wellFormed) others
  | image label target =>
    exact walkTokens_node rfl (identity.walkNode_image _ _ _ _ wellFormed.1 wellFormed.2) others
  | html content =>
    exact walkTokens_node rfl (identity.walkNode_html _ _ _ _ wellFormed) others
  | hardBreak mark =>
    exact walkTokens_node rfl (identity.walkNode_hardBreak _ _ _ _ mark) others
  | plainLink shown =>
    have atStart : (if plainLinkMarkup = plainLinkMarkup then (front.length : Int)
        else min ((front.length : Int) + 1) (front.length + shown.length : Nat)) = front.length :=
      if_pos rfl
    refine identity.walkTokens_link { kind := .opening .link, markup := plainLinkMarkup }
      [{ kind := .text, content := shown }] (front ++ shown).length rfl
      (linkSpan_plain state wellFormed.1) atStart ?_ others
    intro inner
    exact identity.walkTokens_shown wellFormed rfl
  | angleLink address =>
    obtain ⟨nonempty, oneLine, oneBracket⟩ := wellFormed
    have behindBracket := @cursor_behind_bracket front ('<' :: address ++ ['>']) angleLinkMarkup
      (by decide) (List.cons_ne_nil _ _)
    refine identity.walkTokens_link { kind := .opening .link, markup := angleLinkMarkup }
      [{ kind := .text, content := address }] (front ++ ['<'] ++ address).length rfl
      (linkSpan_angle state _ oneBracket) behindBracket ?_ others
    intro inner closed
    have shape : front ++ (InlineLeaf.angleLink address).source ++ behind
        = front ++ ['<'] ++ address ++ (['>'] ++ behind) := by
      simp [InlineLeaf.source]
    have bracketed : (front ++ ['<']).length = front.length + 1 := List.length_append
    rw [shape] at closed ⊢
    rw [← bracketed]
    refine identity.walkTokens_shown ⟨nonempty, oneLine⟩ rfl ?_
    rw [bracketed]
    exact closed

/-- The walk over enclosed items makes them one node, given the walk over these. -/
theorem walkTokens_enclosed {content : Text} {kind : Enclosure} {markup inside : Text}
    {children : List Node} {tokens : List Token} (nonempty : markup ≠ [])
    (shape : content = front ++ (markup ++ inside ++ markup) ++ behind)
    (read : ∀ inner : InlineWalk,
      (walkTokens offsets content (inner.upTo children none (front ++ markup ++ inside).length)
        ({ kind := .closing kind.element, markup } :: more)).Gives state last after →
      (walkTokens offsets content (inner.upTo [] none (front ++ markup).length)
        (tokens ++ { kind := .closing kind.element, markup } :: more)).Gives state last after)
    (others : (walkTokens offsets content
      (walk.upTo (nodes ++ [.mk kind.nodeType
        (InlineLeaf.spanAt front.length (markup ++ inside ++ markup)) children]) none
        (front ++ (markup ++ inside ++ markup)).length) more).Gives state last after) :
    (walkTokens offsets content (walk.upTo nodes none front.length)
      ({ kind := .opening kind.element, markup } :: tokens
        ++ { kind := .closing kind.element, markup } :: more)).Gives state last after := by
  have opening : content = front ++ markup ++ (inside ++ markup ++ behind) := by
    simp only [shape, List.append_assoc]
  have closing : content = front ++ markup ++ inside ++ markup ++ behind := by
    simp only [shape, List.append_assoc]
  have whole : front ++ (markup ++ inside ++ markup) = front ++ markup ++ inside ++ markup := by
    simp only [List.append_assoc]
  have opened := @walkNode_opening offsets identity front (inside ++ markup ++ behind)
    (tokens ++ { kind := .closing kind.element, markup } :: more).head? walk nodes state kind
    markup nonempty
  have closed := @walkNode_closing offsets identity (front ++ markup ++ inside) behind more.head?
    walk nodes state kind markup front.length children nonempty
  rw [← opening] at opened
  rw [← closing] at closed
  rw [InlineLeaf.spanAt, ← List.length_append, whole] at others
  exact walkTokens_node rfl opened (read _ (walkTokens_node rfl closed others))

/-- The walk over the tokens of a well-formed tree finds its nodes. -/
theorem walkTokens_tree {content : Text} {tree : InlineTree} {started : Option Nat}
    (shape : content = front ++ tree.source ++ behind) (wellFormed : tree.WellFormed behind)
    (ends : ∀ token ∈ more.head?, token.textNeedle? = none)
    (others : (walkTokens offsets content
      (walk.upTo (nodes ++ tree.nodes started front.length) none (front ++ tree.source).length)
      more).Gives state last after) :
    (walkTokens offsets content (walk.upTo nodes started front.length)
      (tree.tokens ++ more)).Gives state last after := by
  induction tree generalizing front behind walk nodes started more with
  | nil =>
    refine identity.walkTokens_flush ends ?_
    rwa [InlineTree.source, List.append_nil] at others
  | running item rest inductionHypothesis =>
    obtain ⟨itemWellFormed, restWellFormed⟩ := wellFormed
    have here : content = front ++ item.source ++ (rest.source ++ behind) := by
      rw [shape, InlineTree.source]
      simp only [List.append_assoc]
    have behindItem : content = front ++ item.source ++ rest.source ++ behind := by
      rw [here, List.append_assoc _ rest.source]
    have read := @inductionHypothesis (front ++ item.source) behind walk nodes more
      (started.or (some front.length)) behindItem restWellFormed ends
      (by rwa [List.length_append, List.append_assoc front])
    rw [here] at read ⊢
    exact walkTokens_running itemWellFormed read
  | leaf item rest inductionHypothesis =>
    obtain ⟨itemWellFormed, restWellFormed⟩ := wellFormed
    have here : content = front ++ item.source ++ (rest.source ++ behind) := by
      simp only [shape, InlineTree.source, List.append_assoc]
    have behindItem : content = front ++ item.source ++ rest.source ++ behind := by
      rw [here, List.append_assoc _ rest.source]
    have read := @inductionHypothesis (front ++ item.source) behind walk
      (nodes ++ InlineTree.textNode started front.length ++ [item.node front.length]) more none
      behindItem restWellFormed ends
      (by simpa [InlineTree.nodes, InlineTree.source, Nat.add_assoc] using others)
    rw [InlineTree.tokens, List.append_assoc]
    refine identity.walkTokens_flush (item.head_tokens _) ?_
    rw [here] at read ⊢
    exact identity.walkTokens_leaf itemWellFormed read
  | enclosed kind markup inside rest insideHypothesis inductionHypothesis =>
    obtain ⟨nonempty, insideWellFormed, restWellFormed⟩ := wellFormed
    have shapeInside : content = front ++ markup ++ inside.source
        ++ (markup ++ rest.source ++ behind) := by
      simp only [shape, InlineTree.source, List.append_assoc]
    have shapeRest : content = front ++ (markup ++ inside.source ++ markup) ++ rest.source
        ++ behind := by
      simp only [shape, InlineTree.source, List.append_assoc]
    have read := @inductionHypothesis (front ++ (markup ++ inside.source ++ markup)) behind walk
      (nodes ++ InlineTree.textNode started front.length ++ [.mk kind.nodeType
        (InlineLeaf.spanAt front.length (markup ++ inside.source ++ markup))
        (inside.nodes none (front ++ markup).length)]) more none shapeRest restWellFormed ends
      (by simpa [InlineTree.nodes, InlineTree.source, Nat.add_assoc] using others)
    rw [InlineTree.tokens, List.cons_append, List.cons_append, List.append_assoc, List.cons_append]
    refine identity.walkTokens_flush (fun _ first => ?_) ?_
    · cases first
      rfl
    · rw [List.append_assoc _ rest.source] at shapeRest
      refine identity.walkTokens_enclosed nonempty shapeRest (fun inner closed => ?_) read
      refine insideHypothesis shapeInside insideWellFormed (fun _ first => ?_) closed
      cases first
      rfl
  | link label target rest labelHypothesis inductionHypothesis =>
    obtain ⟨balancedLabel, balancedTarget, labelWellFormed, restWellFormed⟩ := wellFormed
    have shapeLabel : content = front ++ ['['] ++ label.source
        ++ (']' :: BracketPair.round.enclose target ++ rest.source ++ behind) := by
      simp [shape, InlineTree.source, linkSource, BracketPair.enclose, BracketPair.square]
    have shapeRest : content = front ++ linkSource label.source target ++ rest.source
        ++ behind := by
      simp only [shape, InlineTree.source, List.append_assoc]
    have bracketed : (front ++ ['[']).length = front.length + 1 := List.length_append
    have read := @inductionHypothesis (front ++ linkSource label.source target) behind walk
      (nodes ++ InlineTree.textNode started front.length ++ [.mk .link
        (InlineLeaf.spanAt front.length (linkSource label.source target))
        (label.nodes none (front ++ ['[']).length)]) more none shapeRest restWellFormed ends
      (by simpa [InlineTree.nodes, InlineTree.source, Nat.add_assoc] using others)
    have found := @linkSpan_target front (rest.source ++ behind) state label.source target
      (label.tokens ++ { kind := .closing .link } :: (rest.tokens ++ more)).head? balancedLabel
      balancedTarget
    rw [← List.append_assoc, ← shapeRest] at found
    have behindBracket := @cursor_behind_bracket front (linkSource label.source target) []
      (by decide) (List.cons_ne_nil _ _)
    rw [InlineTree.tokens, List.cons_append, List.cons_append, List.append_assoc, List.cons_append]
    refine identity.walkTokens_flush (fun _ first => ?_) ?_
    · cases first
      rfl
    · refine identity.walkTokens_link { kind := .opening .link } label.tokens
        (front ++ ['['] ++ label.source).length rfl found behindBracket
        (fun inner closed => ?_) read
      rw [← bracketed]
      refine labelHypothesis shapeLabel labelWellFormed (fun _ first => ?_) closed
      cases first
      rfl

end LineOffsets.IsIdentity

/-! ## Tokens by their outlines -/

theorem Token.kind_outline (token : Token) : token.outline.kind = token.kind := by
  rcases token with ⟨kind, nesting, level, content, markup, info, href⟩
  cases kind with
  | closing element => cases element <;> rfl
  | _ => rfl

theorem Token.textNeedle?_outline (token : Token) :
    token.outline.textNeedle? = token.textNeedle? := by
  rcases token with ⟨kind, nesting, level, content, markup, info, href⟩
  cases kind with
  | closing element => cases element <;> rfl
  | _ => rfl

theorem linkSpan_outline (token : Token) (label : Option Token) (content : Text) (cursor : Int) :
    linkSpan token (label.map Token.outline) content cursor
      = linkSpan token label content cursor := by
  cases label with
  | none => rfl
  | some label =>
    have shown : (if label.outline.kind = .text then label.outline.content else [])
        = if label.kind = .text then label.content else [] := by
      rw [label.kind_outline]
      split
      · rename_i isText
        rw [Token.outline, isText]
      · rfl
    simp only [linkSpan, Option.map_some, shown]

theorem walkNode_outline (offsets : LineOffsets) (content : Text) (token : Token)
    (next : Option Token) (walk : InlineWalk) :
    walkNode offsets content token.outline (next.map Token.outline) walk
      = walkNode offsets content token next walk := by
  rcases token with ⟨kind, nesting, level, shown, markup, info, href⟩
  cases kind with
  | opening element =>
    cases element with
    | link =>
      have source := linkSpan_outline { kind := .opening .link, markup } next content walk.cursor
      rw [walkNode, walkNode]
      dsimp only [Token.outline]
      rw [source]
      rfl
    | _ => rfl
  | closing element => cases element <;> rfl
  | _ => rfl

/-- The walk reads nothing of a token but its outline. -/
theorem walkTokens_outline (offsets : LineOffsets) (content : Text) (walk : InlineWalk)
    (tokens : List Token) :
    walkTokens offsets content walk (tokens.map Token.outline)
      = walkTokens offsets content walk tokens := by
  induction tokens generalizing walk with
  | nil => rfl
  | cons token rest inductionHypothesis =>
    rw [List.map_cons, walkTokens, walkTokens, token.textNeedle?_outline]
    simp only [inductionHypothesis, walkText, token.kind_outline, List.head?_map, walkNode_outline]

/-! ## Containers -/

/-- In a document that is the content itself the container spans the document, and the walk
decides about its nodes, with every offset where it is. -/
theorem fillContainer_own {token : BlockToken} {container : OpenNode} {walk : InlineWalk}
    {after : ReadState} {last : Int} (fromStart : token.lineRange = some (0, last))
    (walked : ∀ offsets : LineOffsets, offsets.IsIdentity →
      (walkTokens offsets token.content
        { inner := { container with span := ⟨0, token.content.length⟩ } }
        (token.children.getD [])).Gives { floor := token.content.length } walk after) :
    (fillContainer (SourceLines.ofText token.content) token container).Gives {}
      walk.container after := by
  let starts : List Int := (Text.startsFrom 0 (Text.lines token.content)).map Int.ofNat
  have someLine : (Text.lines token.content).isEmpty = false := by
    simpa using Text.lines_ne_nil token.content
  have located : (locateLines (SourceLines.ofText token.content) (some (0 : Nat)) (0 : Nat)
      (Text.lines token.content)).Gives {} ⟨starts, starts⟩
      { floor := token.content.length } := by
    have own := @locateLines_own token.content 0 0 (Text.lines token.content) {} rfl
      (Text.lineStarts_eq token.content) (Int.le_refl _)
    rw [someLine, Text.join_lines, Nat.zero_add] at own
    exact own
  have identity : (LineOffsets.mk starts starts).IsIdentity := by
    intro offset inside
    exact (covers_startsFrom (by rw [List.length_map, Text.length_startsFrom])).locate_own inside
  have whole := identity.span 0 token.content.length { floor := token.content.length }
  rw [fillContainer, fromStart]
  exact .bind located (.bind whole (.bind (walked _ identity) (.pure _ _)))

/-- The walk over tokens that show a well-formed tree, from its start to its end. -/
theorem walkTokens_shows {offsets : LineOffsets} (identity : offsets.IsIdentity)
    {tree : InlineTree} {tokens : List Token} (walk : OpenNode) (state : ReadState)
    (wellFormed : tree.WellFormed []) (shows : tokens.map Token.outline = tree.tokens) :
    (walkTokens offsets tree.source { inner := walk } tokens).Gives state
      (({ inner := walk } : InlineWalk).upTo (tree.nodes none 0) none tree.source.length)
      state := by
  have atStart : ({ inner := walk } : InlineWalk).upTo [] none ([] : Text).length
      = { inner := walk } := by
    simp [InlineWalk.upTo]
  have shape : tree.source = [] ++ tree.source ++ [] := by rw [List.nil_append, List.append_nil]
  have walked := @LineOffsets.IsIdentity.walkTokens_tree offsets identity [] [] { inner := walk } _
    [] [] state state tree.source tree none shape wellFormed (by simp) flush_upTo_none
  rwa [atStart, List.append_nil, ← shows, walkTokens_outline] at walked

/-- In a document that is the source of a well-formed tree, the tokens of the tree give the
container the nodes of the tree, the whole document as its span, and no notes. -/
theorem fillContainer_source {tree : InlineTree} {token : BlockToken} {container : OpenNode}
    {last : Int} (wellFormed : tree.WellFormed []) (isContent : token.content = tree.source)
    (fromStart : token.lineRange = some (0, last))
    (shows : (token.children.getD []).map Token.outline = tree.tokens) :
    (fillContainer (SourceLines.ofText tree.source) token container).Gives {}
      { container with
        span := ⟨0, tree.source.length⟩
        children := container.children ++ tree.nodes none 0 }
      { floor := tree.source.length, notes := [] } := by
  have walked : ∀ offsets : LineOffsets, offsets.IsIdentity →
      (walkTokens offsets token.content
        { inner := { container with span := ⟨0, token.content.length⟩ } }
        (token.children.getD [])).Gives { floor := token.content.length }
        (({ inner := { container with span := ⟨0, token.content.length⟩ } } : InlineWalk).upTo
          (tree.nodes none 0) none token.content.length)
        { floor := token.content.length } := by
    intro offsets identity
    rw [isContent]
    exact walkTokens_shows identity _ _ wellFormed shows
  rw [← isContent]
  exact fillContainer_own fromStart walked

/-- A link with code for its label inside emphasis, a link in angle brackets behind a line
feed, and a hard break behind a character reference. -/
def nestedTree : InlineTree :=
  .running (.plain "あ".toList) <|
  .enclosed .strong "**".toList
    (.link (.leaf (.code 1 "[x]".toList) (.running (.plain "y".toList) .nil)) "b(c)".toList .nil) <|
  .running .softBreak <|
  .leaf (.angleLink "a@b.c".toList) <|
  .running (.special "&amp;".toList) <|
  .leaf (.hardBreak .backslash) <|
  .leaf (.plainLink "x.jp".toList) .nil

theorem nestedTree_wellFormed : nestedTree.WellFormed [] := by
  have balancedLabel : Balanced .square "\x60[x]\x60y".toList := by
    have tick : Balanced .square "\x60".toList := .of_plain (by simp [BracketPair.square])
    have inside : Balanced .square "x".toList := .of_plain (by simp [BracketPair.square])
    have shown : Balanced .square "\x60y".toList := .of_plain (by simp [BracketPair.square])
    exact tick.append (.enclosed inside shown)
  have balancedTarget : Balanced .round "b(c)".toList := by
    have front : Balanced .round "b".toList := .of_plain (by simp [BracketPair.round])
    have inside : Balanced .round "c".toList := .of_plain (by simp [BracketPair.round])
    exact front.append (.enclosed inside .nil)
  have code : (InlineLeaf.code 1 "[x]".toList).WellFormed
      "y](b(c))**\n<a@b.c>&amp;\\\nx.jp".toList :=
    ⟨Nat.le_refl _, by decide, by decide, by decide, .of_not_mem (Nat.le_refl _) (by decide),
      by decide⟩
  have link : (InlineTree.link (.leaf (.code 1 "[x]".toList) (.running (.plain "y".toList) .nil))
      "b(c)".toList .nil).WellFormed "**\n<a@b.c>&amp;\\\nx.jp".toList :=
    ⟨balancedLabel, balancedTarget, ⟨code, ⟨by decide, by decide⟩, trivial⟩, trivial⟩
  exact ⟨⟨by decide, by decide⟩, by decide, link, trivial, ⟨by decide, by decide, by decide⟩,
    ⟨by decide, by decide⟩, trivial, ⟨by decide, by decide⟩, trivial⟩

/-- What the nested tree's tokens give a paragraph. -/
theorem fillContainer_source_nested :
    nestedTree.source = "あ**[\x60[x]\x60y](b(c))**\n<a@b.c>&amp;\\\nx.jp".toList
    ∧ (fillContainer (SourceLines.ofText nestedTree.source)
      { kind := .inline, content := nestedTree.source, lineRange := some (0, 3),
        children := some nestedTree.tokens } ⟨.paragraph, ⟨0, 0⟩, []⟩).Gives {}
      ⟨.paragraph, ⟨0, 38⟩, [
        .leaf .str ⟨0, 1⟩,
        .mk .strong ⟨1, 19⟩ [.mk .link ⟨3, 17⟩ [.leaf .code ⟨4, 9⟩, .leaf .str ⟨9, 10⟩]],
        .leaf .str ⟨19, 20⟩,
        .mk .link ⟨20, 27⟩ [.leaf .str ⟨21, 26⟩],
        .leaf .str ⟨27, 32⟩,
        .leaf .lineBreak ⟨33, 34⟩,
        .mk .link ⟨34, 38⟩ [.leaf .str ⟨34, 38⟩]]⟩
      { floor := 38, notes := [] } := by
  have filled := @fillContainer_source nestedTree
    { kind := .inline, content := nestedTree.source, lineRange := some (0, 3),
      children := some nestedTree.tokens } ⟨.paragraph, ⟨0, 0⟩, []⟩ 3
    nestedTree_wellFormed rfl rfl rfl
  exact ⟨by decide, filled⟩

end JapaneseSpacing
