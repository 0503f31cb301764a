import JapaneseSpacing.Proofs.Markdown.WrittenEmail
import Mathlib.Data.List.Forall2

/-!
# Links from email addresses keep the text

Turning the addresses of plain text into links only cuts text tokens and puts brackets around
some of the pieces (`linkEmails_keeps_text`). A literal of plain text has the form by which the
links of a document are recognised (`emailForm_of_emailLiteralLength?`), so each new link is read
as exactly the address that it shows. How many links are open at a token is told by counting
the brackets in front of it.
-/

namespace JapaneseSpacing

/-! ## Address literals -/

section Literal

variable {text address : Text} {length stop : Nat} {found : Option Nat}

/-- A domain stops behind one of its labels that can end it. -/
theorem exists_label_of_domainStop? {labels : List Text}
    (stops : domainStop? length found labels = some stop) :
    found = some stop ∨ ∃ before label after, labels = before ++ label :: after
      ∧ isTopLevelLabel label = true ∧ length + dottedLength (before ++ [label]) = stop := by
  induction labels generalizing length found with
  | nil => exact .inl stops
  | cons label rest inductionHypothesis =>
    by_cases someLabel : label = []
    · rw [someLabel, domainStop?] at stops
      exact .inl stops
    rw [domainStop?_label someLabel] at stops
    rcases inductionHypothesis stops with earlier | ⟨before, last, after, rfl, ends, rfl⟩
    · split at earlier
      · next ends =>
        refine .inr ⟨[], label, rest, rfl, ends, ?_⟩
        rw [← Option.some.inj earlier, List.nil_append, dottedLength, dottedLength]
        omega
      · exact .inl earlier
    · refine .inr ⟨label :: before, last, after, rfl, ends, ?_⟩
      rw [List.cons_append, dottedLength]
      omega

/-- What is read as the domain of a literal is a domain. -/
theorem domainForm_of_literalDomainLength? (read : literalDomainLength? text = some length) :
    DomainForm (text.take length) := by
  rw [literalDomainLength?] at read
  split at read
  · contradiction
  · contradiction
  next first labels someFirst split =>
  have someFirst : first ≠ [] := someFirst
  rcases exists_label_of_domainStop? read with isNone | ⟨before, topLevel, after, rfl, ends, size⟩
  · contradiction
  have run : Text.join ['.'] (first :: (before ++ topLevel :: after))
      = text.takeWhile isDomainChar := by
    rw [← split, Text.join_splitWhere]
  have starts :
      Text.join ['.'] (first :: (before ++ [topLevel])) <+: text.takeWhile isDomainChar := by
    have front := @Text.join_prefix_append ['.'] (first :: (before ++ [topLevel]))
      (List.cons_ne_nil _ _) after
    rwa [List.cons_append, List.append_assoc, List.singleton_append, run] at front
  have inside : ∀ char ∈ Text.join ['.'] (first :: (before ++ [topLevel])),
      isDomainChar char = true := fun char member =>
    List.mem_takeWhile_imp (starts.subset member)
  have isDomain := List.prefix_iff_eq_take.1 (starts.trans (text.takeWhile_prefix isDomainChar))
  rw [length_join_dot, size] at isDomain
  rw [← isDomain]
  have written : Text.join ['.'] (first :: (before ++ [topLevel]))
      = Text.join ['.'] (first :: before) ++ '.' :: topLevel := by
    rw [← List.cons_append, Text.join_append (List.cons_ne_nil _ _) (List.cons_ne_nil _ _),
      List.append_assoc, List.singleton_append]
    rfl
  rw [written] at inside ⊢
  rw [isTopLevelLabel, Bool.and_eq_true, decide_eq_true_eq, List.all_eq_true] at ends
  exact .written (join_dot_ne_nil someFirst before)
    (fun char member => inside char (List.mem_append_left _ member)) ends.1 ends.2

/-- What is cut out of plain text as an address is one. -/
theorem emailForm_of_emailLiteralLength? (read : emailLiteralLength? text = some length) :
    EmailForm (text.take length) := by
  rw [emailLiteralLength?] at read
  split at read
  · next part after split =>
    obtain ⟨letters, inside, someLetters, rfl, rfl⟩ := splitLocalPart?_eq_some split
    obtain ⟨domainLength, isDomain, rfl⟩ := Option.map_eq_some_iff.1 read
    rw [List.take_length_add_append, List.append_assoc, List.singleton_append]
    exact .written someLetters inside (domainForm_of_literalDomainLength? isDomain)
  · contradiction

end Literal

/-! ## Pieces of plain text -/

namespace TextPiece

variable {previous : Option Char} {gathered text address : Text}

theorem text_ofPlain (text : Text) : (ofPlain text).flatMap TextPiece.text = text := by
  cases text with
  | nil => rfl
  | cons first rest => exact List.append_nil _

theorem not_email_mem_ofPlain : TextPiece.email address ∉ ofPlain text := by
  cases text with
  | nil => exact List.not_mem_nil
  | cons first rest => simp [ofPlain]

/-- Cutting a text at its addresses loses nothing. -/
theorem text_emailPieces (previous : Option Char) (gathered text : Text) :
    (emailPieces previous gathered text).flatMap TextPiece.text = gathered ++ text := by
  fun_induction emailPieces previous gathered text with
  | case1 previous gathered => rw [text_ofPlain, List.append_nil]
  | case2 previous gathered first rest length read address inductionHypothesis =>
    rw [List.flatMap_append, List.flatMap_cons, text_ofPlain, inductionHypothesis,
      List.nil_append]
    exact congrArg (gathered ++ ·) (List.take_append_drop (length + 1) (first :: rest))
  | case3 previous gathered first rest noAddress inductionHypothesis =>
    rw [inductionHypothesis, List.append_assoc, List.singleton_append]

/-- Every piece that is cut out as an address has its form. -/
theorem emailForm_of_mem_emailPieces
    (member : TextPiece.email address ∈ emailPieces previous gathered text) :
    EmailForm address := by
  fun_induction emailPieces previous gathered text with
  | case1 previous gathered => exact absurd member not_email_mem_ofPlain
  | case2 previous gathered first rest length read cut inductionHypothesis =>
    rcases List.mem_append.1 member with isPlain | isLater
    · exact absurd isPlain not_email_mem_ofPlain
    rcases List.mem_cons.1 isLater with isCut | isBehind
    · split at read
      · contradiction
      · obtain rfl := TextPiece.email.inj isCut
        exact emailForm_of_emailLiteralLength? read
    · exact inductionHypothesis isBehind
  | case3 previous gathered first rest noAddress inductionHypothesis =>
    exact inductionHypothesis member

end TextPiece

/-! ## Tokens around text -/

/-- The text in front of the first token of another kind, and each of these tokens with the
text behind it. How the text is cut into tokens makes no difference. -/
def textRuns : List Token → Text × List (Token × Text)
  | [] => ([], [])
  | token :: rest =>
    let (front, others) := textRuns rest
    if token.kind = .text then (token.content ++ front, others) else ([], (token, front) :: others)

/-- How many links the tokens open and do not close. -/
def linkBalance (tokens : List Token) : Int :=
  (tokens.countP (·.kind == .opening .link) : Int) - tokens.countP (·.kind == .closing .link)

/-- A link whose brackets stand around one text token with an email address. -/
structure EmailLink where
  opening : Token
  shown : Token
  closing : Token
  opens : opening.kind = .opening .link ∧ opening.nesting = 1
  showsText : shown.kind = .text ∧ shown.nesting = 0
  closes : closing.kind = .closing .link ∧ closing.nesting = -1
  target : opening.href = some ("mailto:".toList ++ shown.content)
  isAddress : LeadingAddress.ofText shown.content = ⟨shown.content, [], .email⟩
  shownLevel : shown.level = opening.level + 1
  closingLevel : closing.level = opening.level

/-- A part of the tokens with links: a token for itself, or a link with its brackets. -/
inductive LinkedPart where
  | single (token : Token)
  | link (inserted : EmailLink)

namespace LinkedPart

/-- The tokens of a part. -/
def tokens : LinkedPart → List Token
  | single token => [token]
  | link inserted => [inserted.opening, inserted.shown, inserted.closing]

/-- What is left of a part when the brackets of its link are deleted. -/
def unlinked : LinkedPart → Token
  | single token => token
  | link inserted => inserted.shown

/-- The level at which a part stands. -/
def level : LinkedPart → Int
  | single token => token.level
  | link inserted => inserted.opening.level

end LinkedPart

/-- A token and the parts that stand in its place. -/
structure LinkedRow where
  token : Token
  parts : List LinkedPart

/-- The rows tell how links were put into a list of tokens: around text only, and where no
link is open. -/
structure LinksInserted (tokens linked : List Token) (rows : List LinkedRow) : Prop where
  /-- Every token has its row. -/
  covers : rows.map (·.token) = tokens
  gives : rows.flatMap (·.parts.flatMap LinkedPart.tokens) = linked
  /-- Without the new brackets the tokens are the old ones around the same text. -/
  keeps : textRuns (rows.flatMap (·.parts.map LinkedPart.unlinked)) = textRuns tokens
  outside : ∀ before row after inserted, rows = before ++ row :: after →
    .link inserted ∈ row.parts → linkBalance (before.map (·.token)) = 0
      ∧ row.token.kind = .text ∧ inserted.opening.level = row.token.level

/-- A block token with links in its content, if it has any content. -/
structure BlockToken.EmailsLinked (block linked : BlockToken) : Prop where
  unchanged : block.kind ≠ .inline ∨ block.children.getD [] = [] → linked = block
  inserted : ∀ children, block.kind = .inline → block.children = some children →
    ∃ new rows, linked = { block with children := some new } ∧ LinksInserted children new rows

/-! ### Runs of text and open links -/

theorem textRuns_append_of_text {texts : List Token} (areText : ∀ token ∈ texts, token.kind = .text)
    (rest : List Token) :
    textRuns (texts ++ rest)
      = (texts.flatMap (·.content) ++ (textRuns rest).1, (textRuns rest).2) := by
  induction texts with
  | nil => rfl
  | cons first more inductionHypothesis =>
    rw [List.cons_append, textRuns, inductionHypothesis fun token member =>
      areText token (List.mem_cons_of_mem _ member)]
    simp only [if_pos (areText first List.mem_cons_self), List.flatMap_cons, List.append_assoc]

theorem linkDepthAfter_eq (depth : Int) (token : Token) :
    linkDepthAfter depth token = depth + linkBalance [token] := by
  rw [linkDepthAfter, linkBalance, List.countP_singleton, List.countP_singleton]
  split
  · next isOpening => simp [isOpening]
  · next isClosing => simp [isClosing, Int.sub_eq_add_neg]
  · next notOpening notClosing =>
    have notOpening : token.kind ≠ .opening .link := notOpening
    have notClosing : token.kind ≠ .closing .link := notClosing
    simp [notOpening, notClosing]

theorem linkBalance_cons (token : Token) (rest : List Token) :
    linkBalance (token :: rest) = linkBalance [token] + linkBalance rest := by
  simp only [linkBalance, List.countP_cons, List.countP_nil]
  omega

theorem linkDepthAfter_of_text {token : Token} (isText : token.kind = .text) (depth : Int) :
    linkDepthAfter depth token = depth := by
  rw [linkDepthAfter, isText]

/-! ### The rows of a token list -/

/-- The link around an address that is inserted at a level. -/
def EmailLink.around {address : Text} (form : EmailForm address) (level : Int) : EmailLink where
  opening :=
    { kind := .opening .link, nesting := 1, level, markup := plainLinkMarkup, info := autoLinkInfo,
      href := some ("mailto:".toList ++ address) }
  shown := .ofText address (level + 1)
  closing :=
    { kind := .closing .link, nesting := -1, level, markup := plainLinkMarkup,
      info := autoLinkInfo }
  opens := ⟨rfl, rfl⟩
  showsText := ⟨rfl, rfl⟩
  closes := ⟨rfl, rfl⟩
  target := rfl
  isAddress := LeadingAddress.ofText_of_emailForm form
  shownLevel := rfl
  closingLevel := rfl

/-- The parts cut a text at a level. -/
structure CutsText (level : Int) (content : Text) (parts : List LinkedPart) : Prop where
  areText : ∀ part ∈ parts, part.unlinked.kind = .text
  content : parts.flatMap (·.unlinked.content) = content
  level : ∀ part ∈ parts, part.level = level

theorem CutsText.cons {level : Int} {front rest : Text} {part : LinkedPart}
    {parts : List LinkedPart} (isText : part.unlinked.kind = .text)
    (content : part.unlinked.content = front) (atLevel : part.level = level)
    (cuts : CutsText level rest parts) : CutsText level (front ++ rest) (part :: parts) where
  areText := by
    rintro other (_ | ⟨_, member⟩)
    · exact isText
    · exact cuts.areText other member
  content := by rw [List.flatMap_cons, content, cuts.content]
  level := by
    rintro other (_ | ⟨_, member⟩)
    · exact atLevel
    · exact cuts.level other member

/-- The tokens for pieces of text are parts that cut this text. -/
theorem exists_parts_of_pieces (level : Int) (pieces : List TextPiece)
    (forms : ∀ address, .email address ∈ pieces → EmailForm address) :
    ∃ parts, parts.flatMap LinkedPart.tokens = pieces.flatMap (TextPiece.tokens level)
      ∧ CutsText level (pieces.flatMap TextPiece.text) parts := by
  induction pieces with
  | nil => exact ⟨[], rfl, List.forall_mem_nil _, rfl, List.forall_mem_nil _⟩
  | cons piece more inductionHypothesis =>
    obtain ⟨parts, tokens, cuts⟩ := inductionHypothesis fun address member =>
      forms address (List.mem_cons_of_mem _ member)
    rw [List.flatMap_cons, List.flatMap_cons, ← tokens]
    cases piece with
    | plain text =>
      exact ⟨.single (.ofText text level) :: parts, rfl, .cons rfl rfl rfl cuts⟩
    | email address =>
      exact ⟨.link (.around (forms address List.mem_cons_self) level) :: parts, rfl,
        .cons rfl rfl rfl cuts⟩

/-- A text token gives way to parts that cut its text. -/
theorem exists_parts_splitEmails {token : Token} (isText : token.kind = .text) :
    ∃ parts, parts.flatMap LinkedPart.tokens = splitEmails token
      ∧ CutsText token.level token.content parts := by
  rw [splitEmails]
  split
  · obtain ⟨parts, tokens, cuts⟩ := exists_parts_of_pieces token.level
      (emailPieces none [] token.content) fun _ => TextPiece.emailForm_of_mem_emailPieces
    rw [TextPiece.text_emailPieces] at cuts
    exact ⟨parts, tokens, cuts⟩
  · have cuts := @CutsText.cons token.level token.content [] (.single token) [] isText rfl rfl
      ⟨List.forall_mem_nil _, rfl, List.forall_mem_nil _⟩
    rw [List.append_nil] at cuts
    exact ⟨[.single token], rfl, cuts⟩

/-- Where `depth` links are open, a row keeps its token or cuts the text of it. -/
def LinkedRow.FitsAt (depth : Int) (row : LinkedRow) : Prop :=
  row.parts = [.single row.token]
    ∨ depth = 0 ∧ row.token.kind = .text ∧ CutsText row.token.level row.token.content row.parts

/-- Around the links in a list of tokens, one row at a time. -/
theorem exists_rows_linkEmails (depth : Int) (tokens : List Token) :
    ∃ rows : List LinkedRow, rows.map (·.token) = tokens
      ∧ rows.flatMap (·.parts.flatMap LinkedPart.tokens) = linkEmails depth tokens
      ∧ ∀ before row after, rows = before ++ row :: after →
        row.FitsAt (depth + linkBalance (before.map (·.token))) := by
  induction tokens generalizing depth with
  | nil => exact ⟨[], rfl, rfl, fun before row after shape => by simp at shape⟩
  | cons token rest inductionHypothesis =>
    -- The depth behind a token is the depth in front of it with the token's own balance.
    obtain ⟨rows, covers, gives, fits⟩ := inductionHypothesis (linkDepthAfter depth token)
    have exists_row : ∃ parts, parts.flatMap LinkedPart.tokens
          = (if token.kind = .text ∧ linkDepthAfter depth token = 0 ∧ token.content.contains '@'
            then splitEmails token else [token])
        ∧ LinkedRow.FitsAt depth ⟨token, parts⟩ := by
      split
      · next links =>
        obtain ⟨isText, outside, _⟩ := links
        obtain ⟨parts, same, cuts⟩ := exists_parts_splitEmails isText
        rw [linkDepthAfter_of_text isText] at outside
        exact ⟨parts, same, .inr ⟨outside, isText, cuts⟩⟩
      · exact ⟨[.single token], rfl, .inl rfl⟩
    obtain ⟨parts, same, fitsHere⟩ := exists_row
    refine ⟨⟨token, parts⟩ :: rows, ?_, ?_, ?_⟩
    · rw [List.map_cons, covers]
    · rw [List.flatMap_cons, gives, same, linkEmails]
    · rintro (_ | ⟨first, before⟩) row after shape
      · rw [List.nil_append, List.cons.injEq] at shape
        rw [← shape.1]
        simpa [linkBalance] using fitsHere
      · rw [List.cons_append, List.cons.injEq] at shape
        rw [← shape.1, List.map_cons, linkBalance_cons, ← Int.add_assoc, ← linkDepthAfter_eq]
        exact fits before row after shape.2

theorem textRuns_rows {rows : List LinkedRow} (fits : ∀ row ∈ rows, ∃ depth, row.FitsAt depth) :
    textRuns (rows.flatMap (·.parts.map LinkedPart.unlinked)) = textRuns (rows.map (·.token)) := by
  induction rows with
  | nil => rfl
  | cons row more inductionHypothesis =>
    have behind := inductionHypothesis fun other member =>
      fits other (List.mem_cons_of_mem _ member)
    rw [List.flatMap_cons, List.map_cons]
    obtain ⟨depth, whole | ⟨_, isText, cuts⟩⟩ := fits row List.mem_cons_self
    · rw [whole, List.map_singleton, List.singleton_append, LinkedPart.unlinked, textRuns, textRuns,
        behind]
    · have areText : ∀ token ∈ row.parts.map LinkedPart.unlinked, token.kind = .text :=
        List.forall_mem_map.2 cuts.areText
      have content := cuts.content
      rw [← List.flatMap_map] at content
      rw [textRuns_append_of_text areText, behind, content, textRuns]
      exact (if_pos isText).symm

/-- Links are put into the content of a block without a change to its text. -/
theorem linksInserted_linkEmails (tokens : List Token) :
    ∃ rows, LinksInserted tokens (linkEmails 0 tokens) rows := by
  obtain ⟨rows, covers, gives, fits⟩ := exists_rows_linkEmails 0 tokens
  refine ⟨rows, covers, gives, ?_, ?_⟩
  · rw [← covers]
    apply textRuns_rows
    intro row member
    obtain ⟨before, after, shape⟩ := List.append_of_mem member
    exact ⟨_, fits before row after shape⟩
  · intro before row after inserted shape member
    rcases fits before row after shape with whole | ⟨outside, isText, cuts⟩
    · rw [whole, List.mem_singleton] at member
      contradiction
    · rw [Int.zero_add] at outside
      exact ⟨outside, isText, cuts.level _ member⟩

/-- Turning the addresses in a document's plain text into links changes no text and no other
token, and puts a link only where none is open, around exactly an address. -/
theorem linkEmails_keeps_text (blocks : List BlockToken) :
    List.Forall₂ BlockToken.EmailsLinked blocks (blocks.map BlockToken.linkEmails) := by
  rw [List.forall₂_map_right_iff, List.forall₂_same]
  intro block _
  constructor
  · rintro (notInline | noChildren)
    · rw [BlockToken.linkEmails, if_neg notInline]
    · obtain ⟨token, lineRange, children⟩ := block
      rw [BlockToken.linkEmails]
      rcases children with _ | _ | ⟨first, more⟩
      · exact ite_self _
      · exact ite_self _
      · cases noChildren
  · intro children isInline isChildren
    obtain ⟨rows, inserted⟩ := linksInserted_linkEmails children
    refine ⟨linkEmails 0 children, rows, ?_, inserted⟩
    rw [BlockToken.linkEmails, if_pos isInline, isChildren, Option.map_some]

end JapaneseSpacing
