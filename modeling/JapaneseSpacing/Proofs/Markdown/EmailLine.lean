import JapaneseSpacing.Proofs.Markdown.WrittenEmail
import JapaneseSpacing.Proofs.Source.InlineTree

/-!
# Lines of addresses and Japanese text

A line of text beyond ASCII with email addresses in it is cut exactly at the addresses
(`EmailLine.emailPieces_text`), so its tokens show the tree of its pieces.
-/

namespace JapaneseSpacing

/-- A text without characters of ASCII. -/
def BeyondAscii (text : Text) : Prop :=
  ∀ char ∈ text, 128 ≤ char.toNat

/-- Addresses, each with a text beyond ASCII behind it. Texts between addresses are not
empty. -/
structure AddressRow (row : List (EmailAddress × Text)) : Prop where
  texts_beyond : ∀ pair ∈ row, BeyondAscii pair.2
  texts_between : ∀ pair ∈ row.dropLast, pair.2 ≠ []

/-- A line that begins with text beyond ASCII and goes on with addresses. -/
structure EmailLine where
  front : Text
  row : List (EmailAddress × Text)
  front_beyond : BeyondAscii front
  isRow : AddressRow row

/-- The characters of addresses and of the texts behind them. -/
def rowText (row : List (EmailAddress × Text)) : Text :=
  row.flatMap fun pair => pair.1.text ++ pair.2

/-- The pieces of addresses and of the texts behind them. -/
def rowPieces (row : List (EmailAddress × Text)) : List TextPiece :=
  row.flatMap fun pair => .email pair.1.text :: TextPiece.ofPlain pair.2

theorem AddressRow.tail {pair : EmailAddress × Text} {row : List (EmailAddress × Text)}
    (isRow : AddressRow (pair :: row)) : AddressRow row where
  texts_beyond := fun other member => isRow.texts_beyond other (List.mem_cons_of_mem _ member)
  texts_between := fun other member => isRow.texts_between other (by
    cases row with
    | nil => cases member
    | cons next more => exact List.mem_cons_of_mem _ member)

/-- Only the last address can have no text behind it. -/
theorem AddressRow.text_or_last {pair : EmailAddress × Text} {more : List (EmailAddress × Text)}
    (isRow : AddressRow (pair :: more)) : pair.2 ≠ [] ∨ more = [] := by
  cases more with
  | nil => exact .inr rfl
  | cons next row => exact .inl (isRow.texts_between pair List.mem_cons_self)

theorem AddressRow.head?_behind {pair : EmailAddress × Text} {more : List (EmailAddress × Text)}
    (isRow : AddressRow (pair :: more)) : (pair.2 ++ rowText more).head? = pair.2.head? := by
  rcases isRow.text_or_last with someText | rfl
  · exact List.head?_append_of_ne_nil _ someText
  · rw [rowText, List.flatMap_nil, List.append_nil]

/-! ## Cutting a line -/

theorem BeyondAscii.begins {text : Text} (beyond : BeyondAscii text) : BeginsBeyondAscii text :=
  fun char member => beyond char (List.mem_of_head? member)

theorem blocksAddress_eq_false_of_beyond {char : Char} (beyond : 128 ≤ char.toNat) :
    blocksAddress char = false := by
  rw [blocksAddress, isLocalChar_eq_false_of_beyond beyond,
    beq_eq_false_of_beyond beyond (by decide), beq_eq_false_of_beyond beyond (by decide)]
  rfl

theorem emailLiteralLength?_beyond {first : Char} {rest : Text} (beyond : 128 ≤ first.toNat) :
    emailLiteralLength? (first :: rest) = none := by
  have noLocalPart : splitLocalPart? (first :: rest) = none := by
    rw [splitLocalPart?, List.takeWhile_cons, isLocalChar_eq_false_of_beyond beyond]
    rfl
  rw [emailLiteralLength?, noLocalPart]

/-- No address starts in text beyond ASCII. -/
theorem emailPieces_beyond {previous : Option Char} {gathered stretch rest : Text}
    (beyond : BeyondAscii stretch) :
    emailPieces previous gathered (stretch ++ rest)
      = emailPieces (stretch.getLast?.or previous) (gathered ++ stretch) rest := by
  induction stretch generalizing previous gathered with
  | nil => simp
  | cons first more inductionHypothesis =>
    have noAddress : (if previous.any blocksAddress then none
        else emailLiteralLength? (first :: (more ++ rest))) = none := by
      rw [emailLiteralLength?_beyond (beyond first List.mem_cons_self), ite_self]
    have last : (first :: more).getLast?.or previous = more.getLast?.or (some first) := by
      rw [List.getLast?_cons]
      cases more.getLast? <;> rfl
    rw [List.cons_append, emailPieces, noAddress]
    simp only
    rw [inductionHypothesis fun char member => beyond char (List.mem_cons_of_mem _ member), last,
      List.append_assoc, List.singleton_append]

/-- An address that nothing keeps from starting is cut out. -/
theorem emailPieces_address {previous : Option Char} {gathered rest : Text}
    (address : EmailAddress) (starts : previous.any blocksAddress = false)
    (beyond : BeginsBeyondAscii rest) :
    emailPieces previous gathered (address.text ++ rest)
      = TextPiece.ofPlain gathered
        ++ .email address.text :: emailPieces address.text.getLast? [] rest := by
  have someText : address.text ≠ [] := by simp [EmailAddress.text]
  have length := address.emailLiteralLength?_text beyond
  obtain ⟨first, more, isText⟩ := List.exists_cons_of_ne_nil someText
  rw [isText, List.cons_append, List.length_cons] at length
  have cut : (if previous.any blocksAddress then none
      else emailLiteralLength? (first :: (more ++ rest))) = some (more.length + 1) := by
    rw [starts, length]
    rfl
  rw [isText, List.cons_append, emailPieces, cut]
  simp only [List.take_succ_cons, List.take_left, List.drop_left]

/-- A row of addresses is cut exactly at the addresses. -/
theorem emailPieces_row {previous : Option Char} {gathered : Text}
    {row : List (EmailAddress × Text)} (isRow : AddressRow row)
    (starts : previous.any blocksAddress = false) :
    emailPieces previous gathered (rowText row) = TextPiece.ofPlain gathered ++ rowPieces row := by
  induction row generalizing previous gathered with
  | nil =>
    rw [rowText, List.flatMap_nil, emailPieces]
    exact (List.append_nil _).symm
  | cons pair more inductionHypothesis =>
    have textBeyond := isRow.texts_beyond pair List.mem_cons_self
    have restBegins : BeginsBeyondAscii (pair.2 ++ rowText more) := by
      intro char isFirst
      rw [isRow.head?_behind] at isFirst
      exact textBeyond.begins char isFirst
    have shape : rowText (pair :: more) = pair.1.text ++ (pair.2 ++ rowText more) := by
      rw [rowText, List.flatMap_cons, List.append_assoc]
      rfl
    have pieces : rowPieces (pair :: more)
        = .email pair.1.text :: TextPiece.ofPlain pair.2 ++ rowPieces more := rfl
    rw [shape, emailPieces_address pair.1 starts restBegins, emailPieces_beyond textBeyond, pieces,
      List.nil_append, List.cons_append]
    congr 2
    rcases isRow.text_or_last with someText | rfl
    · refine inductionHypothesis isRow.tail ?_
      rw [List.getLast?_eq_some_getLast someText, Option.some_or, Option.any_some]
      exact blocksAddress_eq_false_of_beyond (textBeyond _ (List.getLast_mem someText))
    · rw [rowText, List.flatMap_nil, emailPieces]
      exact (List.append_nil _).symm

namespace EmailLine

variable (line : EmailLine)

/-- The characters of a line. -/
def text : Text :=
  line.front ++ rowText line.row

/-- The pieces of a line. -/
def pieces : List TextPiece :=
  TextPiece.ofPlain line.front ++ rowPieces line.row

/-- A line is cut exactly at its addresses. -/
theorem emailPieces_text : emailPieces none [] line.text = line.pieces := by
  rw [text, emailPieces_beyond line.front_beyond, List.nil_append]
  refine emailPieces_row line.isRow ?_
  rw [Option.or_none]
  cases last : line.front.getLast? with
  | none => rfl
  | some char =>
    exact blocksAddress_eq_false_of_beyond (line.front_beyond char (List.mem_of_getLast? last))

end EmailLine

/-! ## The tree of the pieces -/

/-- The tree of plain text and links to addresses. -/
def pieceTree : List TextPiece → InlineTree
  | [] => .nil
  | .plain text :: rest => .running (.plain text) (pieceTree rest)
  | .email address :: rest => .leaf (.plainLink address) (pieceTree rest)

theorem source_pieceTree (pieces : List TextPiece) :
    (pieceTree pieces).source = pieces.flatMap TextPiece.text := by
  induction pieces with
  | nil => rfl
  | cons piece rest inductionHypothesis =>
    cases piece with
    | plain text => rw [pieceTree, InlineTree.source, inductionHypothesis]; rfl
    | email address => rw [pieceTree, InlineTree.source, inductionHypothesis]; rfl

/-- The tokens of pieces show the tree of the pieces. -/
theorem tokens_pieceTree (level : Int) (pieces : List TextPiece) :
    (pieces.flatMap (TextPiece.tokens level)).map Token.outline = (pieceTree pieces).tokens := by
  induction pieces with
  | nil => rfl
  | cons piece rest inductionHypothesis =>
    rw [List.flatMap_cons, List.map_append, inductionHypothesis]
    cases piece with
    | plain text => rfl
    | email address => rfl

theorem wellFormed_pieceTree {pieces : List TextPiece}
    (inside : ∀ piece ∈ pieces, piece.text ≠ [] ∧ '\n' ∉ piece.text) (behind : Text) :
    (pieceTree pieces).WellFormed behind := by
  induction pieces with
  | nil => trivial
  | cons piece rest inductionHypothesis =>
    have here := inside piece List.mem_cons_self
    have others := inductionHypothesis fun other member =>
      inside other (List.mem_cons_of_mem _ member)
    cases piece with
    | plain text => exact ⟨here, others⟩
    | email address => exact ⟨here, others⟩

theorem mem_ofPlain {text : Text} {piece : TextPiece} (member : piece ∈ TextPiece.ofPlain text) :
    piece = .plain text ∧ text ≠ [] := by
  rw [TextPiece.ofPlain] at member
  split at member
  · cases member
  · next some_text => exact ⟨List.mem_singleton.1 member, by simpa using some_text⟩

theorem flatMap_ofPlain (text : Text) : (TextPiece.ofPlain text).flatMap TextPiece.text = text := by
  cases text with
  | nil => rfl
  | cons first rest => simp [TextPiece.ofPlain, TextPiece.text]

theorem flatMap_rowPieces (row : List (EmailAddress × Text)) :
    (rowPieces row).flatMap TextPiece.text = rowText row := by
  induction row with
  | nil => rfl
  | cons pair more inductionHypothesis =>
    have pieces : rowPieces (pair :: more)
        = .email pair.1.text :: TextPiece.ofPlain pair.2 ++ rowPieces more := rfl
    have text : rowText (pair :: more) = pair.1.text ++ pair.2 ++ rowText more := rfl
    rw [pieces, text, List.flatMap_append, List.flatMap_cons, flatMap_ofPlain, inductionHypothesis]
    rfl

theorem BeyondAscii.noBreak {text : Text} (beyond : BeyondAscii text) : '\n' ∉ text :=
  fun member => absurd (beyond '\n' member) (by decide)

namespace EmailAddress

theorem text_nonempty (address : EmailAddress) : address.text ≠ [] := by
  simp [text]

theorem noBreak (address : EmailAddress) : '\n' ∉ address.text := by
  intro member
  rcases List.mem_append.1 member with inLocalPart | _ | ⟨_, inDomain⟩
  · exact absurd (address.localPart_inside '\n' inLocalPart) (by decide)
  · exact absurd (address.domain_inside '\n' inDomain) (by decide)

end EmailAddress

namespace EmailLine

variable (line : EmailLine)

theorem piece_inside {piece : TextPiece} (member : piece ∈ line.pieces) :
    piece.text ≠ [] ∧ '\n' ∉ piece.text := by
  rcases List.mem_append.1 member with inFront | inRow
  · obtain ⟨rfl, someText⟩ := mem_ofPlain inFront
    exact ⟨someText, line.front_beyond.noBreak⟩
  · obtain ⟨pair, isPair, _ | ⟨_, isText⟩⟩ := List.mem_flatMap.1 inRow
    · exact ⟨pair.1.text_nonempty, pair.1.noBreak⟩
    · obtain ⟨rfl, someText⟩ := mem_ofPlain isText
      exact ⟨someText, (line.isRow.texts_beyond pair isPair).noBreak⟩

theorem source_pieces : (pieceTree line.pieces).source = line.text := by
  rw [source_pieceTree, pieces, List.flatMap_append, flatMap_ofPlain, flatMap_rowPieces, text]

theorem noBreak : '\n' ∉ line.text := by
  rw [← source_pieces, source_pieceTree]
  intro member
  obtain ⟨piece, isPiece, inPiece⟩ := List.mem_flatMap.1 member
  exact (line.piece_inside isPiece).2 inPiece

/-- The token of a line as a parser without addresses gives it: one text. -/
def block : BlockToken where
  kind := .inline
  content := line.text
  lineRange := some (0, 1)
  children := some [.ofText line.text 0]

theorem splitEmails_text : splitEmails (.ofText line.text 0)
    = if line.pieces.any TextPiece.isEmail then line.pieces.flatMap (TextPiece.tokens 0)
      else [.ofText line.text 0] := by
  have cut : emailPieces none [] (Token.ofText line.text 0).content = line.pieces :=
    line.emailPieces_text
  rw [splitEmails, cut]
  rfl

/-- The addresses of a line that is not empty become links. -/
theorem outlines_linkEmails (someText : line.text ≠ []) :
    (line.block.linkEmails.children.getD []).map Token.outline
      = (pieceTree line.pieces).tokens := by
  have children : line.block.linkEmails.children.getD []
      = (if line.text.contains '@' then splitEmails (.ofText line.text 0)
        else [.ofText line.text 0]) ++ [] := by
    change (if TokenKind.text = TokenKind.text ∧ (0 : Int) = 0 ∧ line.text.contains '@' = true then
      splitEmails (.ofText line.text 0) else [.ofText line.text 0]) ++ [] = _
    simp only [true_and]
  rw [children, List.append_nil, splitEmails_text]
  cases row : line.row with
  | nil =>
    have isFront : line.text = line.front := by simp [text, row, rowText]
    have onlyText : line.pieces = [.plain line.text] := by
      rw [pieces, row, rowPieces, List.flatMap_nil, List.append_nil, ← isFront, TextPiece.ofPlain,
        if_neg (by simpa using someText)]
    rw [onlyText]
    split <;> rfl
  | cons pair more =>
    have isPiece : .email pair.1.text ∈ line.pieces := by
      rw [pieces, row]
      exact List.mem_append_right _ List.mem_cons_self
    have someEmail : line.pieces.any TextPiece.isEmail = true :=
      List.any_eq_true.2 ⟨_, isPiece, rfl⟩
    have marked : line.text.contains '@' = true := by
      rw [List.contains_iff_mem, ← source_pieces, source_pieceTree]
      refine List.mem_flatMap.2 ⟨_, isPiece, ?_⟩
      simp [TextPiece.text, EmailAddress.text]
    rw [if_pos marked, if_pos someEmail, tokens_pieceTree]

end EmailLine

end JapaneseSpacing
