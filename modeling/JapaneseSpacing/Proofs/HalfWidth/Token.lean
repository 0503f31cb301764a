import JapaneseSpacing.Proofs.HalfWidth.Parts
import JapaneseSpacing.Proofs.Markdown.Pattern

/-!
# Half-width tokens

Half-width cores can also be described by a pattern that is searched for from left to
right: blanks, a letter or digit, run characters and another letter or digit, blanks; or
blanks around a single letter or digit. `coresOfTokens_eq` says that the preferred
matches of that pattern, trimmed, are the cores of the maximal runs.
-/

namespace JapaneseSpacing

open Pattern in
/-- A core with the blanks beside it: it starts and ends with a letter or digit, or it
is a single one. -/
def tokenPattern : Pattern :=
  (sequence [(char isBlank).many, char isAsciiAlphanumeric, (char isRunChar).many,
    char isAsciiAlphanumeric, (char isBlank).many]).either
  (sequence [(char isBlank).many, char isAsciiAlphanumeric, (char isBlank).many])

/-- The core in a match of the token pattern, trimmed of its blanks. -/
def HalfWidthCore.ofToken? (offset : Nat) (raw : Text) : Option HalfWidthCore :=
  let text := Text.trim raw
  let leading := raw.length - (Text.trimStart raw).length
  let trailing := raw.length - (Text.trimEnd raw).length
  if text.isEmpty then none
  else some {
    text
    start := (offset + leading : Nat)
    stop := (offset + raw.length - trailing : Nat)
    outerStart := offset
    outerStop := (offset + raw.length : Nat)
    isPhrase := isPhraseText text
    hasBlankBefore := 0 < leading
    hasBlankAfter := 0 < trailing }

/-- The cores that the token pattern finds in a text that begins at `offset`. -/
def coresOfTokens (offset : Nat) (text : Text) : List HalfWidthCore :=
  (tokenPattern.findAll offset text).filterMap fun token =>
    HalfWidthCore.ofToken? token.1 token.2

section Tokens

open Pattern

variable {blanks rest : Text}

theorem letter_refuses_bare {stretch : Text} (next : Pattern)
    (bare : ∀ char ∈ stretch, isAsciiAlphanumeric char = false) :
    ∀ char ∈ stretch, ∀ behind,
      (Pattern.char isAsciiAlphanumeric).followedBy next (char :: behind) = [] := by
  intro char member behind
  apply char_followedBy_refuses
  simpa using bare char member

/-- Behind its leading blanks a token starts with a letter or digit. -/
theorem tokenPattern_refuses (blank : ∀ char ∈ blanks, isBlank char = true)
    (notBlank : ∀ char ∈ rest.head?, isBlank char = false)
    (notAlphanumeric : ∀ char ∈ rest.head?, isAsciiAlphanumeric char = false) :
    tokenPattern (blanks ++ rest) = [] := by
  have bare := RunParts.blanks_bare blank
  simp only [tokenPattern, Pattern.either, Pattern.sequence, List.foldr]
  rw [many_followedBy_stretch blank notBlank (letter_refuses_bare _ bare),
    many_followedBy_stretch blank notBlank (letter_refuses_bare _ bare),
    char_followedBy_refuses notAlphanumeric, char_followedBy_refuses notAlphanumeric,
    List.append_nil]

/-- Trailing blanks are matched as far as they go. -/
theorem trailing_blanks (blank : ∀ char ∈ blanks, isBlank char = true)
    (notBlank : ∀ char ∈ rest.head?, isBlank char = false) :
    (followedBy (char isBlank).many (fun text => [text]) (blanks ++ rest)).head? = some rest := by
  obtain ⟨later, split⟩ := @many_followedBy_front isBlank (fun text => [text]) blanks rest blank
  have nothing := @many_followedBy_stretch isBlank (fun text => [text]) [] rest
    (by simp) notBlank (by simp)
  rw [List.nil_append] at nothing
  rw [split, nothing, List.head?_append, List.head?_cons, Option.some_or]

variable {back : Text} {next : Pattern}

/-- Where no letter or digit is left in a run, none can end a token. -/
theorem last_letter_missing (backRun : IsRun back)
    (bare : ∀ char ∈ back, isAsciiAlphanumeric char = false)
    (stops : ∀ char ∈ rest.head?, isRunChar char = false) :
    followedBy (char isRunChar).many ((char isAsciiAlphanumeric).followedBy next) (back ++ rest)
      = [] := by
  rw [many_followedBy_stretch backRun stops (letter_refuses_bare _ bare)]
  exact char_followedBy_refuses fun char member =>
    isAsciiAlphanumeric_eq_false_of_not_isRunChar (stops char member)

/-- The last letter or digit of a run is tried first. -/
theorem last_letter_first {middle : Text} {last : Char} (middleRun : IsRun middle)
    (closes : isAsciiAlphanumeric last = true) (backRun : IsRun back)
    (bare : ∀ char ∈ back, isAsciiAlphanumeric char = false)
    (stops : ∀ char ∈ rest.head?, isRunChar char = false) :
    ∃ later, followedBy (char isRunChar).many ((char isAsciiAlphanumeric).followedBy next)
      (middle ++ last :: (back ++ rest)) = next (back ++ rest) ++ later := by
  obtain ⟨later, split⟩ := @many_followedBy_front isRunChar
    ((char isAsciiAlphanumeric).followedBy next) middle (last :: (back ++ rest)) middleRun
  refine ⟨later, ?_⟩
  rw [split, many_followedBy_cons, if_pos (isRunChar_of_isAsciiAlphanumeric closes),
    last_letter_missing backRun bare stops, List.nil_append, char_followedBy_cons, if_pos closes]

/-- The core of a run with the blanks beside it. -/
def RunParts.token (parts : RunParts) : Text :=
  parts.blanksBefore ++ parts.core ++ parts.blanksAfter

/-- The preferred match at the blanks before a core ends with the blanks behind it. -/
theorem tokenPattern_core (parts : RunParts)
    (stops : ∀ char ∈ rest.head?, isRunChar char = false) :
    (tokenPattern (parts.token ++ (parts.tail ++ rest))).head? = some (parts.tail ++ rest) := by
  obtain ⟨first, isFirst, opens⟩ := parts.core_opens
  obtain ⟨last, isLast, closes⟩ := parts.core_closes
  have beforeBare := RunParts.blanks_bare parts.blanksBefore_blank
  have trailing := trailing_blanks parts.blanksAfter_blank (parts.tail_stops_blanks stops)
  rw [RunParts.token, List.append_assoc, List.append_assoc]
  simp only [tokenPattern, Pattern.either, Pattern.sequence, List.foldr]
  rw [many_followedBy_stretch parts.blanksBefore_blank parts.core_stops_blanks
      (letter_refuses_bare _ beforeBare),
    many_followedBy_stretch parts.blanksBefore_blank parts.core_stops_blanks
      (letter_refuses_bare _ beforeBare)]
  rw [← List.append_assoc parts.blanksAfter] at trailing ⊢
  cases core : parts.core with
  | nil => exact absurd core parts.core_ne_nil
  | cons opening inner =>
    rw [core, List.head?_cons, Option.mem_some_iff] at isFirst
    subst isFirst
    rw [List.cons_append, char_followedBy_cons, char_followedBy_cons, if_pos opens, if_pos opens]
    rcases List.eq_nil_or_concat' inner with rfl | ⟨middle, closing, rfl⟩
    · rw [List.nil_append, last_letter_missing parts.back_run parts.back_bare stops,
        List.nil_append]
      exact trailing
    · rw [core, ← List.cons_append, List.getLast?_concat, Option.mem_some_iff] at isLast
      subst isLast
      have middleRun : IsRun middle := fun char member =>
        parts.core_run char (by simp [core, member])
      obtain ⟨later, split⟩ :=
        last_letter_first middleRun closes parts.back_run parts.back_bare stops
      rw [List.append_assoc middle, List.singleton_append, split, List.append_assoc,
        List.head?_append, trailing, Option.some_or]

/-- No token starts at blanks with a letter or digit neither in the stretch behind them
nor right behind that. -/
theorem tokenPattern_bare {stretch : Text} (nonempty : stretch ≠ [])
    (bare : ∀ char ∈ stretch, isAsciiAlphanumeric char = false)
    (closed : rest = [] ∨ ∀ char ∈ stretch.getLast?, isBlank char = false) :
    tokenPattern (stretch ++ rest) = [] := by
  obtain ⟨blanks, more, rfl, blank, notBlank⟩ := Text.exists_stretch isBlank stretch
  rw [List.append_assoc]
  cases more with
  | cons first behind =>
    rw [List.cons_append]
    refine tokenPattern_refuses blank ?_ ?_
    · simpa using notBlank
    · simpa using bare first (by simp)
  | nil =>
    rcases closed with rfl | closed
    · exact tokenPattern_refuses blank (by simp) (by simp)
    · rw [List.append_nil] at nonempty closed
      have isLast := List.getLast?_eq_some_getLast nonempty
      have notBlank := closed _ isLast
      rw [blank _ (List.getLast_mem nonempty)] at notBlank
      exact absurd notBlank.symm Bool.false_ne_true

/-- A search passes over a stretch without letters and digits, up to blanks that stand
before something. -/
theorem findAll_bare {stretch : Text} {offset : Nat}
    (bare : ∀ char ∈ stretch, isAsciiAlphanumeric char = false)
    (closed : rest = [] ∨ ∀ char ∈ stretch.getLast?, isBlank char = false) :
    tokenPattern.findAll offset (stretch ++ rest)
      = tokenPattern.findAll (offset + stretch.length) rest := by
  induction stretch generalizing offset with
  | nil => rfl
  | cons first behind inductionHypothesis =>
    have refused := tokenPattern_bare (List.cons_ne_nil first behind) bare closed
    have closedBehind : rest = [] ∨ ∀ char ∈ behind.getLast?, isBlank char = false := by
      refine closed.imp_right fun closed char isLast => closed char ?_
      rw [Option.mem_def] at isLast
      simp [List.getLast?_cons, isLast]
    rw [List.cons_append] at refused ⊢
    rw [findAll_refused refused,
      inductionHypothesis (fun char member => bare char (by simp [member])) closedBehind,
      List.length_cons, Nat.add_assoc, Nat.add_comm 1]

theorem RunParts.trimEnd_core (parts : RunParts) (front : Text) :
    Text.trimEnd (front ++ parts.core ++ parts.blanksAfter) = front ++ parts.core := by
  have reversed : (parts.blanksAfter.reverse ++ (front ++ parts.core).reverse).dropWhile isBlank
      = (front ++ parts.core).reverse := by
    apply Text.dropWhile_stretch
    · simpa using parts.blanksAfter_blank
    · intro char member
      obtain ⟨last, isLast, closes⟩ := parts.core_closes
      rw [Option.mem_def] at isLast
      rw [List.head?_reverse, List.getLast?_append, isLast, Option.some_or,
        Option.mem_some_iff] at member
      rw [← member]
      exact isBlank_eq_false_of_isAsciiAlphanumeric closes
  rw [Text.trimEnd, Text.dropRightWhile, List.reverse_append, reversed, List.reverse_reverse]

/-- A token is trimmed to its core. -/
theorem RunParts.ofToken?_token (parts : RunParts) (offset : Nat) :
    HalfWidthCore.ofToken? (offset + parts.lead.length) parts.token
      = some (parts.coreAt offset) := by
  have start : Text.trimStart parts.token = parts.core ++ parts.blanksAfter := by
    rw [token, Text.trimStart, List.append_assoc]
    exact Text.dropWhile_stretch parts.blanksBefore_blank parts.core_stops_blanks
  have whole : Text.trim parts.token = parts.core := by
    have trimmed := parts.trimEnd_core []
    rw [Text.trim, start]
    simpa using trimmed
  have trimmedEnd : Text.trimEnd parts.token = parts.blanksBefore ++ parts.core :=
    parts.trimEnd_core parts.blanksBefore
  have full : parts.core.isEmpty = false := by simpa using parts.core_ne_nil
  have length : parts.token.length = parts.blanksBefore.length + parts.core.length
      + parts.blanksAfter.length := by
    simp [token, Nat.add_assoc]
  simp only [HalfWidthCore.ofToken?, whole, start, trimmedEnd, full, coreAt, length,
    List.length_append]
  simp
  omega

/-- No token starts at a character outside every run. -/
theorem findAll_outside {outside : Char} {offset : Nat} (notInside : isRunChar outside = false) :
    tokenPattern.findAll offset (outside :: rest) = tokenPattern.findAll (offset + 1) rest := by
  refine @findAll_bare rest [outside] offset ?_ (Or.inr ?_)
  · simpa using isAsciiAlphanumeric_eq_false_of_not_isRunChar notInside
  · simpa using isBlank_eq_false_of_not_isRunChar notInside

/-- A search passes over the end of a run that has no letter or digit. -/
theorem findAll_run_end {stretch : Text} {offset : Nat}
    (bare : ∀ char ∈ stretch, isAsciiAlphanumeric char = false)
    (stops : ∀ char ∈ rest.head?, isRunChar char = false) :
    tokenPattern.findAll offset (stretch ++ rest)
      = tokenPattern.findAll (offset + stretch.length) rest := by
  cases rest with
  | nil => exact findAll_bare bare (Or.inl rfl)
  | cons outside behind =>
    have notInside := stops outside rfl
    -- Blanks at the end of the stretch are no lead of a token, because `outside` follows.
    have through := @findAll_bare behind (stretch ++ [outside]) offset
      (by
        intro char member
        rcases List.mem_append.1 member with inStretch | isOutside
        · exact bare char inStretch
        · rw [List.mem_singleton.1 isOutside]
          exact isAsciiAlphanumeric_eq_false_of_not_isRunChar notInside)
      (Or.inr (by simpa using isBlank_eq_false_of_not_isRunChar notInside))
    rw [List.append_assoc, List.singleton_append] at through
    rw [through, findAll_outside notInside, List.length_append, List.length_singleton,
      Nat.add_assoc]

/-- A search finds one token in a run with a letter or digit. -/
theorem findAll_parts (parts : RunParts) {offset : Nat}
    (stops : ∀ char ∈ rest.head?, isRunChar char = false) :
    tokenPattern.findAll offset (parts.text ++ rest)
      = (offset + parts.lead.length, parts.token)
        :: tokenPattern.findAll (offset + parts.text.length) rest := by
  have split : parts.text ++ rest = parts.lead ++ (parts.token ++ (parts.tail ++ rest)) := by
    simp [RunParts.text, RunParts.token]
  have nonempty : parts.token ≠ [] := by simp [RunParts.token, parts.core_ne_nil]
  rw [split, findAll_bare parts.lead_bare (Or.inr parts.lead_closes),
    findAll_matched nonempty (tokenPattern_core parts stops),
    findAll_run_end parts.tail_bare stops]
  simp [RunParts.text, RunParts.token, Nat.add_assoc]

/-- The tokens at a run give the core of that run. -/
theorem coresOfTokens_run {run : Text} {offset : Nat} (inside : IsRun run)
    (stops : ∀ char ∈ rest.head?, isRunChar char = false) :
    coresOfTokens offset (run ++ rest)
      = (HalfWidthCore.ofRun? offset run).toList ++ coresOfTokens (offset + run.length) rest := by
  by_cases alphanumeric : ∃ char ∈ run, isAsciiAlphanumeric char = true
  · obtain ⟨parts, rfl⟩ := RunParts.exists_of_run inside alphanumeric
    simp [coresOfTokens, findAll_parts parts stops, parts.ofToken?_token, parts.ofRun?_text]
  · have bare : ∀ char ∈ run, isAsciiAlphanumeric char = false := by simpa using alphanumeric
    rw [HalfWidthCore.ofRun?_bare offset bare, coresOfTokens, findAll_run_end bare stops]
    rfl

/-- Searching for tokens finds the cores of the maximal runs. -/
theorem coresOfTokens_eq (offset : Nat) (text : Text) :
    coresOfTokens offset text = coresFrom offset text := by
  induction text using Text.runInduction generalizing offset with
  | run run inside =>
    have alone := @coresOfTokens_run [] run offset inside (by simp)
    rw [List.append_nil] at alone
    rw [alone, coresFrom_run inside]
    simp [coresOfTokens, findAll]
  | cut run outside rest inside notInside inductionHypothesis =>
    rw [coresFrom_cut inside notInside, coresOfTokens_run inside (by simpa using notInside),
      ← inductionHypothesis, coresOfTokens, findAll_outside notInside, coresOfTokens, Nat.add_assoc]

end Tokens

end JapaneseSpacing
