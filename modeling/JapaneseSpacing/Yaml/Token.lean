import JapaneseSpacing.Markdown.Character
import JapaneseSpacing.Text.Utf8
import JapaneseSpacing.Yaml.Character

/-!
# Tokens of YAML

The tokens of a document, and how those are read that stand for names: directives,
anchors, aliases and tags.
-/

namespace JapaneseSpacing

namespace Yaml

/-- A tag as it is written. -/
structure TagText where
  /-- The handle in front of the suffix; a tag in angle brackets has none. -/
  handle : Option Text
  suffix : Text
deriving Repr, DecidableEq

/-- An instruction in front of a document. -/
inductive Directive where
  | version (major : Nat)
  | handle (handle start : Text)
  | unknown
deriving Repr, DecidableEq

/-- A token of a document. -/
inductive Token where
  | directive (directive : Directive)
  | documentStart
  | documentEnd
  | blockSequence
  | blockMapping
  | blockEnd
  | openBracket
  | closeBracket
  | openBrace
  | closeBrace
  | comma
  | entry
  | key
  | value
  | alias (name : Text)
  | anchor (name : Text)
  | tag (tag : TagText)
  | scalar (text : Text) (isPlain : Bool)
deriving Repr, DecidableEq

/-! ## Names -/

/-- The name of an anchor or an alias at the start of a text, and what follows it. -/
def anchorName (text : Text) : Except Error (Text × Text) :=
  let name := text.takeWhile isNameCharacter
  let rest := text.drop name.length
  if !name.isEmpty && (atGap rest.head?
      || rest.head?.any ['?', ':', ',', ']', '\x7d', '%', '@', '\x60'].contains) then
    .ok (name, rest)
  else .error .unexpectedCharacter

/-- A character of a tag. -/
def isTagCharacter (char : Char) : Bool :=
  isNameCharacter char || ";/?:@&=+$,.!~*'()[]%".toList.contains char

/-- The bytes of the percent sequences at the start of a text, and what follows them. -/
def percentBytes : Text → Except Error (List UInt8 × Text)
  | '%' :: high :: low :: rest =>
    if isHexDigit high && isHexDigit low then
      (percentBytes rest).map fun (bytes, after) =>
        ((digitsValue 16 [high, low]).toUInt8 :: bytes, after)
    else .error .unexpectedCharacter
  | '%' :: _ => .error .unexpectedCharacter
  | text => .ok ([], text)

/-- The characters of a tag at the start of a text, with percent sequences decoded, and
what follows them. -/
def tagCharacters (text : Text) : Except Error (Text × Text) :=
  match text with
  | [] => .ok ([], [])
  | first :: rest =>
    if !isTagCharacter first then .ok ([], text)
    else if first = '%' then do
      let (bytes, after) ← percentBytes text
      match decodeUtf8 bytes with
      | none => throw .unexpectedCharacter
      | some characters =>
        if after.length ≤ rest.length then
          let (more, behind) ← tagCharacters after
          return (characters ++ more, behind)
        else throw .unexpectedCharacter
    else (tagCharacters rest).map fun (more, behind) => (first :: more, behind)
termination_by text.length

/-- The suffix of a tag, which is not empty, and what follows it. -/
def tagSuffix (text : Text) : Except Error (Text × Text) := do
  if text.head?.any isTagCharacter then tagCharacters text else throw .unexpectedCharacter

/-- The handle at the start of a text: one exclamation mark or a name between two. -/
def tagHandle : Text → Except Error (Text × Text)
  | '!' :: rest =>
    if rest.head? = some ' ' then .ok (['!'], rest)
    else
      let name := rest.takeWhile isNameCharacter
      match rest.drop name.length with
      | '!' :: after => .ok ('!' :: name ++ ['!'], after)
      | _ => .error .unexpectedCharacter
  | _ => .error .unexpectedCharacter

/-- The tag whose exclamation mark stands in front of a text, and what follows it. -/
def tagText (text : Text) : Except Error (TagText × Text) := do
  let (tag, rest) ←
    match text with
    | '<' :: inside => do
      let (suffix, rest) ← tagSuffix inside
      match rest with
      | '>' :: after => pure (TagText.mk none suffix, after)
      | _ => throw .unexpectedCharacter
    | _ =>
      if atGap text.head? then pure (TagText.mk none ['!'], text)
      else if (text.takeWhile fun char => !(char = ' ' || isBreak char)).contains '!' then do
        let (handle, after) ← tagHandle ('!' :: text)
        let (suffix, rest) ← tagSuffix after
        pure (TagText.mk (some handle) suffix, rest)
      else do
        let (suffix, rest) ← tagSuffix text
        pure (TagText.mk (some ['!']) suffix, rest)
  if atSpace rest.head? then return (tag, rest) else throw .unexpectedCharacter

/-! ## Directives -/

/-- The digits at the start of a text, of which there is at least one, and what follows. -/
def directiveNumber (text : Text) : Except Error (Nat × Text) :=
  let digits := text.takeWhile isAsciiDigit
  if digits.isEmpty then .error .badDirective
  else .ok (digitsValue 10 digits, text.drop digits.length)

/-- The directive whose percent sign stands in front of a text, and the next line. -/
def directiveText (text : Text) : Except Error (Directive × Text) := do
  let name := text.takeWhile isNameCharacter
  let rest := text.drop name.length
  if name.isEmpty || !atSpace rest.head? then throw .badDirective
  else
    let argument := rest.dropWhile (· = ' ')
    let (directive, rest) ←
      if name = "YAML".toList then do
        let (major, rest) ← directiveNumber argument
        match rest with
        | '.' :: rest =>
          let (_, rest) ← directiveNumber rest
          if atSpace rest.head? then pure (Directive.version major, rest) else throw .badDirective
        | _ => throw .badDirective
      else if name = "TAG".toList then do
        let (handle, rest) ← tagHandle argument
        if rest.head? ≠ some ' ' then throw .badDirective
        else
          let (start, rest) ← tagSuffix (rest.dropWhile (· = ' '))
          if atSpace rest.head? then pure (Directive.handle handle start, rest)
          else throw .badDirective
      else pure (Directive.unknown, rest.dropWhile (!isBreak ·))
    return (directive, ← afterLine rest)

end Yaml

end JapaneseSpacing
