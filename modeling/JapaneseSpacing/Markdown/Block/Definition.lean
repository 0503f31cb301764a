import JapaneseSpacing.Markdown.Block.Table
import JapaneseSpacing.Markdown.Target

/-!
# Link definitions

A definition is a label in brackets, a colon, a target and perhaps a title. Its parts may
stand on lines of their own, as long as these lines could continue a paragraph. A title
that is followed by anything else on its line is no part of the definition.
-/

namespace JapaneseSpacing

/-- The text of a line behind its indentation, with its line feed. -/
def BlockLine.source (line : BlockLine) : Text :=
  line.body ++ if line.hasBreak then ['\n'] else []

/-- Whether a line goes on with the paragraph above it because it is code or an unmarked
continuation of a quote. -/
def BlockContext.isLazy (context : BlockContext) (line : BlockLine) : Bool :=
  context.isCode line || line.indent < 0

/-- The lines from `number` on that a definition may extend over. -/
def definitionLines (context : BlockContext) (number : Nat) : List Text :=
  if number < context.stop then
    let line := context.line number
    if line.isBlank
        || (!context.isLazy line
          && (endsQuote context line || (tableHeaders? context number context.stop).isSome)) then []
    else line.source :: definitionLines context (number + 1)
  else []
termination_by context.stop - number

/-- What is left of a definition: the rest of a line and the lines behind it. -/
structure DefinitionRest where
  text : Text
  later : List Text
deriving Repr, DecidableEq

namespace DefinitionRest

/-- The rest without the white space it starts with. -/
def skipSpace (text : Text) : List Text → DefinitionRest
  | [] =>
    match text.dropWhile isIndentation with
    | '\n' :: rest => ⟨rest, []⟩
    | trimmed => ⟨trimmed, []⟩
  | line :: later =>
    match text.dropWhile isIndentation with
    | '\n' :: _ => skipSpace line later
    | trimmed => ⟨trimmed, line :: later⟩

/-- Whether nothing but indentation is left on the line. -/
def atLineEnd (rest : DefinitionRest) : Bool :=
  (rest.text.dropWhile isIndentation).head?.all (· = '\n')

end DefinitionRest

/-- What reading a label up to its bracket came to. -/
inductive LabelScan where
  | closed (label rest : Text)
  | unfinished (label : Text)
  | refused
deriving Repr, DecidableEq

namespace LabelScan

/-- The scan of a text that has some more characters in front. -/
def after (characters : Text) : LabelScan → LabelScan
  | closed label rest => closed (characters ++ label) rest
  | unfinished label => unfinished (characters ++ label)
  | refused => refused

/-- Read a label on one line. It holds no bracket that is not escaped. -/
def ofText : Text → LabelScan
  | [] => unfinished []
  | '\\' :: escaped :: rest => (ofText rest).after ['\\', escaped]
  | first :: rest =>
    if first = ']' then closed [] rest
    else if first = '[' then refused
    else (ofText rest).after [first]

end LabelScan

/-- The label in front of its closing bracket and what follows. -/
def definitionLabel? (text : Text) : List Text → Option (Text × DefinitionRest)
  | [] =>
    match LabelScan.ofText text with
    | .closed label rest => some (label, ⟨rest, []⟩)
    | _ => none
  | line :: later =>
    match LabelScan.ofText text with
    | .closed label rest => some (label, ⟨rest, line :: later⟩)
    | .unfinished label =>
      (definitionLabel? line later).map fun (more, rest) => (label ++ more, rest)
    | .refused => none

/-- The title that ends in `closing` and what follows. -/
def definitionTitle? (closing : Char) (text : Text) : List Text → Option (Text × DefinitionRest)
  | [] =>
    match TitleScan.ofText closing text with
    | .closed title rest => some (title, ⟨rest, []⟩)
    | _ => none
  | line :: later =>
    match TitleScan.ofText closing text with
    | .closed title rest => some (title, ⟨rest, line :: later⟩)
    | .unfinished title =>
      (definitionTitle? closing line later).map fun (more, rest) => (title ++ more, rest)
    | .refused => none

/-- What is left behind the title that follows a target, if there is one and the line ends
with it; else what is left behind the target. -/
def afterTitle? (behindTarget : DefinitionRest) : Option DefinitionRest :=
  let start := DefinitionRest.skipSpace behindTarget.text behindTarget.later
  let bare := if behindTarget.atLineEnd then some behindTarget else none
  match if start = behindTarget then none else openedTitle? start.text with
  | none => bare
  | some (closing, text) =>
    match definitionTitle? closing text start.later with
    | none => bare
    | some (title, rest) =>
      if rest.atLineEnd then some rest else if title.isEmpty then none else bare

/-- Read a link definition. -/
def readDefinition? (context : BlockContext) (start : Nat) : Option BlockRun := do
  let line := context.line start
  if context.isCode line ∨ line.body.head? ≠ some '[' then none
  else
    let later := definitionLines context (start + 1)
    let (label, behindLabel) ← definitionLabel? (line.source.drop 1) later
    if behindLabel.text.head? ≠ some ':' then none
    else
      let behindColon := DefinitionRest.skipSpace (behindLabel.text.drop 1) behindLabel.later
      let (target, text) ← linkTarget? behindColon.text
      let rest ← afterTitle? ⟨text, behindColon.later⟩
      let label := normalizedLabel label
      if !isAllowedTarget target || label.isEmpty then none
      else
        return { tokens := [], definitions := [⟨label, target⟩],
                 next := start + 1 + (later.length - rest.later.length) }

end JapaneseSpacing
