import JapaneseSpacing.Markdown.Character
import JapaneseSpacing.Markdown.Entity
import JapaneseSpacing.Text.Blank

/-!
# Link targets and titles

A target stands between angle brackets, or it ends at a space, a control character or a
closing parenthesis that nothing opened. A title stands between quotes or parentheses.
Targets that would run a script or open local data are refused.
-/

namespace JapaneseSpacing

/-- The target in front of the angle bracket that closes it, and what follows. -/
def bracketedTarget? : Text → Option (Text × Text)
  | [] => none
  | '\\' :: [] => none
  | '\\' :: escaped :: rest =>
    (bracketedTarget? rest).map fun (target, after) => ('\\' :: escaped :: target, after)
  | first :: rest =>
    if first = '>' then some ([], rest)
    else if first = '<' ∨ first = '\n' then none
    else (bracketedTarget? rest).map fun (target, after) => (first :: target, after)

/-- How deep parentheses in a target may be nested. -/
def mostParentheses : Nat := 32

/-- The target without angle brackets at the start of a text and what follows, where
`depth` parentheses are open. -/
def plainTarget? (depth : Nat) : Text → Option (Text × Text)
  | [] => if depth = 0 then some ([], []) else none
  | '\\' :: escaped :: rest =>
    if escaped = ' ' then if depth = 0 then some ([], '\\' :: escaped :: rest) else none
    else
      (plainTarget? depth rest).map fun (target, after) => ('\\' :: escaped :: target, after)
  | first :: rest =>
    if first.toNat ≤ 0x20 ∨ first.toNat = 0x7F ∨ (first = ')' ∧ depth = 0) then
      if depth = 0 then some ([], first :: rest) else none
    else if first = '(' ∧ depth = mostParentheses then none
    else
      let inner := if first = '(' then depth + 1 else if first = ')' then depth - 1 else depth
      (plainTarget? inner rest).map fun (target, after) => (first :: target, after)

/-- The target at the start of a text, with escapes resolved, and what follows. -/
def linkTarget? : Text → Option (Text × Text)
  | '<' :: rest => (bracketedTarget? rest).map fun (target, after) => (unescape target, after)
  | text =>
    match plainTarget? 0 text with
    | some (first :: target, after) => some (unescape (first :: target), after)
    | _ => none

/-- Whether a link may lead to a target: anything but scripts and local data, of which
only images are admitted. -/
def isAllowedTarget (target : Text) : Bool :=
  let folded := (Text.trim target).map Char.toLower
  let starts (word : String) : Bool := word.toList.isPrefixOf folded
  !(["vbscript:", "javascript:", "file:", "data:"].any starts)
    || ["data:image/gif;", "data:image/png;", "data:image/jpeg;", "data:image/webp;"].any starts

/-- What reading a title came to. -/
inductive TitleScan where
  /-- The title and what follows its closing character. -/
  | closed (title rest : Text)
  /-- The text ends inside the title. -/
  | unfinished (title : Text)
  /-- A title in parentheses holds an opening parenthesis. -/
  | refused
deriving Repr, DecidableEq

namespace TitleScan

/-- The scan of a text that has some more characters in front. -/
def after (characters : Text) : TitleScan → TitleScan
  | closed title rest => closed (characters ++ title) rest
  | unfinished title => unfinished (characters ++ title)
  | refused => refused

/-- Read a title up to its closing character. -/
def ofText (closing : Char) : Text → TitleScan
  | [] => unfinished []
  | '\\' :: escaped :: rest => (ofText closing rest).after ['\\', escaped]
  | first :: rest =>
    if first = closing then closed [] rest
    else if first = '(' ∧ closing = ')' then refused
    else (ofText closing rest).after [first]

end TitleScan

/-- The character that closes a title and the text behind the one that opens it. -/
def openedTitle? : Text → Option (Char × Text)
  | '"' :: rest => some ('"', rest)
  | '\'' :: rest => some ('\'', rest)
  | '(' :: rest => some (')', rest)
  | _ => none

end JapaneseSpacing
