import JapaneseSpacing.Yaml.Layout
import JapaneseSpacing.Yaml.Scalar.Typed

/-!
# Nodes of YAML

The tokens of a document form one tree of nodes, each with a tag that was written or that
follows from its form. An alias stands for the whole node with its anchor; inside that
very node it stands for an empty one.
-/

namespace JapaneseSpacing

namespace Yaml

/-- A node of a document. -/
inductive Node where
  | scalar (tag : Tag) (text : Text)
  | sequence (tag : Tag) (items : List Node)
  | mapping (tag : Tag) (entries : List (Node × Node))

/-- The node that is read where none is written. -/
def Node.empty : Node :=
  .scalar .null []

/-- What is left of a document, and what its names stand for. -/
structure Reading where
  tokens : List Token
  /-- What the handles of tags stand for. -/
  handles : List (Text × Text) := []
  anchors : List (Text × Node) := []

/-- A step that reads nodes. -/
abbrev Parsing := StateT Reading (Except Error)

namespace Parsing

/-- The next token, which stays where it is. -/
def peek : Parsing (Option Token) :=
  return (← get).tokens.head?

/-- Pass over a token. -/
def skip : Parsing Unit :=
  modify fun state => { state with tokens := state.tokens.drop 1 }

/-- Pass over a token if it comes next, and say whether it did. -/
def accept (token : Token) : Parsing Bool := do
  if (← peek) = some token then
    skip
    return true
  else return false

/-- Pass over a token that must come next. -/
def expect (token : Token) : Parsing Unit := do
  unless ← accept token do throw .unexpectedToken

/-- Whether one of some tokens comes next. -/
def isNext (tokens : List Token) : Parsing Bool :=
  return (← peek).any tokens.contains

/-- The name of a tag, its handle replaced by what it stands for. -/
def tagName (tag : TagText) : Parsing Text := do
  match tag.handle with
  | none => return tag.suffix
  | some handle =>
    match (← get).handles.lookup handle with
    | none => throw .undefinedHandle
    | some start => return start ++ tag.suffix

/-- The anchor and the tag in front of a node, in either order. -/
def properties : Parsing (Option Text × Option Text) := do
  match ← peek with
  | some (.anchor name) =>
    skip
    match ← peek with
    | some (.tag tag) =>
      skip
      return (some name, some (← tagName tag))
    | _ => return (some name, none)
  | some (.tag tag) =>
    skip
    match ← peek with
    | some (.anchor name) =>
      skip
      return (some name, some (← tagName tag))
    | _ => return (none, some (← tagName tag))
  | _ => return (none, none)

/-- Let an anchor stand for a node. -/
def define (anchor : Option Text) (node : Node) : Parsing Unit :=
  match anchor with
  | none => return
  | some name => modify fun state => { state with anchors := (name, node) :: state.anchors }

/-- The tag that asks for the type that follows from a node's form. -/
def formTag : Text := ['!']

/-- The tag of a collection. -/
def collectionTag (name : Option Text) (usual : Tag) : Tag :=
  match name with
  | none => usual
  | some name => if name = formTag then usual else .ofName name

/-- The tag of a scalar. -/
def scalarTag (name : Option Text) (text : Text) (isPlain : Bool) : Tag :=
  match name with
  | none => if isPlain then .implicit text else .string
  | some name => if name = formTag then .implicit text else .ofName name

/-- The tokens behind which an entry between brackets is empty. -/
def flowEnds (closing : Token) : List Token :=
  [.comma, closing]

/-- Which collections a node may be: any, any or a sequence without indentation of its
own, or only those in brackets. -/
inductive Place where
  | block
  | blockOrEntries
  | flow
deriving DecidableEq

mutual

/-- Read a node. -/
def node (place : Place) : Nat → Parsing Node
  | 0 => throw .unexpectedToken
  | fuel + 1 => do
    match ← peek with
    | some (.alias name) =>
      skip
      match (← get).anchors.lookup name with
      | some node => return node
      | none => throw .undefinedAlias
    | _ =>
      let (anchor, name) ← properties
      let anchors := (← get).anchors
      if anchor.any fun anchor => (anchors.lookup anchor).isSome then throw .duplicateAnchor
      let sequence (items : Parsing (List Node)) : Parsing Node := do
        let tag := collectionTag name .sequence
        define anchor (.sequence tag [])
        let node := Node.sequence tag (← items)
        define anchor node
        return node
      let mapping (entries : Parsing (List (Node × Node))) : Parsing Node := do
        let tag := collectionTag name .mapping
        define anchor (.mapping tag [])
        let node := Node.mapping tag (← entries)
        define anchor node
        return node
      let scalar (text : Text) (isPlain : Bool) : Parsing Node := do
        let node := Node.scalar (scalarTag name text isPlain) text
        define anchor node
        return node
      match ← peek with
      | some (.scalar text isPlain) =>
        skip
        scalar text isPlain
      | some .openBracket =>
        skip
        sequence (flowItems true fuel)
      | some .openBrace =>
        skip
        mapping (flowEntries true fuel)
      | some .entry =>
        if place = .blockOrEntries then sequence (entries fuel)
        else if anchor.isSome || name.isSome then scalar [] true
        else throw .unexpectedToken
      | some .blockSequence =>
        if place = .flow then
          if anchor.isSome || name.isSome then scalar [] true else throw .unexpectedToken
        else
          skip
          sequence (blockItems fuel)
      | some .blockMapping =>
        if place = .flow then
          if anchor.isSome || name.isSome then scalar [] true else throw .unexpectedToken
        else
          skip
          mapping (blockEntries fuel)
      | _ => if anchor.isSome || name.isSome then scalar [] true else throw .unexpectedToken

/-- Read a node, or an empty one if one of some tokens comes next. -/
def nodeUnless (place : Place) (ends : List Token) : Nat → Parsing Node
  | 0 => throw .unexpectedToken
  | fuel + 1 => do
    if ← isNext ends then return .empty else node place fuel

/-- Read the items of an indented sequence. -/
def blockItems : Nat → Parsing (List Node)
  | 0 => throw .unexpectedToken
  | fuel + 1 => do
    if ← accept .entry then
      let item ← nodeUnless .block [.entry, .blockEnd] fuel
      return item :: (← blockItems fuel)
    else
      expect .blockEnd
      return []

/-- Read the items of a sequence without indentation of its own. -/
def entries : Nat → Parsing (List Node)
  | 0 => throw .unexpectedToken
  | fuel + 1 => do
    if ← accept .entry then
      let item ← nodeUnless .block [.entry, .key, .value, .blockEnd] fuel
      return item :: (← entries fuel)
    else return []

/-- Read the entries of an indented mapping. -/
def blockEntries : Nat → Parsing (List (Node × Node))
  | 0 => throw .unexpectedToken
  | fuel + 1 => do
    let ends := [Token.key, .value, .blockEnd]
    if ← accept .key then
      let key ← nodeUnless .blockOrEntries ends fuel
      let value ← if ← accept .value then nodeUnless .blockOrEntries ends fuel
        else pure Node.empty
      return (key, value) :: (← blockEntries fuel)
    else
      expect .blockEnd
      return []

/-- Read the key and the value behind the indicator of a key between brackets. -/
def flowPair (closing : Token) : Nat → Parsing (Node × Node)
  | 0 => throw .unexpectedToken
  | fuel + 1 => do
    let key ← nodeUnless .flow (.value :: flowEnds closing) fuel
    let value ← if ← accept .value then nodeUnless .flow (flowEnds closing) fuel
      else pure Node.empty
    return (key, value)

/-- Read the items of a sequence in brackets. -/
def flowItems (isFirst : Bool) : Nat → Parsing (List Node)
  | 0 => throw .unexpectedToken
  | fuel + 1 => do
    if ← accept .closeBracket then return []
    else
      unless isFirst do expect .comma
      if ← accept .closeBracket then return []
      else if ← accept .key then
        let pair ← flowPair .closeBracket fuel
        return .mapping .mapping [pair] :: (← flowItems false fuel)
      else
        let item ← node .flow fuel
        return item :: (← flowItems false fuel)

/-- Read the entries of a mapping in braces. -/
def flowEntries (isFirst : Bool) : Nat → Parsing (List (Node × Node))
  | 0 => throw .unexpectedToken
  | fuel + 1 => do
    if ← accept .closeBrace then return []
    else
      unless isFirst do expect .comma
      if ← accept .closeBrace then return []
      else if ← accept .key then
        let pair ← flowPair .closeBrace fuel
        return pair :: (← flowEntries false fuel)
      else
        let key ← node .flow fuel
        return (key, .empty) :: (← flowEntries false fuel)

end

/-! ## Documents -/

/-- Read the directives in front of a document. Of the version there is at most one, and a
handle is defined at most once. -/
def directives (hasVersion : Bool) (handles : List (Text × Text)) :
    List Token → Except Error (List (Text × Text) × List Token)
  | .directive (.version major) :: rest =>
    if hasVersion || major ≠ 1 then .error .badDirective else directives true handles rest
  | .directive (.handle handle start) :: rest =>
    if (handles.lookup handle).isSome then .error .badDirective
    else directives hasVersion ((handle, start) :: handles) rest
  | .directive .unknown :: rest => directives hasVersion handles rest
  | rest => .ok (handles, rest)

/-- The handles that are defined everywhere. -/
def usualHandles : List (Text × Text) :=
  [(['!'], ['!']), (['!', '!'], Tag.start)]

/-- Whether a document without content ends in front of a token. -/
def endsDocument : Option Token → Bool
  | none => true
  | some (.directive _) => true
  | some .documentStart => true
  | some .documentEnd => true
  | some _ => false

/-- Read the content of a document behind its marker, if it has one. -/
def content (isMarked : Bool) : Parsing Node := do
  if isMarked && endsDocument (← peek) then return .empty
  else node .block (4 * (← get).tokens.length + 4)

/-- The node of the only document that some tokens hold, or nothing if they hold none. -/
def document (tokens : List Token) : Except Error (Option Node) := do
  match tokens with
  | [] => return none
  | first :: _ =>
    let isMarked := first = .documentStart || (match first with
      | .directive _ => true
      | _ => false)
    let (handles, rest) ← directives false [] tokens
    let rest ←
      if !isMarked then pure rest
      else
        match rest with
        | .documentStart :: rest => pure rest
        | _ => throw .unexpectedToken
    let (node, state) ← (content isMarked).run { tokens := rest, handles := handles ++ usualHandles }
    if (state.tokens.dropWhile (· = .documentEnd)).isEmpty then return some node
    else throw .severalDocuments

end Parsing

end Yaml

end JapaneseSpacing
