import FeatureRefs.Yaml.Token

/-!
# YAML nodes

A text holds at most one document, and the document is a node. Scalars are kept as they are written.
An anchor has for its number how many names of anchors are in use in front of it; an alias stands for
the last node with the number of its anchor.
-/

namespace FeatureRefs.Yaml

/-- A node of a document. -/
inductive Node where
  | scalar (text : String) (isPlain : Bool) (tag : Option Tag)
  | sequence (items : List Node)
  | mapping (members : List (Node × Node))
  | alias (number : Nat)
  | anchored (number : Nat) (node : Node)
deriving Repr

namespace Node

/-- What is left out counts as an empty plain scalar. -/
def missing : Node := .scalar "" true none

/-! ## From tokens to nodes -/

/-- The tokens that are still to come, the numbers of anchors, and the short forms of tags. -/
structure Parsing where
  tokens : List Token
  anchors : List (String × Nat) := []
  handles : List (String × Tag) :=
    [("!", .ofChars "!".toList), ("!!", .ofChars "tag:yaml.org,2002:".toList)]

/-- A step of reading nodes. -/
abbrev Parser (α : Type) := StateT Parsing Option α

/-- The next token. -/
def peek : Parser Token := do
  return (← get).tokens.headD .streamEnd

/-- Takes the next token away. -/
def skip : Parser Unit :=
  modify fun p => { p with tokens := p.tokens.tail }

/-- Takes the next token away if it is the given one. -/
def accept (token : Token) : Parser Bool := do
  if (← peek) = token then
    skip
    return true
  else
    return false

/-- Takes the next token away, which must be the given one. -/
def expect (token : Token) : Parser Unit := do
  if !(← accept token) then failure

/-- The number of a new anchor. -/
def defineAnchor (name : String) : Parser Nat := do
  let number := (← get).anchors.length
  modify fun p => { p with anchors := (name, number) :: p.anchors.filter (·.1 != name) }
  return number

/-- The whole of a tag. -/
def resolveTag (handle : String) (suffix : Tag) : Parser Tag := do
  if handle.isEmpty then
    return suffix
  else
    match (← get).handles.lookup handle with
    | some meaning => return meaning ++ suffix
    | none => failure

/-- Reads an anchor, if there is one. -/
def anchor? : Parser (Option Nat) := do
  match ← peek with
  | .anchor name =>
      skip
      return some (← defineAnchor name)
  | _ => return none

/-- Reads a tag, if there is one. -/
def tag? : Parser (Option Tag) := do
  match ← peek with
  | .tag handle suffix =>
      skip
      return some (← resolveTag handle suffix)
  | _ => return none

/-- Reads an anchor and a tag in either order. -/
def properties : Parser (Option Nat × Option Tag) := do
  match ← anchor? with
  | some number => return (some number, ← tag?)
  | none =>
      let tag ← tag?
      return (← if tag.isSome then anchor? else pure none, tag)

mutual

/-- Reads a node. Block collections are only allowed where `inBlock` says so, and a sequence whose items
are not indented where `indentless` does. -/
def node (inBlock indentless : Bool) : Nat → Parser Node
  | 0 => failure
  | fuel + 1 => do
      match ← peek with
      | .alias name =>
          skip
          match (← get).anchors.lookup name with
          | some number => return .alias number
          | none => failure
      | _ =>
          let (number, tag) ← properties
          let content ← content inBlock indentless tag (number.isSome || tag.isSome) fuel
          match number with
          | some number => return .anchored number content
          | none => return content

/-- Reads a node behind its anchor and tag. The node may be left out if it has one of them. -/
def content (inBlock indentless : Bool) (tag : Option Tag) (mayBeMissing : Bool) :
    Nat → Parser Node
  | 0 => failure
  | fuel + 1 => do
      match ← peek with
      | .scalar text isPlain =>
          skip
          return .scalar text isPlain tag
      | .flowSequence =>
          skip
          return .sequence (← flowItems true fuel)
      | .flowMapping =>
          skip
          return .mapping (← flowMembers true fuel)
      | token =>
          if indentless && token = .blockEntry then
            return .sequence (← indentlessItems fuel)
          else if inBlock && token = .blockSequence then
            skip
            return .sequence (← blockItems fuel)
          else if inBlock && token = .blockMapping then
            skip
            return .mapping (← blockMembers fuel)
          else if mayBeMissing then
            return .scalar "" true tag
          else
            failure

/-- Reads a node, or leaves it out if one of the tokens comes. -/
def nodeUnless (tokens : List Token) (inBlock indentless : Bool) : Nat → Parser Node
  | 0 => failure
  | fuel + 1 => do
      if tokens.contains (← peek) then return missing else node inBlock indentless fuel

/-- Reads the items of a block sequence. -/
def blockItems : Nat → Parser (List Node)
  | 0 => failure
  | fuel + 1 => do
      if ← accept .blockEntry then
        let item ← nodeUnless [.blockEntry, .blockEnd] true false fuel
        return item :: (← blockItems fuel)
      else
        expect .blockEnd
        return []

/-- Reads the items of a sequence that are not indented. -/
def indentlessItems : Nat → Parser (List Node)
  | 0 => failure
  | fuel + 1 => do
      if ← accept .blockEntry then
        let item ← nodeUnless [.blockEntry, .key, .value, .blockEnd] true false fuel
        return item :: (← indentlessItems fuel)
      else
        return []

/-- Reads the members of a block mapping. -/
def blockMembers : Nat → Parser (List (Node × Node))
  | 0 => failure
  | fuel + 1 => do
      let ends : List Token := [.key, .value, .blockEnd]
      if ← accept .key then
        let key ← nodeUnless ends true true fuel
        let value ← if ← accept .value then nodeUnless ends true true fuel else pure missing
        return (key, value) :: (← blockMembers fuel)
      else
        expect .blockEnd
        return []

/-- Reads the items of a sequence between brackets. -/
def flowItems (isFirst : Bool) : Nat → Parser (List Node)
  | 0 => failure
  | fuel + 1 => do
      if ← accept .flowSequenceEnd then
        return []
      else
        if !isFirst then expect .flowEntry
        if ← accept .flowSequenceEnd then
          return []
        else
          let item ← if ← accept .key then pairItem fuel else node false false fuel
          return item :: (← flowItems false fuel)

/-- Reads an item that is a mapping of a single pair, behind the mark of its key. A key that is left out
takes the next token with it. -/
def pairItem : Nat → Parser Node
  | 0 => failure
  | fuel + 1 => do
      let key ←
        if [.value, .flowEntry, .flowSequenceEnd].contains (← peek) then
          skip
          pure missing
        else
          node false false fuel
      let value ←
        if ← accept .value then nodeUnless [.flowEntry, .flowSequenceEnd] false false fuel
        else pure missing
      return .mapping [(key, value)]

/-- Reads the members of a mapping between braces. -/
def flowMembers (isFirst : Bool) : Nat → Parser (List (Node × Node))
  | 0 => failure
  | fuel + 1 => do
      if ← accept .flowMappingEnd then
        return []
      else
        if !isFirst then expect .flowEntry
        if ← accept .flowMappingEnd then
          return []
        else if ← accept .key then
          let key ← nodeUnless [.value, .flowEntry, .flowMappingEnd] false false fuel
          let value ←
            if ← accept .value then nodeUnless [.flowEntry, .flowMappingEnd] false false fuel
            else pure missing
          return (key, value) :: (← flowMembers false fuel)
        else
          let key ← node false false fuel
          return (key, missing) :: (← flowMembers false fuel)

end

/-- Reads directives. A version must be one that is known, and nothing may be said twice. -/
def directives (hasVersion : Bool) (defined : List String) : Nat → Parser Bool
  | 0 => failure
  | fuel + 1 => do
      match ← peek with
      | .version major minor =>
          if hasVersion || major ≠ 1 || (minor ≠ 1 && minor ≠ 2) then failure
          else
            skip
            let _ ← directives true defined fuel
            return true
      | .tagHandle handle meaning =>
          if defined.contains handle then failure
          else
            skip
            modify fun p => { p with handles := (handle, meaning) :: p.handles }
            let _ ← directives hasVersion (handle :: defined) fuel
            return true
      | _ => return false

/-- Takes the marks of the end of a document away. -/
def documentEnds : Parser Unit :=
  modify fun p => { p with tokens := p.tokens.dropWhile (· == .documentEnd) }

/-- Reads the only document, if there is one. -/
def document (fuel : Nat) : Parser (Option Node) := do
  if (← peek) = .streamEnd then
    return none
  else
    let hasDirectives ← directives false [] fuel
    let isExplicit ← accept .documentStart
    if hasDirectives && !isExplicit then
      failure
    else
      let root ←
        if isExplicit then
          match ← peek with
          | .version _ _ | .tagHandle _ _ | .documentStart | .documentEnd | .streamEnd =>
              pure missing
          | _ => node true false fuel
        else
          node true false fuel
      documentEnds
      expect .streamEnd
      return some root

/-- The document that tokens make up. -/
def ofTokens? (tokens : List Token) : Option (Option Node) :=
  ((document (4 * tokens.length + 8)).run { tokens }).map (·.1)

/-- Reads a text. Answers no node for a text without a document. -/
def parse? (text : String) : Option (Option Node) :=
  (Token.scan? text.toList).bind ofTokens?

/-! ## Aliases -/

mutual

/-- The nodes with anchors, in the order of their anchors. -/
def anchors : Node → List (Nat × Node)
  | .scalar _ _ _ => []
  | .alias _ => []
  | .anchored number node => (number, node) :: anchors node
  | .sequence items => itemAnchors items
  | .mapping members => memberAnchors members

/-- The nodes with anchors among items. -/
def itemAnchors : List Node → List (Nat × Node)
  | [] => []
  | item :: items => anchors item ++ itemAnchors items

/-- The nodes with anchors among members. -/
def memberAnchors : List (Node × Node) → List (Nat × Node)
  | [] => []
  | (key, value) :: members => anchors key ++ anchors value ++ memberAnchors members

end

/-- What a node of a document stands for. -/
def resolve (root : Node) : Node → Node
  | .alias number => ((anchors root).reverse.lookup number).getD missing
  | .anchored _ node => node
  | node => node

end Node

end FeatureRefs.Yaml
