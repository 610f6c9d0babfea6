import HtmlTemplate.Datum.Closed
import HtmlTemplate.Yaml.Lexer
import HtmlTemplate.Yaml.Node

/-!
# Documents

The tokens of a document make a tree of nodes: scalars, sequences and mappings, each with its tag. A name in the place
of a node stands for the node that was given the name before. A text has at most one document.
-/

namespace HtmlTemplate.Yaml

namespace Node

/-- Tokens on the way to a node: those that remain, the fault after them, the beginnings of tags by their handles,
the nodes by their names, how many sequences and mappings there have been, and those of their data that have themselves
or data around them inside. -/
structure Reading where
  tokens : List Token
  fault : Fault
  handles : List (Text × Text)
  named : List (Text × Node)
  count : Nat
  opened : List (Nat × Datum)

/-- A part of a reading. -/
abbrev Read (α : Type) := StateT Reading (Except Fault) α

/-- The next token. -/
def peek : Read Token := do
  match (← get).tokens with
  | t :: _ => return t
  | [] => throw (← get).fault

/-- Goes on after the next token. -/
def skip : Read Unit := modify fun r => { r with tokens := r.tokens.tail }

/-- The tag that is written in front of a node. -/
def fullTag (t : WrittenTag) : Read Text := do
  match t.handle? with
  | none => return t.suffix
  | some handle =>
    match (← get).handles.lookup handle with
    | some beginning => return beginning ++ t.suffix
    | none => throw .malformed

/-- The name and the tag in front of a node, in either order. -/
def properties : Read (Option Text × Option WrittenTag) := do
  match ← peek with
  | .anchor name =>
    skip
    match ← peek with
    | .tag t =>
      skip
      return (some name, some t)
    | _ => return (some name, none)
  | .tag t =>
    skip
    match ← peek with
    | .anchor name =>
      skip
      return (some name, some t)
    | _ => return (none, some t)
  | _ => return (none, none)

/-- Checks that a name has not been given before. -/
def checkName (name? : Option Text) : Read Unit := do
  match name? with
  | some name => if ((← get).named.lookup name).isSome then throw .malformed
  | none => return ()

/-- Gives a name to a node. -/
def giveName (name? : Option Text) (node : Node) : Read Unit :=
  match name? with
  | some name => modify fun r => { r with named := (name, node) :: r.named }
  | none => return ()

/-- The number of the next sequence or mapping. -/
def nextNumber : Read Nat := do
  let count := (← get).count
  modify fun r => { r with count := count + 1 }
  return count

/-- Reads a scalar that may have a name. -/
def named (name? : Option Text) (node : Node) : Read Node := do
  checkName name?
  giveName name? node
  return node

/-- Keeps the datum of a node that is inside of itself. -/
def keep (number : Nat) (node : Node) : Read Unit :=
  match node.datum with
  | .ok d => if d.isOpen then modify fun r => { r with opened := (number, d) :: r.opened } else return ()
  | .error _ => return ()

/-- Reads the parts of a sequence or a mapping that may have a name. While they are read, the name stands for a place
inside of it. -/
def namedWith {α : Type} (name? : Option Text) (isMapping : Bool) (parts : Read α) (make : Nat → α → Node) :
    Read Node := do
  checkName name?
  let number ← nextNumber
  giveName name? (.enclosing number isMapping)
  let node := make number (← parts)
  keep number node
  giveName name? node
  return node

/-- The tag of a node that may have none written. A single exclamation mark is none. -/
def tagOr (written? : Option Text) (otherwise : Tag) : Tag :=
  match written? with
  | none => otherwise
  | some ['!'] => otherwise
  | some s => Tag.ofText s

/-- The tag of a scalar. -/
def scalarTag (written? : Option Text) (isPlain : Bool) (s : Text) : Tag :=
  tagOr written? (if isPlain || written?.isSome then Tag.ofPlain s else .str)

/-- Whether a token is the dash of an item. -/
def isDash : Token → Bool
  | .blockEntry => true
  | _ => false

/-- Whether a token is the mark of a value. -/
def isValue : Token → Bool
  | .value => true
  | _ => false

/-- Whether a block ends in front of a token. -/
def isBlockEnd : Token → Bool
  | .blockEnd => true
  | _ => false

/-- Whether the key or the value of an entry in a block is left out in front of a token. -/
def endsEntry : Token → Bool
  | .key => true
  | .value => true
  | .blockEnd => true
  | _ => false

/-- The brackets around a list or a mapping. -/
inductive Bracket where
  | list
  | mapping

/-- Whether a token is the closing bracket. -/
def Bracket.isClosing : Bracket → Token → Bool
  | .list, .flowSequenceEnd => true
  | .mapping, .flowMappingEnd => true
  | _, _ => false

/-- Whether an item or an entry between brackets ends in front of a token. -/
def Bracket.endsItem (b : Bracket) : Token → Bool
  | .flowEntry => true
  | t => b.isClosing t

/-- A part between brackets: a lone node, or a pair, which has a number. -/
inductive Part where
  | node (node : Node)
  | pair (number : Nat) (key node : Node)

/-- A part of a list between brackets: a pair is a mapping. -/
def itemOf : Part → Node
  | .node node => node
  | .pair number key node => .ofMapping .map number [(key, node)]

/-- A part of a mapping between brackets: a lone node is a key. -/
def entryOf : Part → Node × Node
  | .node key => (key, empty)
  | .pair _ key node => (key, node)

mutual

/-- A node. `inBlock` tells whether it may be a block, and `dashes` whether it may be a list whose dashes stand as deep
as the key in front of it. -/
def read : Nat → Bool → Bool → Read Node
  | 0, _, _ => throw .malformed
  | steps + 1, inBlock, dashes => do
    match ← peek with
    | .reference name =>
      skip
      match (← get).named.lookup name with
      | some node => return node
      | none => throw .malformed
    | _ =>
      let (name?, written?) ← properties
      let tag? ← written?.mapM fullTag
      let t ← peek
      if dashes && isDash t then
        namedWith name? false (dashItems steps) (.ofSequence (tagOr tag? .seq))
      else
        match t with
        | .scalar isPlain s =>
          skip
          named name? (.scalar (scalarTag tag? isPlain s) s)
        | .flowSequenceStart =>
          skip
          namedWith name? false (flowParts steps .list true) fun number parts =>
            .ofSequence (tagOr tag? .seq) number (parts.map itemOf)
        | .flowMappingStart =>
          skip
          namedWith name? true (flowParts steps .mapping true) fun number parts =>
            .ofMapping (tagOr tag? .map) number (parts.map entryOf)
        | .blockSequenceStart =>
          if !inBlock then throw .malformed
          skip
          namedWith name? false (blockItems steps) (.ofSequence (tagOr tag? .seq))
        | .blockMappingStart =>
          if !inBlock then throw .malformed
          skip
          namedWith name? true (blockEntries steps) (.ofMapping (tagOr tag? .map))
        | _ =>
          if name?.isNone && tag?.isNone then throw .malformed
          named name? (.scalar (scalarTag tag? true []) [])

/-- The items of a list in a block of its own. -/
def blockItems : Nat → Read (List Node)
  | 0 => throw .malformed
  | steps + 1 => do
    let t ← peek
    skip
    if isBlockEnd t then return []
    if !isDash t then throw .malformed
    let t ← peek
    let item ← if isDash t || isBlockEnd t then pure empty else read steps true false
    return item :: (← blockItems steps)

/-- The items of a list whose dashes stand as deep as the key in front of it. -/
def dashItems : Nat → Read (List Node)
  | 0 => throw .malformed
  | steps + 1 => do
    if !isDash (← peek) then return []
    skip
    let t ← peek
    let item ← if isDash t || endsEntry t then pure empty else read steps true false
    return item :: (← dashItems steps)

/-- The entries of a mapping in a block. -/
def blockEntries : Nat → Read (List (Node × Node))
  | 0 => throw .malformed
  | steps + 1 => do
    match ← peek with
    | .blockEnd =>
      skip
      return []
    | .key =>
      skip
      let key ← if endsEntry (← peek) then pure empty else read steps true true
      let v ←
        if isValue (← peek) then do
          skip
          if endsEntry (← peek) then pure empty else read steps true true
        else pure empty
      return (key, v) :: (← blockEntries steps)
    | _ => throw .malformed

/-- A key between brackets after its mark, and its value. -/
def flowPair (steps : Nat) (b : Bracket) : Read (Node × Node) := do
  match steps with
  | 0 => throw .malformed
  | steps + 1 =>
    let t ← peek
    let key ← if isValue t || b.endsItem t then pure empty else read steps false false
    let v ←
      if isValue (← peek) then do
        skip
        if b.endsItem (← peek) then pure empty else read steps false false
      else pure empty
    return (key, v)

/-- The parts between brackets: a pair if its key is marked as one, else a lone node. Commas stand between parts, and
one may stand after the last. -/
def flowParts (steps : Nat) (b : Bracket) (isFirst : Bool) : Read (List Part) := do
  match steps with
  | 0 => throw .malformed
  | steps + 1 =>
    if b.isClosing (← peek) then
      skip
      return []
    if !isFirst then
      match ← peek with
      | .flowEntry => skip
      | _ => throw .malformed
    let t ← peek
    if b.isClosing t then
      skip
      return []
    match t with
    | .key =>
      skip
      let number ← nextNumber
      let (key, node) ← flowPair steps b
      return .pair number key node :: (← flowParts steps b false)
    | _ =>
      let node ← read steps false false
      return .node node :: (← flowParts steps b false)

end

/-- The directives in front of a document. There is at most one of the version, which has to begin with one, and at most
one of each handle. -/
def directives : Nat → Bool → List (Text × Text) → Read Unit
  | 0, _, _ => throw .malformed
  | steps + 1, hasVersion, handles => do
    match ← peek with
    | .directive (.version major) =>
      skip
      if hasVersion || major ≠ 1 then throw .malformed
      directives steps true handles
    | .directive (.handle handle beginning) =>
      skip
      if (handles.lookup handle).isSome then throw .malformed
      directives steps hasVersion ((handle, beginning) :: handles)
    | .directive .other =>
      skip
      directives steps hasVersion handles
    | _ => modify fun r => { r with handles := handles ++ r.handles }

/-- The handles that need no directive. -/
def knownHandles : List (Text × Text) := [(['!'], ['!']), (['!', '!'], Tag.beginning)]

/-- The end of a document, after which there is no other. -/
def documentEnd : Nat → Read Unit
  | 0 => throw .malformed
  | steps + 1 => do
    match ← peek with
    | .documentEnd =>
      skip
      documentEnd steps
    | .streamEnd => return ()
    | _ =>
      directives steps false []
      throw .malformed

/-- The only document of a text, if there is one. -/
def document (steps : Nat) : Read (Option Node) := do
  match ← peek with
  | .streamEnd => return none
  | .directive _ => explicit
  | .documentStart => explicit
  | _ =>
    let node ← read steps true false
    documentEnd steps
    return some node
where
  /-- A document with a line that begins it. -/
  explicit : Read (Option Node) := do
    directives steps false []
    match ← peek with
    | .documentStart => skip
    | _ => throw .malformed
    let node ←
      match ← peek with
      | .directive _ => pure empty
      | .documentStart => pure empty
      | .documentEnd => pure empty
      | .streamEnd => pure empty
      | _ => read steps true false
    documentEnd steps
    return some node

/-- The datum that the document of a text writes; null if it has none. -/
def datumOf (s : Text) : Except Fault Datum := do
  let scan := Scan.ofText s
  let steps := 4 * scan.tokens.length + 8
  let (node?, reading) ← (document steps).run ⟨scan.tokens, scan.fault?.getD .malformed, knownHandles, [], 0, []⟩
  match node? with
  | none => return .null
  | some node => return (← node.datum.mapError DeepFault.fault).closed reading.opened

end Node

end HtmlTemplate.Yaml
