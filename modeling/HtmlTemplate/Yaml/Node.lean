import HtmlTemplate.Datum.Places
import HtmlTemplate.Yaml.Scalar

/-!
# Nodes

A node is a scalar, a sequence or a mapping, with a tag. By its tag it stands for a datum, which is made with the node.
The data inside of lists and mappings are made after those around them, so of several faults the one that is less deep
comes first.
-/

namespace HtmlTemplate.Yaml

/-- A fault, and how deep inside of a datum it is. -/
structure DeepFault where
  depth : Nat
  fault : Fault

namespace DeepFault

/-- The form is broken where the datum begins. -/
def malformed : DeepFault := ⟨0, .malformed⟩

/-- The fault as one of the datum around. -/
def deeper (e : DeepFault) : DeepFault := ⟨e.depth + 1, e.fault⟩

end DeepFault

/-- What a node stands for. -/
abbrev Made := Except DeepFault Datum

/-- All results, or the fault that comes first: of the least deep ones the first. -/
def collect {α : Type} : List (Except DeepFault α) → Except DeepFault (List α)
  | [] => .ok []
  | .ok a :: rest => (collect rest).map (a :: ·)
  | .error e :: rest =>
    match collect rest with
    | .error e' => .error (if e'.depth < e.depth then e' else e)
    | .ok _ => .error e

/-- The results inside of a datum. -/
def inside {α : Type} (results : List (Except DeepFault α)) : Except DeepFault (List α) :=
  (collect results).mapError DeepFault.deeper

/-- The form is broken inside of the datum. -/
def broken {α : Type} : Except DeepFault α := .error DeepFault.malformed.deeper

/-- A pair of results. -/
def bothOf (a b : Made) : Except DeepFault (Datum × Datum) :=
  match collect [a, b] with
  | .ok [x, y] => .ok (x, y)
  | .ok _ => .error .malformed
  | .error e => .error e

/-- The datum of a key, which has to be one without parts. -/
def keyOf (made : Made) : Made :=
  match made with
  | .ok d => if d.isKey then .ok d else .error .malformed
  | .error e => .error (if e.depth = 0 then e else .malformed)

/-- A node. A mapping has a number, its entries, and the entries with all that is to be merged into it, if that can be
merged. A sequence and a mapping have the datum for which they stand. -/
inductive Node where
  | scalar (tag : Tag) (s : Text)
  | sequence (tag : Tag) (items : List Node) (made : Made)
  | mapping (tag : Tag) (number : Nat) (entries : List (Node × Node)) (merged? : Option (List (Node × Node)))
      (made : Made)
  /-- The sequence or the mapping of a number at a place inside itself. -/
  | enclosing (number : Nat) (isMapping : Bool)
  deriving Inhabited

namespace Node

/-- The scalar of a node that is left out. -/
def empty : Node := .scalar .null []

/-- The tag of a node. -/
def tag : Node → Tag
  | .scalar tag _ => tag
  | .sequence tag _ _ => tag
  | .mapping tag _ _ _ _ => tag
  | .enclosing _ _ => .other

mutual

/-- The text of a node where a scalar is wanted: a mapping has that of its datum under the key for values. -/
def text? : Node → Option Text
  | .scalar _ s => some s
  | .mapping _ _ entries _ _ => textOfValue? entries
  | _ => none

/-- The text of the first datum under the key for values. -/
def textOfValue? : List (Node × Node) → Option Text
  | [] => none
  | (key, node) :: rest => if key.tag = .value then text? node else textOfValue? rest

end

/-- The datum of a text under a tag of scalars. -/
def ofText (tag : Tag) (s : Text) : Made :=
  if [Tag.seq, .map, .set, .omap, .pairs].contains tag then broken else (scalarOf tag s).mapError (DeepFault.mk 0)

/-- The datum of a node. -/
def datum : Node → Made
  | .scalar tag s => ofText tag s
  | .sequence _ _ made => made
  | .mapping _ _ _ _ made => made
  | .enclosing number isMapping => .ok (.enclosing number isMapping)

/-- The number of a list or a mapping with some parts, if it has to be known by it. -/
def identityOf (number : Nat) (parts : List Datum) : Identity :=
  if parts.any Datum.isOpen then some number else none

/-- The pairs of a list of mappings with one entry each. -/
def listOfPairs (number : Nat) (items : List Node) : Made := do
  let pairs ← inside (items.map fun item =>
    match item with
    | .mapping _ number [(key, node)] _ _ =>
      (bothOf key.datum node.datum).map fun (k, d) => Datum.tuple (identityOf number [k, d]) [k, d]
    | _ => .error .malformed)
  return .list (identityOf number pairs) pairs

/-- The datum of a sequence. -/
def ofItems (tag : Tag) (number : Nat) (items : List Node) : Made :=
  match tag with
  | .seq => (inside (items.map datum)).map fun data => .list (identityOf number data) data
  | .omap => listOfPairs number items
  | .pairs => listOfPairs number items
  | .map => broken
  | .set => broken
  | _ => .error .malformed

/-- The keys and the data of the entries of a mapping, a later entry in the place of an earlier one of the same key. -/
def pairsOf (merged? : Option (List (Node × Node))) : Except DeepFault (List (Datum × Datum)) := do
  match merged? with
  | none => broken
  | some entries =>
    let pairs ← inside (entries.map fun (key, node) => bothOf (keyOf key.datum) node.datum)
    return Datum.distinct pairs

/-- The datum of a mapping. -/
def ofEntries (tag : Tag) (number : Nat) (entries : List (Node × Node)) (merged? : Option (List (Node × Node))) :
    Made :=
  match tag with
  | .map => (pairsOf merged?).map fun pairs => .mapping (identityOf number (pairs.map Prod.snd)) pairs
  | .set => (pairsOf merged?).map fun pairs => .set (Datum.inPlaces (pairs.map Prod.fst))
  | .timestamp => .error (if (textOfValue? entries).isSome then ⟨0, .mappingForMoment⟩ else .malformed)
  | .seq => broken
  | .omap => broken
  | .pairs => broken
  | tag =>
    match textOfValue? entries with
    | some s => ofText tag s
    | none => .error .malformed

/-- The sequence of some items. -/
def ofSequence (tag : Tag) (number : Nat) (items : List Node) : Node :=
  .sequence tag items (ofItems tag number items)

/-- The entries of a mapping that is to be merged. -/
def mergedOf : Node → Option (List (Node × Node))
  | .mapping _ _ _ merged? _ => merged?
  | .enclosing _ true => some []
  | _ => none

/-- The key for values is a text where it stands for nothing else. -/
def plainKey : Node → Node
  | .scalar .value s => .scalar .str s
  | .mapping .value number entries merged? _ =>
    .mapping .str number entries merged? (ofEntries .str number entries merged?)
  | node => node

/-- The entries of a mapping with all that is to be merged into it in front. Of several mappings under one key the last
comes first. -/
def mergedEntries (entries : List (Node × Node)) : Option (List (Node × Node)) := do
  let merged ← (entries.filter fun entry => entry.1.tag = .merge).mapM fun entry =>
    match entry.2 with
    | .sequence _ items _ => (items.mapM mergedOf).map fun parts => parts.reverse.flatten
    | node => mergedOf node
  let own := entries.filter fun entry => entry.1.tag ≠ .merge
  return merged.flatten ++ own.map fun (key, node) => (key.plainKey, node)

/-- The mapping of some entries. -/
def ofMapping (tag : Tag) (number : Nat) (entries : List (Node × Node)) : Node :=
  let merged? := mergedEntries entries
  .mapping tag number entries merged? (ofEntries tag number entries merged?)

end Node

end HtmlTemplate.Yaml
