import BusContract.Yaml.Node
import BusContract.Yaml.Value

/-!
# Contents

What a document says, once its scalars are taken for values and its merge keys for the entries they
bring in. Only the outermost mapping is kept with its entries. Of what is inside no more is kept than
that it is a collection, but all of it has to make sense, and the first thing that does not is what is
reported.

A collection is filled after the one it is in, and each once. What has been found out about a node by then
stays: a node of which there is a value has that one wherever an alias stands for it, a mapping has the
entries that it merged, and a key that was an equals sign is text also where it is no key.

There is no limit to how deep nodes are in each other. How many calls may be in each other depends on the
caller too and is left out.
-/

namespace BusContract.Yaml

/-- Nodes by their names. -/
abbrev Anchors := List (String × Node)

/-! ## Names -/

mutual

/-- The named nodes in a node. -/
def Node.anchors : Node → Anchors
  | reference _ => []
  | scalar anchor kind text => named anchor (.scalar anchor kind text) []
  | sequence anchor kind id items =>
    named anchor (.sequence anchor kind id items) (itemAnchors items)
  | mapping anchor kind id entries =>
    named anchor (.mapping anchor kind id entries) (entryAnchors entries)

/-- Puts a node in front, if it has a name. -/
def Node.named (anchor : Option String) (node : Node) (anchors : Anchors) : Anchors :=
  match anchor with
  | some name => (name, node) :: anchors
  | none => anchors

/-- The named nodes in items. -/
def Node.itemAnchors : List Node → Anchors
  | [] => []
  | item :: rest => item.anchors ++ itemAnchors rest

/-- The named nodes in entries. -/
def Node.entryAnchors : List (Node × Node) → Anchors
  | [] => []
  | (key, value) :: rest => key.anchors ++ value.anchors ++ entryAnchors rest

end

/-- What a node is, if it is an alias that of which it is one. -/
def Node.actual (anchors : Anchors) : Node → Node
  | .reference name => (anchors.lookup name).getD (.reference name)
  | node => node


/-! ## What is found out about nodes -/

/-- The kind of a node. -/
def Node.kind : Node → Kind
  | reference _ => .unknown
  | scalar _ kind _ => kind
  | sequence _ kind _ _ => kind
  | mapping _ kind _ _ => kind

/-- The name of a node, if it has one. -/
def Node.anchor? : Node → Option String
  | reference _ => none
  | scalar anchor _ _ => anchor
  | sequence anchor _ _ _ => anchor
  | mapping anchor _ _ _ => anchor

/-- The number of a sequence or mapping. -/
def Node.id? : Node → Option Nat
  | sequence _ _ id _ => some id
  | mapping _ _ id _ => some id
  | _ => none

/-- Is the text of the node its own? -/
def Node.isScalar : Node → Bool
  | scalar .. => true
  | _ => false

/-- A node without a name is text if it is an equals sign. -/
def Node.asText : Node → Node
  | scalar none .default text => scalar none .str text
  | sequence none .default id items => sequence none .str id items
  | mapping none .default id entries => mapping none .str id entries
  | node => node

/-- What has been found out about the nodes of a document. -/
structure Making where
  /-- The entries of mappings by their numbers, where they have been looked at. -/
  entries : List (Nat × List (Node × Node))
  /-- The names of the equals signs that were keys. -/
  texts : List String
  /-- The values of sequences and mappings by their numbers. -/
  values : List (Nat × Value)
  /-- The collections that are still to be filled. -/
  waiting : List Node

namespace Making

/-- Nothing has been found out. -/
def start : Making := ⟨[], [], [], []⟩

/-- The entries that a mapping has by now. At first it has its own. -/
def entriesOf (m : Making) (id : Nat) (own : List (Node × Node)) : List (Node × Node) :=
  (m.entries.lookup id).getD own

/-- The kind that a node has by now. -/
def kindOf (m : Making) (node : Node) : Kind :=
  if node.kind = .default ∧ node.anchor?.any m.texts.contains then .str else node.kind

/-- The mapping has these entries from now on. -/
def withEntries (id : Nat) (entries : List (Node × Node)) (m : Making) : Making :=
  { m with entries := (id, entries) :: m.entries }

/-- The node has this value from now on. -/
def withValue (node : Node) (value : Value) (m : Making) : Making :=
  match node.id? with
  | some id => { m with values := (id, value) :: m.values }
  | none => m

/-- The collection has to be filled after all others that are waiting. -/
def withWaiting (node : Node) (m : Making) : Making := { m with waiting := m.waiting ++ [node] }

/-- The text of a node that is to be a scalar. A mapping has one if one of its keys is an equals sign.
It may be itself of which it has the text, and then there is no end; so the fuel is for mappings only. -/
def textOf (m : Making) (anchors : Anchors) (fuel : Nat) (node : Node) : Except Fault WideText :=
  match node.actual anchors with
  | .scalar _ _ text => .ok text
  | .mapping _ _ id own =>
    match (m.entriesOf id own).find? fun entry => m.kindOf (entry.1.actual anchors) == .default with
    | none => .error .malformed
    | some (_, value) =>
      match fuel with
      | 0 => .error .endless
      | fuel + 1 => m.textOf anchors fuel value
  | _ => .error .malformed

end Making

/-- Making values of nodes, which may fail. -/
abbrev Maker := StateT Making (Except Fault)

namespace Maker

/-- The text breaks the rules. -/
def fail {α : Type} : Maker α := fun _ => .error .malformed

/-! ## Merging -/

/-- Keys that are equals signs count as text from now on, those with a name wherever they are. -/
def plainKeys (anchors : Anchors) (id : Nat) (own : List (Node × Node)) : Maker Unit := modify fun m =>
  let entries := m.entriesOf id own
  let signs := entries.filter fun entry => (entry.1.actual anchors).kind == .default
  { m with
    entries := (id, entries.map fun (key, value) => (key.asText, value)) :: m.entries
    texts := signs.filterMap (fun entry => (entry.1.actual anchors).anchor?) ++ m.texts }

/-- Is the node a key that brings in the entries of other mappings? -/
def isMerge (anchors : Anchors) (key : Node) : Bool := (key.actual anchors).kind == .merge

/-- Takes the first merge key out of a mapping, if there is one: what it brings in. -/
def takeMerge (anchors : Anchors) (id : Nat) (own : List (Node × Node)) : Maker (Option Node) := do
  let entries := (← get).entriesOf id own
  match entries.find? fun entry => isMerge anchors entry.1 with
  | none => return none
  | some (_, value) =>
    modify (·.withEntries id (entries.eraseP fun entry => isMerge anchors entry.1))
    return some value

mutual

/-- Puts the entries of a mapping together, those that it merges first. A merge key is taken out before
it is looked at what it brings in, so a mapping that merges itself does not do so again. -/
def flatten (anchors : Anchors) (fuel : Nat) (id : Nat) (own : List (Node × Node)) :
    Maker (List (Node × Node)) :=
  match fuel with
  | 0 => fail
  | fuel + 1 => do
    plainKeys anchors id own
    let merged ← takeMerges anchors fuel id own
    let entries := merged ++ (← get).entriesOf id own
    modify (·.withEntries id entries)
    return entries

/-- The entries that all merge keys of a mapping bring in. -/
def takeMerges (anchors : Anchors) (fuel : Nat) (id : Nat) (own : List (Node × Node)) :
    Maker (List (Node × Node)) :=
  match fuel with
  | 0 => fail
  | fuel + 1 => do
    match ← takeMerge anchors id own with
    | none => return []
    | some value =>
      let entries ← broughtIn anchors fuel value
      return entries ++ (← takeMerges anchors fuel id own)

/-- The entries that a merged node brings in. Of several mappings the first counts most, so it comes
last. -/
def broughtIn (anchors : Anchors) (fuel : Nat) (node : Node) : Maker (List (Node × Node)) :=
  match fuel with
  | 0 => fail
  | fuel + 1 => do
    match node.actual anchors with
    | .mapping _ _ id own => flatten anchors fuel id own
    | .sequence _ _ _ items =>
      let parts ← items.mapM fun item =>
        match item.actual anchors with
        | .mapping _ _ id own => flatten anchors fuel id own
        | _ => fail
      return parts.reverse.flatten
    | _ => fail

end

/-! ## Values of nodes -/

end Maker

/-- Is a value of the kind filled only after the collection it is in? -/
def Kind.isCollection : Kind → Bool
  | seq => true
  | map => true
  | set => true
  | omap => true
  | pairs => true
  | _ => false

/-- The value of a node. That of a collection is not more than that it is one. -/
def Making.valueOf (m : Making) (anchors : Anchors) (fuel : Nat) (node : Node) : Except Fault Value :=
  let kind := m.kindOf node
  if kind.isCollection then .ok .collection
  else if kind = .merge ∨ kind = .default ∨ kind = .unknown then .error .malformed
  else do scalarValue kind node.isScalar (← m.textOf anchors fuel node)

namespace Maker

/-- The value of a node, which is made only once. A collection has to be filled later. -/
def make (anchors : Anchors) (fuel : Nat) (node : Node) : Maker Value := do
  let node := node.actual anchors
  let m ← get
  match node.id?.bind fun id => m.values.lookup id with
  | some value => return value
  | none =>
    let value ← m.valueOf anchors fuel node
    modify (·.withValue node value)
    if (m.kindOf node).isCollection then modify (·.withWaiting node)
    return value

/-- The values of an entry. A key must not be a collection. -/
def makeEntry (anchors : Anchors) (fuel : Nat) (entry : Node × Node) : Maker (Value × Value) := do
  let key ← make anchors fuel entry.1
  if key = .collection then fail else return (key, ← make anchors fuel entry.2)

/-- The values of the entries of a mapping. A merge takes three steps of those that fuel is for. -/
def makeEntries (anchors : Anchors) (fuel : Nat) (id : Nat) (own : List (Node × Node)) :
    Maker (List (Value × Value)) := do
  (← flatten anchors (3 * fuel) id own).mapM (makeEntry anchors fuel)

/-- The values of an item of an ordered mapping. It has to be a mapping with one entry. -/
def makePair (anchors : Anchors) (fuel : Nat) (item : Node) : Maker Unit := do
  match item.actual anchors with
  | .mapping _ _ id own =>
    match (← get).entriesOf id own with
    | [(key, value)] =>
      let _ ← make anchors fuel key
      let _ ← make anchors fuel value
    | _ => fail
  | _ => fail

/-! ## Collections -/

/-- Fills a collection. -/
def fill (anchors : Anchors) (fuel : Nat) (node : Node) : Maker Unit := do
  match node.kind, node with
  | .seq, .sequence _ _ _ items => discard (items.mapM (make anchors fuel))
  | .map, .mapping _ _ id own => discard (makeEntries anchors fuel id own)
  | .set, .mapping _ _ id own => discard (makeEntries anchors fuel id own)
  | .omap, .sequence _ _ _ items => discard (items.mapM (makePair anchors fuel))
  | .pairs, .sequence _ _ _ items => discard (items.mapM (makePair anchors fuel))
  | _, _ => fail

/-- The collection that has waited longest, which waits no more. -/
def next? : Maker (Option Node) := do
  match (← get).waiting with
  | [] => return none
  | node :: rest =>
    modify fun m => { m with waiting := rest }
    return some node

/-- Fills the collections that are waiting, and those that they have in them. -/
def fillAll (anchors : Anchors) (size : Nat) : (fuel : Nat) → Maker Unit
  | 0 => fail
  | fuel + 1 => do
    match ← next? with
    | none => return ()
    | some node =>
      fill anchors size node
      fillAll anchors size fuel

end Maker

/-! ## Documents -/

/-- What a document is: nothing, a mapping with its entries in order, or something else. -/
inductive Content where
  | nothing
  | mapping (entries : List (Value × Value))
  | other
  deriving Repr, DecidableEq

/-- Makes the content of a document with the given outermost node. -/
def Maker.content (anchors : Anchors) (size : Nat) (root : Node) : Maker Content := do
  match root with
  | .mapping _ .map id own =>
    modify (·.withValue root .collection)
    let values ← makeEntries anchors size id own
    fillAll anchors size (size + 1)
    return .mapping (putEntries values)
  | _ =>
    let value ← make anchors size root
    fillAll anchors size (size + 1)
    return if value = .null then .nothing else .other

/-- The content of a document with the given outermost node. -/
def contentOf (size : Nat) (root : Node) : Except Fault Content := do
  let (content, _) ← (Maker.content root.anchors size root).run .start
  return content

/-- The content of a text. -/
def read (text : List Char) : Except Fault Content := do
  match ← Node.ofText? text with
  | none => return .nothing
  | some root => contentOf (text.length + 2) root

end BusContract.Yaml
