import BusContract.Yaml.Layout
import BusContract.Yaml.Tag

/-!
# Nodes

A document is a tree of nodes: scalars, sequences and mappings, each with the kind that its tag
says. A node can be given a name by an anchor, and an alias stands for the node of a name. Names
are given once in a document, and before they are used; a node may stand for itself inside itself.

Nodes are read from tokens while these are read from the text, so that what is wrong with the nodes up
to some place is found before what is wrong with the text behind it.
-/

namespace BusContract.Yaml

/-- A node of a document. Sequences and mappings are told apart by a number, which is that of the
tokens in front of them. -/
inductive Node where
  | reference (name : String)
  | scalar (anchor : Option String) (kind : Kind) (text : WideText)
  | sequence (anchor : Option String) (kind : Kind) (id : Nat) (items : List Node)
  | mapping (anchor : Option String) (kind : Kind) (id : Nat) (entries : List (Node × Node))
  deriving Repr, Inhabited

/-! ## Reading nodes -/

/-- What has been read of the text, what handles stand for, and the names that have been given. -/
structure NodeReader where
  layout : Layout
  handles : List (String × String)
  names : List String

/-- A reading of tokens that may fail. -/
abbrev Nodes := StateT NodeReader (Except Fault)

namespace Nodes

/-- The text breaks the rules. -/
def fail {α : Type} : Nodes α := fun _ => .error .malformed

/-- The next token. The text is read up to where it is known. -/
def peek : Nodes (Option Token) := fun r => do
  let layout ← r.layout.settle (r.layout.cursor.rest.length + 2)
  return (layout.tokens.head?, { r with layout := layout })

/-- Passes over a token. -/
def drop : Nodes Unit := modify fun r => { r with layout := r.layout.take }

/-- Is the next token the given one? If so it is passed over. -/
def accept (t : Token) : Nodes Bool := do
  if (← peek) == some t then
    drop
    return true
  else return false

/-- Passes over a token that has to be there. -/
def expect (t : Token) : Nodes Unit := do
  if ← accept t then return () else fail

/-- Is the next token one of the given ones? -/
def sees (ts : List Token) : Nodes Bool := do
  match ← peek with
  | some t => return ts.contains t
  | none => return false

/-- The number of tokens that have been passed over. -/
def passed : Nodes Nat := do return (← get).layout.taken

/-- Gives a name. -/
def giveName (name : Option String) : Nodes Unit := do
  match name with
  | none => return ()
  | some name =>
    if (← get).names.contains name then fail
    else modify fun r => { r with names := name :: r.names }

/-- An anchor, if there is one here. -/
def anchor? : Nodes (Option String) := do
  match ← peek with
  | some (.anchor name) =>
    drop
    return some name
  | _ => return none

/-- A tag as it is written, if there is one here. -/
def tag? : Nodes (Option WrittenTag) := do
  match ← peek with
  | some (.tag t) =>
    drop
    return some t
  | _ => return none

/-- An anchor and a tag, in either order. -/
def marks : Nodes (Option String × Option WrittenTag) := do
  match ← anchor? with
  | some name => return (some name, ← tag?)
  | none =>
    let tag ← tag?
    return (← anchor?, tag)

/-- A tag with its handle replaced by what that stands for. -/
def fullTag (t : WrittenTag) : Nodes String := do
  match t.handle with
  | none => return t.rest
  | some handle =>
    match (← get).handles.lookup handle with
    | some expansion => return expansion ++ t.rest
    | none => fail

/-- What stands in front of a node: an anchor and a tag. What the tag says is asked behind both. -/
def properties : Nodes (Option String × Option String) := do
  match ← marks with
  | (anchor, none) => return (anchor, none)
  | (anchor, some t) => return (anchor, some (← fullTag t))

/-- A tag that says something. -/
def proper? (tag : Option String) : Option String := tag.filter (· != "!")

/-- The kind of a sequence or mapping. -/
def collectionKind (tag : Option String) (usual : Kind) : Kind :=
  ((proper? tag).map Kind.ofTag).getD usual

/-- The kind of a scalar. Its form counts if it is plain, or marked to be taken by its form. -/
def scalarKind (tag : Option String) (isPlain : Bool) (text : WideText) : Kind :=
  match tag with
  | some "!" => Kind.ofForm text.standIns
  | some tag => Kind.ofTag tag
  | none => if isPlain then Kind.ofForm text.standIns else .str

/-- Nothing at all, where a node could be. -/
def nothing : Node := .scalar none .null (.ofChars [])

mutual

/-- A node. In a block it may be marked by indentation, and where `hyphens` is set also by hyphens
that are not indented. -/
def node (fuel : Nat) (inBlock hyphens : Bool) : Nodes Node :=
  match fuel with
  | 0 => fail
  | fuel + 1 => do
    match ← peek with
    | some (.reference name) =>
      drop
      if (← get).names.contains name then return .reference name else fail
    | _ =>
      let (anchor, tag) ← properties
      -- a name that has been given is complained about only when it is known of what it is the name
      let next ← peek
      giveName anchor
      let id ← passed
      match next with
      | some .blockEntry =>
        if hyphens then
          return .sequence anchor (collectionKind tag .seq) id (← looseEntries fuel)
        else empty anchor tag
      | some (.scalar text isPlain) =>
        drop
        return .scalar anchor (scalarKind tag isPlain text) text
      | some .flowSequenceStart =>
        drop
        return .sequence anchor (collectionKind tag .seq) id (← flowItems fuel true)
      | some .flowMappingStart =>
        drop
        return .mapping anchor (collectionKind tag .map) id (← flowEntries fuel true)
      | some .blockSequenceStart =>
        if inBlock then
          drop
          return .sequence anchor (collectionKind tag .seq) id (← blockItems fuel)
        else empty anchor tag
      | some .blockMappingStart =>
        if inBlock then
          drop
          return .mapping anchor (collectionKind tag .map) id (← blockEntries fuel)
        else empty anchor tag
      | _ => empty anchor tag

/-- A node of which there is nothing but an anchor or a tag. -/
def empty (anchor tag : Option String) : Nodes Node :=
  if anchor.isNone && tag.isNone then fail
  else return .scalar anchor (scalarKind tag true (.ofChars [])) (.ofChars [])

/-- A node, unless one of the given tokens says that there is none. -/
def nodeUnless (fuel : Nat) (ends : List Token) (inBlock hyphens : Bool) : Nodes Node :=
  match fuel with
  | 0 => fail
  | fuel + 1 => do
    if ← sees ends then return nothing else node fuel inBlock hyphens

/-- The items of a sequence that is marked by indentation. -/
def blockItems (fuel : Nat) : Nodes (List Node) :=
  match fuel with
  | 0 => fail
  | fuel + 1 => do
    if ← accept .blockEntry then
      let item ← nodeUnless fuel [.blockEntry, .blockEnd] true false
      return item :: (← blockItems fuel)
    else
      expect .blockEnd
      return []

/-- The items of a sequence whose hyphens are not indented. -/
def looseEntries (fuel : Nat) : Nodes (List Node) :=
  match fuel with
  | 0 => fail
  | fuel + 1 => do
    if ← accept .blockEntry then
      let item ← nodeUnless fuel [.blockEntry, .key, .value, .blockEnd] true false
      return item :: (← looseEntries fuel)
    else return []

/-- The entries of a mapping that is marked by indentation. -/
def blockEntries (fuel : Nat) : Nodes (List (Node × Node)) :=
  match fuel with
  | 0 => fail
  | fuel + 1 => do
    let ends := [.key, .value, .blockEnd]
    if ← accept .key then
      let key ← nodeUnless fuel ends true true
      let value ← if ← accept .value then nodeUnless fuel ends true true else pure nothing
      return (key, value) :: (← blockEntries fuel)
    else
      expect .blockEnd
      return []

/-- The items of a sequence in brackets. An item with a colon is a mapping of one entry. -/
def flowItems (fuel : Nat) (isFirst : Bool) : Nodes (List Node) :=
  match fuel with
  | 0 => fail
  | fuel + 1 => do
    if ← accept .flowSequenceEnd then return []
    else
      if isFirst then pure () else expect .flowEntry
      let id ← passed
      if ← accept .key then
        let key ← nodeUnless fuel [.value, .flowEntry, .flowSequenceEnd] false false
        let value ←
          if ← accept .value then nodeUnless fuel [.flowEntry, .flowSequenceEnd] false false
          else pure nothing
        return .mapping none .map id [(key, value)] :: (← flowItems fuel false)
      else if ← accept .flowSequenceEnd then return []
      else
        let item ← node fuel false false
        return item :: (← flowItems fuel false)

/-- The entries of a mapping in braces. -/
def flowEntries (fuel : Nat) (isFirst : Bool) : Nodes (List (Node × Node)) :=
  match fuel with
  | 0 => fail
  | fuel + 1 => do
    if ← accept .flowMappingEnd then return []
    else
      if isFirst then pure () else expect .flowEntry
      if ← accept .key then
        let key ← nodeUnless fuel [.value, .flowEntry, .flowMappingEnd] false false
        let value ←
          if ← accept .value then nodeUnless fuel [.flowEntry, .flowMappingEnd] false false
          else pure nothing
        return (key, value) :: (← flowEntries fuel false)
      else if ← accept .flowMappingEnd then return []
      else
        let key ← node fuel false false
        return (key, nothing) :: (← flowEntries fuel false)

end

/-! ## Documents -/

/-- What handles stand for unless directives say otherwise. -/
def usualHandles : List (String × String) := [("!", "!"), ("!!", standardPrefix)]

/-- The directives in front of a document: there is at most one version, which is 1, and each handle
is said once. -/
def directives : (fuel : Nat) → (hasVersion : Bool) → List (String × String) →
    Nodes (List (String × String))
  | 0, _, _ => fail
  | fuel + 1, hasVersion, handles => do
    match ← peek with
    | some (.directive d) =>
      drop
      match d with
      | .version major =>
        if hasVersion || major != 1 then fail else directives fuel true handles
      | .handle name expansion =>
        if (handles.lookup name).isSome then fail
        else directives fuel hasVersion ((name, expansion) :: handles)
      | .other => directives fuel hasVersion handles
    | _ => return handles

/-- Passes over marks of the end of a document. -/
def skipEnds : (fuel : Nat) → Nodes Unit
  | 0 => return ()
  | fuel + 1 => do
    if ← accept .documentEnd then skipEnds fuel else return ()

/-- The content of a document, up to the end of the text. The directives of another document are still
read. -/
def content (fuel : Nat) (root : Nodes Node) : Nodes (Option Node) := do
  let node ← root
  skipEnds fuel
  if ← accept .streamEnd then return some node
  else
    let _ ← directives fuel false []
    fail

/-- The only document of a text, if there is one. -/
def document (fuel : Nat) : Nodes (Option Node) := do
  match ← peek with
  | some .streamEnd => return none
  | some (.directive _) => explicit
  | some .documentStart => explicit
  | _ => content fuel (node fuel true false)
where
  /-- A document that begins with directives or a mark of its own. -/
  explicit : Nodes (Option Node) := do
    let handles ← directives fuel false []
    expect .documentStart
    modify fun r => { r with handles := handles ++ usualHandles }
    let isEmpty ← do
      match ← peek with
      | some (.directive _) => pure true
      | _ => sees [.documentStart, .documentEnd, .streamEnd]
    content fuel (if isEmpty then pure nothing else node fuel true false)

end Nodes

/-- The only document of a text, if there is one. A token takes three readings at most, and a word of
the text stands for five tokens at most. -/
def Node.ofText? (text : List Char) : Except Fault (Option Node) :=
  if !text.all isPrintable then .error .malformed
  else do
    let reader : NodeReader := ⟨.start text, Nodes.usualHandles, []⟩
    let (root, _) ← (Nodes.document (16 * text.length + 16)).run reader
    return root

end BusContract.Yaml
