import BusContract.Interface.Basic
import BusContract.Markup.Document

/-!
# Introspection documents

An introspection document is a tree of elements. Its root is a `node`, the interfaces are the
`interface` elements directly below it, and their members and arguments are told by element names.
Anything else in the tree is passed over: other elements, other attributes, and the nodes below the
root, which describe other objects.

Each level is read in a fixed order, whatever the order of the elements: methods, signals,
properties, annotations. The first fault in that order is the one reported.
-/

namespace BusContract

open Markup (Element)

/-! ## Faults -/

/-- The part of a document that a fault is about. -/
structure SchemaPlace where
  source : String
  interface : Option String
  member : Option (MemberKind × String)
  arg : Option Nat
  deriving Repr, DecidableEq

namespace SchemaPlace

/-- The document as a whole. -/
def document (source : String) : SchemaPlace := ⟨source, none, none, none⟩

/-- The interface of the given name. -/
def inInterface (place : SchemaPlace) (name : String) : SchemaPlace :=
  { place with interface := some name }

/-- The member of the given kind and name. -/
def inMember (place : SchemaPlace) (kind : MemberKind) (name : String) : SchemaPlace :=
  { place with member := some (kind, name) }

/-- The argument of the given index. -/
def inArg (place : SchemaPlace) (index : Nat) : SchemaPlace := { place with arg := some index }

/-- The place in messages, from the outside to the inside. -/
def render (place : SchemaPlace) : String :=
  let interface := match place.interface with
    | none => ""
    | some name => s!": interface '{name}'"
  let member := match place.member with
    | none => ""
    | some (kind, name) => s!" {kind.word} '{name}'"
  let arg := match place.arg with
    | none => ""
    | some index => s!" arg[{index}]"
  place.source ++ interface ++ member ++ arg

end SchemaPlace

/-- A tree that is no introspection document. -/
inductive SchemaFault where
  | wrongRoot (source tag : String)
  | missingAttribute (place : SchemaPlace) (tag name : String)
  | unknownDirection (place : SchemaPlace) (word : String)
  | unknownAccess (place : SchemaPlace) (word : String)
  deriving Repr, DecidableEq

/-- The message of a fault. -/
def SchemaFault.message : SchemaFault → String
  | wrongRoot source tag => s!"{source}: root element must be <node>, found <{tag}>"
  | missingAttribute place tag name =>
    s!"{place.render}: <{tag}> is missing required attribute '{name}'"
  | unknownDirection place word => s!"{place.render}: invalid direction '{word}'"
  | unknownAccess place word => s!"{place.render}: invalid access '{word}'"

/-! ## Reading the tree -/

namespace Introspection

/-- A required attribute. -/
def require (e : Element) (name : String) (place : SchemaPlace) : Except SchemaFault String :=
  match e.attribute? name with
  | some value => .ok value
  | none => .error (.missingAttribute place e.name.render name)

/-- One annotation element. -/
def readNote (place : SchemaPlace) (e : Element) : Except SchemaFault (String × String) := do
  let key ← require e "name" place
  let value ← require e "value" place
  return (key, value)

/-- The annotations of an element. -/
def readAnnotations (e : Element) (place : SchemaPlace) : Except SchemaFault Annotations := do
  let notes ← (e.childrenNamed "annotation").mapM (readNote place)
  return Annotations.ofList notes

/-- The direction that an argument element gives, or the usual one. -/
def readDirection (e : Element) (place : SchemaPlace) (usual : Option Direction) :
    Except SchemaFault (Option Direction) :=
  match e.attribute? "direction" with
  | none => .ok usual
  | some word =>
    match Direction.ofWord? word with
    | some direction => .ok (some direction)
    | none => .error (.unknownDirection place word)

/-- One argument element. -/
def readArg (place : SchemaPlace) (usual : Option Direction) (e : Element) :
    Except SchemaFault Arg := do
  let direction ← readDirection e place usual
  let signature ← require e "type" place
  let annotations ← readAnnotations e place
  return ⟨e.attribute? "name", signature, direction, annotations⟩

/-- The argument elements from index `index` on. -/
def readArgsFrom (place : SchemaPlace) (usual : Option Direction) (index : Nat) :
    List Element → Except SchemaFault (List Arg)
  | [] => .ok []
  | e :: rest => do
    let arg ← readArg (place.inArg index) usual e
    let args ← readArgsFrom place usual (index + 1) rest
    return arg :: args

/-- The arguments of a member. Directions that are not given are the usual one. -/
def readArgs (e : Element) (place : SchemaPlace) (usual : Option Direction) :
    Except SchemaFault (List Arg) :=
  readArgsFrom place usual 0 (e.childrenNamed "arg")

/-- One method element. Arguments go to the callee unless marked otherwise. -/
def readMethod (place : SchemaPlace) (e : Element) : Except SchemaFault Method := do
  let name ← require e "name" place
  let place := place.inMember .method name
  let args ← readArgs e place (some .toCallee)
  let annotations ← readAnnotations e place
  return ⟨name, args, annotations⟩

/-- One signal element. Its arguments have no usual direction. -/
def readSignal (place : SchemaPlace) (e : Element) : Except SchemaFault Signal := do
  let name ← require e "name" place
  let place := place.inMember .signal name
  let args ← readArgs e place none
  let annotations ← readAnnotations e place
  return ⟨name, args, annotations⟩

/-- The access that a property element gives. A property is open to both unless marked otherwise. -/
def readAccess (e : Element) (place : SchemaPlace) : Except SchemaFault Access :=
  match e.attribute? "access" with
  | none => .ok .readWrite
  | some word =>
    match Access.ofWord? word with
    | some access => .ok access
    | none => .error (.unknownAccess place word)

/-- One property element. -/
def readProperty (place : SchemaPlace) (e : Element) : Except SchemaFault Property := do
  let name ← require e "name" place
  let place := place.inMember .property name
  let access ← readAccess e place
  let signature ← require e "type" place
  let annotations ← readAnnotations e place
  return ⟨name, signature, access, annotations⟩

/-- One interface element. -/
def readInterface (place : SchemaPlace) (e : Element) : Except SchemaFault Interface := do
  let name ← require e "name" place
  let place := place.inInterface name
  let methods ← (e.childrenNamed "method").mapM (readMethod place)
  let signals ← (e.childrenNamed "signal").mapM (readSignal place)
  let properties ← (e.childrenNamed "property").mapM (readProperty place)
  let annotations ← readAnnotations e place
  return ⟨name, methods, signals, properties, annotations⟩

/-- The document that the tree below `root` describes. -/
def ofElement (source : String) (root : Element) : Except SchemaFault InterfaceDocument := do
  if root.name ≠ .plain "node" then throw (.wrongRoot source root.name.render)
  let interfaces ← (root.childrenNamed "interface").mapM (readInterface (.document source))
  return ⟨source, root.attribute? "name", interfaces⟩

end Introspection

/-! ## Reading text -/

/-- What keeps a text from being an introspection document. -/
inductive DocumentFault where
  | markup (source : String) (fault : Markup.NotWellFormed)
  | schema (fault : SchemaFault)
  deriving Repr, DecidableEq

/-- The message of a fault. -/
def DocumentFault.message : DocumentFault → String
  | markup source fault => s!"Invalid XML in {source}: {fault.message}"
  | schema fault => fault.message

/-- Reads the introspection document that `text` holds. -/
def Introspection.parse (source text : String) : Except DocumentFault InterfaceDocument :=
  match Markup.read text with
  | .error fault => .error (.markup source fault)
  | .ok root => (ofElement source root).mapError .schema

end BusContract
