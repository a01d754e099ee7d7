/-!
# Interfaces and their members

An introspection document describes the interfaces of an object on the bus. An interface declares
methods, signals and properties, in this order of kinds and, within a kind, in the order of their
declaration. Names need not be unique.
-/

namespace BusContract

/-! ## Annotations -/

/-- Notes attached to a declaration: keys with values, each key once, in the order of first
appearance. -/
abbrev Annotations := List (String × String)

namespace Annotations

/-- Sets the value of a key. A known key keeps its place, a new one goes to the end. -/
def put (notes : Annotations) (key value : String) : Annotations :=
  match notes with
  | [] => [(key, value)]
  | (k, v) :: rest => if k = key then (k, value) :: rest else (k, v) :: put rest key value

/-- The notes that a row of settings leaves, a later setting of a key overriding an earlier one. -/
def ofList (settings : List (String × String)) : Annotations :=
  settings.foldl (fun notes (key, value) => notes.put key value) []

end Annotations

/-! ## Arguments -/

/-- Which way an argument travels. -/
inductive Direction where
  | toCallee
  | toCaller
  deriving Repr, DecidableEq

namespace Direction

/-- The word for a direction. -/
def word : Direction → String
  | toCallee => "in"
  | toCaller => "out"

/-- The direction that a word stands for. -/
def ofWord? (s : String) : Option Direction :=
  if s = "in" then some toCallee
  else if s = "out" then some toCaller
  else none

end Direction

/-- An argument of a method or signal. Its direction may be left open. -/
structure Arg where
  name : Option String
  signature : String
  direction : Option Direction
  annotations : Annotations
  deriving Repr, DecidableEq

/-- The signatures of arguments, one after the other. -/
def joinSignatures (args : List Arg) : String :=
  String.join (args.map Arg.signature)

/-! ## Members -/

structure Method where
  name : String
  args : List Arg
  annotations : Annotations
  deriving Repr, DecidableEq

namespace Method

/-- The arguments that the caller passes: all that are not marked as going to the caller. -/
def inArgs (m : Method) : List Arg := m.args.filter fun arg => arg.direction ≠ some .toCaller

/-- The arguments that the caller gets back. -/
def outArgs (m : Method) : List Arg := m.args.filter fun arg => arg.direction = some .toCaller

end Method

structure Signal where
  name : String
  args : List Arg
  annotations : Annotations
  deriving Repr, DecidableEq

/-- What may be done with a property. -/
inductive Access where
  | read
  | write
  | readWrite
  deriving Repr, DecidableEq

namespace Access

/-- The word for an access. -/
def word : Access → String
  | read => "read"
  | write => "write"
  | readWrite => "readwrite"

/-- The access that a word stands for. -/
def ofWord? (s : String) : Option Access :=
  if s = "read" then some read
  else if s = "write" then some write
  else if s = "readwrite" then some readWrite
  else none

end Access

structure Property where
  name : String
  signature : String
  access : Access
  annotations : Annotations
  deriving Repr, DecidableEq

/-- The kinds of member that carry a signature. -/
inductive MemberKind where
  | method
  | signal
  | property
  deriving Repr, DecidableEq

/-- The word for a kind of member. -/
def MemberKind.word : MemberKind → String
  | method => "method"
  | signal => "signal"
  | property => "property"

/-- A member of any kind. -/
inductive Member where
  | method (m : Method)
  | signal (s : Signal)
  | property (p : Property)
  deriving Repr, DecidableEq

/-- The name of a member. -/
def Member.name : Member → String
  | method m => m.name
  | signal s => s.name
  | property p => p.name

/-! ## Interfaces and documents -/

structure Interface where
  name : String
  methods : List Method
  signals : List Signal
  properties : List Property
  annotations : Annotations
  deriving Repr, DecidableEq

/-- The members of one kind, in declaration order. -/
def Interface.members (i : Interface) : MemberKind → List Member
  | .method => i.methods.map .method
  | .signal => i.signals.map .signal
  | .property => i.properties.map .property

/-- One introspection document. -/
structure InterfaceDocument where
  /-- What identifies the document, usually the path it was read from. -/
  source : String
  /-- The name of the described object, if the document gives one. -/
  name : Option String
  interfaces : List Interface
  deriving Repr, DecidableEq

end BusContract
