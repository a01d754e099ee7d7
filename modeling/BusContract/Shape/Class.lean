import BusContract.Shape.Spelling
import BusContract.Shape.Vocabulary

/-!
# Classes

What is known of a class: where it stands among other classes, what was written in it, and which
fields it keeps. What a class does not say itself it takes from its nearest ancestor that does.
-/

namespace BusContract

/-- A field of a data model. As long as some name in its annotation stands for nothing, its type is
the annotation as it was written. -/
structure ModelField where
  name : String
  written : Shape
  type : Shape
  isResolved : Bool

/-- A class as it was declared. Of the three ways to keep fields it has those it was declared
with. -/
structure ClassInfo where
  name : ClassName
  /-- The class and all its ancestors, nearest first. -/
  lineage : List ClassName
  /-- What it gives as its wire signature. -/
  explicit : Option PlainData
  /-- The annotations that are written in the class itself. -/
  hints : List (String × Shape)
  /-- The fields of a record, those it inherits included; `false` stands for names that look like
  fields and are none. -/
  record : Option (List (String × Bool))
  /-- The fields of a named tuple. -/
  tuple : Option (List String)
  /-- The fields of a data model, with their types. -/
  model : Option (List ModelField)
  deriving Inhabited

/-- Declared classes, in order. -/
abbrev Classes := List ClassInfo

/-- What is known of a class that comes with the language. -/
def ClassInfo.known (c : ClassName) : ClassInfo :=
  let isMark := c = .wireType
  { name := c
    lineage := c.knownLineage
    explicit := none
    hints := if isMark then [("signature", .builtin "str")] else []
    record := if isMark then some [("signature", true)] else none
    tuple := none
    model := if c = .baseModel then some [] else none }

namespace Classes

/-- What is known of a class. -/
def info (classes : Classes) (c : ClassName) : ClassInfo :=
  (classes.find? (·.name == c)).getD (.known c)

/-- The class and all its ancestors, nearest first. -/
def lineage (classes : Classes) (c : ClassName) : List ClassName := (classes.info c).lineage

/-- Is the class the other one or one of its descendants? -/
def descends (classes : Classes) (c ancestor : ClassName) : Bool :=
  (classes.lineage c).contains ancestor

/-- What is known of the class and all its ancestors, nearest first. The ancestors of a class that
comes with the language come with it, too. -/
def ancestry (classes : Classes) (c : ClassName) : List ClassInfo :=
  match classes.find? (·.name == c) with
  | some declared => declared.lineage.map classes.info
  | none => c.knownLineage.map .known

/-- What the nearest ancestor says, if any says something. -/
def inherited {α : Type} (classes : Classes) (ask : ClassInfo → Option α) (c : ClassName) :
    Option α :=
  (classes.ancestry c).findSome? ask

/-- The wire signature that the class gives. The nearest ancestor that gives anything decides, also
when what it gives is no text. -/
def explicit? (classes : Classes) (c : ClassName) : Option String :=
  match classes.inherited ClassInfo.explicit c with
  | some (.text s) => some s
  | _ => none

/-- The fields of the record, if the class is one. -/
def record? (classes : Classes) (c : ClassName) : Option (List (String × Bool)) :=
  classes.inherited ClassInfo.record c

/-- The fields of the named tuple, if the class is one. -/
def tuple? (classes : Classes) (c : ClassName) : Option (List String) :=
  classes.inherited ClassInfo.tuple c

/-- How the class is shown on its own. -/
def flavour (classes : Classes) (c : ClassName) : ClassFlavour :=
  if classes.descends c .flags then .flags
  else if classes.descends c .enumeration then .enumeration
  else .plain

/-- A class or another generic applied to arguments. Classes that are declared as generics keep
forward references apart from texts; other classes take arguments as they are. -/
def apply (classes : Classes) (head : Shape) (args : List Shape) : Shape :=
  match head with
  | .cls c =>
    if c ≠ .generic ∧ classes.descends c .generic then Shape.applyDeclared c args
    else Shape.apply head args
  | _ => Shape.apply head args

/-- A shape as a debugging listing shows it. -/
def spell (classes : Classes) (s : Shape) : String := s.spellWith classes.flavour false

/-- The class that was declared last under a name, or else the class of that name that needs no
import. -/
def named? (classes : Classes) (name : String) : Option Shape :=
  match classes.reverse.find? (·.name.name == name) with
  | some c => some (.cls c.name)
  | none => Shape.builtinName? name

end Classes

end BusContract
