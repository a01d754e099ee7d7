import BusContract.Data.Basic

/-!
# Shapes

A shape is a type as an annotation denotes it: a class, an applied generic, a union, a type with
marks on it, and so on. Anything can stand in an annotation, so there are also shapes that are no
types at all, such as plain values.

Annotations normalise what they are built from. `Shape.union` flattens nested unions and drops
repeated members, `Shape.annotate` joins nested marks, and generics of the typing module read the
value `None` as its class and a text as a forward reference. The constructors themselves normalise
nothing.
-/

namespace BusContract

/-- The name of a class: the module that holds it, its own name, and its name within the module. -/
structure ClassName where
  module : String
  name : String
  qualname : String
  deriving Repr, DecidableEq, Inhabited

namespace ClassName

/-- A class at the top level of a module. -/
def of (module name : String) : ClassName := ⟨module, name, name⟩

/-- A class that needs no import. -/
def builtin (name : String) : ClassName := of "builtins" name

/-- The class of the value `None`. -/
def noneType : ClassName := builtin "NoneType"

/-- The class that stands for any type. -/
def any : ClassName := of "typing" "Any"

/-- The class that generic classes are declared with. -/
def generic : ClassName := of "typing" "Generic"

/-- The name that finds the class from anywhere. -/
def full (c : ClassName) : String :=
  if c.module = "builtins" then c.qualname else c.module ++ "." ++ c.qualname

end ClassName

/-- Something attached to a type in an annotation. -/
inductive Mark where
  /-- Pins the wire signature of the type. -/
  | wire (signature : String)
  /-- Any other value. -/
  | value (data : PlainData)
  /-- Settings for the field of a model. -/
  | settings
  deriving Repr, Inhabited

/-- A type, or what stands in the place of one. -/
inductive Shape where
  | cls (c : ClassName)
  /-- The value `None`. -/
  | null
  /-- The value `...`. -/
  | ellipsis
  /-- A word of the typing module that has to be applied to mean a type. -/
  | form (name : String)
  /-- A generic of the typing module that is not applied, with the class it stands for. -/
  | family (name : String) (origin : ClassName)
  /-- An applied generic. It is `native` if the class itself was applied. -/
  | applied (head : String) (native : Bool) (origin : ClassName) (args : List Shape)
  /-- A union of the typing module. -/
  | unionOf (members : List Shape)
  /-- A union written with a bar. -/
  | barOf (members : List Shape)
  | annotated (base : Shape) (marks : List Mark)
  | literal (values : List PlainData)
  | classVar (type : Shape)
  | final (type : Shape)
  | initVar (type : Shape)
  | typeVar (name : String)
  /-- A type that another one was given a name of its own for. -/
  | newType (name : ClassName) (base : Shape)
  /-- A reference to a type by name. -/
  | forward (name : String)
  | value (data : PlainData)
  deriving Repr, Inhabited

/-! ## Equality -/

namespace PlainData

mutual

/-- Are two values the same, also in kind? -/
def same : PlainData → PlainData → Bool
  | null, null => true
  | bool a, bool b => a == b
  | int a, int b => a == b
  | decimal a, decimal b => a == b
  | text a, text b => a == b
  | list a, list b => sameItems a b
  | record a, record b => sameFields a b
  | _, _ => false

/-- Are two lists the same? -/
def sameItems : List PlainData → List PlainData → Bool
  | [], [] => true
  | a :: as, b :: bs => same a b && sameItems as bs
  | _, _ => false

/-- Do two records have the same fields in the same order? -/
def sameFields : List (String × PlainData) → List (String × PlainData) → Bool
  | [], [] => true
  | (k, a) :: as, (l, b) :: bs => k == l && same a b && sameFields as bs
  | _, _ => false

end

end PlainData

/-- Are two marks the same? -/
def Mark.same : Mark → Mark → Bool
  | wire a, wire b => a == b
  | value a, value b => a.same b
  | settings, settings => true
  | _, _ => false

namespace Shape

/-- Are two rows of marks the same? -/
def sameMarks : List Mark → List Mark → Bool
  | [], [] => true
  | a :: as, b :: bs => a.same b && sameMarks as bs
  | _, _ => false

mutual

/-- Are two shapes the same? -/
def same : Shape → Shape → Bool
  | cls a, cls b => a == b
  | null, null => true
  | ellipsis, ellipsis => true
  | form a, form b => a == b
  | family a _, family b _ => a == b
  | applied h n _ a, applied h' n' _ b => h == h' && n == n' && sameAll a b
  | unionOf a, unionOf b => sameAll a b
  | barOf a, barOf b => sameAll a b
  | annotated a m, annotated b n => same a b && sameMarks m n
  | literal a, literal b => PlainData.sameItems a b
  | classVar a, classVar b => same a b
  | final a, final b => same a b
  | initVar a, initVar b => same a b
  | typeVar a, typeVar b => a == b
  | newType a _, newType b _ => a == b
  | forward a, forward b => a == b
  | value a, value b => a.same b
  | _, _ => false

/-- Are two rows of shapes the same? -/
def sameAll : List Shape → List Shape → Bool
  | [], [] => true
  | a :: as, b :: bs => same a b && sameAll as bs
  | _, _ => false

end

/-! ## Building -/

/-- A shape as generics and unions of the typing module take it. -/
def typed : Shape → Shape
  | null => cls .noneType
  | value (.text name) => forward name
  | s => s

/-- The members that a shape brings into a union. -/
def members : Shape → List Shape
  | unionOf members => members
  | barOf members => members
  | s => [s]

/-- Drops every shape that is the same as an earlier one. -/
def distinct (shapes : List Shape) : List Shape :=
  shapes.foldl (fun kept s => if kept.any (same s) then kept else kept ++ [s]) []

/-- The union of the typing module. One of a single type is that type. -/
def union (shapes : List Shape) : Shape :=
  match distinct ((shapes.map typed).flatMap members) with
  | [single] => single
  | members => unionOf members

/-- The union with `None`. -/
def optional (s : Shape) : Shape := union [s, null]

/-- Does a bar after or before the shape make a union of the typing module? -/
def isTyping : Shape → Bool
  | form _ => true
  | family _ _ => true
  | applied _ native _ _ => !native
  | unionOf _ => true
  | annotated _ _ => true
  | literal _ => true
  | classVar _ => true
  | final _ => true
  | typeVar _ => true
  | newType _ _ => true
  | forward _ => true
  | _ => false

/-- Two shapes joined by a bar. -/
def bar (a b : Shape) : Shape :=
  if a.isTyping || b.isTyping then union [a, b]
  else match distinct ((a.typed.members ++ b.typed.members)) with
    | [single] => single
    | members => barOf members

/-- Shapes joined by bars, from the left. -/
def bars : List Shape → Shape
  | [] => null
  | s :: rest => rest.foldl bar s

/-- A type with marks. Marks on a marked type are joined, the inner ones first. -/
def annotate (s : Shape) (marks : List Mark) : Shape :=
  match s.typed with
  | annotated base inner => annotated base (inner ++ marks)
  | base => annotated base marks

/-- A generic applied to arguments. -/
def apply (head : Shape) (args : List Shape) : Shape :=
  match head with
  | cls c =>
    if c = .generic then applied "typing.Generic" false c (args.map typed)
    else applied c.full true c args
  | family name origin => applied ("typing." ++ name) false origin (args.map typed)
  | form "Optional" => union (args ++ [null])
  | form "Union" => union args
  | form "ClassVar" => classVar ((args.map typed).headD null)
  | form "Final" => final ((args.map typed).headD null)
  | s => s

/-- Can a value be compared for being repeated? -/
def isComparable : PlainData → Bool
  | .list _ => false
  | .record _ => false
  | _ => true

/-- The type of the given values. Repeated values are dropped, if all of them can be compared. -/
def literalOf (values : List PlainData) : Shape :=
  if values.all isComparable then
    literal (values.foldl
      (fun kept v => if kept.any (PlainData.same v) then kept else kept ++ [v]) [])
  else literal values

/-- A generic class that is declared as such, applied to arguments. -/
def applyDeclared (c : ClassName) (args : List Shape) : Shape :=
  applied c.full false c (args.map typed)

end Shape

end BusContract
