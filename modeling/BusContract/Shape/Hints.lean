import BusContract.Shape.Class

/-!
# Resolving annotations

Annotations may name types that are declared later. Before the fields of a class are looked at, the
annotations of the class and of all its ancestors are resolved: every forward reference is replaced
by what its name stands for, at any depth, and the first name that stands for nothing is reported.
-/

namespace BusContract

/-- A name that stands for nothing. -/
structure UnknownName where
  name : String
  deriving Repr, DecidableEq

/-- What is said about an unknown name. -/
def UnknownName.message (u : UnknownName) : String := s!"name {quoted u.name} is not defined"

namespace Shape

/-- The type that a name stands for. -/
def lookup (named : String → Option Shape) (name : String) : Except UnknownName Shape :=
  match named name with
  | some s => .ok s.typed
  | none => .error ⟨name⟩

mutual

/-- Replaces forward references by what their names stand for. -/
def resolve (named : String → Option Shape) : Shape → Except UnknownName Shape
  | forward name => lookup named name
  | value (.text name) => lookup named name
  | applied head native origin args => (resolveAll named args).map (applied head native origin)
  | unionOf members => (resolveAll named members).map union
  | barOf members => (resolveAll named members).map bars
  | annotated base marks => (resolve named base).map (annotate · marks)
  | classVar s => (resolve named s).map classVar
  | final s => (resolve named s).map final
  | s => .ok s

/-- Resolves shapes from the left. -/
def resolveAll (named : String → Option Shape) : List Shape → Except UnknownName (List Shape)
  | [] => .ok []
  | s :: rest =>
    match resolve named s with
    | .error u => .error u
    | .ok s' => (resolveAll named rest).map (s' :: ·)

end

/-- An annotation as a whole. The value `None` stands for its class. -/
def resolveHint (named : String → Option Shape) (s : Shape) : Except UnknownName Shape :=
  resolve named s.typed

end Shape

/-- Names with something to each. A name that is put again keeps its first place. -/
def putHint {α : Type} (name : String) (a : α) : List (String × α) → List (String × α)
  | [] => [(name, a)]
  | (n, b) :: rest => if n = name then (n, a) :: rest else (n, b) :: putHint name a rest

/-- Resolves annotations one after the other onto earlier ones. -/
def resolveHints (named : String → Option Shape) :
    List (String × Shape) → List (String × Shape) → Except UnknownName (List (String × Shape))
  | resolved, [] => .ok resolved
  | resolved, (name, s) :: rest =>
    match s.resolveHint named with
    | .error u => .error u
    | .ok s' => resolveHints named (putHint name s' resolved) rest

/-- All annotations of a class and its ancestors, the farthest ancestor first. -/
def Classes.writtenHints (classes : Classes) (c : ClassName) : List (String × Shape) :=
  (classes.ancestry c).reverse.flatMap ClassInfo.hints

/-- The resolved annotations that a class has, its own and inherited ones. -/
def Classes.hints (classes : Classes) (c : ClassName) :
    Except UnknownName (List (String × Shape)) :=
  resolveHints classes.named? [] (classes.writtenHints c)

end BusContract
