import BusContract.Shape.Hints

/-!
# Declaring classes

A definition is the text of a class: its bases and its annotations, and which kind of class it is to
be. Declaring it fixes what it inherits. Records and data models collect their fields along the
ancestors, so that a field that is declared again keeps its place and takes the new type.
-/

namespace BusContract

/-- The kinds of classes that are declared. -/
inductive ClassKind where
  | record
  | namedTuple
  /-- A tuple of which only the names were given; annotations may be there or not. -/
  | bareTuple (names : List String)
  | model
  | plain
  | enumeration
  | typedDict
  deriving Repr, DecidableEq

/-- A class as it is written. -/
structure ClassDefinition where
  name : ClassName
  kind : ClassKind
  bases : List Shape
  hints : List (String × Shape)
  explicit : Option PlainData

/-! ## Lineage -/

/-- The class that a base brings in. -/
def Shape.baseClass? : Shape → Option ClassName
  | cls c => some c
  | family _ origin => some origin
  | applied _ _ origin _ => some origin
  | _ => none

/-- Drops a class from the front of every row. -/
def dropHead (c : ClassName) (rows : List (List ClassName)) : List (List ClassName) :=
  rows.map fun row => if row.head? = some c then row.tail else row

/-- The first class that heads a row and comes later in none. -/
def nextInLine (rows : List (List ClassName)) : Option ClassName :=
  (rows.filterMap List.head?).find? fun c => rows.all fun row => !row.tail.contains c

/-- Merges rows of classes into one that keeps the order of each. Stops where the rows contradict
one another. -/
def mergeLineages : Nat → List (List ClassName) → List ClassName
  | 0, _ => []
  | steps + 1, rows =>
    match nextInLine rows with
    | none => []
    | some c => c :: mergeLineages steps (dropHead c rows)

/-- The lineage of a class with the given bases. -/
def Classes.lineageOver (classes : Classes) (c : ClassName) (bases : List ClassName) :
    List ClassName :=
  let bases := if bases.isEmpty then [.object] else bases
  let rows := bases.map classes.lineage ++ [bases]
  c :: mergeLineages rows.flatten.length rows

/-! ## Records -/

/-- Is an annotation of a record the declaration of a field? Class variables and values for
initialisation only are not. -/
def Shape.isFieldHint : Shape → Bool
  | classVar _ => false
  | form "ClassVar" => false
  | initVar _ => false
  | _ => true

/-- The names that a record declares. -/
def recordNames (hints : List (String × Shape)) : List (String × Bool) :=
  (hints.filter fun (_, s) => !s.same (.cls .keywordOnly)).map fun (name, s) =>
    (name, s.isFieldHint)

/-- Puts names onto earlier ones, each of which keeps its place. -/
def putAll {α : Type} (earlier later : List (String × α)) : List (String × α) :=
  later.foldl (fun fields (name, a) => putHint name a fields) earlier

/-- The fields of a record with the given proper ancestors. -/
def Classes.recordFields (classes : Classes) (ancestors : List ClassName)
    (hints : List (String × Shape)) : List (String × Bool) :=
  let inherited := ancestors.reverse.foldl
    (fun fields ancestor => putAll fields ((classes.record? ancestor).getD [])) []
  putAll inherited (recordNames hints)

/-! ## Data models -/

namespace Shape

/-- Is the annotation that of a class variable? -/
def isClassVariable : Shape → Bool
  | classVar _ => true
  | form "ClassVar" => true
  | annotated base _ => isClassVariable base
  | _ => false

/-- Takes the marks and the qualifier of a final field off an annotation. -/
def unmark : Shape → Shape × List Mark
  | annotated base marks => ((unmark base).1, (unmark base).2 ++ marks)
  | final s => unmark s
  | form "Final" => (cls .any, [])
  | s => (s, [])

/-- The type of a field: what is left of the annotation, with all its marks that are not settings of
the field. -/
def fieldType (s : Shape) : Shape :=
  let marks := s.unmark.2.filter fun mark => !mark.same .settings
  if marks.isEmpty then s.unmark.1 else annotated s.unmark.1 marks

end Shape

/-- A field of a data model with the given annotation. -/
def ModelField.ofHint (named : String → Option Shape) (name : String) (hint : Shape) : ModelField :=
  match hint.resolveHint named with
  | .ok s => ⟨name, hint, s.fieldType, true⟩
  | .error _ => ⟨name, hint, hint.typed.fieldType, false⟩

/-- Does the name make a field of a data model, given its annotation? -/
def isModelField (name : String) (hint : Shape) : Bool :=
  name != "model_config" && !name.startsWith "_" && !hint.isClassVariable

/-- The fields of the bases of a data model. Where two bases have a field of one name, the first
base decides. -/
def Classes.baseFields (classes : Classes) (bases : List ClassName) : List ModelField :=
  bases.flatMap fun base => (classes.info base).model.getD []

/-- Fields that wait for names get their types if none of them has to wait any longer. -/
def settleFields (named : String → Option Shape) (fields : List ModelField) : List ModelField :=
  let settled := fields.map fun field =>
    if field.isResolved then field else .ofHint named field.name field.written
  if settled.all (·.isResolved) then settled else fields

/-- The fields of a data model. A field that is not annotated anew is that of the base. -/
def Classes.modelFields (classes : Classes) (named : String → Option Shape)
    (bases ancestors : List ClassName) (own : List (String × Shape)) : List ModelField :=
  let inherited := ancestors.reverse.flatMap fun ancestor => (classes.info ancestor).hints
  let hints := (putAll [] (inherited ++ own)).filter fun (name, hint) => isModelField name hint
  let fromBases := classes.baseFields bases
  settleFields named <| hints.map fun (name, hint) =>
    match fromBases.find? (·.name == name) with
    | some field =>
      if own.any (·.1 == name) then .ofHint named name hint else field
    | none => .ofHint named name hint

/-! ## Declaration -/

/-- The names of a named tuple, which are those of its annotations unless they were given apart. -/
def ClassDefinition.tupleNames? (d : ClassDefinition) : Option (List String) :=
  match d.kind with
  | .namedTuple => some (d.hints.map Prod.fst)
  | .bareTuple names => some names
  | _ => none

/-- The bases that a kind of class has without naming them. -/
def ClassKind.impliedBases : ClassKind → List ClassName
  | .namedTuple => [.builtin "tuple"]
  | .bareTuple _ => [.builtin "tuple"]
  | .model => [.baseModel]
  | .typedDict => [.builtin "dict"]
  | _ => []

/-- The classes that a class is built on. The bases a kind implies come last, unless another base
brings them in. -/
def Classes.basesOf (classes : Classes) (d : ClassDefinition) : List ClassName :=
  let bases := d.bases.filterMap Shape.baseClass?
  let implied := d.kind.impliedBases.filter fun c => !bases.any fun base => classes.descends base c
  bases ++ implied

/-- What is known of a class once it is declared. -/
def Classes.declare (classes : Classes) (d : ClassDefinition) : ClassInfo :=
  let bases := classes.basesOf d
  let lineage := classes.lineageOver d.name bases
  let ancestors := lineage.tail
  let tupleNames := d.tupleNames?
  let hints :=
    if tupleNames.isSome then d.hints.map fun (name, s) => (name, s.typed) else d.hints
  let named := fun name =>
    if name = d.name.name then some (.cls d.name) else classes.named? name
  { name := d.name
    lineage := lineage
    explicit := d.explicit
    hints := hints
    record :=
      if d.kind = .record then some (classes.recordFields ancestors d.hints) else none
    tuple := tupleNames
    model :=
      if lineage.contains .baseModel then some (classes.modelFields named bases ancestors d.hints)
      else none }

/-- The classes with one more, declared over them. -/
def Classes.add (classes : Classes) (d : ClassDefinition) : Classes :=
  classes ++ [classes.declare d]

end BusContract
