import BusContract.Shape.Class
import BusContract.Shape.Hints

/-!
# The wire signature of a shape

Scalars have a letter each, collections are arrays, mappings are arrays of entries, and fixed tuples
and classes with fields are structs. Classes may refer to one another. A struct that is met inside
itself has no signature, which is found out by keeping the structs that are being spelled out; these
are all different, so the depth of structs is bounded by the number of declared classes.
-/

namespace BusContract

/-- Why a shape has no wire signature. -/
inductive ReflectionFault where
  | unsupported (shape : Shape)
  | unsupportedClass (c : ClassName)
  /-- A sequence or set without exactly one argument. -/
  | elementCount (shape : Shape)
  /-- A mapping without exactly two arguments. -/
  | entryCount (shape : Shape)
  | emptyTuple
  /-- An enumeration of neither numbers nor texts. -/
  | enumeration (c : ClassName)
  | recursive (c : ClassName)
  | noFields (c : ClassName)
  | unresolved (c : ClassName) (cause : UnknownName)
  | unannotated (c : ClassName) (fields : List String)

/-- What is said about the fault. -/
def ReflectionFault.message : ReflectionFault → String
  | unsupported shape => s!"Cannot derive a D-Bus signature from {shape.spell}"
  | unsupportedClass c => s!"Cannot derive a D-Bus signature from {c.qualname}"
  | elementCount shape => s!"Array type {shape.spell} needs exactly one element type"
  | entryCount shape => s!"Dictionary type {shape.spell} needs a key and a value type"
  | emptyTuple => "An empty tuple has no D-Bus signature"
  | enumeration c => s!"Enum {c.qualname} must derive from int or str to have a D-Bus signature"
  | recursive c => s!"Recursive type {c.qualname} has no D-Bus signature"
  | noFields c => s!"Struct type {c.qualname} has no fields"
  | unresolved c cause => s!"Cannot resolve annotations of {c.qualname}: {cause.message}"
  | unannotated c fields =>
    let names := ", ".intercalate fields
    s!"Fields of {c.qualname} lack type annotations: {names}"

/-- A wire signature, or why there is none. -/
abbrev Wire := Except ReflectionFault String

namespace Wire

/-! ## Generics -/

/-- The collections that are sent as arrays. -/
def arrayOrigins : List ClassName :=
  [.builtin "list", .builtin "set", .builtin "frozenset", .collection "Sequence",
    .collection "MutableSequence", .collection "Set", .collection "MutableSet",
    .collection "Iterable"]

/-- The collections that are sent as arrays of entries. -/
def mappingOrigins : List ClassName :=
  [.builtin "dict", .collection "Mapping", .collection "MutableMapping"]

/-- The wire signatures one after the other. The first fault wins. -/
def concat : List Wire → Wire
  | [] => .ok ""
  | w :: rest =>
    match w with
    | .error fault => .error fault
    | .ok s => (concat rest).map (s ++ ·)

/-- An array of the element. -/
def array (element : Wire) : Wire := element.map ("a" ++ ·)

/-- An array of entries with a key and a value. -/
def mapping (key value : Wire) : Wire :=
  (concat [key, value]).map fun s => "a\x7b" ++ s ++ "\x7d"

/-- A struct of the fields. -/
def struct (fields : List Wire) : Wire := (concat fields).map fun s => "(" ++ s ++ ")"

/-- Is the shape the dots that stand for any number of elements? -/
def isEllipsis : Shape → Bool
  | .ellipsis => true
  | _ => false

/-- A tuple: the one of an element and dots is an array, others are structs. -/
def ofTuple (args : List Shape) (wires : List Wire) : Wire :=
  match args, wires with
  | [_, last], [element, other] =>
    if isEllipsis last then array element else struct [element, other]
  | _, [] => .error .emptyTuple
  | _, wires => struct wires

/-- A generic that stands for `origin`, given its arguments and their signatures. -/
def ofGeneric (shape : Shape) (origin : ClassName) (args : List Shape) (wires : List Wire) : Wire :=
  if arrayOrigins.contains origin then
    match wires with
    | [element] => array element
    | _ => .error (.elementCount shape)
  else if mappingOrigins.contains origin then
    match wires with
    | [key, value] => mapping key value
    | _ => .error (.entryCount shape)
  else if origin = .builtin "tuple" then ofTuple args wires
  else .error (.unsupported shape)

/-! ## Marks -/

/-- The first wire signature among the marks. -/
def pinned? : List Mark → Option String
  | [] => none
  | .wire s :: _ => some s
  | _ :: rest => pinned? rest

mutual

/-- The wire signature of a shape, given those of classes. -/
def ofShape (ofClass : ClassName → Wire) : Shape → Wire
  | .cls c =>
    if c = .any ∨ c = .variant then .ok "v"
    else if c = .generic then .error (.unsupported (.cls c))
    else ofClass c
  | .annotated base marks =>
    match pinned? marks with
    | some s => .ok s
    | none => ofShape ofClass base
  | .family name origin => ofGeneric (.family name origin) origin [] []
  | .applied head native origin args =>
    ofGeneric (.applied head native origin args) origin args (ofShapes ofClass args)
  | s => .error (.unsupported s)

/-- The wire signatures of shapes. -/
def ofShapes (ofClass : ClassName → Wire) : List Shape → List Wire
  | [] => []
  | s :: rest => ofShape ofClass s :: ofShapes ofClass rest

end

end Wire

/-! ## Classes -/

/-- The classes that are sent as a scalar, with the signature. Earlier ones go first, since one may
descend from a later one. -/
def scalarClasses : List (ClassName × String) :=
  [(.objectPath, "o"), (.signatureText, "g"), (.builtin "bool", "b"), (.builtin "int", "i"),
    (.builtin "float", "d"), (.builtin "str", "s"), (.builtin "bytes", "ay"),
    (.builtin "bytearray", "ay")]

namespace Classes

/-- The signature of the scalar that the class descends from. -/
def scalar? (classes : Classes) (c : ClassName) : Option String :=
  (scalarClasses.find? fun (scalar, _) => classes.descends c scalar).map Prod.snd

/-- Does the class keep fields? -/
def isStruct (classes : Classes) (c : ClassName) : Bool :=
  (classes.record? c).isSome
    || ((classes.tuple? c).isSome && classes.descends c (.builtin "tuple"))
    || classes.descends c .baseModel

/-- The names of the fields of a record or named tuple. -/
def fieldNames (classes : Classes) (c : ClassName) : List String :=
  match classes.record? c with
  | some fields => (fields.filter Prod.snd).map Prod.fst
  | none => (classes.tuple? c).getD []

/-- The types of the fields of a struct, in order. -/
def fieldTypes (classes : Classes) (c : ClassName) : Except ReflectionFault (List Shape) :=
  if classes.descends c .baseModel then
    .ok (((classes.info c).model.getD []).map (·.type))
  else
    match classes.hints c with
    | .error cause => .error (.unresolved c cause)
    | .ok hints =>
      let names := classes.fieldNames c
      let missing := names.filter fun name => !hints.any (·.1 == name)
      if missing.isEmpty then
        .ok (names.filterMap fun name => (hints.find? (·.1 == name)).map Prod.snd)
      else .error (.unannotated c missing)

/-- The wire signature of a class that is no struct: what it gives itself, an enumeration by the
values it holds, or a scalar. -/
def simple? (classes : Classes) (c : ClassName) : Option Wire :=
  match classes.explicit? c with
  | some s => some (.ok s)
  | none =>
    if classes.descends c .enumeration then
      if classes.descends c (.builtin "int") then some (.ok "u")
      else if classes.descends c (.builtin "str") then some (.ok "s")
      else some (.error (.enumeration c))
    else
      match classes.scalar? c with
      | some s => some (.ok s)
      | none => if classes.isStruct c then none else some (.error (.unsupportedClass c))

/-- The wire signature of a class inside the structs `within`. At most `depth` structs may still be
opened. -/
def wireOf (classes : Classes) : (depth : Nat) → (within : List ClassName) → ClassName → Wire
  | 0, _, c => .error (.recursive c)
  | depth + 1, within, c =>
    match classes.simple? c with
    | some wire => wire
    | none =>
      if within.contains c then .error (.recursive c)
      else
        match classes.fieldTypes c with
        | .error fault => .error fault
        | .ok [] => .error (.noFields c)
        | .ok types => Wire.struct (Wire.ofShapes (classes.wireOf depth (c :: within)) types)

/-- The wire signature of a shape. Besides the declared classes there is one struct that comes with
the language, and one more level to meet a class in that is open already. -/
def wire (classes : Classes) (s : Shape) : Wire :=
  Wire.ofShape (classes.wireOf (classes.length + 2) []) s

end Classes

end BusContract
