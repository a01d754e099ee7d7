import BusContract.Data.Reading
import BusContract.Interface.Basic

/-!
# Interfaces as plain data

Documents, interfaces and members can be read from plain data and written back. Fields that are left
out take the values that an introspection document would leave them with, save that the direction
of an argument stays open.
-/

namespace BusContract

namespace Reading

/-- Keys with textual values. -/
def annotations (data : PlainData) : Reading Annotations :=
  (mapping text data).map Annotations.ofList

/-- The annotations among the fields of a model. -/
def annotationsField (fields : List (String × PlainData)) : Reading Annotations :=
  optional fields "annotations" [] annotations

/-- An argument. -/
def arg : PlainData → Reading Arg :=
  model fun fields =>
    apply (apply (apply (apply (.ok Arg.mk)
      (optional fields "name" none (nullable text)))
      (required fields "signature" text))
      (optional fields "direction" none (nullable (word Direction.ofWord?))))
      (annotationsField fields)

/-- The arguments among the fields of a member. -/
def argsField (fields : List (String × PlainData)) : Reading (List Arg) :=
  optional fields "args" [] (sequence arg)

/-- A method. -/
def method : PlainData → Reading Method :=
  model fun fields =>
    apply (apply (apply (.ok Method.mk)
      (required fields "name" text))
      (argsField fields))
      (annotationsField fields)

/-- A signal. -/
def signal : PlainData → Reading Signal :=
  model fun fields =>
    apply (apply (apply (.ok Signal.mk)
      (required fields "name" text))
      (argsField fields))
      (annotationsField fields)

/-- A property. -/
def property : PlainData → Reading Property :=
  model fun fields =>
    apply (apply (apply (apply (.ok Property.mk)
      (required fields "name" text))
      (required fields "signature" text))
      (optional fields "access" .readWrite (word Access.ofWord?)))
      (annotationsField fields)

/-- An interface. -/
def interface : PlainData → Reading Interface :=
  model fun fields =>
    apply (apply (apply (apply (apply (.ok Interface.mk)
      (required fields "name" text))
      (optional fields "methods" [] (sequence method)))
      (optional fields "signals" [] (sequence signal)))
      (optional fields "properties" [] (sequence property)))
      (annotationsField fields)

/-- A document. -/
def document : PlainData → Reading InterfaceDocument :=
  model fun fields =>
    apply (apply (apply (.ok InterfaceDocument.mk)
      (required fields "source" text))
      (optional fields "name" none (nullable text)))
      (optional fields "interfaces" [] (sequence interface))

end Reading

/-! ## Writing -/

namespace PlainData

/-- A text that may be absent. -/
def ofText? : Option String → PlainData
  | some s => .text s
  | none => .null

end PlainData

/-- Annotations as a record. -/
def Annotations.toData (notes : Annotations) : PlainData :=
  .record (notes.map fun (key, value) => (key, .text value))

/-- An argument as a record of all its fields. -/
def Arg.toData (a : Arg) : PlainData :=
  .record [("name", .ofText? a.name), ("signature", .text a.signature),
    ("direction", .ofText? (a.direction.map Direction.word)),
    ("annotations", Annotations.toData a.annotations)]

/-- A method as a record of all its fields. -/
def Method.toData (m : Method) : PlainData :=
  .record [("name", .text m.name), ("args", .list (m.args.map Arg.toData)),
    ("annotations", Annotations.toData m.annotations)]

/-- A signal as a record of all its fields. -/
def Signal.toData (s : Signal) : PlainData :=
  .record [("name", .text s.name), ("args", .list (s.args.map Arg.toData)),
    ("annotations", Annotations.toData s.annotations)]

/-- A property as a record of all its fields. -/
def Property.toData (p : Property) : PlainData :=
  .record [("name", .text p.name), ("signature", .text p.signature),
    ("access", .text p.access.word), ("annotations", Annotations.toData p.annotations)]

/-- An interface as a record of all its fields. -/
def Interface.toData (i : Interface) : PlainData :=
  .record [("name", .text i.name), ("methods", .list (i.methods.map Method.toData)),
    ("signals", .list (i.signals.map Signal.toData)),
    ("properties", .list (i.properties.map Property.toData)),
    ("annotations", Annotations.toData i.annotations)]

/-- A document as a record of all its fields. -/
def InterfaceDocument.toData (d : InterfaceDocument) : PlainData :=
  .record [("source", .text d.source), ("name", .ofText? d.name),
    ("interfaces", .list (d.interfaces.map Interface.toData))]

end BusContract
