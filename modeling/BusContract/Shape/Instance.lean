import BusContract.Data.Reading
import BusContract.Shape.Wire

/-!
# Values of data models

A data model reads its fields from a record. Texts of the wire are read as texts and become values
of their class; variants take any value as it is.
-/

namespace BusContract

/-- The name of the class that a plain value belongs to. -/
def PlainData.className : PlainData → String
  | null => "NoneType"
  | bool _ => "bool"
  | int _ => "int"
  | decimal _ => "float"
  | text _ => "str"
  | list _ => "list"
  | record _ => "dict"

/-- A field of a model with its value and the class of the value. -/
structure FieldValue where
  name : String
  className : String
  value : PlainData

namespace Reading

/-- A value as it is. -/
def anything : PlainData → Reading PlainData := .ok

/-- Reads what the shape allows. -/
def ofShape : Shape → PlainData → Reading PlainData
  | .cls c, data =>
    if c = .builtin "str" ∨ c = .objectPath ∨ c = .signatureText then (text data).map .text
    else .ok data
  | .applied _ _ origin [_, value], data =>
    if origin = .builtin "dict" then (mapping (ofShape value) data).map .record else .ok data
  | _, data => .ok data

end Reading

/-- The class that a value of the shape belongs to: the class of the shape if it is one of texts,
else that of the data. -/
def Shape.valueClass (s : Shape) (data : PlainData) : String :=
  match s with
  | cls c => if c = .objectPath ∨ c = .signatureText then c.name else data.className
  | _ => data.className

/-- Reads the fields of a model, all of which have to be there. -/
def ModelField.readAll (record : List (String × PlainData)) :
    List ModelField → Reading (List FieldValue)
  | [] => .ok []
  | field :: rest =>
    let value := (Reading.required record field.name (Reading.ofShape field.type)).map fun data =>
      FieldValue.mk field.name (field.type.valueClass data) data
    Reading.apply (Reading.apply (.ok fun v vs => v :: vs) value) (readAll record rest)

/-- A value of a data model, field by field. -/
def Classes.readModel (classes : Classes) (c : ClassName) (data : PlainData) :
    Reading (List FieldValue) :=
  Reading.model (fun record => ModelField.readAll record ((classes.info c).model.getD [])) data

end BusContract
