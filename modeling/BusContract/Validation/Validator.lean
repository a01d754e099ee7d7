import BusContract.Shape.Wire
import BusContract.Validation.Check
import BusContract.Workspace.Config

/-!
# Validators

A validator checks shapes against the documents of a configuration. The documents are loaded when
they are first needed and kept from then on; a load that fails leaves nothing behind, and the next
one that is needed is a new one.

There is also a validator that nobody has to make: it is made from the configuration around when it
is first needed, and kept from then on.
-/

namespace BusContract

/-- Checks shapes. -/
structure Validator where
  config : Config
  /-- Gives the signature of a shape. -/
  reflect : Shape → Wire
  /-- The documents, once there are any. -/
  documents : Option (List InterfaceDocument)

/-- Why a shape is not what is declared. -/
inductive ValidationFault where
  /-- The shape has no name of its own, and none was given. -/
  | nameless (spelling : String)
  | reflection (fault : ReflectionFault)
  | loading (fault : LoadFault)
  | check (fault : CheckFault)

/-- What is said about the fault. -/
def ValidationFault.message : ValidationFault → String
  | nameless spelling => s!"Cannot derive a member name from {spelling}; pass member= explicitly"
  | reflection fault => fault.message
  | loading fault => fault.message
  | check fault => fault.message

/-- Which member a shape stands for. -/
structure Target where
  role : SignatureRole
  member : Option String
  interface : Option String

namespace Validator

/-- The documents. They are loaded if there are none yet. -/
def load (v : Validator) (host : Host) : Except LoadFault (List InterfaceDocument) × Validator :=
  match v.documents with
  | some documents => (.ok documents, v)
  | none =>
    match host.loadDocuments v.config.xmlPath v.config.filePattern with
    | .ok documents => (.ok documents, { v with documents := some documents })
    | .error fault => (.error fault, v)

/-- Checks a signature. -/
def validateSignature (v : Validator) (host : Host) (typeName signature : String)
    (target : Target) : Except ValidationFault Report × Validator :=
  match v.load host with
  | (.error fault, v) => (.error (.loading fault), v)
  | (.ok documents, v) =>
    let request : CheckRequest :=
      ⟨typeName, signature, target.role, target.member, target.interface⟩
    ((request.run documents).mapError .check, v)

/-- The name that a shape goes by. A shape without a name of its own goes by its spelling, but
only if the member is named. -/
def typeName (classes : Classes) (shape : Shape) (member : Option String) :
    Except ValidationFault String :=
  if shape.isDerived then
    if member.isNone then .error (.nameless (classes.spell shape)) else .ok (classes.spell shape)
  else .ok (shape.name?.getD (classes.spell shape))

/-- Checks a shape. -/
def validate (v : Validator) (classes : Classes) (host : Host) (shape : Shape) (target : Target) :
    Except ValidationFault Report × Validator :=
  match typeName classes shape target.member with
  | .error fault => (.error fault, v)
  | .ok name =>
    match v.reflect shape with
    | .error fault => (.error (.reflection fault), v)
    | .ok signature => v.validateSignature host name signature target

/-- Checks a class where it is defined. It stays what it is if it passes. -/
def validateType (v : Validator) (classes : Classes) (host : Host) (shape : Shape)
    (target : Target) : Except ValidationFault Shape × Validator :=
  let (outcome, v) := v.validate classes host shape target
  (outcome.map fun _ => shape, v)

end Validator

/-! ## The validator of the surroundings -/

/-- Why a shape does not pass the validator of the surroundings. -/
inductive DefaultFault where
  | config (fault : ConfigFault)
  | validation (fault : ValidationFault)

/-- The configuration that a host gives to whoever asks for none in particular. -/
def Host.surroundingConfig (host : Host) : Except ConfigFault Config :=
  host.loadConfig none host.here host.environment

/-- The validator of the surroundings, which is made if there is none yet. It derives signatures
from the classes that there are by now. -/
def defaultValidator (classes : Classes) (host : Host) :
    Option Validator → Except ConfigFault Validator
  | some v => .ok { v with reflect := classes.wire }
  | none => host.surroundingConfig.map fun config => ⟨config, classes.wire, none⟩

/-- Checks a class where it is defined with the validator of the surroundings, and gives what is
left of that. -/
def validateByDefault (classes : Classes) (host : Host) (kept : Option Validator) (shape : Shape)
    (target : Target) : Except DefaultFault Shape × Option Validator :=
  match defaultValidator classes host kept with
  | .error fault => (.error (.config fault), kept)
  | .ok v =>
    let (outcome, v) := v.validateType classes host shape target
    (outcome.mapError .validation, some v)

end BusContract
