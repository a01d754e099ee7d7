import BusContract.Validation.Validator

/-!
# Sessions

A validator is asked for one thing after the other, and between two calls everything around it may
change: files come and go, the working directory and the variables are set anew. A session is the
row of calls, each with the host as it is by then.

The validator of the surroundings is only asked to check classes where they are defined. Each comes
with the classes that there are by then.
-/

namespace BusContract

namespace Validator

/-- What a validator can be asked for. -/
inductive Call where
  | documents
  | check (shape : Shape) (target : Target)
  | checkSignature (typeName signature : String) (target : Target)
  | checkDefinition (shape : Shape) (target : Target)

/-- What a call comes to if it does not fail. -/
inductive Result where
  | documents (documents : List InterfaceDocument)
  | report (report : Report)
  | shape (shape : Shape)

/-- What a validator answers. -/
abbrev Answer := Except ValidationFault Result

/-- The answer to a call, and what is left of the validator. -/
def answer (v : Validator) (classes : Classes) (host : Host) : Call → Answer × Validator
  | .documents =>
    let (outcome, v) := v.load host
    ((outcome.mapError .loading).map .documents, v)
  | .check shape target =>
    let (outcome, v) := v.validate classes host shape target
    (outcome.map .report, v)
  | .checkSignature typeName signature target =>
    let (outcome, v) := v.validateSignature host typeName signature target
    (outcome.map .report, v)
  | .checkDefinition shape target =>
    let (outcome, v) := v.validateType classes host shape target
    (outcome.map .shape, v)

/-- The answers to calls in turn, each on the host as it is by then. -/
def answers (classes : Classes) : Validator → List (Host × Call) → List Answer × Validator
  | v, [] => ([], v)
  | v, (host, call) :: rest =>
    let (first, v) := v.answer classes host call
    let (others, v) := answers classes v rest
    (first :: others, v)

end Validator

/-! ## Definitions -/

/-- A class that is to be checked where it is defined. -/
structure CheckedDefinition where
  /-- The classes that there are by then. -/
  classes : Classes
  shape : Shape
  target : Target

/-- Checks the class with the validator of the surroundings. -/
def CheckedDefinition.outcome (d : CheckedDefinition) (host : Host) (kept : Option Validator) :
    Except DefaultFault Shape × Option Validator :=
  validateByDefault d.classes host kept d.shape d.target

/-- The outcomes of definitions in turn, each on the host as it is by then. -/
def definitionOutcomes :
    Option Validator → List (Host × CheckedDefinition) →
      List (Except DefaultFault Shape) × Option Validator
  | kept, [] => ([], kept)
  | kept, (host, d) :: rest =>
    let (first, kept) := d.outcome host kept
    let (others, kept) := definitionOutcomes kept rest
    (first :: others, kept)

end BusContract
