import BusContract.Data.Basic

/-!
# Reading plain data against a schema

Readers turn plain data into domain values. A reader does not stop at the first mismatch: it
collects a complaint for every part that does not fit, each with the path to that part, in the order
in which the parts are read.
-/

namespace BusContract

/-- Why a part of the data does not fit. -/
inductive DataFlaw where
  | missing
  | wantedText
  | wantedLiteral
  | wantedSequence
  | wantedRecord
  | wantedModel
  | undecodableText
  | unknownField
  | keyNotText
  | frozen
  deriving Repr, DecidableEq

/-- A part of the data, by its path from the outside, and what is wrong with it. -/
structure Complaint where
  path : List String
  flaw : DataFlaw
  deriving Repr, DecidableEq

/-- The complaint seen from one level further out. -/
def Complaint.under (step : String) (c : Complaint) : Complaint := ⟨step :: c.path, c.flaw⟩

/-- Values that were read are never changed in place: this is the complaint about setting the field
of the given name, whether there is such a field or not. -/
def Complaint.ofAssignment (name : String) : Complaint := ⟨[name], .frozen⟩

/-- A value that was read, or complaints. -/
abbrev Reading (α : Type) := Except (List Complaint) α

namespace Reading

variable {α β : Type}

/-- A single complaint about the value itself. -/
def complain (flaw : DataFlaw) : Reading α := .error [⟨[], flaw⟩]

/-- A reading of the part at `step`. -/
def under (step : String) (r : Reading α) : Reading α :=
  r.mapError fun complaints => complaints.map (Complaint.under step)

/-- Both parts are read whatever becomes of either, and the complaints come together. -/
def apply (f : Reading (α → β)) (r : Reading α) : Reading β :=
  match f, r with
  | .ok f, .ok a => .ok (f a)
  | .ok _, .error complaints => .error complaints
  | .error complaints, .ok _ => .error complaints
  | .error first, .error second => .error (first ++ second)

/-- Reads all items of a list, the first of which has the given index. -/
def itemsFrom (read : PlainData → Reading α) (index : Nat) : List PlainData → Reading (List α)
  | [] => .ok []
  | item :: rest =>
    let tail := itemsFrom read (index + 1) rest
    apply (apply (.ok fun a as => a :: as) (under (toString index) (read item))) tail

/-! ## Readers for kinds of data -/

/-- Any text. -/
def text : PlainData → Reading String
  | .text s => .ok s
  | _ => complain .wantedText

/-- Null, or something. -/
def nullable (read : PlainData → Reading α) : PlainData → Reading (Option α)
  | .null => .ok none
  | data => (read data).map some

/-- One of a fixed set of words. -/
def word (ofWord? : String → Option α) : PlainData → Reading α
  | .text s =>
    match ofWord? s with
    | some a => .ok a
    | none => complain .wantedLiteral
  | _ => complain .wantedLiteral

/-- A list of things of one kind. -/
def sequence (read : PlainData → Reading α) : PlainData → Reading (List α)
  | .list items => itemsFrom read 0 items
  | _ => complain .wantedSequence

/-- The fields of a record, each read the same way. -/
def entries (read : PlainData → Reading α) :
    List (String × PlainData) → Reading (List (String × α))
  | [] => .ok []
  | (key, value) :: rest =>
    let head := under key ((read value).map fun a => (key, a))
    apply (apply (.ok fun a as => a :: as) head) (entries read rest)

/-- A record of which the field names are free. -/
def mapping (read : PlainData → Reading α) : PlainData → Reading (List (String × α))
  | .record fields => entries read fields
  | _ => complain .wantedRecord

/-! ## Fields of a model -/

/-- A field that has to be there. -/
def required (fields : List (String × PlainData)) (name : String)
    (read : PlainData → Reading α) : Reading α :=
  under name <|
    match PlainData.field? fields name with
    | some data => read data
    | none => complain .missing

/-- A field that stands for `absent` when it is not there. -/
def optional (fields : List (String × PlainData)) (name : String) (absent : α)
    (read : PlainData → Reading α) : Reading α :=
  match PlainData.field? fields name with
  | some data => under name (read data)
  | none => .ok absent

/-- A model is read from a record; fields that the model does not have are passed over. -/
def model (read : List (String × PlainData) → Reading α) : PlainData → Reading α
  | .record fields => read fields
  | _ => complain .wantedModel

end Reading

end BusContract
