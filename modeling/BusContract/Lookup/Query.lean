import BusContract.Interface.Basic

/-!
# Looking members up

A query asks for a member of a kind by its name, on any interface or on one. Names are not unique:
the answer is settled by the list of all occurrences, in the order of documents, interfaces and
members. The query succeeds if there is exactly one. Otherwise nothing is chosen, and the fault
tells where the occurrences are.
-/

namespace BusContract

/-! ## Queries -/

/-- What to look for. -/
structure MemberQuery where
  name : String
  kind : MemberKind
  interface : Option String
  deriving Repr, DecidableEq

/-- The query in messages. -/
def MemberQuery.describe (q : MemberQuery) : String :=
  match q.interface with
  | none => s!"{q.kind.word} '{q.name}'"
  | some interface => s!"{q.kind.word} '{q.name}' on interface '{interface}'"

/-- A member together with where it was found. -/
structure Resolution where
  document : InterfaceDocument
  interface : Interface
  member : Member
  deriving Repr, DecidableEq

/-- Does the query accept the interface? -/
def MemberQuery.accepts (q : MemberQuery) (i : Interface) : Bool :=
  match q.interface with
  | none => true
  | some name => i.name == name

/-! ## Occurrences -/

/-- The occurrences of the queried member on one interface. -/
def Interface.occurrences (d : InterfaceDocument) (i : Interface) (q : MemberQuery) :
    List Resolution :=
  ((i.members q.kind).filter fun member => member.name == q.name).map (Resolution.mk d i)

/-- The occurrences of the queried member in one document. -/
def InterfaceDocument.occurrences (d : InterfaceDocument) (q : MemberQuery) : List Resolution :=
  (d.interfaces.filter q.accepts).flatMap fun i => i.occurrences d q

/-- All occurrences of the queried member. -/
def occurrences (documents : List InterfaceDocument) (q : MemberQuery) : List Resolution :=
  documents.flatMap fun d => d.occurrences q

/-! ## The answer -/

/-- Why a query has no answer. -/
inductive LookupFault where
  | notFound (query : MemberQuery)
  /-- Several occurrences: the names of their interfaces without repetition, and the documents of
  all of them, both in order. -/
  | ambiguous (query : MemberQuery) (candidates sources : List String)
  deriving Repr, DecidableEq

/-- The message of a fault. -/
def LookupFault.message : LookupFault → String
  | notFound query => s!"No interface declares {query.describe}"
  | ambiguous query candidates _ =>
    let names := ", ".intercalate candidates
    s!"Multiple interfaces offer the same {query.kind.word} member '{query.name}': {names}. " ++
      "Please specify the interface name."

/-- What a list of occurrences answers to a query. -/
def answerOf (q : MemberQuery) : List Resolution → Except LookupFault Resolution
  | [] => .error (.notFound q)
  | [r] => .ok r
  | found =>
    .error (.ambiguous q (found.map fun r => r.interface.name).eraseDups
      (found.map fun r => r.document.source))

/-- The single member that the query asks for. -/
def locate (documents : List InterfaceDocument) (q : MemberQuery) :
    Except LookupFault Resolution :=
  answerOf q (occurrences documents q)

/-- The note on an occurrence that a lookup leaves in the log. -/
def Resolution.note (q : MemberQuery) (r : Resolution) : String :=
  s!"Found {q.describe} in '{r.interface.name}' ({r.document.source})"

end BusContract
