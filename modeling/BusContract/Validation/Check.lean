import BusContract.Lookup.Role
import BusContract.Signature.Basic

/-!
# Checking a signature against a declaration

A type stands for a member of an interface: its name is that of the member, unless another name is
given, and a type for a signal may have `Event` behind the name. The signature of the type has to be
equivalent to the one that the member is declared with.
-/

namespace BusContract

/-- Why a signature is not that of a declared member. -/
inductive CheckFault where
  /-- No interface declares a member of any of the names; the query is the one for the first, and so
  is the fault that it came from. -/
  | notFound (typeName : String) (query : MemberQuery) (cause : Option LookupFault)
  | ambiguous (typeName : String) (query : MemberQuery) (candidates : List String)
      (cause : LookupFault)
  | unsupported (typeName : String) (query : MemberQuery) (role : SignatureRole)
      (cause : UnsupportedMember)
  | mismatch (typeName : String) (query : MemberQuery) (role : SignatureRole)
      (derived declared : String)
  deriving Repr, DecidableEq

/-- What is said about the fault. -/
def CheckFault.message : CheckFault → String
  | notFound typeName query _ =>
    s!"Cannot validate '{typeName}': no interface declares {query.describe}"
  | ambiguous typeName query candidates _ =>
    let names := ", ".intercalate candidates
    s!"Cannot validate '{typeName}': multiple interfaces offer the same {query.kind.word} " ++
      s!"member '{query.name}': {names}. Please specify the interface name."
  | unsupported typeName query role cause =>
    s!"Cannot validate '{typeName}' as {role.word} of {query.describe}: {cause.message}"
  | mismatch typeName query role derived declared =>
    s!"Signature of '{typeName}' does not match {role.word} signature of {query.describe} " ++
      s!"(derived: {derived}, declared: {declared})"

/-- A signature that is that of a declared member. -/
structure Report where
  typeName : String
  interface : String
  member : String
  role : SignatureRole
  derived : String
  declared : String
  /-- The document that declares the member. -/
  source : String
  deriving Repr, DecidableEq

/-! ## Names -/

/-- What the name of a type for a signal may end in. -/
def eventSuffix : String := "Event"

/-- The name without the suffix, if it is longer than that and ends in it. -/
def withoutEvent? (typeName : String) : Option String :=
  let name := typeName.toList
  let suffix := eventSuffix.toList
  if suffix.isSuffixOf name ∧ name.length > suffix.length then
    some (String.ofList (name.take (name.length - suffix.length)))
  else none

/-- The names that a member for the type can have, first choice first. -/
def defaultMemberNames (typeName : String) (role : SignatureRole) : List String :=
  if role = .signalBody then typeName :: (withoutEvent? typeName).toList else [typeName]

/-- The names to look for. -/
def memberNames (typeName : String) (role : SignatureRole) : (member : Option String) → List String
  | some name => [name]
  | none => defaultMemberNames typeName role

/-! ## Checking -/

/-- What looking for names in turn comes to. -/
inductive Search where
  /-- No name is declared. The cause is the fault of the first name. -/
  | missing (cause : Option LookupFault)
  | ambiguous (query : MemberQuery) (candidates : List String) (cause : LookupFault)
  | found (query : MemberQuery) (resolution : Resolution)
  deriving Repr, DecidableEq

/-- Looks for names in turn. The first that is declared decides; `missed` is the fault of the first
name that was not. -/
def searchFrom (documents : List InterfaceDocument) (role : SignatureRole)
    (interface : Option String) (missed : Option LookupFault) : List String → Search
  | [] => .missing missed
  | name :: rest =>
    let query := role.query name interface
    match locate documents query with
    | .ok r => .found query r
    | .error (.ambiguous q candidates sources) =>
      .ambiguous query candidates (.ambiguous q candidates sources)
    | .error (.notFound q) =>
      searchFrom documents role interface (missed.or (some (.notFound q))) rest

/-- What to look for, and what is declared. -/
structure CheckRequest where
  typeName : String
  signature : String
  role : SignatureRole
  member : Option String
  interface : Option String

/-- Compares with the member that was found. -/
def CheckRequest.compare (request : CheckRequest) (query : MemberQuery) (r : Resolution) :
    Except CheckFault Report :=
  match request.role.signature r with
  | .error cause => .error (.unsupported request.typeName query request.role cause)
  | .ok declared =>
    if (Signature.text request.signature).equivalent (.text declared) then
      .ok { typeName := request.typeName
            interface := r.interface.name
            member := query.name
            role := request.role
            derived := request.signature
            declared := declared
            source := r.document.source }
    else .error (.mismatch request.typeName query request.role request.signature declared)

/-- Checks a signature against documents. -/
def CheckRequest.run (request : CheckRequest) (documents : List InterfaceDocument) :
    Except CheckFault Report :=
  let names := memberNames request.typeName request.role request.member
  match searchFrom documents request.role request.interface none names with
  | .found query r => request.compare query r
  | .ambiguous query candidates cause =>
    .error (.ambiguous request.typeName query candidates cause)
  | .missing cause =>
    let first := names.headD request.typeName
    .error (.notFound request.typeName (request.role.query first request.interface) cause)

end BusContract
