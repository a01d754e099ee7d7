import BusContract.Lookup.Query

/-!
# Signatures of members

A member can stand for more than one signature: a method has the signature of what it is called
with and that of what it returns. A role says which one is meant, and with it which kind of member
can have it.
-/

namespace BusContract

/-! ## Composition -/

/-- A member that does not have the signature asked for. -/
inductive UnsupportedMember where
  | wrongKind (name : String) (wanted : MemberKind)
  | outArgCount (method interface : String) (count : Nat)
  deriving Repr, DecidableEq

/-- The message of a fault. -/
def UnsupportedMember.message : UnsupportedMember → String
  | wrongKind name wanted => s!"'{name}' is not a {wanted.word}"
  | outArgCount method interface count =>
    s!"Method '{method}' on interface '{interface}' declares {count} output arguments; " ++
      "exactly one is supported for a return signature"

namespace Resolution

/-- The signature of the arguments that a method is called with. -/
def methodArgsSignature (r : Resolution) : Except UnsupportedMember String :=
  match r.member with
  | .method m => .ok (joinSignatures m.inArgs)
  | member => .error (.wrongKind member.name .method)

/-- The signature of the one value that a method returns. -/
def methodReturnSignature (r : Resolution) : Except UnsupportedMember String :=
  match r.member with
  | .method m =>
    match m.outArgs with
    | [arg] => .ok arg.signature
    | args => .error (.outArgCount m.name r.interface.name args.length)
  | member => .error (.wrongKind member.name .method)

/-- The signature of the body of a signal: that of all its arguments, whatever their direction. -/
def signalBodySignature (r : Resolution) : Except UnsupportedMember String :=
  match r.member with
  | .signal s => .ok (joinSignatures s.args)
  | member => .error (.wrongKind member.name .signal)

/-- The signature of a property. -/
def propertySignature (r : Resolution) : Except UnsupportedMember String :=
  match r.member with
  | .property p => .ok p.signature
  | member => .error (.wrongKind member.name .property)

end Resolution

/-! ## Roles -/

/-- Which signature of a member is meant. -/
inductive SignatureRole where
  | methodArgs
  | methodReturn
  | signalBody
  | property
  deriving Repr, DecidableEq

namespace SignatureRole

/-- All roles, in the order in which they are offered. -/
def all : List SignatureRole := [methodArgs, methodReturn, signalBody, property]

/-- The word for a role. -/
def word : SignatureRole → String
  | methodArgs => "method-args"
  | methodReturn => "method-return"
  | signalBody => "signal"
  | property => "property"

/-- The role that a word stands for. -/
def ofWord? (s : String) : Option SignatureRole := all.find? fun role => role.word == s

/-- The kind of member that has such a signature. -/
def kind : SignatureRole → MemberKind
  | methodArgs => .method
  | methodReturn => .method
  | signalBody => .signal
  | property => .property

/-- The signature of this role. -/
def signature : SignatureRole → Resolution → Except UnsupportedMember String
  | methodArgs => Resolution.methodArgsSignature
  | methodReturn => Resolution.methodReturnSignature
  | signalBody => Resolution.signalBodySignature
  | property => Resolution.propertySignature

end SignatureRole

/-! ## Lookup and composition together -/

/-- Why the signature of a member cannot be given. -/
inductive ResolutionFault where
  | lookup (fault : LookupFault)
  | unsupported (fault : UnsupportedMember)
  deriving Repr, DecidableEq

/-- The message of a fault. -/
def ResolutionFault.message : ResolutionFault → String
  | lookup fault => fault.message
  | unsupported fault => fault.message

/-- The query that a role leads to. -/
def SignatureRole.query (role : SignatureRole) (member : String) (interface : Option String) :
    MemberQuery :=
  ⟨member, role.kind, interface⟩

/-- Locates a member and gives its signature for a role. -/
def resolveSignature (documents : List InterfaceDocument) (role : SignatureRole) (member : String)
    (interface : Option String) : Except ResolutionFault String := do
  let r ← (locate documents (role.query member interface)).mapError .lookup
  (role.signature r).mapError .unsupported

end BusContract
