import BusContract.Lookup.Role
import BusContract.Proofs.Outcomes

/-!
# Look-ups and the signatures they lead to

A look-up answers from the list of all occurrences, and refuses in the name of the query it was asked.
A signature is given exactly if the member is located and has one for the role; the two ways to fail
stay apart.
-/

namespace BusContract

/-! ## Locating -/

/-- A query that is not answered for want of occurrences is the one that was asked. -/
theorem query_of_locate_notFound {documents : List InterfaceDocument} {q q' : MemberQuery}
    (h : locate documents q = .error (.notFound q')) : q' = q := by
  unfold locate answerOf at h
  split at h
  · exact (LookupFault.notFound.inj (Except.error.inj h)).symm
  · exact absurd h (by simp)
  · exact absurd (Except.error.inj h) (by simp)

/-- A single occurrence is the answer. -/
theorem locate_of_occurrences_eq {documents : List InterfaceDocument} {q : MemberQuery}
    {r : Resolution} (h : occurrences documents q = [r]) : locate documents q = .ok r := by
  unfold locate
  rw [h]
  rfl

/-! ## Signatures -/

section Signatures

variable {documents : List InterfaceDocument} {role : SignatureRole} {member : String}
  {interface : Option String}

/-- The signature of a located member is that of the role. -/
theorem resolveSignature_of_locate {r : Resolution}
    (h : locate documents (role.query member interface) = .ok r) :
    resolveSignature documents role member interface
      = (role.signature r).mapError ResolutionFault.unsupported := by
  unfold resolveSignature
  rw [h]
  rfl

/-- A member that is not located has no signature. -/
theorem resolveSignature_of_locate_error {fault : LookupFault}
    (h : locate documents (role.query member interface) = .error fault) :
    resolveSignature documents role member interface = .error (.lookup fault) := by
  unfold resolveSignature
  rw [h]
  rfl

/-- A signature is given exactly if the member is located and has one. -/
theorem resolveSignature_eq_ok_iff {s : String} :
    resolveSignature documents role member interface = .ok s ↔
      ∃ r, locate documents (role.query member interface) = .ok r ∧ role.signature r = .ok s := by
  cases hlocate : locate documents (role.query member interface) with
  | error fault =>
    rw [resolveSignature_of_locate_error hlocate]
    exact ⟨nofun, nofun⟩
  | ok r =>
    rw [resolveSignature_of_locate hlocate, mapError_eq_ok_iff]
    constructor
    · intro h
      exact ⟨r, rfl, h⟩
    · rintro ⟨r', hr, h⟩
      rwa [Except.ok.inj hr]

/-- A signature is unsupported exactly if the member is located and has none for the role. -/
theorem resolveSignature_eq_unsupported_iff {cause : UnsupportedMember} :
    resolveSignature documents role member interface = .error (.unsupported cause) ↔
      ∃ r, locate documents (role.query member interface) = .ok r
        ∧ role.signature r = .error cause := by
  cases hlocate : locate documents (role.query member interface) with
  | error fault =>
    rw [resolveSignature_of_locate_error hlocate]
    exact ⟨nofun, nofun⟩
  | ok r =>
    rw [resolveSignature_of_locate hlocate, mapError_eq_error_iff ResolutionFault.unsupported.inj]
    constructor
    · intro h
      exact ⟨r, rfl, h⟩
    · rintro ⟨r', hr, h⟩
      rwa [Except.ok.inj hr]

end Signatures

end BusContract
