import BusContract.Validation.Check

/-!
# The names that are looked for

`CandidateNames` says which names stand for a type, without taking texts apart: the member if one is
given, else the name of the type, and for a signal also what stands before `Event` if there is
anything before it. `memberNames_eq_iff` shows that these are the names that the check looks for.
-/

namespace BusContract

/-- The names to look for, in order. -/
inductive CandidateNames (typeName : String) (role : SignatureRole) :
    (member : Option String) → (names : List String) → Prop where
  /-- A member that is given is the only name, also if it ends in `Event`. -/
  | given (member : String) : CandidateNames typeName role (some member) [member]
  | event (stem : String) (hrole : role = .signalBody) (hstem : stem ≠ "")
      (hname : typeName = stem ++ "Event") : CandidateNames typeName role none [typeName, stem]
  | own (h : ¬ (role = .signalBody ∧ ∃ stem, stem ≠ "" ∧ typeName = stem ++ "Event")) :
      CandidateNames typeName role none [typeName]

/-! ## The suffix -/

theorem toList_ne_nil_iff (s : String) : s.toList ≠ [] ↔ s ≠ "" := by
  rw [ne_eq, ne_eq, String.toList_eq_nil_iff]

/-- What is left of a text without an ending, if something is left. -/
theorem take_of_endsWith {name suffix : List Char} (hends : suffix.isSuffixOf name = true)
    (hlonger : name.length > suffix.length) :
    ∃ front, front ≠ [] ∧ name = front ++ suffix
      ∧ name.take (name.length - suffix.length) = front := by
  obtain ⟨front, rfl⟩ := List.isSuffixOf_iff_suffix.mp hends
  refine ⟨front, ?_, rfl, ?_⟩
  · rintro rfl
    exact Nat.lt_irrefl _ hlonger
  · rw [List.length_append, Nat.add_sub_cancel, List.take_left]

/-- A name without the suffix is what stands before it, and never empty. -/
theorem withoutEvent?_eq_some_iff (typeName stem : String) :
    withoutEvent? typeName = some stem ↔ stem ≠ "" ∧ typeName = stem ++ eventSuffix := by
  unfold withoutEvent?
  generalize eventSuffix = suffix
  dsimp only
  constructor
  · intro h
    split at h
    · next hsuffix =>
      obtain ⟨front, hne, hname, hkept⟩ := take_of_endsWith hsuffix.1 hsuffix.2
      rw [hkept, Option.some.injEq] at h
      subst h
      refine ⟨?_, ?_⟩
      · rwa [← toList_ne_nil_iff, String.toList_ofList]
      · rw [← String.toList_inj, String.toList_append, String.toList_ofList, hname]
    · exact absurd h (Option.some_ne_none stem).symm
  · rintro ⟨hstem, rfl⟩
    -- a stem that is not empty makes the name longer than its ending
    rw [← toList_ne_nil_iff] at hstem
    have hpos : 0 < stem.toList.length := List.length_pos_iff.mpr hstem
    rw [String.toList_append, if_pos, List.length_append, Nat.add_sub_cancel, List.take_left,
      String.ofList_toList]
    refine ⟨List.isSuffixOf_iff_suffix.mpr (List.suffix_append _ _), ?_⟩
    rw [List.length_append]
    omega

/-! ## The names -/

/-- The names that the check looks for are the candidates. -/
theorem memberNames_eq_iff (typeName : String) (role : SignatureRole) (member : Option String)
    (names : List String) :
    memberNames typeName role member = names ↔ CandidateNames typeName role member names := by
  cases member with
  | some member =>
    constructor
    · rintro rfl
      exact .given member
    · rintro ⟨⟩
      rfl
  | none =>
    constructor
    · rintro rfl
      show CandidateNames typeName role none (defaultMemberNames typeName role)
      unfold defaultMemberNames
      by_cases hrole : role = .signalBody
      · rw [if_pos hrole]
        -- a type named `Event` alone has no stem and keeps its own name
        cases hstem : withoutEvent? typeName with
        | some stem =>
          obtain ⟨hne, hname⟩ := (withoutEvent?_eq_some_iff typeName stem).mp hstem
          exact .event stem hrole hne hname
        | none =>
          refine .own ?_
          rintro ⟨-, stem, h⟩
          rw [(withoutEvent?_eq_some_iff typeName stem).mpr h] at hstem
          exact Option.some_ne_none stem hstem
      · rw [if_neg hrole]
        exact .own fun h => hrole h.1
    · intro h
      show defaultMemberNames typeName role = names
      unfold defaultMemberNames
      cases h with
      | event stem hrole hne hname =>
        rw [if_pos hrole, (withoutEvent?_eq_some_iff typeName stem).mpr ⟨hne, hname⟩]
        rfl
      | own h =>
        by_cases hrole : role = .signalBody
        · rw [if_pos hrole]
          cases hstem : withoutEvent? typeName with
          | some stem =>
            exact absurd ⟨hrole, stem, (withoutEvent?_eq_some_iff typeName stem).mp hstem⟩ h
          | none => rfl
        · rw [if_neg hrole]

/-- There is always a name to look for. -/
theorem memberNames_eq_cons (typeName : String) (role : SignatureRole) (member : Option String) :
    ∃ first rest, memberNames typeName role member = first :: rest := by
  have h := (memberNames_eq_iff typeName role member _).mp rfl
  generalize memberNames typeName role member = names at h
  cases h with
  | given member => exact ⟨member, [], rfl⟩
  | event stem _ _ _ => exact ⟨typeName, [stem], rfl⟩
  | own _ => exact ⟨typeName, [], rfl⟩

end BusContract
