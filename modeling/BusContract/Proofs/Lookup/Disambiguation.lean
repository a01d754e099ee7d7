import BusContract.Proofs.Lookup.Growth
import Mathlib.Algebra.BigOperators.Group.List.Basic
import Mathlib.Algebra.GroupWithZero.Nat

/-!
# Look-ups with an interface

A look-up that leaves the choice asks for an interface. Asked again with one of those it names, it
finds something, and asked with any other name it finds nothing: the interfaces share the occurrences
out among them (`occurrences_interface`), each in the order in which they stand.

So the documents that are named without an interface are those named with one, put together again
(`Interleaves`). And an interface that is given has the effect of taking the others out of the
documents (`occurrences_keepOnly`).

* **`interface_settles_choice`**: all that look-ups with an interface have to do with the one without.
-/

namespace BusContract

/-! ## Interleaved rows -/

/-- The row is made of the parts: at each step its next element is the first that is left of some
part. -/
inductive Interleaves {α : Type} : List (List α) → List α → Prop where
  | done {parts : List (List α)} (h : ∀ part ∈ parts, part = []) : Interleaves parts []
  | step {parts : List (List α)} {k : Nat} {x : α} {part row : List α}
      (hk : parts[k]? = some (x :: part)) (h : Interleaves (parts.set k part) row) :
      Interleaves parts (x :: row)

namespace Interleaves

variable {α β κ : Type}

theorem map {parts : List (List α)} {row : List α} (h : Interleaves parts row) (f : α → β) :
    Interleaves (parts.map (List.map f)) (row.map f) := by
  induction h with
  | done h =>
    refine .done fun part hpart => ?_
    obtain ⟨part, hmem, rfl⟩ := List.mem_map.mp hpart
    rw [h part hmem, List.map_nil]
  | @step parts k x part row hk _ ih =>
    rw [List.map_set] at ih
    refine .step (k := k) ?_ ih
    rw [List.getElem?_map, hk]
    rfl

/-- Taking one out of a part leaves one less. -/
theorem sum_length_set {parts : List (List α)} {k : Nat} {x : α} {part : List α}
    (hk : parts[k]? = some (x :: part)) :
    (parts.map List.length).sum = ((parts.set k part).map List.length).sum + 1 := by
  induction parts generalizing k with
  | nil => simp at hk
  | cons first parts ih =>
    cases k with
    | zero =>
      obtain rfl : first = x :: part := Option.some.inj hk
      simp only [List.set_cons_zero, List.map_cons, List.sum_cons, List.length_cons]
      omega
    | succ k =>
      have hrest := ih (k := k) hk
      simp only [List.set_cons_succ, List.map_cons, List.sum_cons]
      omega

/-- No element is lost or gained. -/
theorem sum_length {parts : List (List α)} {row : List α} (h : Interleaves parts row) :
    (parts.map List.length).sum = row.length := by
  induction h with
  | @done parts h =>
    refine List.sum_eq_zero fun n hn => ?_
    obtain ⟨part, hmem, rfl⟩ := List.mem_map.mp hn
    rw [h part hmem, List.length_nil]
  | step hk _ ih => rw [sum_length_set hk, ih, List.length_cons]

/-- Without the first element of a row its class is one shorter, and the other classes are the same. -/
theorem set_filter_cons [DecidableEq κ] {names : List κ} (hnodup : names.Nodup) {name : α → κ} {x : α}
    {row : List α} {k : Nat} (hk : names[k]? = some (name x)) :
    (names.map fun c => (x :: row).filter fun y => name y == c).set k
        (row.filter fun y => name y == name x)
      = names.map fun c => row.filter fun y => name y == c := by
  obtain ⟨hlt, -⟩ := List.getElem?_eq_some_iff.mp hk
  refine List.ext_getElem? fun n => ?_
  by_cases hn : n = k
  · subst hn
    rw [List.getElem?_set_self (by simpa using hlt), List.getElem?_map, hk, Option.map_some]
  · rw [List.getElem?_set_ne (Ne.symm hn), List.getElem?_map, List.getElem?_map]
    refine Option.map_congr fun c hc => List.filter_cons_of_neg fun hx => hn ?_
    have hsame : names[k]? = names[n]? := by rw [hk, hc, eq_of_beq hx]
    exact ((List.getElem?_inj hlt hnodup).mp hsame).symm

/-- A row is made of its classes, if each element belongs to one of them. Induction on the row, whose
first element is the first of its class. -/
theorem classes [DecidableEq κ] {names : List κ} (hnodup : names.Nodup) (name : α → κ) {row : List α}
    (hnames : ∀ x ∈ row, name x ∈ names) :
    Interleaves (names.map fun c => row.filter fun x => name x == c) row := by
  induction row with
  | nil =>
    refine .done fun part hpart => ?_
    obtain ⟨c, -, rfl⟩ := List.mem_map.mp hpart
    rfl
  | cons x row ih =>
    obtain ⟨k, hk⟩ := List.mem_iff_getElem?.mp (hnames x List.mem_cons_self)
    have hrest := ih fun y hy => hnames y (List.mem_cons_of_mem x hy)
    rw [← set_filter_cons hnodup hk] at hrest
    refine .step (k := k) ?_ hrest
    have hx : (x :: row).filter (fun y => name y == name x)
        = x :: row.filter fun y => name y == name x :=
      List.filter_cons_of_pos (p := fun y => name y == name x) (beq_self_eq_true _)
    rw [List.getElem?_map, hk, Option.map_some, hx]

end Interleaves

/-! ## Occurrences on an interface -/

/-- **The occurrences on an interface** are those among all occurrences that are on it. -/
theorem occurrences_interface (documents : List InterfaceDocument) (name : String)
    (kind : MemberKind) (interface : String) :
    occurrences documents ⟨name, kind, some interface⟩
      = (occurrences documents ⟨name, kind, none⟩).filter fun r =>
          r.interface.name == interface := by
  let q : MemberQuery := ⟨name, kind, some interface⟩
  let anywhere : MemberQuery := ⟨name, kind, none⟩
  -- of what is found on one interface either all is on the wanted one, or nothing
  have hinterface (d : InterfaceDocument) (i : Interface) :
      (i.occurrences d anywhere).filter (fun r => r.interface.name == interface)
        = if q.accepts i then (i.occurrences d q).map id else [] := by
    have hon : ∀ r ∈ i.occurrences d anywhere, (r.interface.name == interface) = q.accepts i := by
      intro r hr
      obtain ⟨member, -, rfl⟩ := List.mem_map.mp hr
      rfl
    rw [List.filter_congr hon, List.map_id]
    cases q.accepts i with
    | true => exact List.filter_true _
    | false => exact List.filter_false _
  have hdocument (d : InterfaceDocument) :
      (d.occurrences anywhere).filter (fun r => r.interface.name == interface)
        = d.occurrences q := by
    have hall : d.interfaces.filter anywhere.accepts = d.interfaces := List.filter_true _
    rw [InterfaceDocument.occurrences, hall, filter_flatMap_eq (hinterface d), List.map_id]
    rfl
  rw [occurrences, occurrences, List.filter_flatMap]
  simp only [hdocument, q, anywhere]

/-- The document without the interfaces of other names. -/
def InterfaceDocument.keepOnly (interface : String) (d : InterfaceDocument) : InterfaceDocument :=
  { d with interfaces := d.interfaces.filter fun i => i.name == interface }

/-- The occurrence in the document without the interfaces of other names. -/
def Resolution.keepOnly (interface : String) (r : Resolution) : Resolution :=
  { r with document := r.document.keepOnly interface }

/-- What is found on an interface is what is found once the others are taken out. -/
theorem occurrences_keepOnly (documents : List InterfaceDocument) (name : String)
    (kind : MemberKind) (interface : String) :
    occurrences (documents.map (InterfaceDocument.keepOnly interface)) ⟨name, kind, none⟩
      = (occurrences documents ⟨name, kind, some interface⟩).map
          (Resolution.keepOnly interface) := by
  have hdocument (d : InterfaceDocument) :
      (d.keepOnly interface).occurrences ⟨name, kind, none⟩
        = (d.occurrences ⟨name, kind, some interface⟩).map (Resolution.keepOnly interface) := by
    have hall (row : List Interface) :
        row.filter (MemberQuery.accepts ⟨name, kind, none⟩) = row := List.filter_true _
    rw [InterfaceDocument.occurrences, hall, InterfaceDocument.occurrences, List.map_flatMap]
    simp only [Interface.occurrences, List.map_map]
    rfl
  rw [occurrences, List.flatMap_map, occurrences, List.map_flatMap]
  simp only [hdocument]

/-! ## Answers -/

/-- The documents of all that an answer has found, in order. -/
def answerSources : Except LookupFault Resolution → List String
  | .ok r => [r.document.source]
  | .error (.notFound _) => []
  | .error (.ambiguous _ _ sources) => sources

/-- An answer names the source of each occurrence. -/
theorem answerSources_answerOf (q : MemberQuery) (found : List Resolution) :
    answerSources (answerOf q found) = found.map fun r => r.document.source := by
  match found with
  | [] => rfl
  | [_] => rfl
  | _ :: _ :: _ => rfl

/-- The fault in the name of another query. -/
def LookupFault.inNameOf (q : MemberQuery) : LookupFault → LookupFault
  | notFound _ => .notFound q
  | ambiguous _ candidates sources => .ambiguous q candidates sources

/-- Changes to documents alone, which leave their identity, change nothing else in an answer. -/
theorem answerOf_keepOnly (q q' : MemberQuery) (interface : String) (found : List Resolution) :
    answerOf q' (found.map (Resolution.keepOnly interface))
      = ((answerOf q found).map (Resolution.keepOnly interface)).mapError
          (LookupFault.inNameOf q') := by
  match found with
  | [] => rfl
  | [_] => rfl
  | r :: s :: rest =>
    show Except.error _ = Except.error _
    simp only [List.map_cons, List.map_map]
    rfl

/-! ## With an interface and without -/

section Choice

variable {documents : List InterfaceDocument} {name : String} {kind : MemberKind}

/-- With an interface nothing is found exactly if it is none of those that declare the member. -/
theorem locate_interface_notFound_iff {interface : String} :
    locate documents ⟨name, kind, some interface⟩
        = .error (.notFound ⟨name, kind, some interface⟩)
      ↔ interface ∉ (occurrences documents ⟨name, kind, none⟩).map fun r => r.interface.name := by
  rw [locate_eq_notFound_iff, occurrences_interface, List.filter_eq_nil_iff, List.mem_map]
  simp only [beq_iff_eq]
  exact ⟨fun h ⟨r, hr, hname⟩ => h r hr hname, fun h r hr hname => h ⟨r, hr, hname⟩⟩

/-- With one of those there is the one occurrence in it, or several. -/
theorem locate_interface_cases {interface : String}
    (h : interface ∈ (occurrences documents ⟨name, kind, none⟩).map fun r => r.interface.name) :
    (∃ r, locate documents ⟨name, kind, some interface⟩ = .ok r ∧ r.interface.name = interface)
      ∨ ∃ sources, locate documents ⟨name, kind, some interface⟩
          = .error (.ambiguous ⟨name, kind, some interface⟩ [interface] sources) := by
  have hanswer := answersFrom_occurrences documents ⟨name, kind, some interface⟩
  have hsome : occurrences documents ⟨name, kind, some interface⟩ ≠ [] := by
    rw [Ne, ← locate_eq_notFound_iff, locate_interface_notFound_iff]
    exact not_not.mpr h
  -- all that occurs there is of the one interface, so it is the only candidate
  have hfirst := firstAppearances_of_accepted rfl hsome
  by_cases hmany : 2 ≤ (occurrences documents ⟨name, kind, some interface⟩).length
  · exact .inr ⟨_, (hanswer.ambiguous _ _ _).mpr ⟨hmany, rfl, hfirst, rfl⟩⟩
  · have hone : (occurrences documents ⟨name, kind, some interface⟩).length = 1 := by
      have hpos := List.length_pos_iff.mpr hsome
      omega
    obtain ⟨r, hr⟩ := List.length_eq_one_iff.mp hone
    refine .inl ⟨r, (hanswer.located r).mpr hr, ?_⟩
    rw [hr] at hfirst
    simpa using (hfirst.mem_iff r.interface.name).mpr (by simp)

/-- What is located without an interface is located with its own, and nothing with any other. -/
theorem locate_interface_of_located {r : Resolution}
    (h : occurrences documents ⟨name, kind, none⟩ = [r]) :
    locate documents ⟨name, kind, some r.interface.name⟩ = .ok r
      ∧ ∀ interface, interface ≠ r.interface.name →
        locate documents ⟨name, kind, some interface⟩
          = .error (.notFound ⟨name, kind, some interface⟩) := by
  constructor
  · refine locate_of_occurrences_eq ?_
    rw [occurrences_interface, h]
    exact List.filter_cons_of_pos (beq_self_eq_true _)
  · intro interface hne
    rw [locate_interface_notFound_iff, h]
    simpa using hne

/-- The interfaces are the classes of the occurrences, and so are the documents found with one of them
the classes of all that are found. -/
theorem interleaves_answerSources {candidates : List String}
    (h : FirstAppearances
      ((occurrences documents ⟨name, kind, none⟩).map fun r => r.interface.name) candidates) :
    Interleaves
      (candidates.map fun c => answerSources (locate documents ⟨name, kind, some c⟩))
      ((occurrences documents ⟨name, kind, none⟩).map fun r => r.document.source) := by
  have hclasses := (Interleaves.classes h.nodup (fun r : Resolution => r.interface.name)
    fun r hr => (h.mem_iff _).mpr (List.mem_map_of_mem hr)).map fun r => r.document.source
  rw [List.map_map] at hclasses
  have hparts : ∀ c ∈ candidates, answerSources (locate documents ⟨name, kind, some c⟩)
      = ((occurrences documents ⟨name, kind, none⟩).filter
          fun r => r.interface.name == c).map fun r => r.document.source := by
    intro c _
    rw [locate, answerSources_answerOf, occurrences_interface]
  rw [List.map_congr_left hparts]
  exact hclasses

end Choice

/-- What look-ups with an interface have to do with the one without. -/
structure InterfaceSettles (documents : List InterfaceDocument) (name : String) (kind : MemberKind) :
    Prop where
  /-- A member that is located without an interface is located with its own, and with no other. -/
  located : ∀ r, locate documents ⟨name, kind, none⟩ = .ok r →
    locate documents ⟨name, kind, some r.interface.name⟩ = .ok r
      ∧ ∀ interface, interface ≠ r.interface.name →
        locate documents ⟨name, kind, some interface⟩
          = .error (.notFound ⟨name, kind, some interface⟩)
  notFound : locate documents ⟨name, kind, none⟩ = .error (.notFound ⟨name, kind, none⟩) →
    ∀ interface, locate documents ⟨name, kind, some interface⟩
      = .error (.notFound ⟨name, kind, some interface⟩)
  /-- No interface that is named leads nowhere, and no other leads anywhere. -/
  named : ∀ q candidates sources,
    locate documents ⟨name, kind, none⟩ = .error (.ambiguous q candidates sources) →
      ∀ interface, locate documents ⟨name, kind, some interface⟩
          = .error (.notFound ⟨name, kind, some interface⟩) ↔ interface ∉ candidates
  candidate : ∀ q candidates sources,
    locate documents ⟨name, kind, none⟩ = .error (.ambiguous q candidates sources) →
      ∀ c ∈ candidates,
        (∃ r, locate documents ⟨name, kind, some c⟩ = .ok r ∧ r.interface.name = c)
          ∨ ∃ sources, locate documents ⟨name, kind, some c⟩
              = .error (.ambiguous ⟨name, kind, some c⟩ [c] sources)
  /-- All occurrences are found again, each with one of the interfaces. -/
  sources : ∀ q candidates sources,
    locate documents ⟨name, kind, none⟩ = .error (.ambiguous q candidates sources) →
      let parts := candidates.map fun c => answerSources (locate documents ⟨name, kind, some c⟩)
      Interleaves parts sources ∧ (parts.map List.length).sum = sources.length
  /-- To give an interface is to take the others out of the documents. -/
  removal : ∀ interface,
    locate (documents.map (InterfaceDocument.keepOnly interface)) ⟨name, kind, none⟩
      = ((locate documents ⟨name, kind, some interface⟩).map
          (Resolution.keepOnly interface)).mapError (LookupFault.inNameOf ⟨name, kind, none⟩)

/-- **An interface settles what is left of the choice.** For all documents, names and kinds: what is
found without an interface is shared out among the interfaces, all those that are named lead to
something, and giving one has the effect of taking the others away. -/
theorem interface_settles_choice (documents : List InterfaceDocument) (name : String)
    (kind : MemberKind) : InterfaceSettles documents name kind := by
  have hanswer := answersFrom_occurrences documents ⟨name, kind, none⟩
  refine ⟨?_, ?_, ?_, ?_, ?_, ?_⟩
  · intro r hr
    exact locate_interface_of_located ((hanswer.located r).mp hr)
  · intro hnone interface
    rw [locate_interface_notFound_iff, locate_eq_notFound_iff.mp hnone]
    exact List.not_mem_nil
  · intro q candidates sources h interface
    obtain ⟨-, -, hfirst, -⟩ := (hanswer.ambiguous q candidates sources).mp h
    rw [locate_interface_notFound_iff, hfirst.mem_iff]
  · intro q candidates sources h c hc
    obtain ⟨-, -, hfirst, -⟩ := (hanswer.ambiguous q candidates sources).mp h
    exact locate_interface_cases ((hfirst.mem_iff c).mp hc)
  · intro q candidates sources h parts
    obtain ⟨-, -, hfirst, rfl⟩ := (hanswer.ambiguous q candidates sources).mp h
    have hparts := interleaves_answerSources hfirst
    exact ⟨hparts, hparts.sum_length⟩
  · intro interface
    rw [locate, occurrences_keepOnly]
    exact answerOf_keepOnly _ _ interface _

end BusContract
