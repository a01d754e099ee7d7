import BusContract.Proofs.Lookup.Occurrences
import Mathlib.Data.List.Perm.Subperm

/-!
# More documents, in any order

The documents of a directory grow in number, and they can be handed over in any order. Neither may
change unnoticed what a look-up means. Documents that come first or last win nothing: all their
occurrences count, so a look-up that was settled either stays as it was or leaves the choice, and one
that left the choice goes on doing so.

The row of occurrences goes with the row of documents (`occurrences_perm`), so all of this is about
answers to rows of occurrences, one row being the other in another order with more behind it.

* `answerOf_outlasts`, `answerOf_sameUpToOrder`: what an answer becomes when the row of occurrences
  grows, and when it is only put in another order.
* **`locate_outlasts_growth`**: the same for look-ups in documents.
-/

namespace BusContract

variable {q : MemberQuery} {documents added documents' : List InterfaceDocument}

/-! ## Occurrences -/

/-- Further documents only add occurrences. -/
theorem occurrences_append (documents added : List InterfaceDocument) (q : MemberQuery) :
    occurrences (documents ++ added) q = occurrences documents q ++ occurrences added q :=
  List.flatMap_append

/-- The occurrences in the grown documents are the old ones and those in what was added, in some
order. -/
theorem occurrences_perm (h : documents'.Perm (documents ++ added)) (q : MemberQuery) :
    (occurrences documents' q).Perm (occurrences documents q ++ occurrences added q) := by
  rw [← occurrences_append]
  exact h.flatMap_right fun d => d.occurrences q

/-! ## Answers to rows of occurrences -/

/-- There is an answer exactly if there is one occurrence. -/
theorem answerOf_eq_ok_iff {found : List Resolution} {r : Resolution} :
    answerOf q found = .ok r ↔ found = [r] := by
  match found with
  | [] => simp [answerOf]
  | [s] => simp [answerOf]
  | _ :: _ :: _ => simp [answerOf]

/-- Of two or more none is preferred. -/
theorem answerOf_of_two_le {found : List Resolution} (h : 2 ≤ found.length) :
    answerOf q found
      = .error (.ambiguous q (found.map fun r => r.interface.name).eraseDups
          (found.map fun r => r.document.source)) := by
  match found with
  | _ :: _ :: _ => rfl

/-- What is ambiguous occurs at least twice. -/
theorem two_le_of_answerOf {found : List Resolution} {candidates sources : List String}
    (h : answerOf q found = .error (.ambiguous q candidates sources)) : 2 ≤ found.length := by
  match found with
  | [] => simp [answerOf] at h
  | [_] => simp [answerOf] at h
  | _ :: _ :: _ => simp

/-- What an answer may turn into when documents are added. A member that was located still is, or
the choice is left between it and others. Where the choice was left it still is, between all that
were named before. -/
structure Outlasts (q : MemberQuery) (before after : Except LookupFault Resolution) : Prop where
  located : ∀ r, before = .ok r → after = .ok r ∨ ∃ candidates sources,
    after = .error (.ambiguous q candidates sources)
      ∧ r.interface.name ∈ candidates ∧ r.document.source ∈ sources
  /-- A document that is named several times is named at least as many times afterwards. -/
  ambiguous : ∀ candidates sources, before = .error (.ambiguous q candidates sources) →
    ∃ candidates' sources', after = .error (.ambiguous q candidates' sources')
      ∧ candidates ⊆ candidates' ∧ sources.Subperm sources'

/-- The answers are the same but for the order in which they name interfaces and documents. -/
inductive SameUpToOrder : Except LookupFault Resolution → Except LookupFault Resolution → Prop where
  | located (r : Resolution) : SameUpToOrder (.ok r) (.ok r)
  | notFound (q : MemberQuery) : SameUpToOrder (.error (.notFound q)) (.error (.notFound q))
  | ambiguous (q : MemberQuery) {candidates candidates' sources sources' : List String}
      (hcandidates : candidates.Perm candidates') (hsources : sources.Perm sources') :
      SameUpToOrder (.error (.ambiguous q candidates sources))
        (.error (.ambiguous q candidates' sources'))

/-- In another order the same are left when repetitions are. -/
theorem eraseDups_perm {row row' : List String} (h : row.Perm row') :
    row.eraseDups.Perm row'.eraseDups := by
  have hrow := firstAppearances_eraseDups row
  have hrow' := firstAppearances_eraseDups row'
  refine (List.perm_ext_iff_of_nodup hrow.nodup hrow'.nodup).mpr fun name => ?_
  rw [hrow.mem_iff, hrow'.mem_iff, h.mem_iff]

/-- **Occurrences in another order** have the same answer up to order. -/
theorem answerOf_sameUpToOrder {found found' : List Resolution} (h : found.Perm found') :
    SameUpToOrder (answerOf q found) (answerOf q found') := by
  match found with
  | [] =>
    rw [h.nil_eq.symm]
    exact .notFound q
  | [r] =>
    rw [List.singleton_perm.mp h |>.symm]
    exact .located r
  | r :: s :: rest =>
    have hmany : 2 ≤ found'.length := by
      rw [← h.length_eq]
      simp
    rw [answerOf_of_two_le hmany]
    exact .ambiguous q (eraseDups_perm (h.map _)) (h.map _)

/-- The interface of each occurrence is a candidate. -/
theorem mem_candidates {found : List Resolution} {r : Resolution} (hr : r ∈ found) :
    r.interface.name ∈ (found.map fun r => r.interface.name).eraseDups :=
  ((firstAppearances_eraseDups _).mem_iff _).mpr (List.mem_map_of_mem hr)

/-- What was found alone is found alone again, or with others. -/
theorem answerOf_of_perm_singleton {r : Resolution} {more found' : List Resolution}
    (h : found'.Perm (r :: more)) :
    answerOf q found' = .ok r ∨ ∃ candidates sources,
      answerOf q found' = .error (.ambiguous q candidates sources)
        ∧ r.interface.name ∈ candidates ∧ r.document.source ∈ sources := by
  match more with
  | [] =>
    rw [List.perm_singleton.mp h]
    exact .inl rfl
  | s :: rest =>
    have hmany : 2 ≤ found'.length := by
      rw [h.length_eq]
      simp
    have hr : r ∈ found' := h.mem_iff.mpr List.mem_cons_self
    exact .inr ⟨_, _, answerOf_of_two_le hmany, mem_candidates hr, List.mem_map_of_mem hr⟩

/-- **Occurrences among more of them.** By the number of the old ones: none says nothing, one is found
alone or with others, and several remain several. -/
theorem answerOf_outlasts {found more found' : List Resolution} (h : found'.Perm (found ++ more)) :
    Outlasts q (answerOf q found) (answerOf q found') := by
  constructor
  · intro r hr
    obtain rfl := answerOf_eq_ok_iff.mp hr
    exact answerOf_of_perm_singleton h
  · intro candidates sources hbefore
    -- two occurrences stay two, in whatever order they come
    have hmany := two_le_of_answerOf hbefore
    have hmany' : 2 ≤ found'.length := by
      have hlength := h.length_eq
      rw [List.length_append] at hlength
      omega
    rw [answerOf_of_two_le hmany] at hbefore
    cases hbefore
    refine ⟨_, _, answerOf_of_two_le hmany', ?_, ?_⟩
    · intro name hname
      rw [(firstAppearances_eraseDups _).mem_iff, List.mem_map] at hname
      obtain ⟨r, hr, rfl⟩ := hname
      exact mem_candidates (h.mem_iff.mpr (List.mem_append_left more hr))
    · have hsources := (h.map fun r => r.document.source).symm
      rw [List.map_append] at hsources
      exact (List.sublist_append_left _ _).subperm.trans hsources.subperm

/-! ## Look-ups -/

/-- Nothing is found exactly if nothing occurs. -/
theorem locate_eq_notFound_iff :
    locate documents q = .error (.notFound q) ↔ occurrences documents q = [] := by
  rw [(answersFrom_occurrences documents q).notFound]
  simp

/-- **Look-ups outlast the growth of the documents.** The grown documents are the old ones and some
more, in any order. If the look-up finds nothing in what was added, and so if nothing was added, the
answer is the same up to the order of what it names. -/
theorem locate_outlasts_growth (q : MemberQuery) (documents added documents' : List InterfaceDocument)
    (h : documents'.Perm (documents ++ added)) :
    Outlasts q (locate documents q) (locate documents' q)
      ∧ (locate added q = .error (.notFound q) →
          SameUpToOrder (locate documents q) (locate documents' q))
      ∧ (added = [] → SameUpToOrder (locate documents q) (locate documents' q)) := by
  have hfound := occurrences_perm h q
  have hnothing : occurrences added q = [] →
      SameUpToOrder (locate documents q) (locate documents' q) := by
    intro hnone
    rw [hnone, List.append_nil] at hfound
    exact answerOf_sameUpToOrder hfound.symm
  refine ⟨answerOf_outlasts hfound, ?_, ?_⟩
  · intro hmissing
    exact hnothing (locate_eq_notFound_iff.mp hmissing)
  · rintro rfl
    exact hnothing rfl

/-- A document with one interface, which declares a signal. -/
def pingDocument (source interface : String) : InterfaceDocument :=
  ⟨source, none, [⟨interface, [], [⟨"Ping", [], []⟩], [], []⟩]⟩

/-- A second declaration in front of the first one leaves the choice. -/
theorem locate_pingDocuments :
    let documents := [pingDocument "x.xml" "org.example.X"]
    let added := [pingDocument "y.xml" "org.example.Y"]
    let grown := added ++ documents
    let q : MemberQuery := ⟨"Ping", .signal, none⟩
    grown.Perm (documents ++ added) ∧ (∃ r, locate documents q = .ok r) ∧ ∃ candidates sources,
      locate grown q = .error (.ambiguous q candidates sources)
        ∧ "org.example.X" ∈ candidates ∧ "x.xml" ∈ sources := by
  intro documents added grown q
  have hgrown : grown.Perm (documents ++ added) := List.perm_append_comm
  refine ⟨hgrown, ⟨_, rfl⟩, ?_⟩
  have h := (locate_outlasts_growth q documents added grown hgrown).1.located _ rfl
  rcases h with h | h
  · cases h
  · exact h

end BusContract
