import BusContract.Proofs.Lookup.Resolution
import Mathlib.Data.List.Forall2
import Mathlib.Data.List.Sort

/-!
# What a look-up answers from

An occurrence has a place: the position of the document, that of the interface in the document, and
that of the member among those of its kind. Which places hold an occurrence is said by `OccursAt`
without any search. A look-up answers from the list of them all, earlier places first
(`ListsOccurrences`), and there is only one such list.

Of several occurrences it tells the documents one by one, and each name of an interface at its first
appearance (`FirstAppearances`).

* `listsInOrder_occurrences`: the search finds what stands at the places, in their order.
* **`locate_exact`**: the answer, by the number of occurrences.
-/

namespace BusContract

/-! ## Rows in the order of places -/

/-- The row holds what stands at the places: of earlier places first, of each place once, and of all
of them. -/
def ListsInOrder {κ β : Type} (before : κ → κ → Prop) (stands : κ → β → Prop) (row : List β) :
    Prop :=
  ∃ places, places.Pairwise before ∧ List.Forall₂ stands places row
    ∧ ∀ place x, stands place x → place ∈ places

section ListsInOrder

variable {α β κ : Type} {before : κ → κ → Prop} {stands : κ → β → Prop}

/-- There is one such row, if places are ordered and hold one thing each. -/
theorem ListsInOrder.unique [Std.Antisymm before] [Std.Irrefl before] {row row' : List β}
    (hone : ∀ place x y, stands place x → stands place y → x = y)
    (h : ListsInOrder before stands row) (h' : ListsInOrder before stands row') : row = row' := by
  obtain ⟨places, hsorted, hrow, hall⟩ := h
  obtain ⟨places', hsorted', hrow', hall'⟩ := h'
  have hmem : ∀ place, place ∈ places ↔ place ∈ places' := by
    intro place
    constructor
    · intro hplace
      obtain ⟨x, hx⟩ := exists_of_mem_of_forall₂ hrow hplace
      exact hall' place x hx
    · intro hplace
      obtain ⟨x, hx⟩ := exists_of_mem_of_forall₂ hrow' hplace
      exact hall place x hx
  -- the places are the same in both, and each holds one thing
  obtain rfl := hsorted.eq_of_mem_iff hsorted' hmem
  clear hsorted hsorted' hall hall' hmem
  induction hrow generalizing row' with
  | nil =>
    cases hrow' with
    | nil => rfl
  | cons hx _ ih =>
    cases hrow' with
    | cons hy hrest' => rw [hone _ _ _ hx hy, ih hrest']

/-- What passes a test stands at the positions of what passes it. -/
theorem listsInOrder_filter_map (accept : α → Bool) (f : α → β) (xs : List α) :
    ListsInOrder (· < ·) (fun (n : Nat) y => ∃ x, xs[n]? = some x ∧ accept x = true ∧ y = f x)
      ((xs.filter accept).map f) := by
  induction xs with
  | nil => exact ⟨[], .nil, .nil, fun _ _ ⟨_, h, _⟩ => by simp at h⟩
  | cons x xs ih =>
    obtain ⟨places, hsorted, hrow, hall⟩ := ih
    -- the places of the rest move one up
    have hsorted' : (places.map (· + 1)).Pairwise (· < ·) :=
      List.pairwise_map.mpr (hsorted.imp fun hlt => Nat.succ_lt_succ hlt)
    by_cases hx : accept x = true
    · refine ⟨0 :: places.map (· + 1), ?_, ?_, ?_⟩
      · exact List.pairwise_cons.mpr ⟨by simp, hsorted'⟩
      · rw [List.filter_cons_of_pos hx, List.map_cons]
        exact .cons ⟨x, rfl, hx, rfl⟩ (List.forall₂_map_left_iff.mpr hrow)
      · rintro (_ | n) y hy
        · exact List.mem_cons_self
        · exact List.mem_cons_of_mem _ (List.mem_map_of_mem (hall n y hy))
    · refine ⟨places.map (· + 1), hsorted', ?_, ?_⟩
      · rw [List.filter_cons_of_neg hx]
        exact List.forall₂_map_left_iff.mpr hrow
      · rintro (_ | n) y ⟨x', hx', haccept, hy⟩
        · obtain rfl : x = x' := Option.some.inj hx'
          exact absurd haccept hx
        · exact List.mem_map_of_mem (hall n y ⟨x', hx', haccept, hy⟩)

/-- Rows one after the other: a place in the whole is the position of a row and a place in it. -/
theorem listsInOrder_filter_flatMap {stands : α → κ → β → Prop} (accept : α → Bool)
    {f : α → List β} (hf : ∀ x, ListsInOrder before (stands x) (f x)) (xs : List α) :
    ListsInOrder (Prod.Lex (· < ·) before)
      (fun (place : Nat × κ) y =>
        ∃ x, xs[place.1]? = some x ∧ accept x = true ∧ stands x place.2 y)
      ((xs.filter accept).flatMap f) := by
  induction xs with
  | nil => exact ⟨[], .nil, .nil, fun _ _ ⟨_, h, _⟩ => by simp at h⟩
  | cons x xs ih =>
    obtain ⟨places, hsorted, hrow, hall⟩ := ih
    have hsorted' : (places.map fun place => (place.1 + 1, place.2)).Pairwise
        (Prod.Lex (· < ·) before) := by
      refine List.pairwise_map.mpr (hsorted.imp ?_)
      intro p q hlt
      rw [Prod.lex_def] at hlt ⊢
      exact hlt.imp Nat.succ_lt_succ fun ⟨heq, hk⟩ => ⟨congrArg (· + 1) heq, hk⟩
    by_cases hx : accept x = true
    · -- the places in the first row come before all others
      obtain ⟨inner, hinner, hfirst, hinnerAll⟩ := hf x
      refine ⟨inner.map (fun k => (0, k)) ++ places.map (fun place => (place.1 + 1, place.2)),
        ?_, ?_, ?_⟩
      · refine List.pairwise_append.mpr ⟨?_, hsorted', ?_⟩
        · exact List.pairwise_map.mpr (hinner.imp fun hlt => .right 0 hlt)
        · simp only [List.mem_map]
          rintro _ ⟨k, -, rfl⟩ _ ⟨⟨n, k'⟩, -, rfl⟩
          exact .left k k' (Nat.succ_pos n)
      · rw [List.filter_cons_of_pos hx, List.flatMap_cons]
        refine List.rel_append ?_ (List.forall₂_map_left_iff.mpr hrow)
        exact List.forall₂_map_left_iff.mpr (hfirst.imp fun k y hy => ⟨x, rfl, hx, hy⟩)
      · rintro ⟨_ | n, k⟩ y ⟨x', hx', haccept, hy⟩
        · obtain rfl : x = x' := Option.some.inj hx'
          exact List.mem_append_left _ (List.mem_map_of_mem (hinnerAll k y hy))
        · have hlater := List.mem_map_of_mem (f := fun place => (place.1 + 1, place.2))
            (hall (n, k) y ⟨x', hx', haccept, hy⟩)
          exact List.mem_append_right _ hlater
    · refine ⟨_, hsorted', ?_, ?_⟩
      · rw [List.filter_cons_of_neg hx]
        exact List.forall₂_map_left_iff.mpr hrow
      · rintro ⟨_ | n, k⟩ y ⟨x', hx', haccept, hy⟩
        · obtain rfl : x = x' := Option.some.inj hx'
          exact absurd haccept hx
        · exact List.mem_map_of_mem (f := fun place => (place.1 + 1, place.2))
            (hall (n, k) y ⟨x', hx', haccept, hy⟩)

end ListsInOrder

/-! ## Occurrences -/

/-- The position of a document, that of an interface in it, and that of a member among those of its
kind on the interface. -/
abbrev MemberPlace := Nat × Nat × Nat

/-- Places in order: that of the documents, then that of the interfaces, then that of the members. -/
abbrev MemberPlace.Before : MemberPlace → MemberPlace → Prop :=
  Prod.Lex (· < ·) (Prod.Lex (· < ·) (· < ·))

/-- Is this what the query asks for, and does it stand at the place? -/
structure OccursAt (documents : List InterfaceDocument) (q : MemberQuery) (place : MemberPlace)
    (r : Resolution) : Prop where
  document : documents[place.1]? = some r.document
  interface : r.document.interfaces[place.2.1]? = some r.interface
  member : (r.interface.members q.kind)[place.2.2]? = some r.member
  named : r.member.name = q.name
  accepted : ∀ name, q.interface = some name → r.interface.name = name

/-- The list of all occurrences in order. -/
def ListsOccurrences (documents : List InterfaceDocument) (q : MemberQuery) :
    List Resolution → Prop :=
  ListsInOrder MemberPlace.Before (OccursAt documents q)

variable {documents : List InterfaceDocument} {q : MemberQuery}

/-- An interface is accepted unless another one was given. -/
theorem accepts_eq_true_iff {i : Interface} :
    q.accepts i = true ↔ ∀ name, q.interface = some name → i.name = name := by
  rw [MemberQuery.accepts]
  cases q.interface <;> simp

/-- **The search finds all occurrences in order.** -/
theorem listsInOrder_occurrences (documents : List InterfaceDocument) (q : MemberQuery) :
    ListsOccurrences documents q (occurrences documents q) := by
  -- from the inside out: the members of an interface, the interfaces of a document, the documents
  have hmembers (d : InterfaceDocument) (i : Interface) :=
    listsInOrder_filter_map (fun member : Member => member.name == q.name) (Resolution.mk d i)
      (i.members q.kind)
  have hinterfaces (d : InterfaceDocument) :=
    listsInOrder_filter_flatMap q.accepts (hmembers d) d.interfaces
  have hdocuments := listsInOrder_filter_flatMap (fun _ => true) hinterfaces documents
  rw [List.filter_true] at hdocuments
  obtain ⟨places, hsorted, hrow, hall⟩ := hdocuments
  refine ⟨places, hsorted, hrow.imp ?_, ?_⟩
  · rintro ⟨a, b, c⟩ r ⟨d, hd, -, i, hi, haccepts, m, hm, hname, rfl⟩
    exact ⟨hd, hi, hm, eq_of_beq hname, accepts_eq_true_iff.mp haccepts⟩
  · rintro ⟨a, b, c⟩ r ⟨hd, hi, hm, hname, haccepted⟩
    exact hall (a, b, c) r ⟨_, hd, rfl, _, hi, accepts_eq_true_iff.mpr haccepted, _, hm,
      beq_iff_eq.mpr hname, rfl⟩

/-- A place holds one occurrence at most. -/
theorem OccursAt.unique {place : MemberPlace} {r r' : Resolution}
    (h : OccursAt documents q place r) (h' : OccursAt documents q place r') : r = r' := by
  obtain ⟨d, i, m⟩ := r
  obtain ⟨d', i', m'⟩ := r'
  obtain rfl : d = d' := Option.some.inj (h.document.symm.trans h'.document)
  obtain rfl : i = i' := Option.some.inj (h.interface.symm.trans h'.interface)
  obtain rfl : m = m' := Option.some.inj (h.member.symm.trans h'.member)
  rfl

/-- The list of occurrences is the only one that is complete and in order. -/
theorem listsOccurrences_iff {found : List Resolution} :
    ListsOccurrences documents q found ↔ found = occurrences documents q := by
  constructor
  · intro h
    have hone : ∀ place r r', OccursAt documents q place r → OccursAt documents q place r' → r = r' :=
      fun _ _ _ h h' => h.unique h'
    exact ListsInOrder.unique hone h (listsInOrder_occurrences documents q)
  · rintro rfl
    exact listsInOrder_occurrences documents q

/-- What is listed occurs somewhere. -/
theorem occursAt_of_mem_occurrences {r : Resolution} (h : r ∈ occurrences documents q) :
    ∃ place, OccursAt documents q place r := by
  obtain ⟨places, -, hrow, -⟩ := listsInOrder_occurrences documents q
  obtain ⟨place, hplace⟩ := exists_of_mem_of_forall₂ hrow.flip h
  exact ⟨place, hplace⟩

/-! ## Names at their first appearance -/

/-- The names of a row, each once, by where it appears first. -/
structure FirstAppearances (row names : List String) : Prop where
  nodup : names.Nodup
  mem_iff : ∀ name, name ∈ names ↔ name ∈ row
  inOrder : names.Pairwise fun a b => row.idxOf a < row.idxOf b

/-- Names that pass a test keep the order of their first appearances. -/
theorem idxOf_lt_of_filter {row : List String} {accept : String → Bool} {a b : String}
    (ha : accept a = true) (hb : accept b = true)
    (h : (row.filter accept).idxOf a < (row.filter accept).idxOf b) :
    row.idxOf a < row.idxOf b := by
  induction row with
  | nil => exact absurd h (Nat.lt_irrefl _)
  | cons c row ih =>
    by_cases hc : accept c = true
    · rw [List.filter_cons_of_pos hc] at h
      rw [List.idxOf_cons, List.idxOf_cons] at h ⊢
      cases hcb : c == b with
      | true => simp [hcb] at h
      | false =>
        cases hca : c == a with
        | true => simp
        | false =>
          rw [hcb, hca] at h
          exact Nat.succ_lt_succ (ih (Nat.lt_of_succ_lt_succ h))
    · -- a name that fails the test is neither of the two
      rw [List.filter_cons_of_neg hc] at h
      have hca : c ≠ a := by rintro rfl; exact hc ha
      have hcb : c ≠ b := by rintro rfl; exact hc hb
      rw [List.idxOf_cons_ne row hca, List.idxOf_cons_ne row hcb]
      exact Nat.succ_lt_succ (ih h)

/-- Repetitions are dropped behind the first appearance. A name is followed by what is left of the
rest without it, which is shorter. -/
theorem firstAppearances_eraseDups (row : List String) : FirstAppearances row row.eraseDups := by
  cases row with
  | nil => exact ⟨.nil, fun _ => Iff.rfl, .nil⟩
  | cons a row =>
    obtain ⟨hnodup, hmem, horder⟩ := firstAppearances_eraseDups (row.filter fun b => !b == a)
    have hpasses : ∀ b ∈ (row.filter fun b => !b == a).eraseDups, (!b == a) = true :=
      fun b hb => (List.mem_filter.mp ((hmem b).mp hb)).2
    have hne : ∀ b ∈ (row.filter fun b => !b == a).eraseDups, a ≠ b := by
      rintro b hb rfl
      simpa using hpasses a hb
    -- the head comes first; the others keep their order in the row without it
    rw [List.eraseDups_cons]
    refine ⟨List.nodup_cons.mpr ⟨fun ha => hne a ha rfl, hnodup⟩, ?_, List.pairwise_cons.mpr ⟨?_, ?_⟩⟩
    · intro name
      rw [← List.eraseDups_cons, List.mem_eraseDups]
    · intro b hb
      rw [List.idxOf_cons_self, List.idxOf_cons_ne row (hne b hb)]
      exact Nat.succ_pos _
    · refine horder.imp_of_mem ?_
      intro b c hb hc hlt
      rw [List.idxOf_cons_ne row (hne b hb), List.idxOf_cons_ne row (hne c hc)]
      exact Nat.succ_lt_succ (idxOf_lt_of_filter (hpasses b hb) (hpasses c hc) hlt)
termination_by row.length
decreasing_by
  have hle := List.length_filter_le (fun b => !b == a) row
  rw [List.length_cons]
  omega

/-- Where names appear first settles their order. -/
theorem FirstAppearances.unique {row names names' : List String} (h : FirstAppearances row names)
    (h' : FirstAppearances row names') : names = names' := by
  have : Std.Antisymm fun a b => row.idxOf a < row.idxOf b :=
    ⟨fun _ _ hab hba => absurd hba (Nat.lt_asymm hab)⟩
  have : Std.Irrefl fun a b => row.idxOf a < row.idxOf b := ⟨fun _ => Nat.lt_irrefl _⟩
  exact h.inOrder.eq_of_mem_iff h'.inOrder fun name => (h.mem_iff name).trans (h'.mem_iff name).symm

/-- All occurrences on an interface are on that one. -/
theorem firstAppearances_of_accepted {interface : String} (hq : q.interface = some interface)
    (hsome : occurrences documents q ≠ []) :
    FirstAppearances ((occurrences documents q).map fun r => r.interface.name) [interface] := by
  have hall : ∀ r ∈ occurrences documents q, r.interface.name = interface := by
    intro r hr
    obtain ⟨place, hplace⟩ := occursAt_of_mem_occurrences hr
    exact hplace.accepted interface hq
  refine ⟨List.nodup_singleton _, ?_, List.pairwise_singleton _ _⟩
  intro name
  rw [List.mem_singleton, List.mem_map]
  constructor
  · rintro rfl
    obtain ⟨r, hr⟩ := List.exists_mem_of_ne_nil _ hsome
    exact ⟨r, hr, hall r hr⟩
  · rintro ⟨r, hr, rfl⟩
    exact hall r hr

/-! ## The answer -/

/-- How the answer to a query follows from the list of all occurrences. -/
structure AnswersFrom (documents : List InterfaceDocument) (q : MemberQuery)
    (found : List Resolution) : Prop where
  located : ∀ r, locate documents q = .ok r ↔ found = [r]
  notFound : ∀ q', locate documents q = .error (.notFound q') ↔ found = [] ∧ q' = q
  /-- One source for each occurrence, and the names of the interfaces without repetition. -/
  ambiguous : ∀ q' candidates sources,
    locate documents q = .error (.ambiguous q' candidates sources) ↔
      2 ≤ found.length ∧ q' = q
        ∧ FirstAppearances (found.map fun r => r.interface.name) candidates
        ∧ sources = found.map fun r => r.document.source

/-- The answer says what is in the list, in its order. -/
theorem answersFrom_occurrences (documents : List InterfaceDocument) (q : MemberQuery) :
    AnswersFrom documents q (occurrences documents q) := by
  have hlocate : locate documents q = answerOf q (occurrences documents q) := rfl
  generalize occurrences documents q = found at hlocate
  -- none, one or several: the three outcomes of a look-up
  match found with
  | [] =>
    have hlocate : locate documents q = .error (.notFound q) := hlocate
    refine ⟨?_, ?_, ?_⟩ <;> simp [hlocate, eq_comm]
  | [r] =>
    have hlocate : locate documents q = .ok r := hlocate
    refine ⟨?_, ?_, ?_⟩ <;> simp [hlocate]
  | r :: r' :: rest =>
    have hlocate : locate documents q = .error (.ambiguous q _ _) := hlocate
    have hfirst := firstAppearances_eraseDups ((r :: r' :: rest).map fun r => r.interface.name)
    refine ⟨?_, ?_, ?_⟩
    · simp [hlocate]
    · simp [hlocate]
    · intro q' candidates sources
      rw [hlocate, Except.error.injEq, LookupFault.ambiguous.injEq]
      constructor
      · rintro ⟨rfl, rfl, rfl⟩
        exact ⟨by simp, rfl, hfirst, rfl⟩
      · rintro ⟨-, rfl, hcandidates, rfl⟩
        exact ⟨rfl, hfirst.unique hcandidates, rfl⟩

/-- A fault that leaves the choice names at least one interface. -/
theorem candidates_ne_nil {q' : MemberQuery} {candidates sources : List String}
    (h : locate documents q = .error (.ambiguous q' candidates sources)) : candidates ≠ [] := by
  obtain ⟨hmany, -, hfirst, -⟩ := ((answersFrom_occurrences documents q).ambiguous _ _ _).mp h
  rintro rfl
  have hnone : ∀ name, name ∉ (occurrences documents q).map fun r => r.interface.name :=
    fun name hname => List.not_mem_nil ((hfirst.mem_iff name).mpr hname)
  have hnil := List.eq_nil_iff_forall_not_mem.mpr hnone
  rw [List.map_eq_nil_iff.mp hnil] at hmany
  exact absurd hmany (by decide)

/-- A member that one interface declares twice. -/
def twiceDeclared : InterfaceDocument :=
  let ping : Signal := ⟨"Ping", [], []⟩
  ⟨"twice.xml", none, [⟨"org.example.Twice", [], [ping, ping], [], []⟩]⟩

/-- **Look-ups are exact.** For all documents and queries there is one list of all occurrences in
order, and the answer follows from it. Where it leaves the choice it names some interface, and it may
name a single one. -/
theorem locate_exact :
    (∀ documents q, ∃ found, (∀ row, ListsOccurrences documents q row ↔ row = found)
        ∧ AnswersFrom documents q found)
      ∧ (∀ documents q q' candidates sources,
        locate documents q = .error (.ambiguous q' candidates sources) → candidates ≠ [])
      ∧ ∃ documents q candidate sources,
        locate documents q = .error (.ambiguous q [candidate] sources) := by
  refine ⟨?_, ?_, ?_⟩
  · intro documents q
    exact ⟨occurrences documents q, fun _ => listsOccurrences_iff, answersFrom_occurrences documents q⟩
  · intro documents q q' candidates sources h
    exact candidates_ne_nil h
  · exact ⟨[twiceDeclared], ⟨"Ping", .signal, none⟩, "org.example.Twice",
      ["twice.xml", "twice.xml"], rfl⟩

end BusContract
