import BusContract.Proofs.Shape.Unfolding
import Mathlib.Data.List.Perm.Subperm

/-!
# The depth of structs

Structs are spelled out inside structs that are kept in mind and are all different. Only declared
classes and the one struct that comes with the language have fields, so the depth that `Classes.wire`
starts with is never used up (`Nested.depth_eq_succ`).

The structs kept in mind do no harm either: a struct cannot be met inside itself on the way to a
signature, since it would then be longer than itself. Hence everything with a signature by the rules
of `Unfolds` is spelled out (`wire_eq_of_unfolds`), and `wire_eq_ok_iff` puts both directions together.
-/

namespace BusContract

/-! ## Classes that have fields -/

namespace ClassName

/-- No class that comes with the language has a mark for a proper ancestor. -/
theorem wireType_not_mem_knownAncestors (c : ClassName) : .wireType ∉ c.knownAncestors := by
  have hite : ∀ {p : Prop} [Decidable p] {a b : List ClassName}, .wireType ∉ a → .wireType ∉ b →
      .wireType ∉ if p then a else b := by
    intro p _ a b ha hb
    split
    · exact ha
    · exact hb
  unfold knownAncestors
  -- One list for each of the classes with ancestors.
  repeat refine hite (by decide) ?_
  exact List.not_mem_nil

/-- Only marks are marks, as long as no class is declared. -/
theorem eq_wireType_of_mem_knownLineage {c : ClassName} (h : .wireType ∈ c.knownLineage) :
    c = .wireType := by
  unfold knownLineage at h
  split at h
  next => exact (List.mem_singleton.mp h).symm
  next =>
    rcases List.mem_cons.mp h with h | h
    · exact h.symm
    · rcases List.mem_append.mp h with h | h
      · exact absurd h (wireType_not_mem_knownAncestors c)
      · exact absurd h (by decide)

end ClassName

namespace Classes

variable {classes : Classes} {c : ClassName}

/-- The classes that may have fields: the declared ones, and the marks that pin a signature. -/
def openable (classes : Classes) : List ClassName := .wireType :: classes.map (·.name)

/-- A class that cannot have fields has no entry. -/
theorem find?_eq_none (h : c ∉ classes.openable) : classes.find? (·.name == c) = none := by
  rw [List.find?_eq_none]
  intro declared hdeclared hname
  apply h
  rw [← eq_of_beq hname]
  exact List.mem_cons_of_mem _ (List.mem_map_of_mem hdeclared)

/-- Nothing that comes with the language keeps the fields of a record or named tuple, except for
marks. -/
theorem inherited_eq_none {α : Type} {ask : ClassInfo → Option α} (h : c ∉ classes.openable)
    (hask : ∀ d, d ≠ .wireType → ask (.known d) = none) : classes.inherited ask c = none := by
  rw [inherited, ancestry, find?_eq_none h, List.findSome?_eq_none_iff]
  intro info hinfo
  obtain ⟨d, hd, rfl⟩ := List.mem_map.mp hinfo
  apply hask
  rintro rfl
  apply h
  rw [ClassName.eq_wireType_of_mem_knownLineage hd]
  exact List.mem_cons_self

/-- Only a class that may have fields has types for them. -/
theorem mem_openable_of_fieldTypes {types : List Shape} (htypes : classes.fieldTypes c = .ok types)
    (hfields : types ≠ []) : c ∈ classes.openable := by
  -- a class that is nowhere declared has no fields at all
  by_contra h
  have hinfo : classes.info c = .known c := by rw [info, find?_eq_none h]; rfl
  have hrecord : classes.record? c = none :=
    inherited_eq_none h fun d hd => by simp [ClassInfo.known, hd]
  have htuple : classes.tuple? c = none := inherited_eq_none h fun d _ => rfl
  have hnames : classes.fieldNames c = [] := by rw [fieldNames, hrecord, htuple]; rfl
  have hmodel : (classes.info c).model.getD [] = [] := by
    rw [hinfo, ClassInfo.known]
    dsimp only
    split <;> rfl
  apply hfields
  unfold fieldTypes at htypes
  split at htypes
  · rw [hmodel] at htypes
    exact (Except.ok.inj htypes).symm
  · split at htypes
    · cases htypes
    · rw [hnames] at htypes
      exact (Except.ok.inj htypes).symm

end Classes

/-! ## Open structs -/

/-- The structs that are being spelled out, and how many more may be opened inside them. -/
structure Nested (classes : Classes) (within : List ClassName) (depth : Nat) : Prop where
  nodup : within.Nodup
  openable : within ⊆ classes.openable
  room : depth + within.length = classes.length + 2

namespace Nested

variable {classes : Classes} {within : List ClassName} {depth : Nat} {c : ClassName}

/-- At first no class is in another. -/
theorem nil (classes : Classes) : Nested classes [] (classes.length + 2) :=
  ⟨List.nodup_nil, List.nil_subset _, rfl⟩

/-- The depth is not used up: there are more levels than classes that may be open. -/
theorem depth_eq_succ (h : Nested classes within depth) : ∃ deeper, depth = deeper + 1 := by
  have hlength : within.length ≤ classes.openable.length :=
    (List.subperm_of_subset h.nodup h.openable).length_le
  have hopenable : classes.openable.length = classes.length + 1 := by
    rw [Classes.openable, List.length_cons, List.length_map]
  have hroom := h.room
  exact ⟨depth - 1, by omega⟩

/-- A struct that is not open may be opened. -/
theorem cons (h : Nested classes within (depth + 1)) (hc : c ∉ within)
    (hopenable : c ∈ classes.openable) : Nested classes (c :: within) depth where
  nodup := List.nodup_cons.mpr ⟨hc, h.nodup⟩
  openable := List.cons_subset.mpr ⟨hopenable, h.openable⟩
  room := by
    have hroom := h.room
    rw [List.length_cons]
    omega

end Nested

/-! ## What unfolds is spelled out -/

/-- What is spelled out for a subject of the rules, given the signatures of classes. -/
def Subject.wire (ofClass : ClassName → Wire) : Subject → Wire
  | .shape t => Wire.ofShape ofClass t
  | .row ts => Wire.concat (Wire.ofShapes ofClass ts)
  | .cls c => ofClass c

/-- Is a signature of this length shorter than that of each of the open structs? -/
def Fits (classes : Classes) (within : List ClassName) (length : Nat) : Prop :=
  ∀ d ∈ within, ∀ t, Unfolds classes (.cls d) t → length < t.length

/-- More room does no harm. -/
theorem Fits.mono {classes : Classes} {within : List ClassName} {m n : Nat}
    (h : Fits classes within n) (hle : m ≤ n) : Fits classes within m :=
  fun d hd t ht => Nat.lt_of_le_of_lt hle (h d hd t ht)

/-- Inside a struct only what is shorter than the struct fits. -/
theorem Fits.cons {classes : Classes} {within : List ClassName} {c : ClassName} {s : String}
    {n : Nat} (h : Fits classes within s.length) (hc : Unfolds classes (.cls c) s)
    (hlt : n < s.length) : Fits classes (c :: within) n := by
  intro d hd t ht
  rcases List.mem_cons.mp hd with rfl | hd
  · rw [← hc.unique ht]
    exact hlt
  · exact Nat.lt_trans hlt (h d hd t ht)

/-- Whatever follows from the rules is spelled out inside any structs that it fits in. Induction on
the derivation: the parts are no longer than the whole, and the fields of a struct are shorter. -/
theorem wire_eq_of_unfolds {classes : Classes} {subject : Subject} {s : String}
    (h : Unfolds classes subject s) :
    ∀ {within : List ClassName} {depth : Nat}, Nested classes within depth →
      Fits classes within s.length → subject.wire (classes.wireOf depth within) = .ok s := by
  -- A class that is not opened has its signature at every depth that is left.
  have hsimple : ∀ {within depth c t}, Nested classes within depth →
      classes.simple? c = some (.ok t) → classes.wireOf depth within c = .ok t := by
    intro within depth c t hnested h
    obtain ⟨deeper, rfl⟩ := hnested.depth_eq_succ
    exact Classes.wireOf_succ_eq_ok_iff.mpr (.inl h)
  induction h with
  | anything c h =>
    intro within depth _ _
    rw [Subject.wire, Wire.ofShape, if_pos h]
  | named c s hany hvariant hgeneric h ih =>
    intro within depth hnested hfits
    rw [Subject.wire, Wire.ofShape, if_neg (not_or.mpr ⟨hany, hvariant⟩), if_neg hgeneric]
    exact ih hnested hfits
  | pinned base marks s h =>
    intro within depth _ _
    rw [Subject.wire, Wire.ofShape, pinned?_eq_some_iff.mpr h]
  | unpinned base marks s hmarks h ih =>
    intro within depth hnested hfits
    rw [Subject.wire, Wire.ofShape, pinned?_eq_none_iff.mpr hmarks]
    exact ih hnested hfits
  | array head native origin element s horigin h ih =>
    intro within depth hnested hfits
    have helement := ih hnested (hfits.mono (by rw [String.length_append]; omega))
    exact (Wire.ofGeneric_array_eq_ok_iff horigin).mpr ⟨element, s, rfl, helement, rfl⟩
  | mapping head native origin key value k v horigin hkey hvalue ihkey ihvalue =>
    intro within depth hnested hfits
    have hk := ihkey hnested (hfits.mono (by simp only [String.length_append]; omega))
    have hv := ihvalue hnested (hfits.mono (by simp only [String.length_append]; omega))
    exact (Wire.ofGeneric_mapping_eq_ok_iff horigin).mpr ⟨key, value, k, v, rfl, hk, hv, rfl⟩
  | many head native origin element s horigin h ih =>
    intro within depth hnested hfits
    subst horigin
    have helement := ih hnested (hfits.mono (by rw [String.length_append]; omega))
    rw [Subject.wire, Wire.ofShape, Wire.ofGeneric_tuple_eq_ok_iff]
    exact .inl ⟨element, s, rfl, helement, rfl⟩
  | tuple head native origin args s horigin hargs hfixed h ih =>
    intro within depth hnested hfits
    subst horigin
    have hrow := ih hnested (hfits.mono (by simp only [String.length_append]; omega))
    rw [Subject.wire, Wire.ofShape, Wire.ofGeneric_tuple_eq_ok_iff]
    exact .inr ⟨hargs, hfixed, s, hrow, rfl⟩
  | nil => exact fun _ _ => rfl
  | cons first rest s more hfirst hrest ihfirst ihrest =>
    intro within depth hnested hfits
    have hs := ihfirst hnested (hfits.mono (by rw [String.length_append]; omega))
    have hmore := ihrest hnested (hfits.mono (by rw [String.length_append]; omega))
    exact Wire.concat_cons_eq_ok_iff.mpr ⟨s, more, hs, hmore, rfl⟩
  | explicit c s h => exact fun hnested _ => hsimple hnested (Classes.simple?_of_explicit h)
  | numbers c hexplicit henum h =>
    exact fun hnested _ => hsimple hnested (Classes.simple?_of_numbers hexplicit henum h)
  | texts c hexplicit henum hint h =>
    exact fun hnested _ => hsimple hnested (Classes.simple?_of_texts hexplicit henum hint h)
  | scalar c s hexplicit henum h =>
    exact fun hnested _ => hsimple hnested (Classes.simple?_of_scalar hexplicit henum h)
  | struct c types s hexplicit henum hscalar hstruct htypes hfields h ih =>
    intro within depth hnested hfits
    obtain ⟨deeper, rfl⟩ := hnested.depth_eq_succ
    have hc : Unfolds classes (.cls c) ("(" ++ s ++ ")") :=
      .struct c types s hexplicit henum hscalar hstruct htypes hfields h
    -- Were the struct open already, it would be shorter than itself.
    have hfresh : c ∉ within := fun hopen => Nat.lt_irrefl _ (hfits c hopen _ hc)
    have hshort : s.length < ("(" ++ s ++ ")").length := by
      rw [String.length_append, String.length_append]
      have hparenthesis : "(".length = 1 := rfl
      omega
    have hrow := ih (hnested.cons hfresh (Classes.mem_openable_of_fieldTypes htypes hfields))
      (hfits.cons hc hshort)
    have hopen := Classes.simple?_eq_none_iff.mpr ⟨hexplicit, henum, hscalar, hstruct⟩
    exact Classes.wireOf_succ_eq_ok_iff.mpr
      (.inr ⟨hopen, hfresh, types, s, htypes, hfields, hrow, rfl⟩)

/-- A shape has a signature exactly if the rules give it that one. -/
theorem wire_eq_ok_iff {classes : Classes} {t : Shape} {s : String} :
    classes.wire t = .ok s ↔ Unfolds classes (.shape t) s := by
  constructor
  · exact unfolds_of_ofShape (fun _ _ => unfolds_of_wireOf) t s
  · intro h
    exact wire_eq_of_unfolds h (Nested.nil classes) fun d hd => absurd hd List.not_mem_nil

end BusContract
