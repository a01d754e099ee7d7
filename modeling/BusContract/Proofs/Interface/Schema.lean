import BusContract.Proofs.Interface.Described
import Mathlib.Tactic.MkIffOfInductiveProp

/-!
# The schema of introspection documents

Which trees are introspection documents can be said without reading them: what the elements have to
say, level by level. Of elements that are passed over nothing is asked. The tree is accepted exactly if
it is one (`ofElement_succeeds_iff`).

Where a fault would be reported, and in which order faults are looked for, does not matter to this. So
each reader is accounted for with any place and any usual direction.
-/

namespace BusContract

open Markup (Element)

/-! ## What elements have to say -/

/-- Does the element have the attribute? -/
def Markup.Element.Says (e : Element) (name : String) : Prop := (e.attribute? name).isSome

instance (e : Element) (name : String) : Decidable (e.Says name) :=
  inferInstanceAs (Decidable ((e.attribute? name).isSome = true))

/-- The annotations of an element have a name and a value each. -/
def HasSoundNotes (e : Element) : Prop :=
  ∀ note ∈ e.childrenNamed "annotation", note.Says "name" ∧ note.Says "value"

instance (e : Element) : Decidable (HasSoundNotes e) := List.decidableBAll _ _

/-- An argument has a type, and its direction is one of two words if it is given. -/
@[mk_iff]
structure IsSoundArg (e : Element) : Prop where
  type : e.Says "type"
  direction : ∀ word ∈ e.attribute? "direction", word = "in" ∨ word = "out"
  notes : HasSoundNotes e

instance (e : Element) : Decidable (IsSoundArg e) := decidable_of_iff _ (isSoundArg_iff e).symm

/-- A method or a signal has a name and sound arguments. -/
@[mk_iff]
structure IsSoundCallable (e : Element) : Prop where
  name : e.Says "name"
  args : ∀ arg ∈ e.childrenNamed "arg", IsSoundArg arg
  notes : HasSoundNotes e

instance (e : Element) : Decidable (IsSoundCallable e) :=
  decidable_of_iff _ (isSoundCallable_iff e).symm

/-- A property has a name and a type, and its access is one of three words if it is given. -/
@[mk_iff]
structure IsSoundProperty (e : Element) : Prop where
  name : e.Says "name"
  access : ∀ word ∈ e.attribute? "access", word = "read" ∨ word = "write" ∨ word = "readwrite"
  type : e.Says "type"
  notes : HasSoundNotes e

instance (e : Element) : Decidable (IsSoundProperty e) :=
  decidable_of_iff _ (isSoundProperty_iff e).symm

/-- An interface has a name and sound members. -/
@[mk_iff]
structure IsSoundInterface (e : Element) : Prop where
  name : e.Says "name"
  methods : ∀ child ∈ e.childrenNamed "method", IsSoundCallable child
  signals : ∀ child ∈ e.childrenNamed "signal", IsSoundCallable child
  properties : ∀ child ∈ e.childrenNamed "property", IsSoundProperty child
  notes : HasSoundNotes e

instance (e : Element) : Decidable (IsSoundInterface e) :=
  decidable_of_iff _ (isSoundInterface_iff e).symm

/-- The tree below the root is an introspection document. -/
@[mk_iff]
structure IsIntrospection (root : Element) : Prop where
  node : root.name = .plain "node"
  interfaces : ∀ child ∈ root.childrenNamed "interface", IsSoundInterface child

instance (root : Element) : Decidable (IsIntrospection root) :=
  decidable_of_iff _ (isIntrospection_iff root).symm

/-! ## What is accepted -/

namespace Introspection

variable {e : Element} {place : SchemaPlace}

/-- An attribute is read exactly if it is there. -/
theorem require_succeeds_iff {name : String} : Succeeds (require e name place) ↔ e.Says name := by
  unfold require Element.Says
  cases e.attribute? name with
  | none => exact iff_of_false nofun nofun
  | some value => exact iff_of_true ⟨value, rfl⟩ rfl

/-- Annotations are read exactly if each has a name and a value. -/
theorem readAnnotations_succeeds_iff : Succeeds (readAnnotations e place) ↔ HasSoundNotes e := by
  rw [readAnnotations, succeeds_bind_pure_iff, succeeds_mapM_iff]
  refine forall₂_congr fun note _ => ?_
  exact succeeds_bind_iff require_succeeds_iff fun _ =>
    succeeds_bind_pure_iff.trans require_succeeds_iff

/-- A direction that is said has to be one of the two. -/
theorem readDirection_succeeds_iff {usual : Option Direction} :
    Succeeds (readDirection e place usual) ↔
      ∀ word ∈ e.attribute? "direction", word = "in" ∨ word = "out" := by
  unfold readDirection
  cases e.attribute? "direction" with
  | none => exact iff_of_true ⟨usual, rfl⟩ nofun
  | some word =>
    simp only [Option.mem_some_iff, forall_eq']
    unfold Direction.ofWord?
    split_ifs with hin hout
    · exact iff_of_true ⟨_, rfl⟩ (.inl hin)
    · exact iff_of_true ⟨_, rfl⟩ (.inr hout)
    · exact iff_of_false nofun (not_or.mpr ⟨hin, hout⟩)

/-- An access that is said has to be one of the three. -/
theorem readAccess_succeeds_iff :
    Succeeds (readAccess e place) ↔
      ∀ word ∈ e.attribute? "access", word = "read" ∨ word = "write" ∨ word = "readwrite" := by
  unfold readAccess
  cases e.attribute? "access" with
  | none => exact iff_of_true ⟨.readWrite, rfl⟩ nofun
  | some word =>
    simp only [Option.mem_some_iff, forall_eq']
    unfold Access.ofWord?
    split_ifs with hread hwrite hboth
    · exact iff_of_true ⟨_, rfl⟩ (.inl hread)
    · exact iff_of_true ⟨_, rfl⟩ (.inr (.inl hwrite))
    · exact iff_of_true ⟨_, rfl⟩ (.inr (.inr hboth))
    · exact iff_of_false nofun (not_or.mpr ⟨hread, not_or.mpr ⟨hwrite, hboth⟩⟩)

/-- An argument is read exactly if it is sound. -/
theorem readArg_succeeds_iff {usual : Option Direction} :
    Succeeds (readArg place usual e) ↔ IsSoundArg e := by
  have hsteps : Succeeds (readArg place usual e) ↔
      (∀ word ∈ e.attribute? "direction", word = "in" ∨ word = "out")
        ∧ e.Says "type" ∧ HasSoundNotes e :=
    succeeds_bind_iff readDirection_succeeds_iff fun _ =>
      succeeds_bind_iff require_succeeds_iff fun _ =>
        succeeds_bind_pure_iff.trans readAnnotations_succeeds_iff
  rw [hsteps, isSoundArg_iff, and_left_comm]

/-- Arguments are accepted one by one, whatever their index. -/
theorem readArgsFrom_succeeds_iff {usual : Option Direction} {index : Nat} {es : List Element} :
    Succeeds (readArgsFrom place usual index es) ↔ ∀ e ∈ es, IsSoundArg e := by
  induction es generalizing index with
  | nil => exact iff_of_true ⟨[], rfl⟩ (List.forall_mem_nil _)
  | cons e rest ih =>
    rw [readArgsFrom, List.forall_mem_cons]
    exact succeeds_bind_iff readArg_succeeds_iff fun _ => succeeds_bind_pure_iff.trans ih

/-- Methods and signals are read alike, but for the usual direction and the place. -/
theorem callable_succeeds_iff {α : Type} {usual : Option Direction} {inMember : String → SchemaPlace}
    {make : String → List Arg → Annotations → α} :
    Succeeds (do
        let name ← require e "name" place
        let args ← readArgs e (inMember name) usual
        let annotations ← readAnnotations e (inMember name)
        return make name args annotations)
      ↔ IsSoundCallable e := by
  rw [isSoundCallable_iff]
  exact succeeds_bind_iff require_succeeds_iff fun _ =>
    succeeds_bind_iff readArgsFrom_succeeds_iff fun _ =>
      succeeds_bind_pure_iff.trans readAnnotations_succeeds_iff

/-- A method is read exactly if it is sound. -/
theorem readMethod_succeeds_iff : Succeeds (readMethod place e) ↔ IsSoundCallable e :=
  callable_succeeds_iff

/-- A signal is read exactly if it is sound. -/
theorem readSignal_succeeds_iff : Succeeds (readSignal place e) ↔ IsSoundCallable e :=
  callable_succeeds_iff

/-- A property is read exactly if it is sound. -/
theorem readProperty_succeeds_iff : Succeeds (readProperty place e) ↔ IsSoundProperty e := by
  rw [isSoundProperty_iff]
  exact succeeds_bind_iff require_succeeds_iff fun _ =>
    succeeds_bind_iff readAccess_succeeds_iff fun _ =>
      succeeds_bind_iff require_succeeds_iff fun _ =>
        succeeds_bind_pure_iff.trans readAnnotations_succeeds_iff

/-- An interface is read exactly if all in it is sound. -/
theorem readInterface_succeeds_iff : Succeeds (readInterface place e) ↔ IsSoundInterface e := by
  rw [isSoundInterface_iff]
  -- the members of a kind are accepted one by one
  have hall {α : Type} {read : Element → Except SchemaFault α} {IsSound : Element → Prop}
      (h : ∀ child, Succeeds (read child) ↔ IsSound child) (es : List Element) :
      Succeeds (es.mapM read) ↔ ∀ child ∈ es, IsSound child :=
    succeeds_mapM_iff.trans (forall₂_congr fun child _ => h child)
  exact succeeds_bind_iff require_succeeds_iff fun _ =>
    succeeds_bind_iff (hall (fun _ => readMethod_succeeds_iff) _) fun _ =>
      succeeds_bind_iff (hall (fun _ => readSignal_succeeds_iff) _) fun _ =>
        succeeds_bind_iff (hall (fun _ => readProperty_succeeds_iff) _) fun _ =>
          succeeds_bind_pure_iff.trans readAnnotations_succeeds_iff

/-- **Exactly the introspection documents are accepted.** -/
theorem ofElement_succeeds_iff {source : String} {root : Element} :
    Succeeds (ofElement source root) ↔ IsIntrospection root := by
  rw [isIntrospection_iff]
  by_cases hnode : root.name = .plain "node"
  · have hread : ofElement source root = do
        let interfaces ← (root.childrenNamed "interface").mapM (readInterface (.document source))
        return ⟨source, root.attribute? "name", interfaces⟩ := by
      rw [ofElement, if_neg (not_not.mpr hnode)]
    rw [hread, succeeds_bind_pure_iff, succeeds_mapM_iff]
    simp only [readInterface_succeeds_iff, hnode, true_and]
  · have hread : ofElement source root = .error (.wrongRoot source root.name.render) := by
      rw [ofElement, if_pos hnode]
      rfl
    rw [hread]
    exact iff_of_false nofun fun h => hnode h.1

/-- Any other tree is refused. -/
theorem ofElement_eq_error_iff {source : String} {root : Element} :
    (∃ fault, ofElement source root = .error fault) ↔ ¬ IsIntrospection root :=
  not_succeeds_iff.symm.trans ofElement_succeeds_iff.not

end Introspection

/-- An argument without a type is passed over where its node is. -/
example :
    let bare (name : String) (children : List Element) : Element := .mk (.plain name) [] children
    let hidden := bare "node" [bare "interface" [bare "method" [bare "arg" []]]]
    IsIntrospection (bare "node" [hidden]) ∧ ¬ IsIntrospection hidden := by
  decide

end BusContract
