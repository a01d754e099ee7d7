import BusContract.Interface.Introspection
import BusContract.Proofs.Outcomes

/-!
# What an accepted tree says

A tree that is accepted as an introspection document has all the attributes that its declarations
need, and says each thing the document says. For each level there is a relation between an element
and what is read from it, and one lemma: what the reader gives is so related to its element. Elements
and declarations correspond one to one and in order.

The usual direction of arguments is where methods and signals differ: an argument of a method that
says nothing goes to the callee, one of a signal is left open.
-/

namespace BusContract

open Markup (Element)

/-! ## Attributes -/

/-- The value of an attribute. An attribute that is not there counts for nothing. -/
def Markup.Element.textOf (e : Element) (name : String) : String := (e.attribute? name).getD ""

/-- The text of an attribute that is there. -/
theorem textOf_of_attribute? {e : Element} {name value : String}
    (h : e.attribute? name = some value) : e.textOf name = value := by
  rw [Markup.Element.textOf, h, Option.getD_some]

/-! ## Relations -/

/-- What an argument element says about the direction, where it may say nothing. -/
inductive SaysDirection (usual : Option Direction) (e : Element) : Option Direction → Prop where
  | nothing (h : e.attribute? "direction" = none) : SaysDirection usual e usual
  | word (direction : Direction) (h : e.attribute? "direction" = some direction.word) :
      SaysDirection usual e (some direction)

/-- The element declares the argument. -/
structure DeclaresArg (usual : Option Direction) (e : Element) (arg : Arg) : Prop where
  signature : e.attribute? "type" = some arg.signature
  direction : SaysDirection usual e arg.direction

/-- The arguments of an element, in order. -/
abbrev DeclaresArgs (usual : Option Direction) (e : Element) (args : List Arg) : Prop :=
  List.Forall₂ (DeclaresArg usual) (e.childrenNamed "arg") args

/-- The element declares the member. -/
inductive DeclaresMember (e : Element) : MemberKind → Member → Prop where
  | method (m : Method) (hname : e.attribute? "name" = some m.name)
      (hargs : DeclaresArgs (some .toCallee) e m.args) : DeclaresMember e .method (.method m)
  | signal (s : Signal) (hname : e.attribute? "name" = some s.name)
      (hargs : DeclaresArgs none e s.args) : DeclaresMember e .signal (.signal s)
  | property (p : Property) (hname : e.attribute? "name" = some p.name)
      (htype : e.attribute? "type" = some p.signature) : DeclaresMember e .property (.property p)

/-- The element declares the interface. -/
structure DeclaresInterface (e : Element) (i : Interface) : Prop where
  name : e.attribute? "name" = some i.name
  members : ∀ kind : MemberKind,
    List.Forall₂ (DeclaresMember · kind) (e.childrenNamed kind.word) (i.members kind)

/-- The tree below the root describes the document. -/
structure Describes (source : String) (root : Element) (d : InterfaceDocument) : Prop where
  node : root.name = .plain "node"
  source : d.source = source
  interfaces : List.Forall₂ DeclaresInterface (root.childrenNamed "interface") d.interfaces

/-- A member has the name that its element says. -/
theorem DeclaresMember.name {e : Element} {kind : MemberKind} {member : Member}
    (h : DeclaresMember e kind member) : e.attribute? "name" = some member.name := by
  cases h with
  | method _ hname _ => exact hname
  | signal _ hname _ => exact hname
  | property _ hname _ => exact hname

/-! ## Readers -/

namespace Introspection

variable {e : Element} {place : SchemaPlace}

/-- An attribute that is read is there. -/
theorem attribute?_of_require {name value : String} (h : require e name place = .ok value) :
    e.attribute? name = some value := by
  unfold require at h
  split at h
  · next found hfound =>
    obtain rfl : found = value := Except.ok.inj h
    exact hfound
  · cases h

/-- A direction is read from its word. -/
theorem word_of_ofWord? {word : String} {direction : Direction}
    (h : Direction.ofWord? word = some direction) : word = direction.word := by
  unfold Direction.ofWord? at h
  split at h
  · next hword =>
    obtain rfl := Option.some.inj h
    exact hword
  · split at h
    · next hword =>
      obtain rfl := Option.some.inj h
      exact hword
    · cases h

/-- A direction is the one that is said, or else the usual one. -/
theorem saysDirection_of_readDirection {usual direction : Option Direction}
    (h : readDirection e place usual = .ok direction) : SaysDirection usual e direction := by
  unfold readDirection at h
  split at h
  · next hnone =>
    -- the usual direction counts only here
    obtain rfl := Except.ok.inj h
    exact .nothing hnone
  · next word hsome =>
    split at h
    · next given hword =>
      obtain rfl := Except.ok.inj h
      rw [word_of_ofWord? hword] at hsome
      exact .word given hsome
    · cases h

/-- An argument is what its element says. -/
theorem declaresArg_of_readArg {usual : Option Direction} {arg : Arg}
    (h : readArg place usual e = .ok arg) : DeclaresArg usual e arg := by
  rw [readArg, bind_eq_ok_iff] at h
  obtain ⟨direction, hdirection, h⟩ := h
  rw [bind_eq_ok_iff] at h
  obtain ⟨signature, hsignature, h⟩ := h
  rw [bind_eq_ok_iff] at h
  obtain ⟨annotations, -, h⟩ := h
  obtain rfl := Except.ok.inj h
  exact ⟨attribute?_of_require hsignature, saysDirection_of_readDirection hdirection⟩

/-- The index only tells where a fault is. Induction on the elements. -/
theorem declaresArg_of_readArgsFrom {usual : Option Direction} {index : Nat} {es : List Element}
    {args : List Arg} (h : readArgsFrom place usual index es = .ok args) :
    List.Forall₂ (DeclaresArg usual) es args := by
  induction es generalizing index args with
  | nil =>
    obtain rfl : [] = args := Except.ok.inj h
    exact .nil
  | cons e rest ih =>
    rw [readArgsFrom, bind_eq_ok_iff] at h
    obtain ⟨arg, harg, h⟩ := h
    rw [bind_eq_ok_iff] at h
    obtain ⟨others, hothers, h⟩ := h
    obtain rfl : arg :: others = args := Except.ok.inj h
    exact .cons (declaresArg_of_readArg harg) (ih hothers)

/-- A method has its arguments in their order, and comes from the usual side. -/
theorem declaresMember_of_readMethod {m : Method} (h : readMethod place e = .ok m) :
    DeclaresMember e .method (.method m) := by
  simp only [readMethod, bind_eq_ok_iff] at h
  obtain ⟨name, hname, args, hargs, annotations, -, h⟩ := h
  obtain rfl := Except.ok.inj h
  exact .method _ (attribute?_of_require hname) (declaresArg_of_readArgsFrom hargs)

/-- A signal has arguments without a usual direction. -/
theorem declaresMember_of_readSignal {s : Signal} (h : readSignal place e = .ok s) :
    DeclaresMember e .signal (.signal s) := by
  simp only [readSignal, bind_eq_ok_iff] at h
  obtain ⟨name, hname, args, hargs, annotations, -, h⟩ := h
  obtain rfl := Except.ok.inj h
  exact .signal _ (attribute?_of_require hname) (declaresArg_of_readArgsFrom hargs)

/-- A property has its name and its type. -/
theorem declaresMember_of_readProperty {p : Property} (h : readProperty place e = .ok p) :
    DeclaresMember e .property (.property p) := by
  simp only [readProperty, bind_eq_ok_iff] at h
  obtain ⟨name, hname, access, -, signature, hsignature, annotations, -, h⟩ := h
  obtain rfl := Except.ok.inj h
  exact .property _ (attribute?_of_require hname) (attribute?_of_require hsignature)

/-- An interface has its methods, signals and properties, each kind in its order. -/
theorem declaresInterface_of_readInterface {i : Interface} (h : readInterface place e = .ok i) :
    DeclaresInterface e i := by
  simp only [readInterface, bind_eq_ok_iff, mapM_eq_ok_iff] at h
  obtain ⟨name, hname, methods, hmethods, signals, hsignals, properties, hproperties, annotations,
    -, h⟩ := h
  obtain rfl := Except.ok.inj h
  refine ⟨attribute?_of_require hname, ?_⟩
  intro kind
  -- each kind of member has a list and a reader of its own
  cases kind with
  | method =>
    exact List.forall₂_map_right_iff.mpr (hmethods.imp fun _ _ => declaresMember_of_readMethod)
  | signal =>
    exact List.forall₂_map_right_iff.mpr (hsignals.imp fun _ _ => declaresMember_of_readSignal)
  | property =>
    exact List.forall₂_map_right_iff.mpr (hproperties.imp fun _ _ => declaresMember_of_readProperty)

/-- **An accepted tree describes the document that is read from it.** -/
theorem describes_of_ofElement {source : String} {root : Element} {d : InterfaceDocument}
    (h : ofElement source root = .ok d) : Describes source root d := by
  unfold ofElement at h
  split at h
  · cases h
  · next hnode =>
    simp only [bind_eq_ok_iff, mapM_eq_ok_iff] at h
    obtain ⟨interfaces, hinterfaces, h⟩ := h
    obtain rfl := Except.ok.inj h
    exact ⟨not_not.mp hnode, rfl,
      hinterfaces.imp fun _ _ => declaresInterface_of_readInterface⟩

end Introspection

end BusContract
