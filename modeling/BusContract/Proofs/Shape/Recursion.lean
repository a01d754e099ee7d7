import BusContract.Proofs.Shape.Nesting
import BusContract.Shape.Definition
import Mathlib.Logic.Relation

/-!
# Structs that reach themselves

A struct opens the classes that the types of its fields mention, unless a pinned signature hides
them. Along this relation signatures get strictly shorter, so a struct that reaches itself has none
(`not_unfolds_of_reaches_itself`). Conversely only such a struct is ever reported as recursive
(`Classes.reaches_of_wireOf`), since the structs that are kept in mind each reach the one at hand.

`Classes.wire_eq_ok_iff_unfolds` is the whole of it: signatures are those of the rules, and what
follows for shared structs, for cycles and for cycles that are cut.
-/

namespace BusContract

open Wire (arrayOrigins mappingOrigins)
open Relation (TransGen ReflTransGen)

/-! ## Mentioned classes -/

/-- Is the class mentioned in a shape, not counting what is under marks that pin a signature? -/
inductive Shape.Mentions (d : ClassName) : Shape → Prop where
  | cls : Mentions d (.cls d)
  | annotated (base : Shape) (marks : List Mark) (hmarks : NoWire marks) (h : Mentions d base) :
      Mentions d (.annotated base marks)
  | argument (head : String) (native : Bool) (origin : ClassName) (args : List Shape) (t : Shape)
      (ht : t ∈ args) (h : Mentions d t) : Mentions d (.applied head native origin args)
  /-- A class that is a generic itself, and no collection. -/
  | generic (head : String) (native : Bool) (args : List Shape) (harray : d ∉ arrayOrigins)
      (hmapping : d ∉ mappingOrigins) (htuple : d ≠ .builtin "tuple") :
      Mentions d (.applied head native d args)
  | unionMember (members : List Shape) (t : Shape) (ht : t ∈ members) (h : Mentions d t) :
      Mentions d (.unionOf members)
  | barMember (members : List Shape) (t : Shape) (ht : t ∈ members) (h : Mentions d t) :
      Mentions d (.barOf members)
  | classVar (t : Shape) (h : Mentions d t) : Mentions d (.classVar t)
  | final (t : Shape) (h : Mentions d t) : Mentions d (.final t)
  | initVar (t : Shape) (h : Mentions d t) : Mentions d (.initVar t)
  | newType (name : ClassName) (base : Shape) (h : Mentions d base) :
      Mentions d (.newType name base)

/-- Is the class one with a signature of its own, rather than a word for any type? -/
def ClassName.IsPlain (c : ClassName) : Prop := c ≠ .any ∧ c ≠ .variant ∧ c ≠ .generic

instance (c : ClassName) : Decidable c.IsPlain :=
  inferInstanceAs (Decidable (c ≠ .any ∧ c ≠ .variant ∧ c ≠ .generic))

/-- Is the class sent as the struct of its fields? A class that gives its signature itself is not,
and neither are enumerations and the descendants of scalars. -/
def Classes.SentAsStruct (classes : Classes) (c : ClassName) : Prop :=
  c.IsPlain ∧ classes.simple? c = none

/-- Is the first class a struct with a field whose type mentions the second? -/
def Classes.Opens (classes : Classes) (c d : ClassName) : Prop :=
  classes.SentAsStruct c ∧ ∃ types, classes.fieldTypes c = .ok types ∧ ∃ t ∈ types, t.Mentions d

/-- Is the class mentioned in the shape, or opened from there over any number of structs? -/
def Classes.Reaches (classes : Classes) (t : Shape) (r : ClassName) : Prop :=
  ∃ d, t.Mentions d ∧ ReflTransGen classes.Opens d r

/-! ## Structs that reach themselves have no signature -/

/-- A part of a row has a signature no longer than that of the row. -/
theorem Unfolds.of_mem_row {classes : Classes} {ts : List Shape} {s : String} {t : Shape}
    (h : Unfolds classes (.row ts) s) (ht : t ∈ ts) :
    ∃ a, Unfolds classes (.shape t) a ∧ a.length ≤ s.length := by
  induction ts generalizing s with
  | nil => exact absurd ht List.not_mem_nil
  | cons first rest ih =>
    cases h with
    | cons _ _ a more hfirst hrest =>
      rw [String.length_append]
      rcases List.mem_cons.mp ht with rfl | ht
      · exact ⟨a, hfirst, Nat.le_add_right _ _⟩
      · obtain ⟨b, hb, hle⟩ := ih hrest ht
        exact ⟨b, hb, by omega⟩

/-- A class that a shape mentions has a signature no longer than that of the shape. Induction on
where it is mentioned. -/
theorem Unfolds.of_mentions {classes : Classes} {t : Shape} {d : ClassName} (hd : d.IsPlain)
    (hmentions : t.Mentions d) : ∀ {s : String}, Unfolds classes (.shape t) s →
      ∃ a, Unfolds classes (.cls d) a ∧ a.length ≤ s.length := by
  induction hmentions with
  | cls =>
    intro s h
    cases h with
    | anything _ h => exact absurd h (not_or.mpr ⟨hd.1, hd.2.1⟩)
    | named _ _ _ _ _ h => exact ⟨s, h, Nat.le_refl _⟩
  | annotated base marks hmarks _ ih =>
    intro s h
    cases h with
    | pinned _ _ _ h => exact absurd hmarks h.not_noWire
    | unpinned _ _ _ _ h => exact ih h
  | argument head native origin args t ht hmentions ih =>
    intro s h
    cases h with
    | array _ _ _ element s _ h =>
      rw [List.mem_singleton.mp ht] at ih
      obtain ⟨a, ha, hle⟩ := ih h
      exact ⟨a, ha, by rw [String.length_append]; omega⟩
    | mapping _ _ _ key value k v _ hkey hvalue =>
      have hpart : ∃ b, Unfolds classes (.shape t) b ∧ b.length ≤ (k ++ v).length := by
        rw [String.length_append]
        rcases List.mem_cons.mp ht with rfl | ht
        · exact ⟨k, hkey, Nat.le_add_right _ _⟩
        · rw [List.mem_singleton.mp ht]
          exact ⟨v, hvalue, Nat.le_add_left _ _⟩
      obtain ⟨b, hb, hbs⟩ := hpart
      obtain ⟨a, ha, hle⟩ := ih hb
      refine ⟨a, ha, ?_⟩
      rw [String.length_append, String.length_append]
      omega
    | many _ _ _ element s _ h =>
      rcases List.mem_cons.mp ht with rfl | ht
      · obtain ⟨a, ha, hle⟩ := ih h
        exact ⟨a, ha, by rw [String.length_append]; omega⟩
      · -- The dots mention nothing.
        rw [List.mem_singleton.mp ht] at hmentions
        cases hmentions
    | tuple _ _ _ _ s _ _ _ h =>
      obtain ⟨b, hb, hbs⟩ := h.of_mem_row ht
      obtain ⟨a, ha, hle⟩ := ih hb
      refine ⟨a, ha, ?_⟩
      rw [String.length_append, String.length_append]
      omega
  | generic head native args harray hmapping htuple =>
    intro s h
    cases h with
    | array _ _ _ _ _ h => exact absurd h harray
    | mapping _ _ _ _ _ _ _ h => exact absurd h hmapping
    | many _ _ _ _ _ h => exact absurd h htuple
    | tuple _ _ _ _ _ h => exact absurd h htuple
  -- nothing else that mentions a class has a signature at all
  | unionMember => intro s h; cases h
  | barMember => intro s h; cases h
  | classVar => intro s h; cases h
  | final => intro s h; cases h
  | initVar => intro s h; cases h
  | newType => intro s h; cases h

/-- What a struct opens has a shorter signature. -/
theorem Unfolds.of_opens {classes : Classes} {c d : ClassName} {s : String}
    (h : Unfolds classes (.cls c) s) (hd : d.IsPlain) (hopens : classes.Opens c d) :
    ∃ a, Unfolds classes (.cls d) a ∧ a.length < s.length := by
  obtain ⟨⟨-, hsimple⟩, types, htypes, t, ht, hmentions⟩ := hopens
  obtain h | ⟨-, types', row, htypes', -, hrow, rfl⟩ := unfolds_cls_iff.mp h
  · exact absurd (hsimple.symm.trans h) nofun
  · rw [htypes] at htypes'
    cases htypes'
    obtain ⟨b, hb, hbs⟩ := hrow.of_mem_row ht
    obtain ⟨a, ha, hle⟩ := Unfolds.of_mentions hd hmentions hb
    refine ⟨a, ha, ?_⟩
    rw [String.length_append, String.length_append]
    have hparenthesis : "(".length = 1 := rfl
    omega

/-- What a struct reaches, over any number of structs, has a shorter signature. Induction on the
way. -/
theorem Unfolds.of_reaches {classes : Classes} {c d : ClassName} {s : String}
    (h : Unfolds classes (.cls c) s) (hreaches : TransGen classes.Opens c d) (hd : d.IsPlain) :
    ∃ a, Unfolds classes (.cls d) a ∧ a.length < s.length := by
  induction hreaches with
  | single hopens => exact h.of_opens hd hopens
  | tail _ hopens ih =>
    -- The class before is a struct, since it opens this one.
    obtain ⟨b, hb, hbs⟩ := ih hopens.1.1
    obtain ⟨a, ha, hab⟩ := hb.of_opens hd hopens
    exact ⟨a, ha, Nat.lt_trans hab hbs⟩

/-- A class that leads to another is one that is taken apart. -/
theorem Classes.isPlain_of_reaches {classes : Classes} {c d : ClassName}
    (h : TransGen classes.Opens c d) : c.IsPlain := by
  obtain ⟨_, hopens, -⟩ := TransGen.head'_iff.mp h
  exact hopens.1.1

/-- A struct that reaches itself has no signature: it would be shorter than itself. -/
theorem not_unfolds_of_reaches_itself {classes : Classes} {c : ClassName} {s : String}
    (h : TransGen classes.Opens c c) : ¬ Unfolds classes (.cls c) s := by
  intro hs
  obtain ⟨a, ha, hlt⟩ := hs.of_reaches h (Classes.isPlain_of_reaches h)
  rw [ha.unique hs] at hlt
  exact Nat.lt_irrefl _ hlt

/-- Nor has anything from which such a struct is reached. -/
theorem not_unfolds_of_reaches {classes : Classes} {t : Shape} {r : ClassName} {s : String}
    (hreaches : classes.Reaches t r) (hitself : TransGen classes.Opens r r) :
    ¬ Unfolds classes (.shape t) s := by
  intro hs
  obtain ⟨d, hmentions, hway⟩ := hreaches
  have hr := Classes.isPlain_of_reaches hitself
  rcases Relation.reflTransGen_iff_eq_or_transGen.mp hway with rfl | hway
  · obtain ⟨a, ha, -⟩ := Unfolds.of_mentions hr hmentions hs
    exact not_unfolds_of_reaches_itself hitself ha
  · obtain ⟨a, ha, -⟩ := Unfolds.of_mentions (Classes.isPlain_of_reaches hway) hmentions hs
    obtain ⟨b, hb, -⟩ := ha.of_reaches hway hr
    exact not_unfolds_of_reaches_itself hitself hb

/-! ## Only structs that reach themselves are reported -/

namespace Wire

variable {ofClass : ClassName → Wire} {r : ClassName}

/-- The fault of a row is that of a part. -/
theorem recursive_mem_of_concat {ws : List Wire} (h : concat ws = .error (.recursive r)) :
    .error (.recursive r) ∈ ws := by
  induction ws with
  | nil => cases h
  | cons w rest ih =>
    cases w with
    | error fault =>
      rw [Except.error.inj h]
      exact List.mem_cons_self
    | ok a =>
      -- of two faults the first one is told, so it is in the row
      cases hrest : concat rest with
      | error fault =>
        rw [concat, hrest] at h
        have hfault : fault = .recursive r := Except.error.inj h
        rw [hfault] at hrest
        exact List.mem_cons_of_mem _ (ih hrest)
      | ok b =>
        rw [concat, hrest] at h
        cases h

/-- A fault stays the same, whatever is put around. -/
theorem map_eq_error_iff {w : Wire} {f : String → String} {fault : ReflectionFault} :
    w.map f = .error fault ↔ w = .error fault := by
  cases w with
  | error _ => exact Iff.rfl
  | ok _ => exact ⟨nofun, nofun⟩

/-- A generic reports a struct as recursive only if an argument does. -/
theorem recursive_mem_of_ofGeneric {shape : Shape} {origin : ClassName} {args : List Shape}
    {wires : List Wire} (h : ofGeneric shape origin args wires = .error (.recursive r)) :
    .error (.recursive r) ∈ wires := by
  unfold ofGeneric at h
  split at h
  · -- An array of its only argument.
    split at h
    next element =>
      rw [List.mem_singleton]
      exact (map_eq_error_iff.mp h).symm
    next => cases h
  · split at h
    · -- A mapping of its two arguments.
      split at h
      next key value => exact recursive_mem_of_concat (map_eq_error_iff.mp h)
      next => cases h
    · split at h
      · -- A tuple, with dots or without.
        unfold ofTuple at h
        split at h
        next =>
          split at h
          next =>
            rw [(map_eq_error_iff.mp h)]
            exact List.mem_cons_self
          next => exact recursive_mem_of_concat (map_eq_error_iff.mp h)
        next => cases h
        next => exact recursive_mem_of_concat (map_eq_error_iff.mp h)
      · cases h

mutual

/-- A shape reports a struct as recursive only if a class that it mentions does. Induction on the
shape. -/
theorem recursive_of_ofShape :
    ∀ t : Shape, ofShape ofClass t = .error (.recursive r) →
      ∃ d : ClassName, t.Mentions d ∧ d.IsPlain ∧ ofClass d = .error (.recursive r)
  | .cls c, h => by
    unfold ofShape at h
    split at h
    next => cases h
    next hany =>
      split at h
      next => cases h
      next hgeneric =>
        rw [not_or] at hany
        exact ⟨c, .cls, ⟨hany.1, hany.2, hgeneric⟩, h⟩
  | .annotated base marks, h => by
    unfold ofShape at h
    split at h
    next => cases h
    next hpinned =>
      obtain ⟨d, hmentions, hd⟩ := recursive_of_ofShape base h
      exact ⟨d, .annotated base marks (pinned?_eq_none_iff.mp hpinned) hmentions, hd⟩
  -- without arguments there is no part that could have the fault
  | .family name origin, h => by
    exact absurd (recursive_mem_of_ofGeneric h) List.not_mem_nil
  | .applied head native origin args, h => by
    obtain ⟨t, ht, d, hmentions, hd⟩ := recursive_of_ofShapes args (recursive_mem_of_ofGeneric h)
    exact ⟨d, .argument head native origin args t ht hmentions, hd⟩

/-- In a row the class is mentioned in one of the types. -/
theorem recursive_of_ofShapes :
    ∀ ts : List Shape, .error (.recursive r) ∈ ofShapes ofClass ts →
      ∃ t ∈ ts, ∃ d : ClassName, t.Mentions d ∧ d.IsPlain ∧ ofClass d = .error (.recursive r)
  | [], h => absurd h List.not_mem_nil
  | t :: rest, h => by
    rcases List.mem_cons.mp h with h | h
    · exact ⟨t, List.mem_cons_self, recursive_of_ofShape t h.symm⟩
    · obtain ⟨u, hu, hmentions⟩ := recursive_of_ofShapes rest h
      exact ⟨u, List.mem_cons_of_mem _ hu, hmentions⟩

end

end Wire

namespace Classes

variable {classes : Classes} {c r : ClassName}

/-- What a class says itself is never that it is in itself. -/
theorem simple?_ne_recursive : classes.simple? c ≠ some (.error (.recursive r)) := by
  unfold simple?
  split
  · nofun
  · split
    · split
      · nofun
      · split <;> nofun
    · split
      · nofun
      · split <;> nofun

/-- Nor is it said of the types of its fields. -/
theorem fieldTypes_ne_recursive : classes.fieldTypes c ≠ .error (.recursive r) := by
  unfold fieldTypes
  dsimp only
  split
  · nofun
  · split
    · nofun
    · split <;> nofun

/-- A struct that is reported as recursive is reached from the class at hand and reaches itself, if
every open struct reaches that class. Induction on the depth, which is never used up. -/
theorem reaches_of_wireOf (hc : c.IsPlain) {within : List ClassName} {depth : Nat}
    (hnested : Nested classes within depth) (hopen : ∀ d ∈ within, TransGen classes.Opens d c)
    (h : classes.wireOf depth within c = .error (.recursive r)) :
    ReflTransGen classes.Opens c r ∧ TransGen classes.Opens r r := by
  induction depth generalizing within c with
  | zero =>
    obtain ⟨_, hdepth⟩ := hnested.depth_eq_succ
    cases hdepth
  | succ depth ih =>
    unfold wireOf at h
    split at h
    next w hsimple =>
      rw [h] at hsimple
      exact absurd hsimple simple?_ne_recursive
    next hsimple =>
      split at h
      next hmem =>
        -- The class is open already, so it reaches itself.
        cases h
        exact ⟨.refl, hopen _ (List.contains_iff_mem.mp hmem)⟩
      next hfresh =>
        rw [List.contains_iff_mem] at hfresh
        split at h
        next fault htypes =>
          rw [Except.error.inj h] at htypes
          exact absurd htypes fieldTypes_ne_recursive
        next => cases h
        next types hfields htypes =>
          have hrow := Wire.recursive_mem_of_concat (Wire.map_eq_error_iff.mp h)
          obtain ⟨t, ht, d, hmentions, hd, hwire⟩ := Wire.recursive_of_ofShapes types hrow
          have hopens : classes.Opens c d := ⟨⟨hc, hsimple⟩, types, htypes, t, ht, hmentions⟩
          have hnested' := hnested.cons hfresh (mem_openable_of_fieldTypes htypes hfields)
          -- the class at hand joins the open structs, which all reach what it opens
          have hopen' : ∀ e ∈ c :: within, TransGen classes.Opens e d := by
            intro e he
            rcases List.mem_cons.mp he with rfl | he
            · exact .single hopens
            · exact (hopen e he).tail hopens
          obtain ⟨hreaches, hitself⟩ := ih hd hnested' hopen' hwire
          exact ⟨.head hopens hreaches, hitself⟩

/-- A struct that is reported as recursive in a shape is reached from the shape and reaches
itself. -/
theorem reaches_of_wire {t : Shape} (h : classes.wire t = .error (.recursive r)) :
    classes.Reaches t r ∧ TransGen classes.Opens r r := by
  obtain ⟨d, hmentions, hd, hwire⟩ := Wire.recursive_of_ofShape t h
  have hnone : ∀ e ∈ [], TransGen classes.Opens e d := fun e he => absurd he List.not_mem_nil
  obtain ⟨hreaches, hitself⟩ := reaches_of_wireOf hd (Nested.nil classes) hnone hwire
  exact ⟨⟨d, hmentions, hreaches⟩, hitself⟩

end Classes

/-! ## The whole of it -/

theorem unfolds_row_of_wire {classes : Classes} {types : List Shape} {wires : List String}
    (h : types.map classes.wire = wires.map .ok) :
    Unfolds classes (.row types) (String.join wires) := by
  induction types generalizing wires with
  | nil =>
    cases wires with
    | nil => exact .nil
    | cons s rest => cases h
  | cons t rest ih =>
    cases wires with
    | nil => cases h
    | cons s more =>
      obtain ⟨hfirst, hrest⟩ := List.cons.inj h
      rw [String.join_cons]
      exact .cons t rest s (String.join more) (wire_eq_ok_iff.mp hfirst) (ih hrest)

/-- A plain class has, as a shape, the signature that the rules give it. -/
theorem wire_cls_eq_ok_iff {classes : Classes} {c : ClassName} {s : String} (hc : c.IsPlain) :
    classes.wire (.cls c) = .ok s ↔ Unfolds classes (.cls c) s := by
  rw [wire_eq_ok_iff]
  constructor
  · intro h
    cases h with
    | anything _ h => exact absurd h (not_or.mpr ⟨hc.1, hc.2.1⟩)
    | named _ _ _ _ _ h => exact h
  · exact .named c s hc.1 hc.2.1 hc.2.2

/-- A struct whose fields all have signatures on their own has one, however often its fields share
other structs. -/
theorem wire_struct {classes : Classes} {c : ClassName} {types : List Shape} {wires : List String}
    (hc : classes.SentAsStruct c) (htypes : classes.fieldTypes c = .ok types) (hfields : types ≠ [])
    (hwires : types.map classes.wire = wires.map .ok) :
    classes.wire (.cls c) = .ok ("(" ++ String.join wires ++ ")") := by
  rw [wire_cls_eq_ok_iff hc.1, unfolds_cls_iff]
  exact .inr ⟨hc.2, types, String.join wires, htypes, hfields, unfolds_row_of_wire hwires, rfl⟩

/-- Signatures are exactly those of a finite unfolding without any structs kept in mind. In
particular a struct is reported as recursive only if it reaches itself, and whatever reaches such a
struct is rejected; a struct of fields that have signatures on their own is accepted, whatever they
share; and a class that is reached again only under a pinned signature, or gives its signature
itself, is accepted. -/
theorem Classes.wire_eq_ok_iff_unfolds (classes : Classes) :
    (∀ t s, classes.wire t = .ok s ↔ Unfolds classes (.shape t) s)
    ∧ (∀ t r, classes.wire t = .error (.recursive r) →
        classes.Reaches t r ∧ TransGen classes.Opens r r)
    ∧ (∀ t r, classes.Reaches t r → TransGen classes.Opens r r →
        ∃ fault, classes.wire t = .error fault)
    ∧ (∀ c types wires, classes.SentAsStruct c → classes.fieldTypes c = .ok types → types ≠ [] →
        types.map classes.wire = wires.map .ok →
        classes.wire (.cls c) = .ok ("(" ++ String.join wires ++ ")"))
    ∧ (∀ base marks s, FirstWire marks s → classes.wire (.annotated base marks) = .ok s)
    ∧ (∀ c s, c.IsPlain → classes.explicit? c = some s → classes.wire (.cls c) = .ok s) := by
  refine ⟨fun t s => wire_eq_ok_iff, fun t r h => reaches_of_wire h, ?_, ?_, ?_, ?_⟩
  · intro t r hreaches hitself
    cases hwire : classes.wire t with
    | error fault => exact ⟨fault, rfl⟩
    | ok s => exact absurd (wire_eq_ok_iff.mp hwire) (not_unfolds_of_reaches hreaches hitself)
  · intro c types wires hc htypes hfields hwires
    exact wire_struct hc htypes hfields hwires
  · intro base marks s h
    exact wire_eq_ok_iff.mpr (.pinned base marks s h)
  · intro c s hc h
    exact (wire_cls_eq_ok_iff hc).mpr (.explicit c s h)

/-- Two records. The next link of a chain is a chain again, while a handle knows the next one by its
path only. -/
def selfReferring : Classes :=
  let hints (next : Shape) := [("label", .builtin "str"), ("next", next)]
  let chain := ClassDefinition.mk (.of "links" "Chain") .record [] (hints (.forward "Chain")) none
  let path := Shape.annotated (.forward "Handle") [.settings, .wire "o"]
  let handle := ClassDefinition.mk (.of "links" "Handle") .record [] (hints path) none
  (Classes.add [] chain).add handle

/-- The chain is rejected and the handle accepted. -/
theorem wire_selfReferring :
    (∃ fault, selfReferring.wire (.cls (.of "links" "Chain")) = .error fault)
      ∧ selfReferring.wire (.cls (.of "links" "Handle")) = .ok "(so)" := by
  have h := Classes.wire_eq_ok_iff_unfolds selfReferring
  obtain ⟨-, -, hrejected, hstruct, hpinned, -⟩ := h
  constructor
  · -- The chain opens itself, by the second of its fields.
    have hopens : selfReferring.Opens (.of "links" "Chain") (.of "links" "Chain") :=
      ⟨⟨by decide, rfl⟩, [.builtin "str", .cls (.of "links" "Chain")], rfl,
        .cls (.of "links" "Chain"), by simp, .cls⟩
    exact hrejected _ _ ⟨_, .cls, .refl⟩ (.single hopens)
  · let path := Shape.annotated (.cls (.of "links" "Handle")) [.settings, .wire "o"]
    have hpath : selfReferring.wire path = .ok "o" := hpinned _ _ _ ⟨[.settings], [], rfl, by simp⟩
    have hlabel : selfReferring.wire (.builtin "str") = .ok "s" := rfl
    refine hstruct _ [.builtin "str", path] ["s", "o"] ⟨by decide, rfl⟩ rfl nofun ?_
    rw [List.map_cons, List.map_cons, hlabel, hpath]
    rfl

end BusContract
