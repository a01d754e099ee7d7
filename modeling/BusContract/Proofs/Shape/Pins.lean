import BusContract.Proofs.Shape.Parts

/-!
# Where pinned signatures come from

A signature that is pinned in the type of a field was written by someone: resolving an annotation
moves marks about, joins them and drops some, but makes none up. The same goes for the signatures
that classes give themselves: every signature that a class gives or that is pinned in the type of
a field was written in a declared class (`Classes.writes_of_explicit?`,
`Classes.writes_of_fieldTypes`).
-/

namespace BusContract

/-- Is this signature pinned by a mark somewhere in the shape? -/
inductive Shape.Pins (m : String) : Shape → Prop where
  | mark (base : Shape) (marks : List Mark) (h : Mark.wire m ∈ marks) : Pins m (.annotated base marks)
  | base (base : Shape) (marks : List Mark) (h : Pins m base) : Pins m (.annotated base marks)
  | argument (head : String) (native : Bool) (origin : ClassName) (args : List Shape) (t : Shape)
      (ht : t ∈ args) (h : Pins m t) : Pins m (.applied head native origin args)
  | unionMember (members : List Shape) (t : Shape) (ht : t ∈ members) (h : Pins m t) :
      Pins m (.unionOf members)
  | barMember (members : List Shape) (t : Shape) (ht : t ∈ members) (h : Pins m t) :
      Pins m (.barOf members)

/-! ## Building shapes pins nothing new -/

namespace Shape

variable {m : String}

/-- A type that stands for another pins what that does. -/
theorem pins_of_typed {s : Shape} (h : s.typed.Pins m) : s.Pins m := by
  cases s with
  | null => cases h
  | value data => cases data <;> cases h
  | _ => exact h

/-- A member of a union is a part of it. -/
theorem pins_of_mem_members {s t : Shape} (ht : t ∈ s.members) (h : t.Pins m) : s.Pins m := by
  cases s with
  | unionOf members => exact .unionMember members t ht h
  | barOf members => exact .barMember members t ht h
  | _ => rwa [← List.mem_singleton.mp ht]

/-- Leaving out what is there twice adds nothing. -/
theorem mem_of_mem_distinct {shapes : List Shape} {t : Shape} (h : t ∈ distinct shapes) :
    t ∈ shapes := by
  -- what is kept so far is gathered in front
  have hfold (kept : List Shape) :
      t ∈ shapes.foldl (fun kept s => if kept.any (same s) then kept else kept ++ [s]) kept →
        t ∈ kept ∨ t ∈ shapes := by
    clear h
    induction shapes generalizing kept with
    | nil => exact .inl
    | cons s shapes ih =>
      intro h
      rw [List.foldl_cons] at h
      rcases ih _ h with hkept | hlater
      · split at hkept
        · exact .inl hkept
        · rcases List.mem_append.mp hkept with hkept | hs
          · exact .inl hkept
          · rw [List.mem_singleton.mp hs]
            exact .inr List.mem_cons_self
      · exact .inr (List.mem_cons_of_mem s hlater)
  exact (hfold [] h).resolve_left List.not_mem_nil

/-- A union pins nothing but what a member pins. -/
theorem exists_pins_of_union {shapes : List Shape} (h : (union shapes).Pins m) :
    ∃ s ∈ shapes, s.Pins m := by
  have hmember : ∃ t ∈ distinct ((shapes.map typed).flatMap members), t.Pins m := by
    unfold union at h
    split at h
    next single hsingle => exact ⟨single, by rw [hsingle]; exact List.mem_singleton_self _, h⟩
    next =>
      cases h with
      | unionMember _ t ht h => exact ⟨t, ht, h⟩
  obtain ⟨t, ht, hpins⟩ := hmember
  obtain ⟨s', hs', hmem⟩ := List.mem_flatMap.mp (mem_of_mem_distinct ht)
  obtain ⟨s, hs, rfl⟩ := List.mem_map.mp hs'
  exact ⟨s, hs, pins_of_typed (pins_of_mem_members hmem hpins)⟩

/-- So does one that is written with a bar. -/
theorem pins_of_bar {a b : Shape} (h : (bar a b).Pins m) : a.Pins m ∨ b.Pins m := by
  have hmembers : ∀ t ∈ a.typed.members ++ b.typed.members, t.Pins m → a.Pins m ∨ b.Pins m := by
    intro t ht hpins
    rcases List.mem_append.mp ht with ht | ht
    · exact .inl (pins_of_typed (pins_of_mem_members ht hpins))
    · exact .inr (pins_of_typed (pins_of_mem_members ht hpins))
  -- two that stay apart, one that is left, or the distinct members of both
  unfold bar at h
  split at h
  next =>
    obtain ⟨s, hs, hpins⟩ := exists_pins_of_union h
    rcases List.mem_cons.mp hs with rfl | hs
    · exact .inl hpins
    · rw [List.mem_singleton.mp hs] at hpins
      exact .inr hpins
  next =>
    split at h
    next single hsingle =>
      exact hmembers single (mem_of_mem_distinct (by rw [hsingle]; exact List.mem_singleton_self _)) h
    next =>
      cases h with
      | barMember _ t ht h => exact hmembers t (mem_of_mem_distinct ht) h

/-- So does one that is written with many. -/
theorem exists_pins_of_bars {shapes : List Shape} (h : (bars shapes).Pins m) :
    ∃ s ∈ shapes, s.Pins m := by
  cases shapes with
  | nil => cases h
  | cons first rest =>
    rw [bars] at h
    induction rest generalizing first with
    | nil => exact ⟨first, List.mem_singleton_self first, h⟩
    | cons second rest ih =>
      obtain ⟨s, hs, hpins⟩ := ih (bar first second) h
      rcases List.mem_cons.mp hs with rfl | hs
      · rcases pins_of_bar hpins with hpins | hpins
        · exact ⟨first, List.mem_cons_self, hpins⟩
        · exact ⟨second, List.mem_cons_of_mem _ List.mem_cons_self, hpins⟩
      · exact ⟨s, List.mem_cons_of_mem _ (List.mem_cons_of_mem _ hs), hpins⟩

/-- Marks are pinned besides. -/
theorem pins_of_annotate {s : Shape} {marks : List Mark} (h : (annotate s marks).Pins m) :
    s.Pins m ∨ Mark.wire m ∈ marks := by
  unfold annotate at h
  split at h
  next base inner htyped =>
    have hinner : (annotated base inner).Pins m → s.Pins m := by
      rw [← htyped]
      exact pins_of_typed
    cases h with
    | mark _ _ h =>
      rcases List.mem_append.mp h with h | h
      · exact .inl (hinner (.mark base inner h))
      · exact .inr h
    | base _ _ h => exact .inl (hinner (.base base inner h))
  next =>
    cases h with
    | mark _ _ h => exact .inr h
    | base _ _ h => exact .inl (pins_of_typed h)

/-! ## Resolving pins nothing new -/

section Resolving

variable {named : String → Option Shape}

/-- A name pins nothing if what it stands for does not. -/
theorem not_pins_of_lookup (hnamed : ∀ name s, named name = some s → ¬ s.Pins m) {name : String}
    {s : Shape} (h : lookup named name = .ok s) : ¬ s.Pins m := by
  unfold lookup at h
  split at h
  next t ht =>
    obtain rfl := Except.ok.inj h
    exact fun hpins => hnamed name t ht (pins_of_typed hpins)
  next => cases h

mutual

/-- A resolved shape pins what the shape did. Induction on the shape. -/
theorem pins_of_resolve (hnamed : ∀ name s, named name = some s → ¬ s.Pins m) :
    ∀ (s s' : Shape), resolve named s = .ok s' → s'.Pins m → s.Pins m
  | .applied head native origin args, s', h, hpins => by
    obtain ⟨args', hargs, rfl⟩ := map_eq_ok_iff.mp h
    cases hpins with
    | argument _ _ _ _ t ht hpins =>
      obtain ⟨u, hu, hpins⟩ := pins_of_resolveAll hnamed args args' hargs t ht hpins
      exact .argument head native origin args u hu hpins
  | .unionOf members, s', h, hpins => by
    obtain ⟨members', hmembers, rfl⟩ := map_eq_ok_iff.mp h
    obtain ⟨t, ht, hpins⟩ := exists_pins_of_union hpins
    obtain ⟨u, hu, hpins⟩ := pins_of_resolveAll hnamed members members' hmembers t ht hpins
    exact .unionMember members u hu hpins
  | .barOf members, s', h, hpins => by
    obtain ⟨members', hmembers, rfl⟩ := map_eq_ok_iff.mp h
    obtain ⟨t, ht, hpins⟩ := exists_pins_of_bars hpins
    obtain ⟨u, hu, hpins⟩ := pins_of_resolveAll hnamed members members' hmembers t ht hpins
    exact .barMember members u hu hpins
  | .annotated base marks, s', h, hpins => by
    obtain ⟨base', hbase, rfl⟩ := map_eq_ok_iff.mp h
    rcases pins_of_annotate hpins with hpins | hmark
    · exact .base base marks (pins_of_resolve hnamed base base' hbase hpins)
    · exact .mark base marks hmark
  -- what a resolved `ClassVar` or `Final` is has no marks of its own
  | .classVar s, s', h, hpins => by
    obtain ⟨_, -, rfl⟩ := map_eq_ok_iff.mp h
    cases hpins
  | .final s, s', h, hpins => by
    obtain ⟨_, -, rfl⟩ := map_eq_ok_iff.mp h
    cases hpins
  | .value data, s', h, hpins => by
    cases data with
    | text name => exact absurd hpins (not_pins_of_lookup hnamed h)
    | _ =>
      obtain rfl := Except.ok.inj h
      exact hpins
  | .forward name, s', h, hpins => absurd hpins (not_pins_of_lookup hnamed h)
  | .cls _, _, h, hpins => Except.ok.inj h ▸ hpins
  | .null, _, h, hpins => Except.ok.inj h ▸ hpins
  | .ellipsis, _, h, hpins => Except.ok.inj h ▸ hpins
  | .form _, _, h, hpins => Except.ok.inj h ▸ hpins
  | .family _ _, _, h, hpins => Except.ok.inj h ▸ hpins
  | .literal _, _, h, hpins => Except.ok.inj h ▸ hpins
  | .initVar _, _, h, hpins => Except.ok.inj h ▸ hpins
  | .typeVar _, _, h, hpins => Except.ok.inj h ▸ hpins
  | .newType _ _, _, h, hpins => Except.ok.inj h ▸ hpins

/-- Nor does taking names for what they stand for add anything. -/
theorem pins_of_resolveAll (hnamed : ∀ name s, named name = some s → ¬ s.Pins m) :
    ∀ (shapes shapes' : List Shape), resolveAll named shapes = .ok shapes' →
      ∀ t ∈ shapes', t.Pins m → ∃ s ∈ shapes, s.Pins m
  | [], shapes', h, t, ht, _ => by
    obtain rfl := Except.ok.inj h
    exact absurd ht List.not_mem_nil
  | s :: rest, shapes', h, t, ht, hpins => by
    unfold resolveAll at h
    split at h
    next => cases h
    next s' hs =>
      obtain ⟨rest', hrest, rfl⟩ := map_eq_ok_iff.mp h
      rcases List.mem_cons.mp ht with rfl | ht
      · exact ⟨s, List.mem_cons_self, pins_of_resolve hnamed s t hs hpins⟩
      · obtain ⟨u, hu, hpins⟩ := pins_of_resolveAll hnamed rest rest' hrest t ht hpins
        exact ⟨u, List.mem_cons_of_mem s hu, hpins⟩

end

end Resolving

end Shape

/-! ## What classes write -/

/-- Is the signature written in the class: given as its own, or pinned in an annotation or in the
type of a field? -/
def ClassInfo.Writes (info : ClassInfo) (m : String) : Prop :=
  info.explicit = some (.text m)
    ∨ (∃ hint ∈ info.hints, hint.2.Pins m)
    ∨ ∃ fields, info.model = some fields ∧ ∃ field ∈ fields, field.type.Pins m

/-- Nothing is written in the classes that come with the language. -/
theorem ClassInfo.not_writes_known (c : ClassName) (m : String) : ¬ (known c).Writes m := by
  rintro (h | ⟨hint, hhint, hpins⟩ | ⟨fields, hfields, field, hfield, hpins⟩)
  · cases h
  · unfold known at hhint
    dsimp only at hhint
    split at hhint
    · rw [List.mem_singleton.mp hhint] at hpins
      cases hpins
    · cases hhint
  · unfold known at hfields
    dsimp only at hfields
    split at hfields
    · obtain rfl := Option.some.inj hfields
      cases hfield
    · cases hfields

namespace Classes

variable {classes : Classes} {c : ClassName} {m : String}

/-- Is the signature written in one of the declared classes? -/
def Writes (classes : Classes) (m : String) : Prop := ∃ declared ∈ classes, declared.Writes m

/-- A class writes what is said of it. -/
theorem writes_of_info (h : (classes.info c).Writes m) : classes.Writes m := by
  unfold info at h
  cases hdeclared : classes.find? (·.name == c) with
  | none =>
    rw [hdeclared] at h
    exact absurd h (ClassInfo.not_writes_known c m)
  | some declared =>
    rw [hdeclared] at h
    exact ⟨declared, List.mem_of_find?_eq_some hdeclared, h⟩

/-- It writes what is said of a class that it comes from. -/
theorem writes_of_mem_ancestry {info : ClassInfo} (hinfo : info ∈ classes.ancestry c)
    (h : info.Writes m) : classes.Writes m := by
  unfold ancestry at hinfo
  split at hinfo
  next =>
    obtain ⟨d, -, rfl⟩ := List.mem_map.mp hinfo
    exact writes_of_info h
  next =>
    obtain ⟨d, -, rfl⟩ := List.mem_map.mp hinfo
    exact absurd h (ClassInfo.not_writes_known d m)

/-- The signature that a class gives is written in it or in an ancestor. -/
theorem writes_of_explicit? (h : classes.explicit? c = some m) : classes.Writes m := by
  unfold explicit? at h
  split at h
  next s hs =>
    obtain rfl := Option.some.inj h
    obtain ⟨info, hinfo, hgives⟩ := List.exists_of_findSome?_eq_some hs
    exact writes_of_mem_ancestry hinfo (.inl hgives)
  next => cases h

/-- No name stands for a type with marks. -/
theorem not_pins_of_named? {name : String} {s : Shape} (h : classes.named? name = some s) :
    ¬ s.Pins m := by
  unfold named? at h
  split at h
  next =>
    obtain rfl := Option.some.inj h
    exact nofun
  next =>
    unfold Shape.builtinName? at h
    split at h
    next =>
      obtain rfl := Option.some.inj h
      exact nofun
    next =>
      split at h
      next =>
        obtain rfl := Option.some.inj h
        exact nofun
      next => cases h

/-- A hint is the new one or was there. -/
theorem mem_putHint {name : String} {s : Shape} {hints : List (String × Shape)}
    {hint : String × Shape} (h : hint ∈ putHint name s hints) : hint ∈ hints ∨ hint.2 = s := by
  induction hints with
  | nil => exact .inr (congrArg Prod.snd (List.mem_singleton.mp h))
  | cons first hints ih =>
    unfold putHint at h
    split at h
    · rcases List.mem_cons.mp h with rfl | h
      · exact .inr rfl
      · exact .inl (List.mem_cons_of_mem first h)
    · rcases List.mem_cons.mp h with rfl | h
      · exact .inl List.mem_cons_self
      · exact (ih h).imp_left (List.mem_cons_of_mem first)

/-- A resolved annotation pins what the annotation did. Induction on the annotations that are still
to be resolved. -/
theorem exists_pins_of_resolveHints {written resolved hints : List (String × Shape)}
    (h : resolveHints classes.named? resolved written = .ok hints) {hint : String × Shape}
    (hhint : hint ∈ hints) (hpins : hint.2.Pins m) :
    hint ∈ resolved ∨ ∃ hint' ∈ written, hint'.2.Pins m := by
  induction written generalizing resolved with
  | nil =>
    obtain rfl := Except.ok.inj h
    exact .inl hhint
  | cons first written ih =>
    unfold resolveHints at h
    split at h
    next => cases h
    next s hs =>
      -- the hint was put there by the first one, was there already, or comes from a later one
      rcases ih h with hput | ⟨hint', hmem, hpins'⟩
      · refine (mem_putHint hput).imp_right fun heq => ?_
        rw [heq] at hpins
        have htyped := Shape.pins_of_resolve (fun _ _ => not_pins_of_named?) _ s hs hpins
        exact ⟨first, List.mem_cons_self, Shape.pins_of_typed htyped⟩
      · exact .inr ⟨hint', List.mem_cons_of_mem first hmem, hpins'⟩

/-- What is pinned in the type of a field is written in a declared class. -/
theorem writes_of_fieldTypes {types : List Shape} (htypes : classes.fieldTypes c = .ok types)
    {t : Shape} (ht : t ∈ types) (hpins : t.Pins m) : classes.Writes m := by
  unfold fieldTypes at htypes
  split at htypes
  next =>
    -- the fields of a model carry their types
    obtain rfl := Except.ok.inj htypes
    obtain ⟨field, hfield, rfl⟩ := List.mem_map.mp ht
    cases hmodel : (classes.info c).model with
    | none =>
      rw [hmodel] at hfield
      cases hfield
    | some fields =>
      rw [hmodel] at hfield
      exact writes_of_info (.inr (.inr ⟨fields, hmodel, field, hfield, hpins⟩))
  next =>
    split at htypes
    next => cases htypes
    next hints hhints =>
      dsimp only at htypes
      split at htypes
      next =>
        obtain rfl := Except.ok.inj htypes
        obtain ⟨name, -, hfound⟩ := List.mem_filterMap.mp ht
        obtain ⟨hint, hhint, rfl⟩ := Option.map_eq_some_iff.mp hfound
        rcases exists_pins_of_resolveHints hhints (List.mem_of_find?_eq_some hhint) hpins
          with hnone | ⟨hint', hwritten, hpins'⟩
        · cases hnone
        · obtain ⟨info, hinfo, hmem⟩ := List.mem_flatMap.mp hwritten
          have hancestor := List.mem_reverse.mp hinfo
          exact writes_of_mem_ancestry hancestor (.inr (.inl ⟨hint', hmem, hpins'⟩))
      next => cases htypes

end Classes

end BusContract
