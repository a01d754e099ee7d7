import BusContract.Proofs.Shape.Parts

/-!
# Plain unfolding

`Unfolds` says what the wire signature of a shape is by rules alone: no struct is kept in mind, and a
struct is what its fields unfold to. A derivation is finite, so a struct that can only be unfolded
for ever has no signature here.

- `unfolds_of_ofShape`, `unfolds_of_wireOf`: whatever is spelled out follows from the rules.
- `Unfolds.unique`: the rules give everything one signature at most.
-/

namespace BusContract

open Wire (arrayOrigins mappingOrigins)

/-! ## The rules -/

/-- What a rule gives a signature to: a shape, a row of shapes one after the other, or a class. -/
inductive Subject where
  | shape (s : Shape)
  | row (shapes : List Shape)
  | cls (c : ClassName)

/-- The signatures that follow from the rules. -/
inductive Unfolds (classes : Classes) : Subject → String → Prop where
  | anything (c : ClassName) (h : c = .any ∨ c = .variant) : Unfolds classes (.shape (.cls c)) "v"
  | named (c : ClassName) (s : String) (hany : c ≠ .any) (hvariant : c ≠ .variant)
      (hgeneric : c ≠ .generic) (h : Unfolds classes (.cls c) s) :
      Unfolds classes (.shape (.cls c)) s
  | pinned (base : Shape) (marks : List Mark) (s : String) (h : FirstWire marks s) :
      Unfolds classes (.shape (.annotated base marks)) s
  | unpinned (base : Shape) (marks : List Mark) (s : String) (hmarks : NoWire marks)
      (h : Unfolds classes (.shape base) s) : Unfolds classes (.shape (.annotated base marks)) s
  | array (head : String) (native : Bool) (origin : ClassName) (element : Shape) (s : String)
      (horigin : origin ∈ arrayOrigins) (h : Unfolds classes (.shape element) s) :
      Unfolds classes (.shape (.applied head native origin [element])) ("a" ++ s)
  | mapping (head : String) (native : Bool) (origin : ClassName) (key value : Shape) (k v : String)
      (horigin : origin ∈ mappingOrigins) (hkey : Unfolds classes (.shape key) k)
      (hvalue : Unfolds classes (.shape value) v) :
      Unfolds classes (.shape (.applied head native origin [key, value]))
        ("a\x7b" ++ (k ++ v) ++ "\x7d")
  /-- A tuple of any number of elements of one type. -/
  | many (head : String) (native : Bool) (origin : ClassName) (element : Shape) (s : String)
      (horigin : origin = .builtin "tuple") (h : Unfolds classes (.shape element) s) :
      Unfolds classes (.shape (.applied head native origin [element, .ellipsis])) ("a" ++ s)
  | tuple (head : String) (native : Bool) (origin : ClassName) (args : List Shape) (s : String)
      (horigin : origin = .builtin "tuple") (hargs : args ≠ [])
      (hfixed : ∀ element, args ≠ [element, .ellipsis]) (h : Unfolds classes (.row args) s) :
      Unfolds classes (.shape (.applied head native origin args)) ("(" ++ s ++ ")")
  | nil : Unfolds classes (.row []) ""
  | cons (first : Shape) (rest : List Shape) (s more : String)
      (hfirst : Unfolds classes (.shape first) s) (hrest : Unfolds classes (.row rest) more) :
      Unfolds classes (.row (first :: rest)) (s ++ more)
  | explicit (c : ClassName) (s : String) (h : classes.explicit? c = some s) :
      Unfolds classes (.cls c) s
  | numbers (c : ClassName) (hexplicit : classes.explicit? c = none)
      (henum : classes.descends c .enumeration = true)
      (h : classes.descends c (.builtin "int") = true) : Unfolds classes (.cls c) "u"
  | texts (c : ClassName) (hexplicit : classes.explicit? c = none)
      (henum : classes.descends c .enumeration = true)
      (hint : classes.descends c (.builtin "int") = false)
      (h : classes.descends c (.builtin "str") = true) : Unfolds classes (.cls c) "s"
  | scalar (c : ClassName) (s : String) (hexplicit : classes.explicit? c = none)
      (henum : classes.descends c .enumeration = false) (h : classes.scalar? c = some s) :
      Unfolds classes (.cls c) s
  | struct (c : ClassName) (types : List Shape) (s : String)
      (hexplicit : classes.explicit? c = none)
      (henum : classes.descends c .enumeration = false) (hscalar : classes.scalar? c = none)
      (hstruct : classes.isStruct c = true) (htypes : classes.fieldTypes c = .ok types)
      (hfields : types ≠ []) (h : Unfolds classes (.row types) s) :
      Unfolds classes (.cls c) ("(" ++ s ++ ")")

/-- The rules for a class, read from what is known of it without opening it. -/
theorem unfolds_cls_iff {classes : Classes} {c : ClassName} {s : String} :
    Unfolds classes (.cls c) s
      ↔ classes.simple? c = some (.ok s)
        ∨ (classes.simple? c = none
          ∧ ∃ types a, classes.fieldTypes c = .ok types ∧ types ≠ []
            ∧ Unfolds classes (.row types) a ∧ s = "(" ++ a ++ ")") := by
  constructor
  · intro h
    cases h with
    | explicit _ _ h => exact .inl (Classes.simple?_of_explicit h)
    | numbers _ hexplicit henum h => exact .inl (Classes.simple?_of_numbers hexplicit henum h)
    | texts _ hexplicit henum hint h => exact .inl (Classes.simple?_of_texts hexplicit henum hint h)
    | scalar _ _ hexplicit henum h => exact .inl (Classes.simple?_of_scalar hexplicit henum h)
    | struct _ types a hexplicit henum hscalar hstruct htypes hfields h =>
      right
      exact ⟨Classes.simple?_eq_none_iff.mpr ⟨hexplicit, henum, hscalar, hstruct⟩, types, a, htypes,
        hfields, h, rfl⟩
  · rintro (h | ⟨h, types, a, htypes, hfields, hrow, rfl⟩)
    · obtain hexplicit | ⟨hexplicit, henum, hint, rfl⟩ | ⟨hexplicit, henum, hint, hstr, rfl⟩
          | ⟨hexplicit, henum, hscalar⟩ := Classes.simple?_ok_cases h
      · exact .explicit c s hexplicit
      · exact .numbers c hexplicit henum hint
      · exact .texts c hexplicit henum hint hstr
      · exact .scalar c s hexplicit henum hscalar
    · obtain ⟨hexplicit, henum, hscalar, hstruct⟩ := Classes.simple?_eq_none_iff.mp h
      exact .struct c types a hexplicit henum hscalar hstruct htypes hfields hrow

/-! ## What is spelled out unfolds -/

section Soundness

variable {classes : Classes} {ofClass : ClassName → Wire}

mutual

/-- A signature that is spelled out follows from the rules, if those of classes do. Induction on the
shape. -/
theorem unfolds_of_ofShape (hclass : ∀ c s, ofClass c = .ok s → Unfolds classes (.cls c) s) :
    ∀ (t : Shape) (s : String), Wire.ofShape ofClass t = .ok s → Unfolds classes (.shape t) s
  | .cls c, s, h => by
    unfold Wire.ofShape at h
    split at h
    next hany =>
      cases h
      exact .anything c hany
    next hany =>
      split at h
      next => cases h
      next hgeneric =>
        rw [not_or] at hany
        exact .named c s hany.1 hany.2 hgeneric (hclass c s h)
  | .annotated base marks, s, h => by
    unfold Wire.ofShape at h
    split at h
    next t hpinned =>
      cases h
      exact .pinned base marks s (pinned?_eq_some_iff.mp hpinned)
    next hpinned =>
      exact .unpinned base marks s (pinned?_eq_none_iff.mp hpinned)
        (unfolds_of_ofShape hclass base s h)
  | .family name origin, s, h => by
    -- a generic that is not applied has no arguments, which no rule allows
    have h' : Wire.ofGeneric (.family name origin) origin [] (Wire.ofShapes ofClass []) = .ok s := h
    obtain ⟨-, _, _, hargs, -⟩ | ⟨-, _, _, _, _, hargs, -⟩ | ⟨-, _, _, hargs, -⟩ | ⟨-, hargs, -⟩ :=
      Wire.ofGeneric_ok_cases h'
    · cases hargs
    · cases hargs
    · cases hargs
    · exact absurd rfl hargs
  | .applied head native origin args, s, h => by
    obtain ⟨horigin, element, a, rfl, ha, rfl⟩ | ⟨horigin, key, value, k, v, rfl, hk, hv, rfl⟩
        | ⟨horigin, element, a, rfl, ha, rfl⟩ | ⟨horigin, hargs, hfixed, a, ha, rfl⟩ :=
      Wire.ofGeneric_ok_cases h
    · exact .array head native origin element a horigin (unfolds_of_ofShape hclass element a ha)
    · have hkey := unfolds_of_ofShape hclass key k hk
      have hvalue := unfolds_of_ofShape hclass value v hv
      exact .mapping head native origin key value k v horigin hkey hvalue
    · exact .many head native origin element a horigin (unfolds_of_ofShape hclass element a ha)
    · have hrow := unfolds_of_ofShapes hclass args a ha
      exact .tuple head native origin args a horigin hargs hfixed hrow

theorem unfolds_of_ofShapes (hclass : ∀ c s, ofClass c = .ok s → Unfolds classes (.cls c) s) :
    ∀ (ts : List Shape) (s : String), Wire.concat (Wire.ofShapes ofClass ts) = .ok s →
      Unfolds classes (.row ts) s
  | [], s, h => by
    cases h
    exact .nil
  | t :: rest, s, h => by
    obtain ⟨a, b, ha, hb, rfl⟩ := Wire.concat_cons_eq_ok_iff.mp h
    exact .cons t rest a b (unfolds_of_ofShape hclass t a ha) (unfolds_of_ofShapes hclass rest b hb)

end

end Soundness

/-- A signature of a class that is spelled out inside any structs follows from the rules. Induction
on the depth. -/
theorem unfolds_of_wireOf {classes : Classes} {depth : Nat} {within : List ClassName}
    {c : ClassName} {s : String} (h : classes.wireOf depth within c = .ok s) :
    Unfolds classes (.cls c) s := by
  induction depth generalizing within c s with
  | zero => cases h
  | succ depth ih =>
    rw [unfolds_cls_iff]
    obtain hsimple | ⟨hsimple, -, types, a, htypes, hfields, ha, rfl⟩ :=
      Classes.wireOf_succ_eq_ok_iff.mp h
    · exact .inl hsimple
    · have hrow := unfolds_of_ofShapes (fun _ _ => ih) types a ha
      exact .inr ⟨hsimple, types, a, htypes, hfields, hrow, rfl⟩

/-! ## One signature at most -/

theorem tuple_not_mem_arrayOrigins : ClassName.builtin "tuple" ∉ arrayOrigins := by decide

theorem tuple_not_mem_mappingOrigins : ClassName.builtin "tuple" ∉ mappingOrigins := by decide

/-- The rules give everything one signature at most. Induction on the first derivation: what it is
about leaves one rule for the second. -/
theorem Unfolds.unique {classes : Classes} {subject : Subject} {s s' : String}
    (h : Unfolds classes subject s) (h' : Unfolds classes subject s') : s = s' := by
  -- Classes that are not opened have their signature at hand.
  have hsimple : ∀ {c t t'}, Unfolds classes (.cls c) t' →
      classes.simple? c = some (.ok t) → t = t' := by
    intro c t t' h' h
    obtain h' | ⟨h', -⟩ := unfolds_cls_iff.mp h'
    · exact Except.ok.inj (Option.some.inj (h.symm.trans h'))
    · exact absurd (h.symm.trans h') nofun
  induction h generalizing s' with
  | anything c h =>
    cases h' with
    | anything => rfl
    | named _ _ hany hvariant => exact absurd h (not_or.mpr ⟨hany, hvariant⟩)
  | named c s hany hvariant hgeneric h ih =>
    cases h' with
    | anything _ h => exact absurd h (not_or.mpr ⟨hany, hvariant⟩)
    | named _ _ _ _ _ h' => exact ih h'
  | pinned base marks s h =>
    cases h' with
    | pinned _ _ _ h' => exact h.unique h'
    | unpinned _ _ _ hmarks => exact absurd hmarks h.not_noWire
  | unpinned base marks s hmarks h ih =>
    cases h' with
    | pinned _ _ _ h' => exact absurd hmarks h'.not_noWire
    | unpinned _ _ _ _ h' => exact ih h'
  | array head native origin element s horigin h ih =>
    cases h' with
    | array _ _ _ _ _ _ h' => rw [ih h']
    | tuple _ _ _ _ _ htuple =>
      subst htuple
      exact absurd horigin tuple_not_mem_arrayOrigins
  | mapping head native origin key value k v horigin hkey hvalue ihkey ihvalue =>
    cases h' with
    | mapping _ _ _ _ _ _ _ _ hkey' hvalue' => rw [ihkey hkey', ihvalue hvalue']
    | many _ _ _ _ _ htuple =>
      subst htuple
      exact absurd horigin tuple_not_mem_mappingOrigins
    | tuple _ _ _ _ _ htuple =>
      subst htuple
      exact absurd horigin tuple_not_mem_mappingOrigins
  | many head native origin element s horigin h ih =>
    subst horigin
    cases h' with
    | mapping _ _ _ _ _ _ _ hmapping => exact absurd hmapping tuple_not_mem_mappingOrigins
    | many _ _ _ _ _ _ h' => rw [ih h']
    | tuple _ _ _ _ _ _ _ hfixed => exact absurd rfl (hfixed element)
  | tuple head native origin args s horigin hargs hfixed h ih =>
    subst horigin
    cases h' with
    | array _ _ _ _ _ harray => exact absurd harray tuple_not_mem_arrayOrigins
    | mapping _ _ _ _ _ _ _ hmapping => exact absurd hmapping tuple_not_mem_mappingOrigins
    | many _ _ _ element => exact absurd rfl (hfixed element)
    | tuple _ _ _ _ _ _ _ _ h' => rw [ih h']
  | nil =>
    cases h' with
    | nil => rfl
  | cons first rest s more hfirst hrest ihfirst ihrest =>
    cases h' with
    | cons _ _ _ _ hfirst' hrest' => rw [ihfirst hfirst', ihrest hrest']
  | explicit c s h => exact hsimple h' (Classes.simple?_of_explicit h)
  | numbers c hexplicit henum h => exact hsimple h' (Classes.simple?_of_numbers hexplicit henum h)
  | texts c hexplicit henum hint h =>
    exact hsimple h' (Classes.simple?_of_texts hexplicit henum hint h)
  | scalar c s hexplicit henum h => exact hsimple h' (Classes.simple?_of_scalar hexplicit henum h)
  | struct c types s hexplicit henum hscalar hstruct htypes hfields h ih =>
    have hopen := Classes.simple?_eq_none_iff.mpr ⟨hexplicit, henum, hscalar, hstruct⟩
    obtain h' | ⟨-, types', a, htypes', -, hrow, rfl⟩ := unfolds_cls_iff.mp h'
    · exact absurd (hopen.symm.trans h') nofun
    · rw [htypes] at htypes'
      cases htypes'
      rw [ih hrow]

end BusContract
