import BusContract.Proofs.Outcomes
import BusContract.Shape.Wire

/-!
# How the signature of a whole reads from its parts

One lemma for each function that spells a signature out: what the marks pin, when a row of signatures
is one, when a generic has a signature, and when a class has one. Later proofs about signatures use
these and open none of the functions.
-/

namespace BusContract

/-! ## Marks -/

/-- Is this the signature that the first of the marks with a signature pins? -/
def FirstWire (marks : List Mark) (s : String) : Prop :=
  ∃ before after, marks = before ++ Mark.wire s :: after
    ∧ ∀ mark ∈ before, ∀ other, mark ≠ .wire other

/-- Does no mark pin a signature? -/
def NoWire (marks : List Mark) : Prop := ∀ mark ∈ marks, ∀ s, mark ≠ .wire s

/-- The pinned signature is that of the first mark that pins one. Induction on the marks. -/
theorem pinned?_eq_some_iff {marks : List Mark} {s : String} :
    Wire.pinned? marks = some s ↔ FirstWire marks s := by
  induction marks with
  | nil =>
    refine ⟨nofun, ?_⟩
    rintro ⟨before, after, hmarks, -⟩
    exact absurd hmarks (List.append_ne_nil_of_right_ne_nil before (List.cons_ne_nil _ _)).symm
  | cons mark marks ih =>
    by_cases hmark : ∃ t, mark = .wire t
    · obtain ⟨t, rfl⟩ := hmark
      rw [Wire.pinned?, Option.some.injEq]
      constructor
      · rintro rfl
        exact ⟨[], marks, rfl, fun _ h => absurd h List.not_mem_nil⟩
      · rintro ⟨before, after, hmarks, hbefore⟩
        cases before with
        | nil => exact Mark.wire.inj (List.cons.inj hmarks).1
        | cons first before =>
          exact absurd (List.cons.inj hmarks).1.symm (hbefore first List.mem_cons_self t)
    · -- a mark that pins nothing is passed over
      have hskip : Wire.pinned? (mark :: marks) = Wire.pinned? marks := by
        cases mark with
        | wire t => exact absurd ⟨t, rfl⟩ hmark
        | value data => rfl
        | settings => rfl
      have hmark' : ∀ other, mark ≠ .wire other := fun other h => hmark ⟨other, h⟩
      rw [hskip, ih]
      constructor
      · rintro ⟨before, after, rfl, hbefore⟩
        exact ⟨mark :: before, after, rfl, List.forall_mem_cons.mpr ⟨hmark', hbefore⟩⟩
      · rintro ⟨before, after, hmarks, hbefore⟩
        cases before with
        | nil => exact absurd (List.cons.inj hmarks).1 (hmark' s)
        | cons first before =>
          exact ⟨before, after, (List.cons.inj hmarks).2, (List.forall_mem_cons.mp hbefore).2⟩

/-- Nothing is pinned exactly if no mark pins. -/
theorem pinned?_eq_none_iff {marks : List Mark} : Wire.pinned? marks = none ↔ NoWire marks := by
  unfold NoWire
  induction marks with
  | nil => exact ⟨fun _ _ h => absurd h List.not_mem_nil, fun _ => rfl⟩
  | cons mark marks ih =>
    rw [List.forall_mem_cons, ← ih]
    cases mark with
    | wire t => exact ⟨nofun, fun h => absurd rfl (h.1 t)⟩
    | value data => exact ⟨fun h => ⟨fun _ => nofun, h⟩, And.right⟩
    | settings => exact ⟨fun h => ⟨fun _ => nofun, h⟩, And.right⟩

/-- Either a mark names a type or none does. -/
theorem FirstWire.not_noWire {marks : List Mark} {s : String} (h : FirstWire marks s) :
    ¬ NoWire marks := by
  rw [← pinned?_eq_none_iff, pinned?_eq_some_iff.mpr h]
  nofun

/-- The first that does is one. -/
theorem FirstWire.unique {marks : List Mark} {s t : String} (hs : FirstWire marks s)
    (ht : FirstWire marks t) : s = t :=
  Option.some.inj ((pinned?_eq_some_iff.mpr hs).symm.trans (pinned?_eq_some_iff.mpr ht))

/-! ## Signatures in a row -/

namespace Wire

variable {ofClass : ClassName → Wire}

/-- Signatures in a row are there exactly if the first and the others are. -/
theorem concat_cons_eq_ok_iff {w : Wire} {ws : List Wire} {s : String} :
    concat (w :: ws) = .ok s ↔ ∃ a b, w = .ok a ∧ concat ws = .ok b ∧ s = a ++ b := by
  cases w with
  | error fault => exact ⟨nofun, nofun⟩
  | ok a =>
    rw [concat, map_eq_ok_iff]
    constructor
    · rintro ⟨b, hb, rfl⟩
      exact ⟨a, b, rfl, hb, rfl⟩
    · rintro ⟨a', b, ha, hb, rfl⟩
      cases ha
      exact ⟨b, hb, rfl⟩

/-- A mapping is written if its key and value are. -/
theorem mapping_eq_ok_iff {key value : Wire} {s : String} :
    mapping key value = .ok s
      ↔ ∃ k v, key = .ok k ∧ value = .ok v ∧ s = "a\x7b" ++ (k ++ v) ++ "\x7d" := by
  rw [mapping, map_eq_ok_iff]
  constructor
  · rintro ⟨a, ha, rfl⟩
    obtain ⟨k, b, hk, hb, rfl⟩ := concat_cons_eq_ok_iff.mp ha
    obtain ⟨v, e, hv, he, rfl⟩ := concat_cons_eq_ok_iff.mp hb
    cases he
    exact ⟨k, v, hk, hv, by rw [String.append_empty]⟩
  · rintro ⟨k, v, rfl, rfl, rfl⟩
    exact ⟨k ++ (v ++ ""), rfl, by rw [String.append_empty]⟩

/-! ## Generics -/

theorem isEllipsis_eq_true_iff {t : Shape} : isEllipsis t = true ↔ t = .ellipsis := by
  cases t <;> simp [isEllipsis]

/-- A tuple of any length is an array. -/
theorem ofTuple_many (element : Shape) :
    ofTuple [element, .ellipsis] (ofShapes ofClass [element, .ellipsis])
      = array (ofShape ofClass element) := rfl

/-- Every other tuple that is not empty is a struct. -/
theorem ofTuple_fixed {args : List Shape} (hargs : args ≠ [])
    (hfixed : ∀ element, args ≠ [element, .ellipsis]) :
    ofTuple args (ofShapes ofClass args) = struct (ofShapes ofClass args) := by
  match args with
  | [] => exact absurd rfl hargs
  | [_] => rfl
  | [first, last] =>
    -- two elements are a struct unless the second is the dots
    have hlast : isEllipsis last = false := by
      rw [Bool.eq_false_iff, Ne, isEllipsis_eq_true_iff]
      rintro rfl
      exact hfixed first rfl
    simp only [ofShapes, ofTuple, hlast, Bool.false_eq_true, if_false]
  | _ :: _ :: _ :: _ => rfl

/-- No generic type is both. -/
theorem not_mem_arrayOrigins_of_mapping {origin : ClassName} (h : origin ∈ mappingOrigins) :
    origin ∉ arrayOrigins := by
  revert origin
  decide

/-- An array has exactly one argument. -/
theorem ofGeneric_array_eq_ok_iff {shape : Shape} {origin : ClassName} {args : List Shape}
    {s : String} (h : origin ∈ arrayOrigins) :
    ofGeneric shape origin args (ofShapes ofClass args) = .ok s
      ↔ ∃ element a, args = [element] ∧ ofShape ofClass element = .ok a ∧ s = "a" ++ a := by
  unfold ofGeneric
  rw [if_pos (List.contains_iff_mem.mpr h)]
  match args with
  | [] => exact ⟨nofun, nofun⟩
  | [element] =>
    show array (ofShape ofClass element) = .ok s ↔ _
    rw [array, map_eq_ok_iff]
    constructor
    · rintro ⟨a, ha, rfl⟩
      exact ⟨element, a, rfl, ha, rfl⟩
    · rintro ⟨e, a, he, ha, rfl⟩
      cases he
      exact ⟨a, ha, rfl⟩
  | _ :: _ :: _ => exact ⟨nofun, nofun⟩

/-- A mapping has exactly two arguments. -/
theorem ofGeneric_mapping_eq_ok_iff {shape : Shape} {origin : ClassName} {args : List Shape}
    {s : String} (h : origin ∈ mappingOrigins) :
    ofGeneric shape origin args (ofShapes ofClass args) = .ok s
      ↔ ∃ key value k v, args = [key, value] ∧ ofShape ofClass key = .ok k
          ∧ ofShape ofClass value = .ok v ∧ s = "a\x7b" ++ (k ++ v) ++ "\x7d" := by
  have harray : ¬ arrayOrigins.contains origin = true := fun hc =>
    not_mem_arrayOrigins_of_mapping h (List.contains_iff_mem.mp hc)
  unfold ofGeneric
  rw [if_neg harray, if_pos (List.contains_iff_mem.mpr h)]
  -- two arguments, or it is no mapping
  match args with
  | [] => exact ⟨nofun, nofun⟩
  | [_] => exact ⟨nofun, nofun⟩
  | [key, value] =>
    show mapping (ofShape ofClass key) (ofShape ofClass value) = .ok s ↔ _
    rw [mapping_eq_ok_iff]
    constructor
    · rintro ⟨k, v, hk, hv, rfl⟩
      exact ⟨key, value, k, v, rfl, hk, hv, rfl⟩
    · rintro ⟨key', value', k, v, hargs, hk, hv, rfl⟩
      cases hargs
      exact ⟨k, v, hk, hv, rfl⟩
  | _ :: _ :: _ :: _ => exact ⟨nofun, nofun⟩

/-- A tuple is an array of its element or a struct of its elements. -/
theorem ofGeneric_tuple_eq_ok_iff {shape : Shape} {args : List Shape} {s : String} :
    ofGeneric shape (.builtin "tuple") args (ofShapes ofClass args) = .ok s
      ↔ (∃ element a, args = [element, .ellipsis] ∧ ofShape ofClass element = .ok a
          ∧ s = "a" ++ a)
        ∨ (args ≠ [] ∧ (∀ element, args ≠ [element, .ellipsis])
          ∧ ∃ a, concat (ofShapes ofClass args) = .ok a ∧ s = "(" ++ a ++ ")") := by
  have hopen : ofGeneric shape (.builtin "tuple") args (ofShapes ofClass args)
      = ofTuple args (ofShapes ofClass args) := by
    unfold ofGeneric
    rw [if_neg (by decide), if_neg (by decide), if_pos rfl]
  rw [hopen]
  -- an element and an ellipsis are an array, any other row that is not empty a struct
  by_cases hmany : ∃ element, args = [element, .ellipsis]
  · obtain ⟨element, rfl⟩ := hmany
    rw [ofTuple_many, array, map_eq_ok_iff]
    constructor
    · rintro ⟨a, ha, rfl⟩
      exact .inl ⟨element, a, rfl, ha, rfl⟩
    · rintro (⟨e, a, he, ha, rfl⟩ | ⟨-, hfixed, -⟩)
      · cases he
        exact ⟨a, ha, rfl⟩
      · exact absurd rfl (hfixed element)
  · have hfixed : ∀ element, args ≠ [element, .ellipsis] := not_exists.mp hmany
    by_cases hargs : args = []
    · subst hargs
      constructor
      · exact nofun
      · rintro (⟨_, _, h, -⟩ | ⟨h, -⟩)
        · exact absurd h (hfixed _)
        · exact absurd rfl h
    · rw [ofTuple_fixed hargs hfixed, struct, map_eq_ok_iff]
      constructor
      · rintro ⟨a, ha, rfl⟩
        exact .inr ⟨hargs, hfixed, a, ha, rfl⟩
      · rintro (⟨e, _, h, -⟩ | ⟨-, -, h⟩)
        · exact absurd h (hfixed e)
        · exact h

/-- Every generic with a signature is an array, a mapping or one of the two kinds of tuples. -/
theorem ofGeneric_ok_cases {shape : Shape} {origin : ClassName} {args : List Shape} {s : String}
    (h : ofGeneric shape origin args (ofShapes ofClass args) = .ok s) :
    (origin ∈ arrayOrigins
        ∧ ∃ element a, args = [element] ∧ ofShape ofClass element = .ok a ∧ s = "a" ++ a)
      ∨ (origin ∈ mappingOrigins
        ∧ ∃ key value k v, args = [key, value] ∧ ofShape ofClass key = .ok k
          ∧ ofShape ofClass value = .ok v ∧ s = "a\x7b" ++ (k ++ v) ++ "\x7d")
      ∨ (origin = .builtin "tuple"
        ∧ ∃ element a, args = [element, .ellipsis] ∧ ofShape ofClass element = .ok a
          ∧ s = "a" ++ a)
      ∨ (origin = .builtin "tuple" ∧ args ≠ [] ∧ (∀ element, args ≠ [element, .ellipsis])
        ∧ ∃ a, concat (ofShapes ofClass args) = .ok a ∧ s = "(" ++ a ++ ")") := by
  by_cases harray : origin ∈ arrayOrigins
  · exact .inl ⟨harray, (ofGeneric_array_eq_ok_iff harray).mp h⟩
  by_cases hmapping : origin ∈ mappingOrigins
  · exact .inr (.inl ⟨hmapping, (ofGeneric_mapping_eq_ok_iff hmapping).mp h⟩)
  by_cases htuple : origin = .builtin "tuple"
  · subst htuple
    rcases ofGeneric_tuple_eq_ok_iff.mp h with hmany | hfixed
    · exact .inr (.inr (.inl ⟨rfl, hmany⟩))
    · exact .inr (.inr (.inr ⟨rfl, hfixed⟩))
  -- no other class makes a generic that is sent
  unfold ofGeneric at h
  rw [if_neg (fun hc => harray (List.contains_iff_mem.mp hc)),
    if_neg (fun hc => hmapping (List.contains_iff_mem.mp hc)), if_neg htuple] at h
  cases h

end Wire

/-! ## Classes -/

namespace Classes

variable {classes : Classes} {c : ClassName} {s : String}

/-- What a class says itself comes first. -/
theorem simple?_of_explicit (h : classes.explicit? c = some s) :
    classes.simple? c = some (.ok s) := by
  rw [simple?, h]

/-- Numbers that have names are numbers. -/
theorem simple?_of_numbers (hexplicit : classes.explicit? c = none)
    (henum : classes.descends c .enumeration = true)
    (h : classes.descends c (.builtin "int") = true) : classes.simple? c = some (.ok "u") := by
  simp only [simple?, hexplicit, henum, h, if_true]

/-- Texts that have names are texts. -/
theorem simple?_of_texts (hexplicit : classes.explicit? c = none)
    (henum : classes.descends c .enumeration = true)
    (hint : classes.descends c (.builtin "int") = false)
    (h : classes.descends c (.builtin "str") = true) : classes.simple? c = some (.ok "s") := by
  simp only [simple?, hexplicit, henum, hint, h, if_true, Bool.false_eq_true, if_false]

/-- A class that comes from a simple one is as simple. -/
theorem simple?_of_scalar (hexplicit : classes.explicit? c = none)
    (henum : classes.descends c .enumeration = false) (h : classes.scalar? c = some s) :
    classes.simple? c = some (.ok s) := by
  simp only [simple?, hexplicit, henum, h, Bool.false_eq_true, if_false]

/-- Every class with a signature that is not opened is one of these four. -/
theorem simple?_ok_cases (h : classes.simple? c = some (.ok s)) :
    classes.explicit? c = some s
      ∨ (classes.explicit? c = none ∧ classes.descends c .enumeration = true
        ∧ classes.descends c (.builtin "int") = true ∧ s = "u")
      ∨ (classes.explicit? c = none ∧ classes.descends c .enumeration = true
        ∧ classes.descends c (.builtin "int") = false
        ∧ classes.descends c (.builtin "str") = true ∧ s = "s")
      ∨ (classes.explicit? c = none ∧ classes.descends c .enumeration = false
        ∧ classes.scalar? c = some s) := by
  unfold simple? at h
  split at h
  next t hexplicit =>
    cases h
    exact .inl hexplicit
  next hexplicit =>
    right
    split at h
    next henum =>
      split at h
      next hint =>
        cases h
        exact .inl ⟨hexplicit, henum, hint, rfl⟩
      next hint =>
        split at h
        next hstr =>
          cases h
          exact .inr (.inl ⟨hexplicit, henum, Bool.eq_false_iff.mpr hint, hstr, rfl⟩)
        next => cases h
    next henum =>
      split at h
      next t hscalar =>
        cases h
        exact .inr (.inr ⟨hexplicit, Bool.eq_false_iff.mpr henum, hscalar⟩)
      next =>
        -- what is left keeps fields, or is no class for the wire
        split at h
        next => cases h
        next => cases h

/-- A class is opened for its fields exactly if it gives no signature, is no enumeration, descends
from no scalar and keeps fields. -/
theorem simple?_eq_none_iff :
    classes.simple? c = none
      ↔ classes.explicit? c = none ∧ classes.descends c .enumeration = false
        ∧ classes.scalar? c = none ∧ classes.isStruct c = true := by
  unfold simple?
  cases classes.explicit? c with
  | some s => simp only [reduceCtorEq, false_and]
  | none =>
    cases classes.descends c .enumeration with
    | true =>
      cases classes.descends c (.builtin "int") <;> cases classes.descends c (.builtin "str") <;> simp
    | false =>
      cases classes.scalar? c with
      | some s => simp
      | none => cases classes.isStruct c <;> simp

/-- An opened class has a signature exactly if it is not open already and its fields have
signatures inside it. -/
theorem wireOf_succ_eq_ok_iff {depth : Nat} {within : List ClassName} :
    classes.wireOf (depth + 1) within c = .ok s
      ↔ classes.simple? c = some (.ok s)
        ∨ (classes.simple? c = none ∧ c ∉ within
          ∧ ∃ types a, classes.fieldTypes c = .ok types ∧ types ≠ []
            ∧ Wire.concat (Wire.ofShapes (classes.wireOf depth (c :: within)) types) = .ok a
            ∧ s = "(" ++ a ++ ")") := by
  unfold Classes.wireOf
  -- what is no struct does not open the class
  cases hsimple : classes.simple? c with
  | some w => simp
  | none =>
    by_cases hopen : c ∈ within
    · simp [hopen]
    · cases htypes : classes.fieldTypes c with
      | error fault => simp [hopen]
      | ok types =>
        cases types with
        | nil => simp [hopen]
        | cons first rest =>
          simp only [List.contains_iff_mem, hopen, if_false, Wire.struct, map_eq_ok_iff]
          simp

end Classes

end BusContract
