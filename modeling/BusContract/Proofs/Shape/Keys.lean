import BusContract.Proofs.Shape.Complete
import BusContract.Proofs.Shape.Pins
import BusContract.Proofs.Signature.Loose

/-!
# Signatures that are complete types

Of a mapping nothing is asked but that its key and its value have signatures, although the key of an
entry has to be basic. Everything else that a signature is put together from keeps to the grammar, as
long as the signatures that were written do. So a signature is a complete type exactly if every key
on the way to it is sent as a basic type (`Classes.wire_isSingleSignature_iff`).

The rules of `Unfolds` are read as loose types first, whose keys are those of the mappings that are
met (`isLoose_of_unfolds`).
-/

namespace BusContract

open BusContract.CompleteType (signature)
open Wire (arrayOrigins mappingOrigins)

/-! ## The keys that are met -/

/-- Is the shape the key of a mapping that is met on the way to the signature of a subject? What is
under marks that pin a signature is not met, and neither are the fields of a class that is not
opened. -/
inductive HasKey (classes : Classes) : Subject → Shape → Prop where
  | key (head : String) (native : Bool) (origin : ClassName) (key value : Shape)
      (horigin : origin ∈ mappingOrigins) :
      HasKey classes (.shape (.applied head native origin [key, value])) key
  | argument (head : String) (native : Bool) (origin : ClassName) (args : List Shape)
      (t key : Shape) (ht : t ∈ args) (h : HasKey classes (.shape t) key) :
      HasKey classes (.shape (.applied head native origin args)) key
  | base (base : Shape) (marks : List Mark) (key : Shape) (hmarks : NoWire marks)
      (h : HasKey classes (.shape base) key) : HasKey classes (.shape (.annotated base marks)) key
  | named (c : ClassName) (key : Shape) (hc : c.IsPlain) (h : HasKey classes (.cls c) key) :
      HasKey classes (.shape (.cls c)) key
  | member (types : List Shape) (t key : Shape) (ht : t ∈ types) (h : HasKey classes (.shape t) key) :
      HasKey classes (.row types) key
  | field (c : ClassName) (types : List Shape) (key : Shape) (hc : classes.simple? c = none)
      (htypes : classes.fieldTypes c = .ok types) (h : HasKey classes (.row types) key) :
      HasKey classes (.cls c) key

section Reading

variable {classes : Classes}

/-- A generic type has the key of a mapping, and those of its arguments. -/
theorem hasKey_applied_iff {head : String} {native : Bool} {origin : ClassName} {args : List Shape}
    {key : Shape} :
    HasKey classes (.shape (.applied head native origin args)) key
      ↔ (origin ∈ mappingOrigins ∧ ∃ value, args = [key, value])
        ∨ HasKey classes (.row args) key := by
  constructor
  · intro h
    cases h with
    | key _ _ _ _ value horigin => exact .inl ⟨horigin, value, rfl⟩
    | argument _ _ _ _ t _ ht h => exact .inr (.member args t key ht h)
  · rintro (⟨horigin, value, rfl⟩ | h)
    · exact .key head native origin key value horigin
    · cases h with
      | member _ t _ ht h => exact .argument head native origin args t key ht h

/-- A row has the keys of each. -/
theorem hasKey_cons_iff {first : Shape} {rest : List Shape} {key : Shape} :
    HasKey classes (.row (first :: rest)) key
      ↔ HasKey classes (.shape first) key ∨ HasKey classes (.row rest) key := by
  constructor
  · intro h
    cases h with
    | member _ t _ ht h =>
      rcases List.mem_cons.mp ht with rfl | ht
      · exact .inl h
      · exact .inr (.member rest t key ht h)
  · rintro (h | h)
    · exact .member _ first key List.mem_cons_self h
    · cases h with
      | member _ t _ ht h => exact .member _ t key (List.mem_cons_of_mem first ht) h

/-- Marks that name no type make no difference. -/
theorem hasKey_annotated_iff {base : Shape} {marks : List Mark} {key : Shape}
    (hmarks : NoWire marks) :
    HasKey classes (.shape (.annotated base marks)) key ↔ HasKey classes (.shape base) key := by
  constructor
  · intro h
    cases h with
    | base _ _ _ _ h => exact h
  · exact .base base marks key hmarks

/-- A mark that names a type hides all keys. -/
theorem not_hasKey_pinned {base : Shape} {marks : List Mark} {s : String}
    (hmarks : FirstWire marks s) (key : Shape) :
    ¬ HasKey classes (.shape (.annotated base marks)) key := by
  intro h
  cases h with
  | base _ _ _ hnone => exact hmarks.not_noWire hnone

/-- A class that is taken apart has the keys of its fields. -/
theorem hasKey_named_iff {c : ClassName} {key : Shape} (hc : c.IsPlain) :
    HasKey classes (.shape (.cls c)) key ↔ HasKey classes (.cls c) key := by
  constructor
  · intro h
    cases h with
    | named _ _ _ h => exact h
  · exact .named c key hc

/-- One that is not has none. -/
theorem not_hasKey_named {c : ClassName} (hc : ¬ c.IsPlain) (key : Shape) :
    ¬ HasKey classes (.shape (.cls c)) key := by
  intro h
  cases h with
  | named _ _ h => exact hc h

/-- The keys of a class that is opened are those of its fields. -/
theorem hasKey_cls_iff {c : ClassName} {types : List Shape} {key : Shape}
    (hopen : classes.simple? c = none) (htypes : classes.fieldTypes c = .ok types) :
    HasKey classes (.cls c) key ↔ HasKey classes (.row types) key := by
  constructor
  · intro h
    cases h with
    | field _ types' _ _ htypes' h =>
      obtain rfl := Except.ok.inj (htypes.symm.trans htypes')
      exact h
  · exact .field c types key hopen htypes

/-- A class that is not opened has no keys. -/
theorem not_hasKey_cls {c : ClassName} {wire : Wire} (hsimple : classes.simple? c = some wire)
    (key : Shape) : ¬ HasKey classes (.cls c) key := by
  intro h
  cases h with
  | field _ _ _ hc => exact absurd (hc.symm.trans hsimple) nofun

theorem not_hasKey_nil {key : Shape} : ¬ HasKey classes (.row []) key := by
  intro h
  cases h with
  | member _ t _ ht => exact absurd ht List.not_mem_nil

/-- What is no mapping has no key of its own. -/
theorem hasKey_applied_iff_of_not_mem {head : String} {native : Bool} {origin : ClassName}
    {args : List Shape} {key : Shape} (horigin : origin ∉ mappingOrigins) :
    HasKey classes (.shape (.applied head native origin args)) key
      ↔ HasKey classes (.row args) key := by
  rw [hasKey_applied_iff]
  exact or_iff_right fun h => horigin h.1

/-- The keys of a row of one shape are those of the shape, also if an ellipsis comes after it. -/
theorem hasKey_one_iff {element key : Shape} {args : List Shape}
    (hargs : args = [element] ∨ args = [element, .ellipsis]) :
    HasKey classes (.row args) key ↔ HasKey classes (.shape element) key := by
  have hellipsis : ¬ HasKey classes (.shape .ellipsis) key := nofun
  rcases hargs with rfl | rfl
  · rw [hasKey_cons_iff]
    exact or_iff_left not_hasKey_nil
  · rw [hasKey_cons_iff, hasKey_cons_iff]
    exact or_iff_left (not_or.mpr ⟨hellipsis, not_hasKey_nil⟩)

/-! ## Reading what unfolds as a loose type -/

namespace LooseType

/-- The signature that a loose type is written as. -/
def wire (t : LooseType) : String := String.ofList t.letters

/-- An array is written as its element behind its letter. -/
theorem wire_array (element : LooseType) : (array element).wire = "a" ++ element.wire := by
  simp only [← String.toList_inj, String.toList_append, wire, String.toList_ofList, letters]
  rfl

/-- A mapping is written as its key and value in braces. -/
theorem wire_mapping (key value : LooseType) :
    (mapping key value).wire = "a\x7b" ++ (key.wire ++ value.wire) ++ "\x7d" := by
  simp only [← String.toList_inj, String.toList_append, wire, String.toList_ofList, letters,
    List.append_assoc]
  rfl

/-- A struct is written as its parts in parentheses. -/
theorem wire_struct (first : LooseType) (rest : List LooseType) :
    (struct first rest).wire = "(" ++ String.ofList (lettersOfAll (first :: rest)) ++ ")" := by
  simp only [← String.toList_inj, String.toList_append, wire, String.toList_ofList, letters,
    lettersOfAll, List.append_assoc]
  rfl

/-- A complete type is written as it is. -/
theorem wire_exact (t : CompleteType) : (exact t).wire = signature [t] := by
  rw [wire, letters, signature, CompleteType.lettersOfAll, CompleteType.lettersOfAll,
    List.append_nil]

end LooseType

/-- Do the keys of a loose type stand for the given shapes? -/
structure KeysFor (classes : Classes) (met : Shape → Prop) (keys : List LooseType) : Prop where
  sent : ∀ key, met key → ∃ k ∈ keys, Unfolds classes (.shape key) k.wire
  met : ∀ k ∈ keys, ∃ key, met key ∧ Unfolds classes (.shape key) k.wire

namespace KeysFor

variable {met met' : Shape → Prop} {keys more : List LooseType}

/-- Where there are no keys none are listed. -/
theorem none (h : ∀ key, ¬ met key) : KeysFor classes met [] :=
  ⟨fun key hkey => absurd hkey (h key), fun _ hk => absurd hk List.not_mem_nil⟩

/-- Which keys are met is all that counts. -/
theorem congr (h : KeysFor classes met keys) (hmet : ∀ key, met' key ↔ met key) :
    KeysFor classes met' keys := by
  obtain rfl : met' = met := funext fun key => propext (hmet key)
  exact h

/-- One key. -/
theorem single {key : Shape} {k : LooseType} (h : Unfolds classes (.shape key) k.wire) :
    KeysFor classes (· = key) [k] where
  sent := by
    rintro _ rfl
    exact ⟨k, List.mem_singleton_self k, h⟩
  met k' hk' := ⟨key, rfl, by rwa [List.mem_singleton.mp hk']⟩

/-- The keys of two parts. -/
theorem append (h : KeysFor classes met keys) (h' : KeysFor classes met' more) :
    KeysFor classes (fun key => met key ∨ met' key) (keys ++ more) where
  sent := by
    rintro key (hkey | hkey)
    · obtain ⟨k, hk, hwire⟩ := h.sent key hkey
      exact ⟨k, List.mem_append_left more hk, hwire⟩
    · obtain ⟨k, hk, hwire⟩ := h'.sent key hkey
      exact ⟨k, List.mem_append_right keys hk, hwire⟩
  met k hk := by
    rcases List.mem_append.mp hk with hk | hk
    · obtain ⟨key, hkey, hwire⟩ := h.met k hk
      exact ⟨key, .inl hkey, hwire⟩
    · obtain ⟨key, hkey, hwire⟩ := h'.met k hk
      exact ⟨key, .inr hkey, hwire⟩

/-- All keys are basic exactly if every shape that is met as a key is sent as a basic type. -/
theorem forall_isBasic_iff (h : KeysFor classes met keys) :
    (∀ k ∈ keys, k.IsBasic)
      ↔ ∀ key, met key → ∃ b : BasicType, Unfolds classes (.shape key) (signature [.basic b]) := by
  have hbasic {k : LooseType} {b : BasicType} :
      k.wire = signature [.basic b] ↔ k.letters = [b.letter] := String.ofList_inj
  constructor
  · intro hkeys key hkey
    obtain ⟨k, hk, hwire⟩ := h.sent key hkey
    obtain ⟨b, hb⟩ := hkeys k hk
    rw [hbasic.mpr hb] at hwire
    exact ⟨b, hwire⟩
  · intro hmet k hk
    obtain ⟨key, hkey, hwire⟩ := h.met k hk
    obtain ⟨b, hb⟩ := hmet key hkey
    exact ⟨b, hbasic.mp (hwire.unique hb)⟩

end KeysFor

/-- Is the signature that of a loose type, or of a row of as many as there are shapes, with the keys
that are met for the subject? -/
def Subject.IsLoose (classes : Classes) (subject : Subject) (s : String) : Prop :=
  match subject with
  | .row types => ∃ ts : List LooseType, ts.length = types.length
      ∧ s = String.ofList (LooseType.lettersOfAll ts)
      ∧ KeysFor classes (HasKey classes subject) (LooseType.keysOfAll ts)
  | _ => ∃ t : LooseType, s = t.wire ∧ KeysFor classes (HasKey classes subject) t.keys

/-- The signatures that are pinned in a subject itself. -/
def Subject.Pins (m : String) : Subject → Prop
  | .shape t => t.Pins m
  | .row types => ∃ t ∈ types, t.Pins m
  | .cls _ => False

/-- A complete type without keys is a loose one. -/
theorem exists_loose_of_isSingle {s : String} {met : Shape → Prop} (hs : IsSingleSignature s)
    (hnone : ∀ key, ¬ met key) : ∃ t : LooseType, s = t.wire ∧ KeysFor classes met t.keys := by
  obtain ⟨u, rfl⟩ := hs
  exact ⟨.exact u, (LooseType.wire_exact u).symm, .none hnone⟩

/-- What follows from the rules is loosely a type, or a row of types, if all that was written is a
complete type. Induction on the derivation. -/
theorem isLoose_of_unfolds (hclasses : ∀ m, classes.Writes m → IsSingleSignature m)
    {subject : Subject} {s : String} (h : Unfolds classes subject s)
    (hsubject : ∀ m, subject.Pins m → IsSingleSignature m) : subject.IsLoose classes s := by
  induction h with
  | anything c h =>
    have hc : ¬ c.IsPlain := fun hplain => absurd h (not_or.mpr ⟨hplain.1, hplain.2.1⟩)
    exact exists_loose_of_isSingle ⟨.variant, rfl⟩ (not_hasKey_named hc)
  | named c s hany hvariant hgeneric h ih =>
    obtain ⟨t, rfl, hkeys⟩ := ih nofun
    exact ⟨t, rfl, hkeys.congr fun key => hasKey_named_iff ⟨hany, hvariant, hgeneric⟩⟩
  | pinned base marks s h =>
    have hmark : Mark.wire s ∈ marks := by
      obtain ⟨before, after, rfl, -⟩ := h
      exact List.mem_append_right before List.mem_cons_self
    exact exists_loose_of_isSingle (hsubject s (.mark base marks hmark)) (not_hasKey_pinned h)
  | unpinned base marks s hmarks h ih =>
    obtain ⟨t, rfl, hkeys⟩ := ih fun m hm => hsubject m (.base base marks hm)
    exact ⟨t, rfl, hkeys.congr fun key => hasKey_annotated_iff hmarks⟩
  | array head native origin element s horigin h ih =>
    obtain ⟨t, rfl, hkeys⟩ := ih fun m hm =>
      hsubject m (.argument head native origin _ element (List.mem_singleton_self _) hm)
    have hmapping : origin ∉ mappingOrigins := fun hmem =>
      Wire.not_mem_arrayOrigins_of_mapping hmem horigin
    refine ⟨.array t, (LooseType.wire_array t).symm, hkeys.congr fun key => ?_⟩
    rw [hasKey_applied_iff_of_not_mem hmapping, hasKey_one_iff (.inl rfl)]
  | mapping head native origin key value k v horigin hkey hvalue ihkey ihvalue =>
    obtain ⟨t, rfl, hkeys⟩ := ihkey fun m hm =>
      hsubject m (.argument head native origin _ key List.mem_cons_self hm)
    obtain ⟨u, rfl, hmore⟩ := ihvalue fun m hm =>
      hsubject m (.argument head native origin _ value (List.mem_cons_of_mem _ List.mem_cons_self) hm)
    refine ⟨.mapping t u, (LooseType.wire_mapping t u).symm, ?_⟩
    -- the key itself, and what is met in it and in the value
    refine ((KeysFor.single hkey).append (hkeys.append hmore)).congr fun met => ?_
    rw [hasKey_applied_iff, hasKey_cons_iff, hasKey_one_iff (.inl rfl)]
    refine or_congr_left ⟨?_, ?_⟩
    · rintro ⟨-, _, hargs⟩
      exact (List.cons.inj hargs).1.symm
    · rintro rfl
      exact ⟨horigin, value, rfl⟩
  | many head native origin element s horigin h ih =>
    subst horigin
    obtain ⟨t, rfl, hkeys⟩ := ih fun m hm =>
      hsubject m (.argument head native _ _ element List.mem_cons_self hm)
    refine ⟨.array t, (LooseType.wire_array t).symm, hkeys.congr fun key => ?_⟩
    rw [hasKey_applied_iff_of_not_mem tuple_not_mem_mappingOrigins,
      hasKey_one_iff (.inr rfl)]
  | tuple head native origin args s horigin hargs hfixed h ih =>
    subst horigin
    obtain ⟨ts, hlength, rfl, hkeys⟩ := ih fun m ⟨t, ht, hm⟩ =>
      hsubject m (.argument head native _ args t ht hm)
    obtain ⟨first, rest, rfl⟩ := List.exists_cons_of_length_pos
      (hlength ▸ List.length_pos_iff.mpr hargs)
    refine ⟨.struct first rest, (LooseType.wire_struct first rest).symm, hkeys.congr fun key => ?_⟩
    exact hasKey_applied_iff_of_not_mem tuple_not_mem_mappingOrigins
  | nil => exact ⟨[], rfl, rfl, .none fun _ => not_hasKey_nil⟩
  | cons first rest s more hfirst hrest ihfirst ihrest =>
    obtain ⟨t, rfl, hkeys⟩ := ihfirst fun m hm => hsubject m ⟨first, List.mem_cons_self, hm⟩
    obtain ⟨ts, hlength, rfl, hmore⟩ := ihrest fun m ⟨u, hu, hm⟩ =>
      hsubject m ⟨u, List.mem_cons_of_mem first hu, hm⟩
    refine ⟨t :: ts, by rw [List.length_cons, List.length_cons, hlength], ?_, ?_⟩
    · rw [LooseType.lettersOfAll, String.ofList_append, LooseType.wire]
    · exact (hkeys.append hmore).congr fun key => hasKey_cons_iff
  | explicit c s h =>
    have hs := hclasses s (Classes.writes_of_explicit? h)
    exact exists_loose_of_isSingle hs (not_hasKey_cls (Classes.simple?_of_explicit h))
  | numbers c hexplicit henum h =>
    have hsimple := Classes.simple?_of_numbers hexplicit henum h
    exact exists_loose_of_isSingle ⟨.basic .uint32, rfl⟩ (not_hasKey_cls hsimple)
  | texts c hexplicit henum hint h =>
    have hsimple := Classes.simple?_of_texts hexplicit henum hint h
    exact exists_loose_of_isSingle ⟨.basic .string, rfl⟩ (not_hasKey_cls hsimple)
  | scalar c s hexplicit henum h =>
    have hsimple := Classes.simple?_of_scalar hexplicit henum h
    obtain ⟨t, rfl, -⟩ := Classes.exists_type_of_simple? hexplicit hsimple
    exact exists_loose_of_isSingle ⟨t, rfl⟩ (not_hasKey_cls hsimple)
  | struct c types s hexplicit henum hscalar hstruct htypes hfields h ih =>
    -- what is pinned in the types of the fields is written in the classes
    have hopen := Classes.simple?_eq_none_iff.mpr ⟨hexplicit, henum, hscalar, hstruct⟩
    obtain ⟨ts, hlength, rfl, hkeys⟩ := ih fun m ⟨t, ht, hm⟩ =>
      hclasses m (Classes.writes_of_fieldTypes htypes ht hm)
    obtain ⟨first, rest, rfl⟩ := List.exists_cons_of_length_pos
      (hlength ▸ List.length_pos_iff.mpr hfields)
    refine ⟨.struct first rest, (LooseType.wire_struct first rest).symm, hkeys.congr fun key => ?_⟩
    exact hasKey_cls_iff hopen htypes

end Reading

/-! ## The whole of it -/

/-- Where every signature that is pinned or given is a complete type, whatever is spelled out is one
exactly if each key that is met is sent as a basic type; and nothing is spelled out exactly for what
has no signature by the rules. -/
theorem Classes.wire_isSingleSignature_iff (classes : Classes) (t : Shape)
    (hwritten : ∀ m, t.Pins m ∨ classes.Writes m → IsSingleSignature m) :
    (∀ s, classes.wire t = .ok s →
      (IsSingleSignature s ↔ ∀ key, HasKey classes (.shape t) key →
        ∃ b : BasicType, classes.wire key = .ok (signature [.basic b])))
    ∧ ((∃ fault, classes.wire t = .error fault) ↔ ¬ ∃ s, Unfolds classes (.shape t) s) := by
  constructor
  · intro s hs
    have hpinned : ∀ m, (Subject.shape t).Pins m → IsSingleSignature m := fun m hm =>
      hwritten m (.inl hm)
    obtain ⟨u, rfl, hkeys⟩ :=
      isLoose_of_unfolds (fun m hm => hwritten m (.inr hm)) (wire_eq_ok_iff.mp hs) hpinned
    -- a loose type is read as a complete one when each of its keys is one basic code
    have hsingle : IsSingleSignature u.wire ↔ ∃ v : CompleteType, u.letters = v.letters := by
      refine exists_congr fun v => ?_
      rw [← LooseType.wire_exact, eq_comm]
      exact String.ofList_inj
    rw [hsingle, u.exists_letters_eq_iff, hkeys.forall_isBasic_iff]
    simp only [wire_eq_ok_iff]
  · cases hwire : classes.wire t with
    | error fault =>
      refine iff_of_true ⟨fault, rfl⟩ ?_
      rintro ⟨s, hs⟩
      exact absurd (hwire.symm.trans (wire_eq_ok_iff.mpr hs)) nofun
    | ok s => exact iff_of_false nofun (not_not_intro ⟨s, wire_eq_ok_iff.mp hwire⟩)

/-- Handles by their names: the key is a text, and a handle pins the signature of its successor. -/
def handlesByName : Shape :=
  .applied "dict" true (.builtin "dict") [.builtin "str", .cls (.of "links" "Handle")]

/-- What the chain and the handle write is the path that the handle keeps. -/
theorem writes_selfReferring {m : String} (h : selfReferring.Writes m) : m = "o" := by
  have hwritten : ∀ declared ∈ selfReferring, declared.explicit = none ∧ declared.model = none
      ∧ ∃ next, declared.hints = [("label", .builtin "str"), ("next", next)]
        ∧ (next = .forward "Chain" ∨ next = .annotated (.forward "Handle") [.settings, .wire "o"]) := by
    refine List.forall_mem_cons.mpr ⟨⟨rfl, rfl, _, rfl, .inl rfl⟩, ?_⟩
    exact List.forall_mem_cons.mpr ⟨⟨rfl, rfl, _, rfl, .inr rfl⟩, nofun⟩
  obtain ⟨declared, hdeclared, h⟩ := h
  obtain ⟨hexplicit, hmodel, next, hhints, hnext⟩ := hwritten declared hdeclared
  rcases h with h | ⟨hint, hhint, hpins⟩ | ⟨fields, hfields, -⟩
  · exact absurd (hexplicit.symm.trans h) nofun
  · rw [hhints] at hhint
    rcases List.mem_cons.mp hhint with rfl | hhint
    · cases hpins
    · rw [List.mem_singleton.mp hhint] at hpins
      rcases hnext with rfl | rfl
      · cases hpins
      · cases hpins with
        | mark _ _ h => simpa using h
        | base _ _ h => cases h
  · exact absurd (hmodel.symm.trans hfields) nofun

/-- A mapping whose key is one basic code. -/
theorem isSingleSignature_handlesByName :
    selfReferring.wire handlesByName = .ok "a\x7bs(so)\x7d" ∧ IsSingleSignature "a\x7bs(so)\x7d" := by
  have hwritten : ∀ m, handlesByName.Pins m ∨ selfReferring.Writes m → IsSingleSignature m := by
    rintro m (h | h)
    · cases h with
      | argument _ _ _ _ t ht h =>
        simp only [List.mem_cons, List.not_mem_nil, or_false] at ht
        rcases ht with rfl | rfl <;> cases h
    · rw [writes_selfReferring h]
      exact ⟨.basic .objectPath, rfl⟩
  have hwire : selfReferring.wire handlesByName = .ok "a\x7bs(so)\x7d" := rfl
  refine ⟨hwire, ((selfReferring.wire_isSingleSignature_iff handlesByName hwritten).1 _ hwire).mpr ?_⟩
  -- neither the key nor the fields of the handle have keys, so the only one is that of the whole
  have htext : ∀ key, ¬ HasKey selfReferring (.shape (.builtin "str")) key := by
    intro key hkey
    cases hkey with
    | named _ _ _ h => exact not_hasKey_cls rfl key h
  have hhandle : ∀ key, ¬ HasKey selfReferring (.shape (.cls (.of "links" "Handle"))) key := by
    have hfields : selfReferring.fieldTypes (.of "links" "Handle")
        = .ok [.builtin "str", .annotated (.cls (.of "links" "Handle")) [.settings, .wire "o"]] := rfl
    intro key hkey
    cases hkey with
    | named _ _ _ h =>
      rw [hasKey_cls_iff rfl hfields, hasKey_cons_iff, hasKey_one_iff (.inl rfl)] at h
      rcases h with h | h
      · exact htext key h
      · exact not_hasKey_pinned ⟨[.settings], [], rfl, by simp⟩ key h
  intro key hkey
  rw [handlesByName, hasKey_applied_iff, hasKey_cons_iff, hasKey_one_iff (.inl rfl)] at hkey
  rcases hkey with ⟨-, value, hargs⟩ | h | h
  · rw [← (List.cons.inj hargs).1]
    exact ⟨.string, rfl⟩
  · exact absurd h (htext key)
  · exact absurd h (hhandle key)

/-- Texts by rows of numbers. -/
def textsByRow : Shape :=
  .applied "dict" true (.builtin "dict")
    [.applied "list" true (.builtin "list") [.builtin "int"], .builtin "str"]

/-- The row is spelled out in the place of the key, and what comes of it is no complete type. -/
theorem wire_textsByRow :
    (∀ m, textsByRow.Pins m ∨ Classes.Writes [] m → IsSingleSignature m)
      ∧ Classes.wire [] textsByRow = .ok "a\x7bais\x7d"
      ∧ ¬ IsSingleSignature "a\x7bais\x7d" := by
  refine ⟨?_, rfl, ?_⟩
  · rintro m (h | ⟨declared, hdeclared, -⟩)
    · cases h with
      | argument _ _ _ _ t ht h =>
        simp only [List.mem_cons, List.not_mem_nil, or_false] at ht
        rcases ht with rfl | rfl
        · cases h with
          | argument _ _ _ _ u hu h =>
            rw [List.mem_singleton.mp hu] at h
            cases h
        · cases h
    · cases hdeclared
  · rintro ⟨u, hu⟩
    -- read back as loose types, the key would have to be one code, and it is an array
    let row : LooseType := .array (.exact (.basic .int32))
    let entries : LooseType := .mapping row (.exact (.basic .string))
    have hread : entries.letters = u.letters := by
      rw [← LooseType.wire_exact] at hu
      exact (String.ofList_inj.mp hu).symm
    obtain ⟨b, hb⟩ := entries.exists_letters_eq_iff.mp ⟨u, hread⟩ row List.mem_cons_self
    exact absurd (List.cons.inj hb).2 nofun

end BusContract
