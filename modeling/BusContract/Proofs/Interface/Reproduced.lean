import BusContract.Proofs.Interface.Records

/-!
# Models written back

A model that was read from data comes out again when it is written back with all its fields and read
once more. Data may leave fields out, say more than the model keeps and set a key of the annotations
twice; none of this is left in the model, so the second reading has nothing to settle.

A reader and its writer go together if everything that is read is settled, and everything settled is read
back from what is written of it (`Reading.Reproduces`). The only thing that has to be settled are the
annotations, where each key is there once. Readers of rows and of models inherit the property from the
readers of their parts, from arguments up to documents.

* **`Reading.models_reproduced`**: every model that is read from data or from an accepted tree comes
  out again.
-/

namespace BusContract

open Markup (Element)

/-! ## Settled models -/

/-- Each key of the annotations is there once. -/
def Arg.IsSettled (a : Arg) : Prop := a.annotations.keys.Nodup

structure Method.IsSettled (m : Method) : Prop where
  args : ∀ arg ∈ m.args, arg.IsSettled
  annotations : m.annotations.keys.Nodup

structure Signal.IsSettled (s : Signal) : Prop where
  args : ∀ arg ∈ s.args, arg.IsSettled
  annotations : s.annotations.keys.Nodup

def Property.IsSettled (p : Property) : Prop := p.annotations.keys.Nodup

structure Interface.IsSettled (i : Interface) : Prop where
  methods : ∀ m ∈ i.methods, m.IsSettled
  signals : ∀ s ∈ i.signals, s.IsSettled
  properties : ∀ p ∈ i.properties, p.IsSettled
  annotations : i.annotations.keys.Nodup

def InterfaceDocument.IsSettled (d : InterfaceDocument) : Prop := ∀ i ∈ d.interfaces, i.IsSettled

namespace Reading

variable {α β : Type} {fields : List (String × PlainData)} {name : String} {data : PlainData}
  {read : PlainData → Reading α} {a : α}

/-! ## What was read -/

/-- A value is made of two readings only if both came to one. -/
theorem apply_eq_ok_iff {f : Reading (α → β)} {r : Reading α} {b : β} :
    apply f r = .ok b ↔ ∃ g a, f = .ok g ∧ r = .ok a ∧ b = g a := by
  cases f with
  | error first => cases r <;> exact ⟨nofun, nofun⟩
  | ok g =>
    cases r with
    | error second => exact ⟨nofun, nofun⟩
    | ok a =>
      constructor
      · intro h
        exact ⟨g, a, rfl, rfl, (Except.ok.inj h).symm⟩
      · rintro ⟨_, _, hg, ha, rfl⟩
        rw [← Except.ok.inj hg, ← Except.ok.inj ha]
        rfl

/-- To say where one is changes nothing about what is read. -/
theorem under_eq_ok_iff {step : String} {r : Reading α} : under step r = .ok a ↔ r = .ok a :=
  mapError_eq_ok_iff

/-- A field that may be left out was read, or stands for what it stands for then. -/
theorem exists_of_optional {absent : α} (h : optional fields name absent read = .ok a) :
    (∃ data, read data = .ok a) ∨ a = absent := by
  unfold optional at h
  split at h
  · next data _ => exact .inl ⟨data, under_eq_ok_iff.mp h⟩
  · exact .inr (Except.ok.inj h).symm

/-- A model is read from fields. -/
theorem exists_of_model {read : List (String × PlainData) → Reading α} (h : model read data = .ok a) :
    ∃ fields, read fields = .ok a := by
  unfold model at h
  split at h
  · next fields => exact ⟨fields, h⟩
  · cases h

/-! ## Readers with their writers -/

/-- Is everything that is read settled, and everything settled read back from what is written of
it? -/
structure Reproduces (read : PlainData → Reading α) (write : α → PlainData) (IsSettled : α → Prop) :
    Prop where
  settled : ∀ {data a}, read data = .ok a → IsSettled a
  written : ∀ {a}, IsSettled a → read (write a) = .ok a

namespace Reproduces

variable {write : α → PlainData} {IsSettled : α → Prop}

/-- What was read comes out again. -/
theorem again (h : Reproduces read write IsSettled) (hread : read data = .ok a) :
    read (write a) = .ok a :=
  h.written (h.settled hread)

/-- A field that is missing is settled if what stands for it is. -/
theorem settled_of_optional (h : Reproduces read write IsSettled) {absent : α}
    (habsent : IsSettled absent) (hread : optional fields name absent read = .ok a) : IsSettled a := by
  rcases exists_of_optional hread with ⟨data, hdata⟩ | rfl
  · exact h.settled hdata
  · exact habsent

/-- Each element of a row that was read is settled. The index counts for complaints only. -/
theorem settled_of_itemsFrom (h : Reproduces read write IsSettled) {items : List PlainData} {as : List α}
    {index : Nat} (hread : itemsFrom read index items = .ok as) : ∀ a ∈ as, IsSettled a := by
  induction items generalizing index as with
  | nil =>
    obtain rfl : [] = as := Except.ok.inj hread
    exact List.forall_mem_nil _
  | cons item rest ih =>
    obtain ⟨_, others, hfirst, hothers, rfl⟩ := apply_eq_ok_iff.mp hread
    obtain ⟨_, first, hcons, hitem, rfl⟩ := apply_eq_ok_iff.mp hfirst
    obtain rfl := Except.ok.inj hcons
    exact List.forall_mem_cons.mpr ⟨h.settled (under_eq_ok_iff.mp hitem), ih hothers⟩

/-- Rows, if their elements do. -/
theorem sequence (h : Reproduces read write IsSettled) :
    Reproduces (sequence read) (fun as => .list (as.map write)) (fun as => ∀ a ∈ as, IsSettled a) where
  settled := by
    intro data as hread
    unfold Reading.sequence at hread
    split at hread
    · exact h.settled_of_itemsFrom hread
    · cases hread
  written := by
    intro as has
    refine sequence_eq_ok (List.forall₂_same.mpr fun a ha => ?_)
    exact h.written (has a ha)

end Reproduces

theorem reproduces_text : Reproduces text .text fun _ => True where
  settled _ := trivial
  written _ := rfl

theorem reproduces_nullableText : Reproduces (nullable text) .ofText? fun _ => True where
  settled _ := trivial
  written _ := nullable_ofText? _

/-- A direction is written as its word, or as nothing. -/
theorem reproduces_direction :
    Reproduces (nullable (word Direction.ofWord?)) (fun d => .ofText? (d.map Direction.word))
      fun _ => True where
  settled _ := trivial
  written {direction} _ := by rcases direction with _ | (_ | _) <;> rfl

/-- An access is written as its word. -/
theorem reproduces_access : Reproduces (word Access.ofWord?) (fun a => .text a.word) fun _ => True where
  settled _ := trivial
  written {access} _ := by cases access <;> rfl

/-- Reading settles annotations, and leaves those that are settled as they are. -/
theorem reproduces_annotations :
    Reproduces annotations Annotations.toData fun notes => notes.keys.Nodup where
  settled := by
    intro data notes hread
    obtain ⟨settings, -, rfl⟩ := map_eq_ok_iff.mp hread
    exact Annotations.nodup_keys_ofList settings
  written := by
    intro notes hnotes
    rw [annotations_toData, Annotations.ofList_of_nodup hnotes]

/-- Annotations that are read have each key once. -/
theorem nodup_of_annotationsField {notes : Annotations} (h : annotationsField fields = .ok notes) :
    notes.keys.Nodup :=
  have hnone : (Annotations.keys []).Nodup := List.nodup_nil
  reproduces_annotations.settled_of_optional hnone h

theorem annotationsField_eq_ok {notes : Annotations} (hnotes : notes.keys.Nodup)
    (hfield : PlainData.field? fields "annotations" = some notes.toData) :
    annotationsField fields = .ok notes :=
  optional_eq_ok hfield (reproduces_annotations.written hnotes)

/-! ## The models -/

/-- An argument is written and read again. -/
theorem reproduces_arg : Reproduces arg Arg.toData Arg.IsSettled where
  settled := by
    intro data a h
    obtain ⟨fields, h⟩ := exists_of_model h
    simp only [apply_eq_ok_iff] at h
    obtain ⟨_, annotations, ⟨_, direction, ⟨_, signature, ⟨_, name, hmake, -, rfl⟩, -, rfl⟩, -, rfl⟩,
      hannotations, rfl⟩ := h
    obtain rfl := Except.ok.inj hmake
    exact nodup_of_annotationsField hannotations
  written := by
    intro a ha
    refine apply_eq_ok (apply_eq_ok (apply_eq_ok (apply_eq_ok rfl ?name) ?signature) ?direction)
      ?annotations
    case name => exact optional_eq_ok rfl (reproduces_nullableText.written trivial)
    case signature => exact required_eq_ok rfl (reproduces_text.written trivial)
    case direction => exact optional_eq_ok rfl (reproduces_direction.written trivial)
    case annotations => exact annotationsField_eq_ok ha rfl

/-- Methods and signals are read alike, so what is read of either is made of settled parts. -/
theorem settled_of_callable {make : String → List Arg → Annotations → α}
    (h : model (fun fields =>
      apply (apply (apply (.ok make) (required fields "name" text)) (argsField fields))
        (annotationsField fields)) data = .ok a) :
    ∃ name args notes, (∀ arg ∈ args, arg.IsSettled) ∧ notes.keys.Nodup ∧ a = make name args notes := by
  obtain ⟨fields, h⟩ := exists_of_model h
  simp only [apply_eq_ok_iff] at h
  obtain ⟨_, notes, ⟨_, args, ⟨_, name, hmake, -, rfl⟩, hargs, rfl⟩, hnotes, rfl⟩ := h
  obtain rfl := Except.ok.inj hmake
  have hsettled := reproduces_arg.sequence.settled_of_optional (List.forall_mem_nil _) hargs
  exact ⟨name, args, notes, hsettled, nodup_of_annotationsField hnotes, rfl⟩

/-- So is what methods and signals have in common. -/
theorem callable_written {make : String → List Arg → Annotations → α} {name : String} {args : List Arg}
    {notes : Annotations} (hargs : ∀ arg ∈ args, arg.IsSettled) (hnotes : notes.keys.Nodup) :
    model (fun fields =>
        apply (apply (apply (.ok make) (required fields "name" text)) (argsField fields))
          (annotationsField fields))
        (.record [("name", .text name), ("args", .list (args.map Arg.toData)),
          ("annotations", notes.toData)])
      = .ok (make name args notes) := by
  refine apply_eq_ok (apply_eq_ok (apply_eq_ok rfl ?name) ?args) ?annotations
  case name => exact required_eq_ok rfl (reproduces_text.written trivial)
  case args => exact optional_eq_ok rfl (reproduces_arg.sequence.written hargs)
  case annotations => exact annotationsField_eq_ok hnotes rfl

/-- A method is written and read again. -/
theorem reproduces_method : Reproduces method Method.toData Method.IsSettled where
  settled := by
    intro data m h
    obtain ⟨name, args, notes, hargs, hnotes, rfl⟩ := settled_of_callable h
    exact ⟨hargs, hnotes⟩
  written h := callable_written h.args h.annotations

/-- A signal is written and read again. -/
theorem reproduces_signal : Reproduces signal Signal.toData Signal.IsSettled where
  settled := by
    intro data s h
    obtain ⟨name, args, notes, hargs, hnotes, rfl⟩ := settled_of_callable h
    exact ⟨hargs, hnotes⟩
  written h := callable_written h.args h.annotations

/-- A property is written and read again. -/
theorem reproduces_property : Reproduces property Property.toData Property.IsSettled where
  settled := by
    intro data p h
    obtain ⟨fields, h⟩ := exists_of_model h
    simp only [apply_eq_ok_iff] at h
    obtain ⟨_, annotations, ⟨_, access, ⟨_, signature, ⟨_, name, hmake, -, rfl⟩, -, rfl⟩, -, rfl⟩,
      hannotations, rfl⟩ := h
    obtain rfl := Except.ok.inj hmake
    exact nodup_of_annotationsField hannotations
  written := by
    intro p hp
    refine apply_eq_ok (apply_eq_ok (apply_eq_ok (apply_eq_ok rfl ?name) ?signature) ?access)
      ?annotations
    case name => exact required_eq_ok rfl (reproduces_text.written trivial)
    case signature => exact required_eq_ok rfl (reproduces_text.written trivial)
    case access => exact optional_eq_ok rfl (reproduces_access.written trivial)
    case annotations => exact annotationsField_eq_ok hp rfl

/-- An interface is written and read again. -/
theorem reproduces_interface : Reproduces interface Interface.toData Interface.IsSettled where
  settled := by
    intro data i h
    obtain ⟨fields, h⟩ := exists_of_model h
    simp only [apply_eq_ok_iff] at h
    obtain ⟨_, annotations, ⟨_, properties, ⟨_, signals, ⟨_, methods, ⟨_, name, hmake, -, rfl⟩,
      hmethods, rfl⟩, hsignals, rfl⟩, hproperties, rfl⟩, hannotations, rfl⟩ := h
    obtain rfl := Except.ok.inj hmake
    refine ⟨?methods, ?signals, ?properties, nodup_of_annotationsField hannotations⟩
    case methods =>
      exact reproduces_method.sequence.settled_of_optional (List.forall_mem_nil _) hmethods
    case signals =>
      exact reproduces_signal.sequence.settled_of_optional (List.forall_mem_nil _) hsignals
    case properties =>
      exact reproduces_property.sequence.settled_of_optional (List.forall_mem_nil _) hproperties
  written := by
    intro i hi
    refine apply_eq_ok (apply_eq_ok (apply_eq_ok (apply_eq_ok (apply_eq_ok rfl ?name) ?methods)
      ?signals) ?properties) ?annotations
    case name => exact required_eq_ok rfl (reproduces_text.written trivial)
    case methods => exact optional_eq_ok rfl (reproduces_method.sequence.written hi.methods)
    case signals => exact optional_eq_ok rfl (reproduces_signal.sequence.written hi.signals)
    case properties => exact optional_eq_ok rfl (reproduces_property.sequence.written hi.properties)
    case annotations => exact annotationsField_eq_ok hi.annotations rfl

/-- A document is written and read again. -/
theorem reproduces_document :
    Reproduces document InterfaceDocument.toData InterfaceDocument.IsSettled where
  settled := by
    intro data d h
    obtain ⟨fields, h⟩ := exists_of_model h
    simp only [apply_eq_ok_iff] at h
    obtain ⟨_, interfaces, ⟨_, name, ⟨_, source, hmake, -, rfl⟩, -, rfl⟩, hinterfaces, rfl⟩ := h
    obtain rfl := Except.ok.inj hmake
    exact reproduces_interface.sequence.settled_of_optional (List.forall_mem_nil _) hinterfaces
  written := by
    intro d hd
    refine apply_eq_ok (apply_eq_ok (apply_eq_ok rfl ?source) ?name) ?interfaces
    case source => exact required_eq_ok rfl (reproduces_text.written trivial)
    case name => exact optional_eq_ok rfl (reproduces_nullableText.written trivial)
    case interfaces => exact optional_eq_ok rfl (reproduces_interface.sequence.written hd)

/-! ## Both ways to a document -/

/-- **Every model comes out again** when it is written back and read once more: those that were read from
data, at each level, and documents that were read from a tree. The latter are what the model makes of a
record of the tree, so they are settled as well. -/
theorem models_reproduced :
    (∀ data a, arg data = .ok a → arg a.toData = .ok a)
      ∧ (∀ data m, method data = .ok m → method m.toData = .ok m)
      ∧ (∀ data s, signal data = .ok s → signal s.toData = .ok s)
      ∧ (∀ data p, property data = .ok p → property p.toData = .ok p)
      ∧ (∀ data i, interface data = .ok i → interface i.toData = .ok i)
      ∧ (∀ data d, document data = .ok d → document d.toData = .ok d)
      ∧ (∀ source root d, Introspection.ofElement source root = .ok d → document d.toData = .ok d)
      ∧ (∀ source text d, Introspection.parse source text = .ok d → document d.toData = .ok d) := by
  have htree (source : String) (root : Element) (d : InterfaceDocument)
      (h : Introspection.ofElement source root = .ok d) : document d.toData = .ok d :=
    reproduces_document.again (Introspection.makesModel_ofElement root d h)
  refine ⟨fun _ _ => reproduces_arg.again, fun _ _ => reproduces_method.again,
    fun _ _ => reproduces_signal.again, fun _ _ => reproduces_property.again,
    fun _ _ => reproduces_interface.again, fun _ _ => reproduces_document.again, htree, ?_⟩
  intro source text d h
  unfold Introspection.parse at h
  split at h
  · cases h
  · next root _ => exact htree source root d (mapError_eq_ok_iff.mp h)

/-- A document with one signal, whose annotations are not in the order of their keys. -/
def movedDocument : InterfaceDocument :=
  ⟨"a.xml", none, [⟨"a.Cache", [],
    [⟨"Moved", [⟨none, "s", none, []⟩], [("unit", "mm"), ("axis", "x")]⟩], [], []⟩]⟩

/-- The document as data that leaves out what it may, with a field that no model has. -/
def movedData : PlainData :=
  .record [("source", .text "a.xml"), ("version", .int 2), ("interfaces", .list [.record [
    ("signals", .list [.record [("args", .list [.record [("signature", .text "s")]]),
      ("annotations", .record [("unit", .text "mm"), ("axis", .text "x")]), ("name", .text "Moved")]]),
    ("name", .text "a.Cache")]])]

/-- The document as a tree where one of the annotations is set twice. -/
def movedTree : Element :=
  let note (key value : String) : Element :=
    .mk (.plain "annotation") [(.plain "name", key), (.plain "value", value)] []
  let signal : Element :=
    .mk (.plain "signal") [(.plain "name", "Moved")]
      [note "unit" "cm", note "axis" "x", .mk (.plain "arg") [(.plain "type", "s")] [], note "unit" "mm"]
  .mk (.plain "node") [] [.mk (.plain "interface") [(.plain "name", "a.Cache")] [signal]]

/-- It is read from the data and, under another name, from the tree, and comes out again both times. -/
theorem document_movedDocument :
    document movedData = .ok movedDocument
      ∧ document movedDocument.toData = .ok movedDocument
      ∧ Introspection.ofElement "b.xml" movedTree = .ok { movedDocument with source := "b.xml" }
      ∧ document (InterfaceDocument.toData { movedDocument with source := "b.xml" })
        = .ok { movedDocument with source := "b.xml" } := by
  have hdata : document movedData = .ok movedDocument := rfl
  have htree : Introspection.ofElement "b.xml" movedTree
      = .ok { movedDocument with source := "b.xml" } := by decide
  obtain ⟨-, -, -, -, -, hofData, hofTree, -⟩ := models_reproduced
  exact ⟨hdata, hofData movedData movedDocument hdata, htree, hofTree "b.xml" movedTree _ htree⟩

end Reading

end BusContract
