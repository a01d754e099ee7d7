import BusContract.Interface.Data
import BusContract.Proofs.Interface.Schema
import Mathlib.Data.List.Nodup

/-!
# Models made of elements

The models of arguments, members, interfaces and documents check what they are made of by
themselves. For an element this is a record in its own words: attributes as they are written, the
usual words where it says nothing. Whatever a reader of elements gives, the model makes the same of
that record without a complaint, at each level (`MakesModel`). So no fault of a tree is ever left for a
model to find.

The annotations of an element reach the model with each key once. There a model has nothing to settle
any more.
-/

namespace BusContract

open Markup (Element)

/-! ## Annotations -/

namespace Annotations

variable {notes : Annotations} {key value : String}

/-- Each key of the annotations. -/
def keys (notes : Annotations) : List String := notes.map Prod.fst

/-- A new key is put last. -/
theorem put_of_not_mem (h : key ∉ notes.keys) : notes.put key value = notes ++ [(key, value)] := by
  induction notes with
  | nil => rfl
  | cons note rest ih =>
    obtain ⟨k, v⟩ := note
    simp only [keys, List.map_cons, List.mem_cons, not_or] at h
    rw [put, if_neg (Ne.symm h.1), ih h.2, List.cons_append]

/-- A key that is there keeps its place. -/
theorem keys_put_of_mem (h : key ∈ notes.keys) : (notes.put key value).keys = notes.keys := by
  induction notes with
  | nil => cases h
  | cons note rest ih =>
    obtain ⟨k, v⟩ := note
    rw [put]
    split
    · rfl
    · next hne =>
      have hrest : key ∈ keys rest := (List.mem_cons.mp h).resolve_left (Ne.symm hne)
      exact congrArg (k :: ·) (ih hrest)

/-- No key is there twice. -/
theorem nodup_keys_put (h : notes.keys.Nodup) : (notes.put key value).keys.Nodup := by
  by_cases hmem : key ∈ notes.keys
  · rwa [keys_put_of_mem hmem]
  · have hkeys : (notes.put key value).keys = notes.keys.concat key := by
      simp [put_of_not_mem hmem, keys]
    rw [hkeys]
    exact h.concat hmem

theorem ofList_eq (settings : List (String × String)) :
    ofList settings = settings.foldl (fun notes setting => put notes setting.1 setting.2) [] := rfl

/-- **Each key is there once**, however often it was set. -/
theorem nodup_keys_ofList (settings : List (String × String)) : (ofList settings).keys.Nodup := by
  have hfrom (notes : Annotations) (h : notes.keys.Nodup) :
      keys (settings.foldl (fun notes setting => put notes setting.1 setting.2) notes) |>.Nodup := by
    induction settings generalizing notes with
    | nil => exact h
    | cons setting rest ih => exact ih _ (nodup_keys_put h)
  rw [ofList_eq]
  exact hfrom [] List.nodup_nil

/-- Settings that are settled already are left as they are. -/
theorem ofList_of_nodup (h : notes.keys.Nodup) : ofList notes = notes := by
  have hfrom (before after : Annotations) (h : keys (before ++ after) |>.Nodup) :
      after.foldl (fun notes note => put notes note.1 note.2) before = before ++ after := by
    induction after generalizing before with
    | nil => exact (List.append_nil before).symm
    | cons note rest ih =>
      have hnew : note.1 ∉ keys before := by
        intro hmem
        simp only [keys, List.map_append, List.map_cons, List.nodup_append] at h
        exact h.2.2 note.1 hmem note.1 List.mem_cons_self rfl
      have hrest := ih (before ++ [note]) (by rwa [← List.append_cons])
      rw [List.foldl_cons, put_of_not_mem hnew, hrest, ← List.append_cons]
  rw [ofList_eq]
  exact hfrom [] notes h

end Annotations

/-! ## Readings without complaints -/

namespace Reading

variable {α β : Type} {fields : List (String × PlainData)} {name : String} {data : PlainData}
  {read : PlainData → Reading α} {a : α}

/-- A reading of several fields succeeds if each does. -/
theorem apply_eq_ok {f : Reading (α → β)} {g : α → β} {r : Reading α} (hf : f = .ok g)
    (hr : r = .ok a) : apply f r = .ok (g a) := by
  rw [hf, hr]
  rfl

/-- A field that has to be there is read. -/
theorem required_eq_ok (hfield : PlainData.field? fields name = some data)
    (hread : read data = .ok a) : required fields name read = .ok a := by
  rw [required, hfield]
  show under name (read data) = .ok a
  rw [hread]
  rfl

/-- So is one that may be missing, if it is there. -/
theorem optional_eq_ok {absent : α} (hfield : PlainData.field? fields name = some data)
    (hread : read data = .ok a) : optional fields name absent read = .ok a := by
  rw [optional, hfield]
  show under name (read data) = .ok a
  rw [hread]
  rfl

theorem nullable_ofText? (s : Option String) : nullable text (PlainData.ofText? s) = .ok s := by
  cases s <;> rfl

/-- Items are read one after the other. -/
theorem itemsFrom_eq_ok {items : List PlainData} {as : List α}
    (h : List.Forall₂ (fun item a => read item = .ok a) items as) (index : Nat) :
    itemsFrom read index items = .ok as := by
  -- the index counts for complaints only
  induction h generalizing index with
  | nil => rfl
  | cons hread _ ih =>
    refine apply_eq_ok (apply_eq_ok rfl ?_) (ih (index + 1))
    rw [hread]
    rfl

theorem sequence_eq_ok {α β : Type} {model : PlainData → Reading β} {record : α → PlainData}
    {xs : List α} {bs : List β} (h : List.Forall₂ (fun x b => model (record x) = .ok b) xs bs) :
    sequence model (.list (xs.map record)) = .ok bs :=
  itemsFrom_eq_ok (List.forall₂_map_left_iff.mpr h) 0

/-- Annotations that are written as data are read again. -/
theorem annotations_toData (notes : Annotations) :
    annotations notes.toData = .ok (Annotations.ofList notes) := by
  have hentries : entries text (notes.map fun note => (note.1, .text note.2)) = .ok notes := by
    induction notes with
    | nil => rfl
    | cons note rest ih => exact apply_eq_ok rfl ih
  show (entries text (notes.map fun note => (note.1, .text note.2))).map _ = _
  rw [hentries]
  rfl

end Reading

/-! ## Elements in their own words -/

/-- The annotations of an element. -/
def Markup.Element.notes (e : Element) : Annotations :=
  Annotations.ofList <| (e.childrenNamed "annotation").map fun note =>
    (note.textOf "name", note.textOf "value")

/-- What an argument is made of. -/
def argRecord (usual : Option Direction) (e : Element) : PlainData :=
  .record [("name", .ofText? (e.attribute? "name")), ("signature", .text (e.textOf "type")),
    ("direction", .ofText? ((e.attribute? "direction").or (usual.map Direction.word))),
    ("annotations", e.notes.toData)]

/-- What a method or a signal is made of. -/
def callableRecord (usual : Option Direction) (e : Element) : PlainData :=
  .record [("name", .text (e.textOf "name")),
    ("args", .list ((e.childrenNamed "arg").map (argRecord usual))),
    ("annotations", e.notes.toData)]

/-- What a property is made of. -/
def propertyRecord (e : Element) : PlainData :=
  .record [("name", .text (e.textOf "name")), ("signature", .text (e.textOf "type")),
    ("access", .text ((e.attribute? "access").getD Access.readWrite.word)),
    ("annotations", e.notes.toData)]

/-- What an interface is made of. -/
def interfaceRecord (e : Element) : PlainData :=
  .record [("name", .text (e.textOf "name")),
    ("methods", .list ((e.childrenNamed "method").map (callableRecord (some .toCallee)))),
    ("signals", .list ((e.childrenNamed "signal").map (callableRecord none))),
    ("properties", .list ((e.childrenNamed "property").map propertyRecord)),
    ("annotations", e.notes.toData)]

/-- What a document is made of. -/
def documentRecord (source : String) (root : Element) : PlainData :=
  .record [("source", .text source), ("name", .ofText? (root.attribute? "name")),
    ("interfaces", .list ((root.childrenNamed "interface").map interfaceRecord))]

/-! ## Readers and models -/

/-- Does the model make the same of the record of an element as the reader of elements gives, whenever
it gives something? -/
def MakesModel {α : Type} (read : Element → Except SchemaFault α) (model : PlainData → Reading α)
    (record : Element → PlainData) : Prop :=
  ∀ e a, read e = .ok a → model (record e) = .ok a

/-- A row of elements makes a row of models. -/
theorem MakesModel.sequence {α : Type} {read : Element → Except SchemaFault α}
    {model : PlainData → Reading α} {record : Element → PlainData}
    (h : MakesModel read model record) {es : List Element} {as : List α}
    (hes : List.Forall₂ (fun e a => read e = .ok a) es as) :
    Reading.sequence model (.list (es.map record)) = .ok as :=
  Reading.sequence_eq_ok (hes.imp h)

namespace Introspection

open Reading (apply_eq_ok required_eq_ok optional_eq_ok nullable_ofText? sequence_eq_ok)

variable {e : Element} {place : SchemaPlace}

/-- The annotations that are read are those of the element. -/
theorem notes_of_readAnnotations {notes : Annotations} (h : readAnnotations e place = .ok notes) :
    notes = e.notes := by
  rw [readAnnotations, bind_eq_ok_iff] at h
  obtain ⟨settings, hsettings, h⟩ := h
  obtain rfl := Except.ok.inj h
  have hworded : settings
      = (e.childrenNamed "annotation").map fun note => (note.textOf "name", note.textOf "value") := by
    refine (List.map_id settings).symm.trans
      (map_eq_map_of_forall₂ (mapM_eq_ok_iff.mp hsettings) ?_).symm
    intro note setting hnote
    simp only [readNote, bind_eq_ok_iff] at hnote
    obtain ⟨key, hkey, value, hvalue, hnote⟩ := hnote
    obtain rfl := Except.ok.inj hnote
    rw [textOf_of_attribute? (attribute?_of_require hkey),
      textOf_of_attribute? (attribute?_of_require hvalue), id]
  rw [hworded, Element.notes]

theorem annotationsField_eq_ok {fields : List (String × PlainData)} {notes : Annotations}
    (h : readAnnotations e place = .ok notes)
    (hfield : PlainData.field? fields "annotations" = some e.notes.toData) :
    Reading.annotationsField fields = .ok notes := by
  obtain rfl := notes_of_readAnnotations h
  have hsettled : Annotations.ofList e.notes = e.notes :=
    Annotations.ofList_of_nodup (Annotations.nodup_keys_ofList _)
  refine optional_eq_ok hfield ?_
  rw [Reading.annotations_toData, hsettled]

/-- An attribute that has to be there makes a text. -/
theorem text_textOf {name value : String} (h : require e name place = .ok value) :
    Reading.text (.text (e.textOf name)) = .ok value := by
  rw [textOf_of_attribute? (attribute?_of_require h), Reading.text]

/-- The words that the reader lets pass are the ones that the model knows. -/
theorem word_direction {usual direction : Option Direction}
    (h : readDirection e place usual = .ok direction) :
    Reading.nullable (Reading.word Direction.ofWord?)
        (.ofText? ((e.attribute? "direction").or (usual.map Direction.word)))
      = .ok direction := by
  cases saysDirection_of_readDirection h with
  | nothing hnone =>
    rw [hnone, Option.none_or]
    rcases usual with _ | (_ | _) <;> rfl
  | word given hsome =>
    rw [hsome, Option.some_or]
    cases given <;> rfl

/-- An access that is said, or the usual one, makes one. -/
theorem word_access {access : Access} (h : readAccess e place = .ok access) :
    Reading.word Access.ofWord? (.text ((e.attribute? "access").getD Access.readWrite.word))
      = .ok access := by
  unfold readAccess at h
  split at h
  · next hnone =>
    obtain rfl := Except.ok.inj h
    rw [hnone, Option.getD_none]
    rfl
  · next word hsome =>
    split at h
    · next given hword =>
      obtain rfl := Except.ok.inj h
      rw [hsome, Option.getD_some, Reading.word, hword]
    · cases h

/-- An argument that is read makes a model. -/
theorem makesModel_readArg {usual : Option Direction} :
    MakesModel (readArg place usual) Reading.arg (argRecord usual) := by
  intro e arg h
  simp only [readArg, bind_eq_ok_iff] at h
  obtain ⟨direction, hdirection, signature, hsignature, annotations, hannotations, h⟩ := h
  obtain rfl := Except.ok.inj h
  refine apply_eq_ok (apply_eq_ok (apply_eq_ok (apply_eq_ok rfl ?name) ?signature) ?direction)
    ?annotations
  case name => exact optional_eq_ok rfl (nullable_ofText? _)
  case signature => exact required_eq_ok rfl (text_textOf hsignature)
  case direction => exact optional_eq_ok rfl (word_direction hdirection)
  case annotations => exact annotationsField_eq_ok hannotations rfl

/-- So do all arguments of a member. -/
theorem sequence_of_readArgsFrom {usual : Option Direction} {index : Nat} {es : List Element}
    {args : List Arg} (h : readArgsFrom place usual index es = .ok args) :
    Reading.sequence Reading.arg (.list (es.map (argRecord usual))) = .ok args := by
  have hargs : List.Forall₂ (fun e arg => Reading.arg (argRecord usual e) = .ok arg) es args := by
    -- each argument is read at a place of its own, so this is no row under one reader
    induction es generalizing index args with
    | nil =>
      obtain rfl : [] = args := Except.ok.inj h
      exact .nil
    | cons e rest ih =>
      simp only [readArgsFrom, bind_eq_ok_iff] at h
      obtain ⟨arg, harg, others, hothers, h⟩ := h
      obtain rfl : arg :: others = args := Except.ok.inj h
      exact .cons (makesModel_readArg e arg harg) (ih hothers)
  exact sequence_eq_ok hargs

/-- Methods and signals are made alike, but for the usual direction and the place. -/
theorem makesModel_callable {α : Type} {usual : Option Direction} {inMember : String → SchemaPlace}
    {make : String → List Arg → Annotations → α} :
    MakesModel
      (fun e => do
        let name ← require e "name" place
        let args ← readArgs e (inMember name) usual
        let annotations ← readAnnotations e (inMember name)
        return make name args annotations)
      (Reading.model fun fields =>
        Reading.apply (Reading.apply (Reading.apply (.ok make)
          (Reading.required fields "name" Reading.text))
          (Reading.argsField fields))
          (Reading.annotationsField fields))
      (callableRecord usual) := by
  intro e a h
  simp only [bind_eq_ok_iff] at h
  obtain ⟨name, hname, args, hargs, annotations, hannotations, h⟩ := h
  obtain rfl := Except.ok.inj h
  refine apply_eq_ok (apply_eq_ok (apply_eq_ok rfl ?name) ?args) ?annotations
  case name => exact required_eq_ok rfl (text_textOf hname)
  case args => exact optional_eq_ok rfl (sequence_of_readArgsFrom hargs)
  case annotations => exact annotationsField_eq_ok hannotations rfl

/-- A method makes a model. -/
theorem makesModel_readMethod :
    MakesModel (readMethod place) Reading.method (callableRecord (some .toCallee)) :=
  makesModel_callable

/-- A signal makes a model. -/
theorem makesModel_readSignal :
    MakesModel (readSignal place) Reading.signal (callableRecord none) :=
  makesModel_callable

/-- A property makes a model. -/
theorem makesModel_readProperty :
    MakesModel (readProperty place) Reading.property propertyRecord := by
  intro e property h
  simp only [readProperty, bind_eq_ok_iff] at h
  obtain ⟨name, hname, access, haccess, signature, hsignature, annotations, hannotations, h⟩ := h
  obtain rfl := Except.ok.inj h
  refine apply_eq_ok (apply_eq_ok (apply_eq_ok (apply_eq_ok rfl ?name) ?signature) ?access)
    ?annotations
  case name => exact required_eq_ok rfl (text_textOf hname)
  case signature => exact required_eq_ok rfl (text_textOf hsignature)
  case access => exact optional_eq_ok rfl (word_access haccess)
  case annotations => exact annotationsField_eq_ok hannotations rfl

/-- An interface makes a model. -/
theorem makesModel_readInterface :
    MakesModel (readInterface place) Reading.interface interfaceRecord := by
  intro e interface h
  simp only [readInterface, bind_eq_ok_iff, mapM_eq_ok_iff] at h
  obtain ⟨name, hname, methods, hmethods, signals, hsignals, properties, hproperties, annotations,
    hannotations, h⟩ := h
  obtain rfl := Except.ok.inj h
  refine apply_eq_ok (apply_eq_ok (apply_eq_ok (apply_eq_ok (apply_eq_ok rfl ?name) ?methods)
    ?signals) ?properties) ?annotations
  case name => exact required_eq_ok rfl (text_textOf hname)
  case methods => exact optional_eq_ok rfl (makesModel_readMethod.sequence hmethods)
  case signals => exact optional_eq_ok rfl (makesModel_readSignal.sequence hsignals)
  case properties => exact optional_eq_ok rfl (makesModel_readProperty.sequence hproperties)
  case annotations => exact annotationsField_eq_ok hannotations rfl

/-- **The models take every accepted tree** and make the document of it that was read. -/
theorem makesModel_ofElement {source : String} :
    MakesModel (ofElement source) Reading.document (documentRecord source) := by
  intro root d h
  unfold ofElement at h
  split at h
  · cases h
  · simp only [bind_eq_ok_iff, mapM_eq_ok_iff] at h
    obtain ⟨interfaces, hinterfaces, h⟩ := h
    obtain rfl := Except.ok.inj h
    refine apply_eq_ok (apply_eq_ok (apply_eq_ok rfl ?source) ?name) ?interfaces
    case source => exact required_eq_ok rfl rfl
    case name => exact optional_eq_ok rfl (nullable_ofText? _)
    case interfaces => exact optional_eq_ok rfl (makesModel_readInterface.sequence hinterfaces)

/-- Whatever the readers give, the models take: those of an accepted tree, and those made on the way
to a fault as well. -/
structure PassesModels (source : String) : Prop where
  arg : ∀ place usual, MakesModel (readArg place usual) Reading.arg (argRecord usual)
  method : ∀ place, MakesModel (readMethod place) Reading.method (callableRecord (some .toCallee))
  signal : ∀ place, MakesModel (readSignal place) Reading.signal (callableRecord none)
  property : ∀ place, MakesModel (readProperty place) Reading.property propertyRecord
  interface : ∀ place, MakesModel (readInterface place) Reading.interface interfaceRecord
  document : MakesModel (ofElement source) Reading.document (documentRecord source)

/-- No document that is read is refused by the models. -/
theorem passesModels (source : String) : PassesModels source where
  arg _ _ := makesModel_readArg
  method _ := makesModel_readMethod
  signal _ := makesModel_readSignal
  property _ := makesModel_readProperty
  interface _ := makesModel_readInterface
  document := makesModel_ofElement

/-! ## Introspection documents -/

/-- What becomes of a text: it holds an introspection document, or a tree that is none, or no tree. -/
theorem parse_cases (source text : String) :
    (∃ root d, Markup.read text = .ok root ∧ IsIntrospection root ∧ parse source text = .ok d)
      ∨ (∃ root fault, Markup.read text = .ok root ∧ ¬ IsIntrospection root
          ∧ parse source text = .error (.schema fault))
      ∨ ∃ fault, Markup.read text = .error fault
          ∧ parse source text = .error (.markup source fault) := by
  rw [parse]
  cases hread : Markup.read text with
  | error fault => exact .inr (.inr ⟨fault, rfl, rfl⟩)
  | ok root =>
    by_cases hroot : IsIntrospection root
    · obtain ⟨d, hd⟩ := ofElement_succeeds_iff.mpr hroot
      exact .inl ⟨root, d, rfl, hroot, mapError_eq_ok_iff.mpr hd⟩
    · obtain ⟨fault, hfault⟩ := ofElement_eq_error_iff.mpr hroot
      have hparse := (mapError_eq_error_iff DocumentFault.schema.inj).mpr hfault
      exact .inr (.inl ⟨root, fault, rfl, hroot, hparse⟩)

/-- **Exactly the introspection documents are accepted**, of all trees. Any other tree is refused for a
fault of its own, and any text without a tree for a fault of its markup. The models never have anything
to complain about. -/
theorem accepts_exactly_schema (source : String) :
    (∀ root, (∃ d, ofElement source root = .ok d) ↔ IsIntrospection root)
      ∧ (∀ root, (∃ fault, ofElement source root = .error fault) ↔ ¬ IsIntrospection root)
      ∧ (∀ text,
          (∃ root d, Markup.read text = .ok root ∧ IsIntrospection root
              ∧ parse source text = .ok d)
            ∨ (∃ root fault, Markup.read text = .ok root ∧ ¬ IsIntrospection root
                ∧ parse source text = .error (.schema fault))
            ∨ ∃ fault, Markup.read text = .error fault
                ∧ parse source text = .error (.markup source fault))
      ∧ PassesModels source := by
  exact ⟨fun _ => ofElement_succeeds_iff, fun _ => ofElement_eq_error_iff, parse_cases source,
    passesModels source⟩

end Introspection

end BusContract
