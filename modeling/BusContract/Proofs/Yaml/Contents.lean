import BusContract.Proofs.Yaml.Nodes
import BusContract.Proofs.Yaml.Values
import BusContract.Yaml.Content

/-!
# Faults of contents

What can be wrong with a text that keeps to the rules of the language is a value of it, or that a mapping
which is to be a scalar stands for itself. All of which a value is made is part of the outermost node, also
through an alias or a merge, but for keys that count as text. This is an invariant of what has been found
out about the nodes (`Making.Sound`): each step of the making keeps it, and fails for nothing else.

* `Yaml.Maker.keeps_fillAll`: filling the collections of a document keeps the invariant.
* `Yaml.failsOnly_contentOf`: a document fails for its rules or for a value in it.
* **`Yaml.misfit_of_read`**: what is wrong with a text that keeps to the rules.
-/

namespace BusContract.Yaml

/-! ## Nodes in a node -/

/-- Is the node a part of the other one? -/
inductive Node.Contains (root : Node) : Node → Prop where
  | self : Contains root root
  | item (anchor : Option String) (kind : Kind) (id : Nat) (items : List Node) (item : Node)
      (h : Contains root (.sequence anchor kind id items)) (hitem : item ∈ items) :
      Contains root item
  | key (anchor : Option String) (kind : Kind) (id : Nat) (entries : List (Node × Node))
      (key value : Node) (h : Contains root (.mapping anchor kind id entries))
      (hentry : (key, value) ∈ entries) : Contains root key
  | value (anchor : Option String) (kind : Kind) (id : Nat) (entries : List (Node × Node))
      (key value : Node) (h : Contains root (.mapping anchor kind id entries))
      (hentry : (key, value) ∈ entries) : Contains root value

namespace Node

variable {root node : Node}

/-- A name leads to the node that it is put in front with, or to one that was there. -/
theorem mem_named {anchor : Option String} {anchors : Anchors} {name : String} {other : Node}
    (h : (name, other) ∈ named anchor node anchors) : other = node ∨ (name, other) ∈ anchors := by
  cases anchor with
  | none => exact .inr h
  | some given =>
    rcases List.mem_cons.mp h with h | h
    · exact .inl (Prod.mk.inj h).2
    · exact .inr h

mutual

/-- What has a name in a part of the node is a part of it as well. The three go down the tree together. -/
theorem contains_of_mem_anchors {name : String} {other : Node} :
    (node : Node) → root.Contains node → (name, other) ∈ node.anchors → root.Contains other
  | .reference _, _, h => absurd h List.not_mem_nil
  | .scalar _ _ _, hnode, h => (mem_named h).elim (fun heq => heq ▸ hnode) (absurd · List.not_mem_nil)
  | .sequence _ _ _ items, hnode, h =>
    (mem_named h).elim (fun heq => heq ▸ hnode)
      (contains_of_mem_itemAnchors items fun item => .item _ _ _ _ item hnode)
  | .mapping _ _ _ entries, hnode, h =>
    (mem_named h).elim (fun heq => heq ▸ hnode)
      (contains_of_mem_entryAnchors entries fun key value hentry =>
        ⟨.key _ _ _ _ key value hnode hentry, .value _ _ _ _ key value hnode hentry⟩)

/-- The same for the items of a sequence. -/
theorem contains_of_mem_itemAnchors {name : String} {other : Node} :
    (items : List Node) → (∀ item ∈ items, root.Contains item) →
      (name, other) ∈ itemAnchors items → root.Contains other
  | [], _, h => absurd h List.not_mem_nil
  | item :: rest, hitems, h => by
    obtain ⟨hitem, hrest⟩ := List.forall_mem_cons.mp hitems
    rcases List.mem_append.mp h with h | h
    · exact contains_of_mem_anchors item hitem h
    · exact contains_of_mem_itemAnchors rest hrest h

/-- The same for the entries of a mapping. -/
theorem contains_of_mem_entryAnchors {name : String} {other : Node} :
    (entries : List (Node × Node)) →
      (∀ key value, (key, value) ∈ entries → root.Contains key ∧ root.Contains value) →
      (name, other) ∈ entryAnchors entries → root.Contains other
  | [], _, h => absurd h List.not_mem_nil
  | (key, value) :: rest, hentries, h => by
    obtain ⟨hkey, hvalue⟩ := hentries key value List.mem_cons_self
    rw [entryAnchors, List.mem_append, List.mem_append] at h
    rcases h with (h | h) | h
    · exact contains_of_mem_anchors key hkey h
    · exact contains_of_mem_anchors value hvalue h
    · exact contains_of_mem_entryAnchors rest
        (fun k v hentry => hentries k v (List.mem_cons_of_mem _ hentry)) h

end

/-- An alias stands for a part of the node. -/
theorem contains_actual (h : root.Contains node) : root.Contains (node.actual root.anchors) := by
  cases node with
  | reference name =>
    rw [actual]
    cases hlookup : root.anchors.lookup name with
    | none => exact h
    | some other =>
      obtain ⟨before, after, hanchors, -⟩ := List.lookup_eq_some_iff.mp hlookup
      exact contains_of_mem_anchors root .self (hanchors ▸ List.mem_append_right before List.mem_cons_self)
  | scalar => exact h
  | sequence => exact h
  | mapping => exact h

/-- A node of which a value is made: a part of the outermost one, or the text that a key of it counts as. -/
inductive IsRead (root : Node) : Node → Prop where
  | part (node : Node) (h : root.Contains node) : IsRead root node
  | text (node : Node) (h : root.Contains node) : IsRead root node.asText

/-- What counts as text already stays as it is. -/
@[simp] theorem asText_asText (node : Node) : node.asText.asText = node.asText := by
  fun_cases asText node <;> simp_all [asText]

/-- A node that is no text was not changed. -/
theorem asText_of_ne (h : node.asText.kind ≠ .str) : node.asText = node := by
  fun_cases asText node <;> simp_all [asText, kind]

/-- A key may be counted as text any number of times. -/
theorem IsRead.asText (h : root.IsRead node) : root.IsRead node.asText := by
  cases h with
  | part _ h => exact .text _ h
  | text node h => exact (asText_asText node).symm ▸ .text node h

/-- A node that is no text is a part of the outermost one itself. -/
theorem IsRead.contains (h : root.IsRead node) (hkind : node.kind ≠ .str) : root.Contains node := by
  cases h with
  | part _ h => exact h
  | text node h => exact (asText_of_ne hkind).symm ▸ h

/-- A node that was changed is no alias. -/
theorem actual_asText (anchors : Anchors) (node : Node) :
    node.asText.actual anchors = node.asText ∨ node.asText = node := by
  fun_cases asText node with
  | case4 => exact .inr rfl
  | _ => exact .inl rfl

/-- What an alias stands for is read if the alias is. -/
theorem IsRead.actual (h : root.IsRead node) : root.IsRead (node.actual root.anchors) := by
  cases h with
  | part _ h => exact .part _ (contains_actual h)
  | text node h =>
    rcases actual_asText root.anchors node with heq | heq
    · exact heq.symm ▸ .text node h
    · exact heq.symm ▸ .part _ (contains_actual h)

/-- An entry whose key and value are both to be read. -/
structure IsEntry (root : Node) (entry : Node × Node) : Prop where
  key : root.IsRead entry.1
  value : root.Contains entry.2

/-- A mapping that counts as text was one, and an equals sign if it was changed. -/
theorem mapping_of_asText {anchor : Option String} {kind : Kind} {id : Nat} {own : List (Node × Node)}
    (h : node.asText = .mapping anchor kind id own) :
    ∃ a k, node = .mapping a k id own ∧ (k = kind ∨ k = .default) := by
  unfold asText at h
  split at h <;> simp_all

/-- A mapping that is read is a part of the outermost node, if not as text then as an equals sign. -/
theorem IsRead.mapping {anchor : Option String} {kind : Kind} {id : Nat} {own : List (Node × Node)}
    (h : root.IsRead (.mapping anchor kind id own)) :
    ∃ a k, root.Contains (.mapping a k id own) ∧ (k = kind ∨ k = .default) := by
  generalize hnode : Node.mapping anchor kind id own = node at h
  cases h with
  | part _ h => exact ⟨anchor, kind, hnode ▸ h, .inl rfl⟩
  | text node h =>
    obtain ⟨a, k, rfl, hkind⟩ := mapping_of_asText hnode.symm
    exact ⟨a, k, h, hkind⟩

/-- Only an alias is of a kind that is unknown in all cases. -/
theorem actual_of_ne (anchors : Anchors) (h : node.kind ≠ .unknown) : node.actual anchors = node := by
  cases node with
  | reference => exact absurd rfl h
  | _ => rfl

/-- The entries that a mapping has at first are entries of the outermost node. -/
theorem isEntry_of_mapping {anchor : Option String} {kind : Kind} {id : Nat} {own : List (Node × Node)}
    (h : root.Contains (.mapping anchor kind id own)) : ∀ entry ∈ own, root.IsEntry entry :=
  fun (key, value) hentry =>
    ⟨.part _ (.key _ _ _ _ key value h hentry), .value _ _ _ _ key value h hentry⟩

/-- The texts of a node: a scalar has its own, and a mapping may have that of any scalar. -/
inductive Spells (root : Node) : Node → WideText → Prop where
  | scalar (anchor : Option String) (kind : Kind) (text : WideText) :
      Spells root (.scalar anchor kind text) text
  | mapping (anchor : Option String) (kind : Kind) (id : Nat) (own : List (Node × Node))
      (name : Option String) (form : Kind) (text : WideText) (h : root.Contains (.scalar name form text)) :
      Spells root (.mapping anchor kind id own) text

/-- A fault of the values of a node: it breaks the rules, or a part of it that is to be a value is none, for
its text or because it has no text in the end. -/
inductive Misfit (root : Node) : Fault → Prop where
  | malformed : Misfit root .malformed
  | scalar (node : Node) (text : WideText) (fault : Fault) (hnode : root.Contains node)
      (htext : root.Spells node text) (hvalue : scalarValue node.kind node.isScalar text = .error fault) :
      Misfit root fault
  | endless (anchor : Option String) (kind : Kind) (id : Nat) (own : List (Node × Node))
      (h : root.Contains (.mapping anchor kind id own)) (hkind : kind.isCollection = false) :
      Misfit root .endless

attribute [simp] Misfit.malformed

/-- A text is that of some scalar. -/
theorem Spells.exists_scalar {text : WideText} (h : root.Spells node text) (hnode : root.Contains node) :
    ∃ name form, root.Contains (.scalar name form text) := by
  cases h with
  | scalar anchor kind text => exact ⟨anchor, kind, hnode⟩
  | mapping anchor kind id own name form text h => exact ⟨name, form, h⟩

end Node

/-! ## What is kept -/

/-- All that has been found out is about parts of the node. -/
structure Making.Sound (root : Node) (m : Making) : Prop where
  entries : ∀ id entries, (id, entries) ∈ m.entries → ∀ entry ∈ entries, root.IsEntry entry
  waiting : ∀ node ∈ m.waiting, root.Contains node

namespace Making

variable {root : Node} {m : Making}

/-- Where nothing has been found out there is nothing to be kept. -/
theorem sound_start : start.Sound root := ⟨nofun, nofun⟩

/-- The entries that a mapping has by now are still those of the outermost node. -/
theorem Sound.entriesOf (h : m.Sound root) (id : Nat) {own : List (Node × Node)}
    (hown : ∀ entry ∈ own, root.IsEntry entry) : ∀ entry ∈ m.entriesOf id own, root.IsEntry entry := by
  unfold Making.entriesOf
  cases hlookup : m.entries.lookup id with
  | none => exact hown
  | some entries =>
    obtain ⟨before, after, heq, -⟩ := List.lookup_eq_some_iff.mp hlookup
    exact h.entries id entries (heq ▸ List.mem_append_right before List.mem_cons_self)

theorem Sound.withEntries (h : m.Sound root) (id : Nat) {entries : List (Node × Node)}
    (hentries : ∀ entry ∈ entries, root.IsEntry entry) : (m.withEntries id entries).Sound root where
  entries := fun other found hfound => by
    rcases List.mem_cons.mp hfound with heq | hfound
    · exact (Prod.mk.inj heq).2 ▸ hentries
    · exact h.entries other found hfound
  waiting := h.waiting

theorem Sound.withValue (h : m.Sound root) (node : Node) (value : Value) :
    (m.withValue node value).Sound root := by
  unfold Making.withValue
  split
  · exact ⟨h.entries, h.waiting⟩
  · exact h

theorem Sound.withWaiting (h : m.Sound root) {node : Node} (hnode : root.Contains node) :
    (m.withWaiting node).Sound root where
  entries := h.entries
  waiting := List.forall_mem_append.mpr ⟨h.waiting, List.forall_mem_singleton.mpr hnode⟩

/-! ### Texts and values -/

/-- A text that is found is one of the node. The induction is on the mappings that are gone through. -/
theorem spells_of_textOf (h : m.Sound root) {fuel : Nat} {node : Node} {text : WideText}
    (hnode : root.IsRead node) (htext : m.textOf root.anchors fuel node = .ok text) :
    root.Spells (node.actual root.anchors) text := by
  fun_induction textOf m root.anchors fuel node with
  | case1 fuel node anchor kind own hactual =>
    rw [hactual, ← Except.ok.inj htext]
    exact .scalar anchor kind own
  | case4 node anchor kind id own hactual key value hfind fuel ih =>
    have hactual' := hactual ▸ hnode.actual
    -- an equals sign among its entries leads to another part of the outermost node
    obtain ⟨a, k, hmapping, -⟩ := hactual'.mapping
    have hentry := h.entriesOf id (Node.isEntry_of_mapping hmapping) _ (List.mem_of_find?_eq_some hfind)
    have hspells := ih (.part _ hentry.value) htext
    obtain ⟨name, form, hscalar⟩ := hspells.exists_scalar (Node.contains_actual hentry.value)
    rw [hactual]
    exact .mapping anchor kind id own name form text hscalar
  | _ => cases htext

/-- Other than for the rules a text is missing only where the search ends at no scalar, and begins at a
mapping. -/
theorem mapping_of_endless {anchors : Anchors} {fuel : Nat} {node : Node} {fault : Fault}
    (h : m.textOf anchors fuel node = .error fault) (hrules : fault ≠ .malformed) :
    fault = .endless ∧ ∃ anchor kind id own, node.actual anchors = .mapping anchor kind id own := by
  fun_induction textOf m anchors fuel node with
  | case1 => cases h
  | case3 node anchor kind id own hactual =>
    exact ⟨(Except.error.inj h).symm, anchor, kind, id, own, hactual⟩
  | case4 node anchor kind id own hactual key value hfind fuel ih =>
    exact ⟨(ih h).1, anchor, kind, id, own, hactual⟩
  | _ => exact absurd (Except.error.inj h).symm hrules

/-- A node keeps its kind, unless it was an equals sign and counts as text by now. -/
theorem kindOf_cases (m : Making) (node : Node) :
    m.kindOf node = node.kind ∨ (m.kindOf node = .str ∧ node.kind = .default) := by
  unfold kindOf
  split
  next h => exact .inr ⟨rfl, h.1⟩
  next => exact .inl rfl

/-- A collection is never a key that counts as text. -/
theorem contains_of_isCollection {node : Node} (hnode : root.IsRead node)
    (h : (m.kindOf node).isCollection) : root.Contains node := by
  refine hnode.contains fun hstr => ?_
  rcases m.kindOf_cases node with hkind | ⟨hkind, -⟩
  · rw [hkind, hstr] at h
    cases h
  · rw [hkind] at h
    cases h

/-- What is no collection by now was none before. -/
theorem isCollection_of_kindOf {node : Node} (h : ¬(m.kindOf node).isCollection) :
    node.kind.isCollection = false := by
  rcases m.kindOf_cases node with hkind | ⟨-, hkind⟩
  · exact Bool.eq_false_iff.mpr (hkind ▸ h)
  · rw [hkind]
    rfl

/-- A value fails for its rules, for its text or for having none. -/
theorem failsOnly_valueOf (h : m.Sound root) (fuel : Nat) {node : Node} (hnode : root.IsRead node) :
    FailsOnly root.Misfit (m.valueOf root.anchors fuel node) := by
  intro fault hfault
  by_cases hrules : fault = .malformed
  · exact hrules ▸ .malformed
  unfold valueOf at hfault
  dsimp only at hfault
  split at hfault
  next => cases hfault
  next hcollection =>
    split at hfault
    next => exact absurd (Except.error.inj hfault).symm hrules
    next hnone =>
      -- an alias is left here only if nothing has its name, and then its kind is unknown
      have hactual : node.actual root.anchors = node := Node.actual_of_ne _ fun hunknown => by
        rcases m.kindOf_cases node with hkind | ⟨-, hkind⟩
        · exact hnone (.inr (.inr (hkind.trans hunknown)))
        · cases hkind.symm.trans hunknown
      rcases bind_eq_error_iff.mp hfault with htext | ⟨text, htext, hvalue⟩
      · obtain ⟨rfl, anchor, kind, id, own, hmapping⟩ := mapping_of_endless htext hrules
        obtain rfl := hactual.symm.trans hmapping
        obtain ⟨a, k, hcontains, hk⟩ := hnode.mapping
        refine .endless a k id own hcontains ?_
        rcases hk with rfl | rfl
        · exact isCollection_of_kindOf hcollection
        · rfl
      · have hspells := spells_of_textOf h hnode htext
        rw [hactual] at hspells
        -- text is never refused, so the node has its own kind
        have hstr : m.kindOf node ≠ .str := fun hstr => by
          rw [hstr] at hvalue
          cases hvalue
        have hkind := (m.kindOf_cases node).resolve_right fun h => hstr h.1
        rw [hkind] at hvalue hstr
        exact .scalar node text fault (hnode.contains hstr) hspells hvalue

end Making

namespace Maker

variable {root : Node} {α β : Type} {P : α → Prop} {Q : β → Prop}

/-- Is what has been found out kept sound, with a result of the kind, unless a value of the node is faulty? -/
structure Keeps (root : Node) (P : α → Prop) (x : Maker α) : Prop where
  faults : ∀ m : Making, m.Sound root → FailsOnly root.Misfit (x.run m)
  sound : ∀ (m : Making) (a : α) (m' : Making), m.Sound root → x.run m = .ok (a, m') → P a ∧ m'.Sound root

theorem keeps_fail : Keeps root P fail where
  faults := fun _ _ => failsOnly_error_iff.mpr .malformed
  sound := nofun

theorem keeps_pure {a : α} (h : P a) : Keeps root P (pure a) where
  faults := fun _ _ => failsOnly_pure _
  sound := fun m a' m' hm heq => by
    obtain ⟨rfl, rfl⟩ := Prod.mk.inj (Except.ok.inj heq)
    exact ⟨h, hm⟩

/-- Two steps one after the other keep what each of them keeps. -/
theorem Keeps.bind {x : Maker α} {f : α → Maker β} (hx : Keeps root P x)
    (hf : ∀ a, P a → Keeps root Q (f a)) : Keeps root Q (x >>= f) where
  faults := fun m hm => by
    rw [StateT.run_bind]
    refine failsOnly_bind_iff.mpr ⟨hx.faults m hm, fun (a, m') hrun => ?_⟩
    obtain ⟨ha, hm'⟩ := hx.sound m a m' hm hrun
    exact (hf a ha).faults m' hm'
  sound := fun m b m'' hm hrun => by
    rw [StateT.run_bind] at hrun
    obtain ⟨⟨a, m'⟩, hfirst, hlast⟩ := bind_eq_ok_iff.mp hrun
    obtain ⟨ha, hm'⟩ := hx.sound m a m' hm hfirst
    exact (hf a ha).sound m' b m'' hm' hlast

theorem Keeps.map {x : Maker α} (hx : Keeps root P x) (f : α → β) (hf : ∀ a, P a → Q (f a)) :
    Keeps root Q (f <$> x) := by
  rw [map_eq_pure_bind]
  exact hx.bind fun a ha => keeps_pure (hf a ha)

theorem Keeps.discard {x : Maker α} (hx : Keeps root P x) :
    Keeps root (fun _ => True) (discard x) := hx.map _ fun _ _ => trivial

/-- What has been found out so far is sound. -/
theorem keeps_get : Keeps root (·.Sound root) (get : Maker Making) where
  faults := fun _ _ => failsOnly_pure _
  sound := fun m a m' hm heq => by
    obtain ⟨rfl, rfl⟩ := Prod.mk.inj (Except.ok.inj heq)
    exact ⟨hm, hm⟩

/-- A change is as good as what it makes of what is sound. -/
theorem keeps_modify {f : Making → Making} (hf : ∀ m : Making, m.Sound root → (f m).Sound root) :
    Keeps root (fun _ => True) (modify f : Maker Unit) where
  faults := fun _ _ => failsOnly_pure _
  sound := fun m a m' hm heq => by
    obtain ⟨-, rfl⟩ := Prod.mk.inj (Except.ok.inj heq)
    exact ⟨trivial, hf m hm⟩

/-- A step that finds out nothing only has to fail as it should. -/
theorem keeps_lift {x : Except Fault α} (h : FailsOnly root.Misfit x) :
    Keeps root (fun _ => True) (liftM x : Maker α) where
  faults := fun m _ => by
    rw [show (liftM x : Maker α).run m = x >>= fun a => pure (a, m) from rfl]
    exact failsOnly_bind_iff.mpr ⟨h, fun _ _ => failsOnly_pure _⟩
  sound := fun m a m' hm hrun => by
    obtain ⟨a', -, heq⟩ := bind_eq_ok_iff.mp hrun
    obtain ⟨-, rfl⟩ := Prod.mk.inj (Except.ok.inj heq)
    exact ⟨trivial, hm⟩

/-- A row of steps keeps what each of them keeps. -/
theorem Keeps.mapM {f : β → Maker α} {xs : List β} (h : ∀ x ∈ xs, Keeps root P (f x)) :
    Keeps root (∀ a ∈ ·, P a) (xs.mapM f) := by
  induction xs with
  | nil => exact keeps_pure nofun
  | cons x rest ih =>
    obtain ⟨hx, hrest⟩ := List.forall_mem_cons.mp h
    rw [List.mapM_cons]
    refine hx.bind fun a ha => (ih hrest).bind fun as has => keeps_pure ?_
    exact List.forall_mem_cons.mpr ⟨ha, has⟩

/-! ### Merging -/

section
variable {fuel id : Nat} {own : List (Node × Node)} (hown : ∀ entry ∈ own, root.IsEntry entry)
include hown

/-- Keys that count as text remain entries. -/
theorem keeps_plainKeys : Keeps root (fun _ => True) (plainKeys root.anchors id own) := by
  refine keeps_modify fun m hm => ⟨fun other entries hfound => ?_, hm.waiting⟩
  rcases List.mem_cons.mp hfound with heq | hfound
  · -- these are the entries from before, with other keys
    rw [(Prod.mk.inj heq).2]
    refine List.forall_mem_map.mpr fun entry hentry => ?_
    obtain ⟨hkey, hvalue⟩ := hm.entriesOf id hown entry hentry
    exact ⟨hkey.asText, hvalue⟩
  · exact hm.entries other entries hfound

/-- What a merge key brings in is a part of the outermost node. -/
theorem keeps_takeMerge :
    Keeps root (∀ value ∈ ·, root.Contains value) (takeMerge root.anchors id own) := by
  refine keeps_get.bind fun m hm => ?_
  have hentries := hm.entriesOf id hown
  dsimp only
  split
  next => exact keeps_pure nofun
  next key value hfind =>
    refine (keeps_modify fun m hm => hm.withEntries id fun entry hentry => ?_).bind fun _ _ => keeps_pure ?_
    · exact hentries entry (List.mem_of_mem_eraseP hentry)
    · exact fun _ heq => Option.some.inj heq ▸ (hentries _ (List.mem_of_find?_eq_some hfind)).value

end

/-- What is said of all steps of merging with the fuel. -/
structure Merges (root : Node) (fuel : Nat) : Prop where
  flatten : ∀ id own, (∀ entry ∈ own, root.IsEntry entry) →
    Keeps root (∀ entry ∈ ·, root.IsEntry entry) (flatten root.anchors fuel id own)
  takeMerges : ∀ id own, (∀ entry ∈ own, root.IsEntry entry) →
    Keeps root (∀ entry ∈ ·, root.IsEntry entry) (takeMerges root.anchors fuel id own)
  broughtIn : ∀ node, root.Contains node →
    Keeps root (∀ entry ∈ ·, root.IsEntry entry) (broughtIn root.anchors fuel node)

/-- What a mapping merges comes in front of what it has by then. -/
theorem Merges.flatten_succ {fuel : Nat} (ih : Merges root fuel) (id : Nat) (own : List (Node × Node))
    (hown : ∀ entry ∈ own, root.IsEntry entry) :
    Keeps root (∀ entry ∈ ·, root.IsEntry entry) (Maker.flatten root.anchors (fuel + 1) id own) := by
  rw [Maker.flatten]
  refine (keeps_plainKeys hown).bind fun _ _ => (ih.takeMerges id own hown).bind fun merged hmerged => ?_
  refine keeps_get.bind fun m hm => ?_
  have hentries := List.forall_mem_append.mpr ⟨hmerged, hm.entriesOf id hown⟩
  exact (keeps_modify fun m hm => hm.withEntries id hentries).bind fun _ _ => keeps_pure hentries

/-- One merge key is taken out, and then the others. -/
theorem Merges.takeMerges_succ {fuel : Nat} (ih : Merges root fuel) (id : Nat) (own : List (Node × Node))
    (hown : ∀ entry ∈ own, root.IsEntry entry) :
    Keeps root (∀ entry ∈ ·, root.IsEntry entry) (Maker.takeMerges root.anchors (fuel + 1) id own) := by
  rw [Maker.takeMerges]
  refine (keeps_takeMerge hown).bind fun taken htaken => ?_
  split
  next => exact keeps_pure nofun
  next value =>
    refine (ih.broughtIn value (htaken value rfl)).bind fun first hfirst => ?_
    exact (ih.takeMerges id own hown).map _ fun rest hrest => List.forall_mem_append.mpr ⟨hfirst, hrest⟩

/-- A merged node is a mapping or a sequence of mappings, or else the rules are broken. -/
theorem Merges.broughtIn_succ {fuel : Nat} (ih : Merges root fuel) (node : Node) (h : root.Contains node) :
    Keeps root (∀ entry ∈ ·, root.IsEntry entry) (Maker.broughtIn root.anchors (fuel + 1) node) := by
  rw [Maker.broughtIn]
  have hactual := Node.contains_actual h
  split
  next heq => exact ih.flatten _ _ (Node.isEntry_of_mapping (heq ▸ hactual))
  next heq =>
    -- the last of several mappings comes first, which makes no difference here
    refine (Keeps.mapM (P := (∀ entry ∈ ·, root.IsEntry entry)) fun item hitem => ?_).bind fun parts hparts =>
      keeps_pure ?_
    · have hitem := Node.contains_actual (.item _ _ _ _ item (heq ▸ hactual) hitem)
      split
      next heq => exact ih.flatten _ _ (Node.isEntry_of_mapping (heq ▸ hitem))
      next => exact keeps_fail
    · exact List.forall_mem_flatten.mpr fun part hpart => hparts part (List.mem_reverse.mp hpart)
  next => exact keeps_fail

/-- Merging keeps what is found out sound, and brings in entries of the node only. -/
theorem merges (root : Node) (fuel : Nat) : Merges root fuel := by
  induction fuel with
  | zero => constructor <;> intros <;> simp only [flatten, takeMerges, broughtIn, keeps_fail]
  | succ fuel ih => exact ⟨ih.flatten_succ, ih.takeMerges_succ, ih.broughtIn_succ⟩

/-! ### Filling -/

/-- A value is made of a part of the node, and a collection waits only if it is one. -/
theorem keeps_make (fuel : Nat) {node : Node} (h : root.IsRead node) :
    Keeps root (fun _ => True) (make root.anchors fuel node) := by
  refine keeps_get.bind fun m hm => ?_
  have hactual := h.actual
  dsimp only
  -- what has a value already is not made again
  split
  next => exact keeps_pure trivial
  next =>
    refine (keeps_lift (Making.failsOnly_valueOf hm fuel hactual)).bind fun value _ => ?_
    refine (keeps_modify fun m hm => hm.withValue _ value).bind fun _ _ => ?_
    split
    next hkind =>
      have hnode := Making.contains_of_isCollection hactual hkind
      exact (keeps_modify fun m hm => hm.withWaiting hnode).bind fun _ _ => keeps_pure trivial
    next => exact keeps_pure trivial

theorem keeps_makeEntry (fuel : Nat) {entry : Node × Node} (h : root.IsEntry entry) :
    Keeps root (fun _ => True) (makeEntry root.anchors fuel entry) := by
  refine (keeps_make fuel h.key).bind fun key _ => ?_
  split
  · exact keeps_fail
  · exact (keeps_make fuel (.part _ h.value)).map _ fun _ _ => trivial

theorem keeps_makeEntries (fuel id : Nat) {anchor : Option String} {kind : Kind} {own : List (Node × Node)}
    (h : root.Contains (.mapping anchor kind id own)) :
    Keeps root (∀ value ∈ ·, True) (makeEntries root.anchors fuel id own) :=
  ((merges root _).flatten id own (Node.isEntry_of_mapping h)).bind fun _ hentries =>
    Keeps.mapM fun entry hentry => keeps_makeEntry fuel (hentries entry hentry)

theorem keeps_makePair (fuel : Nat) {item : Node} (h : root.Contains item) :
    Keeps root (fun _ => True) (makePair root.anchors fuel item) := by
  unfold makePair
  have hactual := Node.contains_actual h
  split
  next id own heq =>
    refine keeps_get.bind fun m hm => ?_
    have hentries := hm.entriesOf id (Node.isEntry_of_mapping (heq ▸ hactual))
    split
    next key value hsole =>
      obtain ⟨hkey, hvalue⟩ := hentries (key, value) (hsole ▸ List.mem_singleton_self _)
      exact (keeps_make fuel hkey).bind fun _ _ => (keeps_make fuel (.part _ hvalue)).bind fun _ _ =>
        keeps_pure trivial
    next => exact keeps_fail
  next => exact keeps_fail

/-- A collection is filled from its own items or entries. -/
theorem keeps_fill (fuel : Nat) {node : Node} (h : root.Contains node) :
    Keeps root (fun _ => True) (fill root.anchors fuel node) := by
  unfold fill
  have hitem {anchor kind id items item} (h : root.Contains (.sequence anchor kind id items))
      (hitem : item ∈ items) : root.Contains item := .item anchor kind id items item h hitem
  split
  next => exact (Keeps.mapM fun item hmem => keeps_make fuel (.part _ (hitem h hmem))).discard
  next => exact (keeps_makeEntries fuel _ h).discard
  next => exact (keeps_makeEntries fuel _ h).discard
  next => exact (Keeps.mapM fun item hmem => keeps_makePair fuel (hitem h hmem)).discard
  next => exact (Keeps.mapM fun item hmem => keeps_makePair fuel (hitem h hmem)).discard
  next => exact keeps_fail

/-- What is taken out of those that wait was put there. -/
theorem keeps_next? : Keeps root (∀ node ∈ ·, root.Contains node) next? := by
  refine keeps_get.bind fun m hm => ?_
  have hwaiting := hm.waiting
  split
  next => exact keeps_pure nofun
  next node rest heq =>
    obtain ⟨hnode, hrest⟩ := List.forall_mem_cons.mp (heq ▸ hwaiting)
    have hsound (m : Making) (hm : m.Sound root) : Making.Sound root { m with waiting := rest } :=
      ⟨hm.entries, hrest⟩
    refine (keeps_modify hsound).bind fun _ _ => keeps_pure ?_
    exact fun _ heq => Option.some.inj heq ▸ hnode

/-- Filling the collections of a document keeps what is found out sound. -/
theorem keeps_fillAll (size fuel : Nat) :
    Keeps root (fun _ => True) (fillAll root.anchors size fuel) := by
  induction fuel with
  | zero => exact keeps_fail
  | succ fuel ih =>
    rw [fillAll]
    refine keeps_next?.bind fun node hnode => ?_
    split
    next => exact keeps_pure trivial
    next node => exact (keeps_fill size (hnode node rfl)).bind fun _ _ => ih

/-- A document is made from what has been found out about it alone. -/
theorem keeps_content (size : Nat) (root : Node) :
    Keeps root (fun _ => True) (content root.anchors size root) := by
  unfold content
  split
  next anchor id own =>
    refine (keeps_modify fun m hm => hm.withValue _ _).bind fun _ _ => ?_
    refine (keeps_makeEntries size id .self).bind fun values _ => ?_
    exact (keeps_fillAll size _).bind fun _ _ => keeps_pure trivial
  next =>
    refine (keeps_make size (.part _ .self)).bind fun value _ => ?_
    exact (keeps_fillAll size _).bind fun _ _ => keeps_pure trivial

end Maker

/-- A document fails for its rules or for a value in it. -/
theorem failsOnly_contentOf (size : Nat) (root : Node) : FailsOnly root.Misfit (contentOf size root) := by
  refine failsOnly_bind_iff.mpr ⟨?_, fun _ _ => failsOnly_pure _⟩
  exact (Maker.keeps_content size root).faults .start Making.sound_start

/-! ## Texts -/

/-- A fault of a text that keeps to the rules: what is wrong with it first is an escape of a number that is
too large for a character, or a version that is too long, or else a node is marked as a value of a kind and
has not the text of one, or is to have a text and is a mapping that stands for itself. -/
inductive Misfit (text : List Char) : Fault → Prop where
  | escape (code : Nat) (hlarge : 0x110000 ≤ code)
      (hnodes : Node.ofText? text = .error (.noCharacter code)) : Misfit text (.noCharacter code)
  | version (count : Nat) (hmany : mostDigits < count)
      (hnodes : Node.ofText? text = .error (.tooManyDigits count)) : Misfit text (.tooManyDigits count)
  | scalar (root node : Node) (scalar : WideText) (fault : Fault)
      (hroot : Node.ofText? text = .ok (some root)) (hnode : root.Contains node)
      (hscalar : root.Spells node scalar) (hvalue : scalarValue node.kind node.isScalar scalar = .error fault)
      (hkind : node.kind.Rejects fault) : Misfit text fault
  | endless (root : Node) (anchor : Option String) (kind : Kind) (id : Nat) (own : List (Node × Node))
      (hroot : Node.ofText? text = .ok (some root)) (hnode : root.Contains (.mapping anchor kind id own))
      (hkind : kind.isCollection = false) : Misfit text .endless

/-- A misfit keeps to the rules. -/
theorem Misfit.ne_malformed {text : List Char} {fault : Fault} (h : Misfit text fault) :
    fault ≠ .malformed := by
  cases h with
  | escape => nofun
  | version => nofun
  | scalar _ _ _ _ _ _ _ _ hkind => exact hkind.ne_malformed
  | endless => nofun

/-- **A text that cannot be read breaks the rules or is a misfit.** -/
theorem misfit_of_read {text : List Char} {fault : Fault} (h : read text = .error fault)
    (hrules : fault ≠ .malformed) : Misfit text fault := by
  rw [read, bind_eq_error_iff] at h
  rcases h with htext | ⟨root, hroot, hcontent⟩
  · cases lexes_ofText? text fault htext with
    | malformed => exact absurd rfl hrules
    | noCharacter code hlarge => exact .escape code hlarge htext
    | tooManyDigits count hmany => exact .version count hmany htext
  · cases root with
    | none => cases hcontent
    | some root =>
      cases failsOnly_contentOf _ root fault hcontent with
      | malformed => exact absurd rfl hrules
      | scalar node text fault hnode htext hvalue =>
        have hkind := (failsOnly_scalarValue _ _ _ fault hvalue).resolve_left hrules
        exact .scalar root node text fault hroot hnode htext hvalue hkind
      | endless anchor kind id own hnode hkind =>
        exact .endless root anchor kind id own hroot hnode hkind

end BusContract.Yaml
