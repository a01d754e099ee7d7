import BusContract.Proofs.Yaml.Words
import BusContract.Yaml.Node

/-!
# Faults of nodes

Nodes are read while the words of a text are, and add no fault to those of the words but that the rules are
broken: no reading of nodes fails in another way. Nodes are in each other, so this is said of all readings
with the same fuel at once.

* `Yaml.Nodes.arePlain`: no reading of nodes fails in another way.
* `Yaml.lexes_ofText?`: the nodes of a text fail for nothing but its words.
-/

namespace BusContract.Yaml

namespace Nodes

variable {α β : Type}

/-- Does the reading fail for nothing but words? -/
def IsPlain (m : Nodes α) : Prop := ∀ r, Lexes (m.run r)

/-! ## Single tokens -/

/-- Breaking the rules is a fault of words too. -/
theorem isPlain_fail : IsPlain (fail : Nodes α) := fun _ => by simp [fail, StateT.run]

theorem isPlain_pure (a : α) : IsPlain (pure a) := fun _ => by simp

theorem isPlain_get : IsPlain get := fun _ => by simp

theorem isPlain_modify (f : NodeReader → NodeReader) : IsPlain (modify f) := fun _ => by simp

/-- Two readings one after the other are plain if both are. -/
theorem IsPlain.bind {m : Nodes α} {f : α → Nodes β} (hm : IsPlain m) (hf : ∀ a, IsPlain (f a)) :
    IsPlain (m >>= f) := by
  intro r
  rw [StateT.run_bind]
  exact failsOnly_bind_iff.mpr ⟨hm r, fun a _ => hf a.1 a.2⟩

theorem IsPlain.map {m : Nodes α} (f : α → β) (hm : IsPlain m) : IsPlain (f <$> m) := by
  intro r
  simp [hm r]

theorem IsPlain.ite {c : Prop} [Decidable c] {m m' : Nodes α} (hm : IsPlain m) (hm' : IsPlain m') :
    IsPlain (if c then m else m') := by
  split
  · exact hm
  · exact hm'

/-- To see the next token words are read, and nothing else can fail. -/
theorem isPlain_peek : IsPlain peek := fun r => by
  simp [peek, StateT.run]

theorem isPlain_drop : IsPlain drop := isPlain_modify _

/-- Passing over a token that is there cannot fail otherwise. -/
theorem isPlain_accept (t : Token) : IsPlain (accept t) :=
  isPlain_peek.bind fun _ => .ite (isPlain_drop.bind fun _ => isPlain_pure _) (isPlain_pure _)

theorem isPlain_expect (t : Token) : IsPlain (expect t) :=
  (isPlain_accept t).bind fun _ => .ite (isPlain_pure _) isPlain_fail

theorem isPlain_sees (ts : List Token) : IsPlain (sees ts) := by
  refine isPlain_peek.bind fun t => ?_
  cases t <;> exact isPlain_pure _

theorem isPlain_passed : IsPlain passed := isPlain_get.map _

/-- A name that is given twice breaks the rules. -/
theorem isPlain_giveName (name : Option String) : IsPlain (giveName name) := by
  cases name with
  | none => exact isPlain_pure _
  | some name => exact isPlain_get.bind fun _ => .ite isPlain_fail (isPlain_modify _)

theorem isPlain_anchor? : IsPlain anchor? := by
  refine isPlain_peek.bind fun t => ?_
  split
  · exact isPlain_drop.bind fun _ => isPlain_pure _
  · exact isPlain_pure _

theorem isPlain_tag? : IsPlain tag? := by
  refine isPlain_peek.bind fun t => ?_
  split
  · exact isPlain_drop.bind fun _ => isPlain_pure _
  · exact isPlain_pure _

/-- Anchors and tags are single tokens. -/
theorem isPlain_marks : IsPlain marks := by
  refine isPlain_anchor?.bind fun name => ?_
  cases name with
  | some name => exact isPlain_tag?.map _
  | none => exact isPlain_tag?.bind fun _ => isPlain_anchor?.bind fun _ => isPlain_pure _

/-- A handle that stands for nothing breaks the rules. -/
theorem isPlain_fullTag (t : WrittenTag) : IsPlain (fullTag t) := by
  unfold fullTag
  split
  · exact isPlain_pure _
  · refine isPlain_get.bind fun r => ?_
    split
    · exact isPlain_pure _
    · exact isPlain_fail

/-- What stands in front of a node is plain. -/
theorem isPlain_properties : IsPlain properties := by
  refine isPlain_marks.bind fun marks => ?_
  split
  · exact isPlain_pure _
  · exact (isPlain_fullTag _).bind fun _ => isPlain_pure _

/-- Nothing at all may break the rules. -/
theorem isPlain_empty (anchor tag : Option String) : IsPlain (empty anchor tag) := by
  unfold empty
  exact .ite isPlain_fail (isPlain_pure _)

/-! ## Nodes in nodes -/

/-- What is said of all readings of nodes with the fuel. -/
structure ArePlain (fuel : Nat) : Prop where
  node : ∀ inBlock hyphens, IsPlain (node fuel inBlock hyphens)
  nodeUnless : ∀ ends inBlock hyphens, IsPlain (nodeUnless fuel ends inBlock hyphens)
  blockItems : IsPlain (blockItems fuel)
  looseEntries : IsPlain (looseEntries fuel)
  blockEntries : IsPlain (blockEntries fuel)
  flowItems : ∀ isFirst, IsPlain (flowItems fuel isFirst)
  flowEntries : ∀ isFirst, IsPlain (flowEntries fuel isFirst)

/-- A node is plain if what is in it is. -/
theorem ArePlain.node_succ {fuel : Nat} (h : ArePlain fuel) (inBlock hyphens : Bool) :
    IsPlain (Nodes.node (fuel + 1) inBlock hyphens) := by
  rw [Nodes.node]
  refine isPlain_peek.bind fun t => ?_
  -- an alias is a node by itself
  split
  · exact isPlain_drop.bind fun _ => isPlain_get.bind fun _ => .ite (isPlain_pure _) isPlain_fail
  refine isPlain_properties.bind fun (anchor, tag) => ?_
  refine isPlain_peek.bind fun next => (isPlain_giveName anchor).bind fun _ => ?_
  refine isPlain_passed.bind fun id => ?_
  split
  · exact .ite (h.looseEntries.map _) (isPlain_empty anchor tag)
  · exact isPlain_drop.bind fun _ => isPlain_pure _
  · exact isPlain_drop.bind fun _ => (h.flowItems true).map _
  · exact isPlain_drop.bind fun _ => (h.flowEntries true).map _
  · exact .ite (isPlain_drop.bind fun _ => h.blockItems.map _) (isPlain_empty anchor tag)
  · exact .ite (isPlain_drop.bind fun _ => h.blockEntries.map _) (isPlain_empty anchor tag)
  · exact isPlain_empty anchor tag

/-- So is one that may be missing. -/
theorem ArePlain.nodeUnless_succ {fuel : Nat} (h : ArePlain fuel) (ends : List Token)
    (inBlock hyphens : Bool) : IsPlain (Nodes.nodeUnless (fuel + 1) ends inBlock hyphens) := by
  rw [Nodes.nodeUnless]
  exact (isPlain_sees ends).bind fun _ => .ite (isPlain_pure _) (h.node inBlock hyphens)

/-- Items that are marked by indentation. -/
theorem ArePlain.blockItems_succ {fuel : Nat} (h : ArePlain fuel) :
    IsPlain (Nodes.blockItems (fuel + 1)) := by
  rw [Nodes.blockItems]
  refine (isPlain_accept _).bind fun _ => .ite ?_ ?_
  · exact (h.nodeUnless _ _ _).bind fun _ => h.blockItems.map _
  · exact (isPlain_expect _).bind fun _ => isPlain_pure _

/-- Items behind hyphens that are not indented. -/
theorem ArePlain.looseEntries_succ {fuel : Nat} (h : ArePlain fuel) :
    IsPlain (Nodes.looseEntries (fuel + 1)) := by
  rw [Nodes.looseEntries]
  refine (isPlain_accept _).bind fun _ => .ite ?_ (isPlain_pure _)
  exact (h.nodeUnless _ _ _).bind fun _ => h.looseEntries.map _

/-- Entries that are marked by indentation. -/
theorem ArePlain.blockEntries_succ {fuel : Nat} (h : ArePlain fuel) :
    IsPlain (Nodes.blockEntries (fuel + 1)) := by
  rw [Nodes.blockEntries]
  refine (isPlain_accept _).bind fun _ => .ite ?_ ?_
  · -- the value may be missing, and then so may its colon
    refine (h.nodeUnless _ _ _).bind fun key => (isPlain_accept _).bind fun _ => ?_
    exact .ite ((h.nodeUnless _ _ _).bind fun _ => h.blockEntries.map _)
      ((isPlain_pure _).bind fun _ => h.blockEntries.map _)
  · exact (isPlain_expect _).bind fun _ => isPlain_pure _

/-- Items in brackets. -/
theorem ArePlain.flowItems_succ {fuel : Nat} (h : ArePlain fuel) (isFirst : Bool) :
    IsPlain (Nodes.flowItems (fuel + 1) isFirst) := by
  rw [Nodes.flowItems]
  refine (isPlain_accept _).bind fun _ => .ite (isPlain_pure _) ?_
  -- the first item is read as the later ones are, only that no comma is in front of it
  refine .ite ?_ ((isPlain_expect _).bind fun _ => ?_)
  all_goals
    beta_reduce
    refine isPlain_passed.bind fun id => (isPlain_accept _).bind fun _ => .ite ?_ ?_
    · refine (h.nodeUnless _ _ _).bind fun key => (isPlain_accept _).bind fun _ => ?_
      exact .ite ((h.nodeUnless _ _ _).bind fun _ => (h.flowItems false).map _)
        ((isPlain_pure _).bind fun _ => (h.flowItems false).map _)
    · refine (isPlain_accept _).bind fun _ => .ite (isPlain_pure _) ?_
      exact (h.node _ _).bind fun _ => (h.flowItems false).map _

/-- Entries in braces. -/
theorem ArePlain.flowEntries_succ {fuel : Nat} (h : ArePlain fuel) (isFirst : Bool) :
    IsPlain (Nodes.flowEntries (fuel + 1) isFirst) := by
  rw [Nodes.flowEntries]
  refine (isPlain_accept _).bind fun _ => .ite (isPlain_pure _) ?_
  -- as for items, the first differs by the comma alone
  refine .ite ?_ ((isPlain_expect _).bind fun _ => ?_)
  all_goals
    beta_reduce
    refine (isPlain_accept _).bind fun _ => .ite ?_ ?_
    · refine (h.nodeUnless _ _ _).bind fun key => (isPlain_accept _).bind fun _ => ?_
      exact .ite ((h.nodeUnless _ _ _).bind fun _ => (h.flowEntries false).map _)
        ((isPlain_pure _).bind fun _ => (h.flowEntries false).map _)
    · refine (isPlain_accept _).bind fun _ => .ite (isPlain_pure _) ?_
      exact (h.node _ _).bind fun _ => (h.flowEntries false).map _

/-- Readings of nodes fail for no other reason than that the text breaks the rules. -/
theorem arePlain (fuel : Nat) : ArePlain fuel := by
  induction fuel with
  | zero =>
    constructor <;> intros <;>
      simp only [node, nodeUnless, blockItems, looseEntries, blockEntries, flowItems, flowEntries,
        isPlain_fail]
  | succ fuel ih =>
    exact ⟨ih.node_succ, ih.nodeUnless_succ, ih.blockItems_succ, ih.looseEntries_succ,
      ih.blockEntries_succ, ih.flowItems_succ, ih.flowEntries_succ⟩

/-! ## Documents -/

/-- Directives break the rules or are read. -/
theorem isPlain_directives (fuel : Nat) (hasVersion : Bool) (handles : List (String × String)) :
    IsPlain (directives fuel hasVersion handles) := by
  induction fuel generalizing hasVersion handles with
  | zero => exact isPlain_fail
  | succ fuel ih =>
    rw [directives]
    refine isPlain_peek.bind fun t => ?_
    split
    next d =>
      refine isPlain_drop.bind fun _ => ?_
      cases d with
      | version major => exact .ite isPlain_fail (ih _ _)
      | handle name expansion => exact .ite isPlain_fail (ih _ _)
      | other => exact ih _ _
    next => exact isPlain_pure _

/-- Marks of an end are passed over. -/
theorem isPlain_skipEnds (fuel : Nat) : IsPlain (skipEnds fuel) := by
  induction fuel with
  | zero => exact isPlain_pure _
  | succ fuel ih =>
    rw [skipEnds]
    exact (isPlain_accept _).bind fun _ => .ite ih (isPlain_pure _)

/-- A document that is followed by another breaks the rules. -/
theorem isPlain_content (fuel : Nat) {root : Nodes Node} (h : IsPlain root) :
    IsPlain (content fuel root) := by
  unfold content
  refine h.bind fun root => (isPlain_skipEnds fuel).bind fun _ => (isPlain_accept _).bind fun _ => ?_
  exact .ite (isPlain_pure _) ((isPlain_directives _ _ _).bind fun _ => isPlain_fail)

/-- A document with a mark of its own is plain. -/
theorem isPlain_explicit (fuel : Nat) : IsPlain (document.explicit fuel) := by
  unfold document.explicit
  refine (isPlain_directives _ _ _).bind fun handles => (isPlain_expect _).bind fun _ => ?_
  refine (isPlain_modify _).bind fun _ => isPlain_peek.bind fun t => ?_
  -- whether there is anything in it makes no difference
  have hcontent (isEmpty : Bool) :
      IsPlain (content fuel (if isEmpty then pure nothing else node fuel true false)) :=
    isPlain_content fuel (.ite (isPlain_pure _) ((arePlain fuel).node _ _))
  dsimp only
  split
  · exact (isPlain_pure _).bind hcontent
  · exact (isPlain_sees _).bind hcontent

/-- The only document of a text is plain. -/
theorem isPlain_document (fuel : Nat) : IsPlain (document fuel) := by
  unfold document
  refine isPlain_peek.bind fun t => ?_
  split
  · exact isPlain_pure _
  · exact isPlain_explicit fuel
  · exact isPlain_explicit fuel
  · exact isPlain_content fuel ((arePlain fuel).node _ _)

end Nodes

/-- The nodes of a text fail for nothing but its words. -/
theorem lexes_ofText? (text : List Char) : Lexes (Node.ofText? text) := by
  unfold Node.ofText?
  refine failsOnly_ite_iff.mpr ⟨fun _ => failsOnly_error_iff.mpr .malformed, fun _ => ?_⟩
  exact failsOnly_bind_iff.mpr ⟨Nodes.isPlain_document _ _, fun _ _ => failsOnly_pure _⟩

end BusContract.Yaml
