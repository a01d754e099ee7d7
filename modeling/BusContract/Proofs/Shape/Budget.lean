import BusContract.Proofs.Shape.Activations
import BusContract.Proofs.Shape.Recursion
import Mathlib.Data.Finset.Card

/-!
# Spelling out always ends

A call leads to calls about smaller parts of its annotation, or to the fields of a struct that was not in
progress before. So what a call costs at most (`Call.cost`) is lexicographic: the structs that may still be
entered count first, and the size of what the call looks at second.

`body_does` says of one call what it comes to and which calls it makes, whatever the latter do by
themselves. By induction on the budget a whole run comes to the signature or fault of `Classes.wire`, and
leaves a record in which every call is cheaper than the one that made it (`run_ends`). What holds on the way
to a call is read off the record (`Orderly.of_reaches`).

* **`Reflection.reflection_ends`**: a budget that is enough for every shape, what all runs come to, and which
  structs are in progress wherever a run gets to.
-/

namespace BusContract

/-! ## Sizes -/

namespace Shape

mutual

/-- How many types and words an annotation is made of. -/
def size : Shape → Nat
  | applied _ _ _ args => sizeAll args + 1
  | unionOf members => sizeAll members + 1
  | barOf members => sizeAll members + 1
  | annotated base _ => size base + 1
  | classVar type => size type + 1
  | final type => size type + 1
  | initVar type => size type + 1
  | newType _ base => size base + 1
  | _ => 1

def sizeAll : List Shape → Nat
  | [] => 0
  | t :: rest => size t + sizeAll rest

end

/-- A part is not larger than all together. -/
theorem size_le_sizeAll {t : Shape} {ts : List Shape} (h : t ∈ ts) : t.size ≤ sizeAll ts := by
  induction ts with
  | nil => exact absurd h List.not_mem_nil
  | cons u rest ih =>
    rw [sizeAll]
    rcases List.mem_cons.mp h with rfl | h
    · omega
    · have hrest := ih h
      omega

/-- The size of the largest annotation. -/
def largest : List Shape → Nat
  | [] => 0
  | t :: rest => max t.size (largest rest)

/-- Nor is it larger than the largest. -/
theorem size_le_largest {t : Shape} {ts : List Shape} (h : t ∈ ts) : t.size ≤ largest ts := by
  induction ts with
  | nil => exact absurd h List.not_mem_nil
  | cons u rest ih =>
    rw [largest]
    rcases List.mem_cons.mp h with rfl | h
    · exact Nat.le_max_left _ _
    · exact (ih h).trans (Nat.le_max_right _ _)

end Shape

namespace Classes

variable {classes : Classes} {c : ClassName} {types : List Shape} {t : Shape}

/-- The struct classes: of those that may have fields the ones that are no scalars, no enumerations and
give no signature themselves. -/
def structNames (classes : Classes) : List ClassName :=
  classes.openable.filter fun c => (classes.simple? c).isNone

def structs (classes : Classes) : Finset ClassName := classes.structNames.toFinset

/-- The annotations of the fields of all struct classes. -/
def fieldShapes (classes : Classes) : List Shape :=
  classes.structNames.flatMap fun c => (classes.fieldTypes c).toOption.getD []

/-- The size of the largest annotation, among those of fields and the one given. -/
def annotationSize (classes : Classes) (t : Shape) : Nat := Shape.largest (t :: classes.fieldShapes)

/-- A class that is taken apart is one of the structs. -/
theorem mem_structs (hsimple : classes.simple? c = none) (htypes : classes.fieldTypes c = .ok types)
    (hfields : types ≠ []) : c ∈ classes.structs := by
  rw [structs, List.mem_toFinset, structNames, List.mem_filter, hsimple]
  exact ⟨mem_openable_of_fieldTypes htypes hfields, rfl⟩

/-- The types of its fields are among those of all structs. -/
theorem mem_fieldShapes (hc : c ∈ classes.structs) (htypes : classes.fieldTypes c = .ok types)
    (ht : t ∈ types) : t ∈ classes.fieldShapes := by
  rw [fieldShapes, List.mem_flatMap]
  exact ⟨c, List.mem_toFinset.mp hc, by rw [htypes]; exact ht⟩

end Classes

namespace Reflection

variable {classes : Classes}

/-! ## What calls cost -/

namespace Call

/-- The struct whose fields are spelled out by the call. -/
def struct? : Call → Option ClassName
  | struct c => some c
  | _ => none

/-- How deep calls can go until they enter a struct. -/
def size : Call → Nat
  | signature t => 2 * t.size + 1
  | annotated base _ => 2 * base.size + 2
  | generic _ _ args => 2 * Shape.sizeAll args + 2
  | cls _ => 2
  | struct _ => 1

/-- How deep calls can go. Each struct that is not in progress yet may be entered once. -/
def cost (classes : Classes) (opened : Open) (call : Call) : Nat :=
  (classes.structs \ opened).card * (2 * (Shape.largest classes.fieldShapes + 1)) + call.size

/-- Calls for the fields of a class are only made where the class has no signature without them. -/
def IsSound (classes : Classes) (call : Call) : Prop :=
  ∀ c, call.struct? = some c → classes.simple? c = none

/-- What a call comes to, given the signatures of classes. -/
def wire (ofClass : ClassName → Wire) : Call → Wire
  | signature t => Wire.ofShape ofClass t
  | annotated base marks => Wire.ofShape ofClass (.annotated base marks)
  | generic shape origin args => Wire.ofGeneric shape origin args (Wire.ofShapes ofClass args)
  | cls c => ofClass c
  | struct c => ofClass c

/-- Only a call about a struct can be about something that is none. -/
theorem isSound_of_other {call : Call} (h : call.struct? = none) : call.IsSound classes := by
  intro c hc
  rw [h] at hc
  cases hc

/-- No call is for free. -/
theorem cost_pos (call : Call) (opened : Open) : 0 < call.cost classes opened := by
  cases call <;> simp only [cost, size] <;> omega

/-- Fields are cheaper than their struct: one struct less is left to be entered. -/
theorem cost_field {c : ClassName} {opened : Open} {types : List Shape} {t : Shape}
    (hc : c ∈ classes.structs) (hnew : c ∉ opened) (htypes : classes.fieldTypes c = .ok types)
    (ht : t ∈ types) :
    (signature t).cost classes (insert c opened) < (struct c).cost classes opened := by
  have hmem : c ∈ classes.structs \ opened := Finset.mem_sdiff.mpr ⟨hc, hnew⟩
  have hroom : (classes.structs \ insert c opened).card + 1 = (classes.structs \ opened).card := by
    rw [Finset.sdiff_insert, Finset.card_erase_add_one hmem]
  have hsize := Shape.size_le_largest (Classes.mem_fieldShapes hc htypes ht)
  rw [cost, cost, ← hroom, Nat.add_mul, size, size]
  omega

end Call

/-! ## From a call to the calls it makes -/

/-- The structs in progress for the calls that a call makes: where it is about a struct, that was not in
progress and is now. -/
inductive Enters (classes : Classes) : Call → (before inside : Open) → Prop where
  | struct (c : ClassName) (before : Open) (hnew : c ∉ before) (hc : c ∈ classes.structs) :
      Enters classes (.struct c) before (insert c before)
  | other (call : Call) (before : Open) (h : call.struct? = none) :
      Enters classes call before before

/-- The structs in progress are those that `Classes.wireOf` keeps in mind. -/
structure InProgress (classes : Classes) (opened : Open) (within : List ClassName) (depth : Nat) :
    Prop where
  nested : Nested classes within depth
  opened_eq : opened = within.toFinset

section Body

variable {ask : Call → Part String} {opened : Open} {within : List ClassName} {depth : Nat}
  {P : Activation → Prop}

/-- A generic comes to what `Wire.ofGeneric` makes of its arguments, in the order of the two. -/
theorem generic_does {ofClass : ClassName → Wire} {shape : Shape} {origin : ClassName}
    {args : List Shape}
    (hask : ∀ t ∈ args, Does (ask (.signature t)) opened (Wire.ofShape ofClass t) P) :
    Does (generic ask shape origin args) opened
      (Wire.ofGeneric shape origin args (Wire.ofShapes ofClass args)) P := by
  unfold generic Wire.ofGeneric
  simp only [List.contains_iff_mem]
  split_ifs with harray hmapping htuple
  · match args with
    | [] => exact .throw
    | [element] => exact (hask element List.mem_cons_self).map
    | _ :: _ :: _ => exact .throw
  · match args with
    | [] => exact .throw
    | [_] => exact .throw
    | [key, value] => exact (Does.row hask).map
    | _ :: _ :: _ :: _ => exact .throw
  · -- the dots are a pattern here, while `Wire.ofTuple` asks `isEllipsis` for them
    split
    next => exact .throw
    next element =>
      rw [Wire.ofTuple_many]
      exact (hask element List.mem_cons_self).map
    next hempty hmany =>
      rw [Wire.ofTuple_fixed hempty hmany]
      exact (Does.row hask).map
  · exact .throw

/-- A class that is not opened comes to the same inside any structs. -/
theorem InProgress.wireOf_eq {c : ClassName} {w : Wire} (h : InProgress classes opened within depth)
    (hsimple : classes.simple? c = some w) : classes.wireOf depth within c = w := by
  obtain ⟨deeper, rfl⟩ := h.nested.depth_eq_succ
  rw [Classes.wireOf, hsimple]

/-- To ask for a signature is to ask for its parts. -/
theorem signature_does {t : Shape} (h : InProgress classes opened within depth)
    (hask : ∀ next : Call, next.IsSound classes → next.size < (Call.signature t).size →
      Does (ask next) opened (next.wire (classes.wireOf depth within)) P) :
    Does (body classes ask (.signature t)) opened
      ((Call.signature t).wire (classes.wireOf depth within)) P := by
  show Does _ opened (Wire.ofShape _ t) P
  -- each shape asks for at most one call, and that one is smaller
  cases t with
  | cls c =>
    rw [Wire.ofShape, body]
    split_ifs with hanything hgeneric
    · exact .pure
    · exact .throw
    · cases hexplicit : classes.explicit? c with
      | some s =>
        rw [h.wireOf_eq (Classes.simple?_of_explicit hexplicit)]
        exact .pure
      | none =>
        refine hask (.cls c) (Call.isSound_of_other rfl) ?_
        simp only [Call.size, Shape.size]
        omega
  | annotated base marks =>
    refine hask (.annotated base marks) (Call.isSound_of_other rfl) ?_
    simp only [Call.size, Shape.size]
    omega
  | family name origin =>
    refine hask (.generic (.family name origin) origin []) (Call.isSound_of_other rfl) ?_
    simp only [Call.size, Shape.size, Shape.sizeAll]
    omega
  | applied head native origin args =>
    refine hask (.generic (.applied head native origin args) origin args) (Call.isSound_of_other rfl) ?_
    simp only [Call.size, Shape.size]
    omega
  | _ => exact .throw

/-- Marks come before what they stand at. -/
theorem annotated_does {ofClass : ClassName → Wire} {base : Shape} {marks : List Mark}
    (hask : Does (ask (.signature base)) opened (Wire.ofShape ofClass base) P) :
    Does (body classes ask (.annotated base marks)) opened
      (Wire.ofShape ofClass (.annotated base marks)) P := by
  rw [Wire.ofShape, body]
  cases Wire.pinned? marks with
  | some s => exact .pure
  | none => exact hask

/-- A class is asked about itself before it is taken apart. -/
theorem cls_does {c : ClassName} (h : InProgress classes opened within depth)
    (hask : classes.simple? c = none →
      Does (ask (.struct c)) opened (classes.wireOf depth within c) P) :
    Does (body classes ask (.cls c)) opened (classes.wireOf depth within c) P := by
  rw [body]
  cases hsimple : classes.simple? c with
  | none => exact hask hsimple
  | some w =>
    rw [h.wireOf_eq hsimple]
    cases w with
    | ok s => exact .pure
    | error fault => exact .throw

/-- A struct that is in progress already is a fault. Any other joins those in progress for its fields and
leaves them afterwards. -/
theorem struct_does {c : ClassName} (h : InProgress classes opened within depth)
    (hsimple : classes.simple? c = none)
    (hask : ∀ types deeper, classes.fieldTypes c = .ok types → c ∈ classes.structs → c ∉ opened →
      InProgress classes (insert c opened) (c :: within) deeper → ∀ t ∈ types,
        Does (ask (.signature t)) (insert c opened)
          (Wire.ofShape (classes.wireOf deeper (c :: within)) t) P) :
    Does (struct classes ask c) opened (classes.wireOf depth within c) P := by
  obtain ⟨deeper, rfl⟩ := h.nested.depth_eq_succ
  have hwithin : within.contains c = true ↔ c ∈ opened := by
    rw [h.opened_eq, List.mem_toFinset, List.contains_iff_mem]
  refine .look fun _ => ?_
  rw [Classes.wireOf, hsimple]
  dsimp only
  split_ifs with hopen hclosed hclosed
  · exact .throw
  -- the set and the list never disagree
  · exact absurd (hwithin.mpr hopen) hclosed
  · exact absurd (hwithin.mp hclosed) hopen
  · cases htypes : classes.fieldTypes c with
    | error fault => exact .throw
    | ok types =>
      cases types with
      | nil => exact .throw
      | cons first rest =>
        have hc := Classes.mem_structs hsimple htypes (List.cons_ne_nil _ _)
        have hnew : c ∉ within := fun hmem => hclosed (List.contains_iff_mem.mpr hmem)
        have hopenable := Classes.mem_openable_of_fieldTypes htypes (List.cons_ne_nil _ _)
        have hinside : InProgress classes (insert c opened) (c :: within) deeper :=
          ⟨h.nested.cons hnew hopenable, by rw [h.opened_eq, List.toFinset_cons]⟩
        exact .inside hopen (Does.row (hask _ _ htypes hc hopen hinside)).map

/-- One call, whatever the calls that it makes do by themselves: it comes to what `Classes.wireOf` says if
they do, and all of them are cheaper than it is. -/
theorem body_does {call : Call} (hsound : call.IsSound classes)
    (h : InProgress classes opened within depth)
    (hask : ∀ (next : Call) inside within' depth', Enters classes call opened inside →
      InProgress classes inside within' depth' → next.IsSound classes →
      next.cost classes inside < call.cost classes opened →
      Does (ask next) inside (next.wire (classes.wireOf depth' within')) P) :
    Does (body classes ask call) opened (call.wire (classes.wireOf depth within)) P := by
  -- Only a struct changes what is in progress, so elsewhere it is the size that goes down.
  have hsame : call.struct? = none → ∀ next : Call, next.IsSound classes → next.size < call.size →
      Does (ask next) opened (next.wire (classes.wireOf depth within)) P := by
    intro hother next hnext hsize
    exact hask next opened within depth (.other call opened hother) h hnext
      (Nat.add_lt_add_left hsize _)
  cases call with
  | signature t => exact signature_does h (hsame rfl)
  | annotated base marks =>
    refine annotated_does (hsame rfl (.signature base) (Call.isSound_of_other rfl) ?_)
    show 2 * base.size + 1 < 2 * base.size + 2
    omega
  | generic shape origin args =>
    refine generic_does fun t ht => hsame rfl (.signature t) (Call.isSound_of_other rfl) ?_
    have hsize := Shape.size_le_sizeAll ht
    show 2 * t.size + 1 < 2 * Shape.sizeAll args + 2
    omega
  | cls c =>
    refine cls_does h fun hsimple => hsame rfl (.struct c) ?_ Nat.one_lt_two
    -- the class is only opened because it has no signature without its fields
    rintro d ⟨⟩
    exact hsimple
  | struct c =>
    refine struct_does h (hsound c rfl) fun types deeper htypes hc hnew hinside t ht => ?_
    exact hask (.signature t) _ _ _ (.struct c opened hnew hc) hinside
      (Call.isSound_of_other rfl) (Call.cost_field hc hnew htypes ht)

end Body

/-! ## Whole runs -/

/-- May the activation be one of a call that is made by the given one? -/
structure MadeBy (classes : Classes) (call : Call) (before : Open) (b : Activation) : Prop where
  enters : Enters classes call before b.before
  cheaper : b.call.cost classes b.before < call.cost classes before

/-- A record in order: a call leaves the structs in progress as they were, and so do those that it made. -/
inductive Orderly (classes : Classes) : Activation → Prop where
  | mk (call : Call) (before : Open) (inner : List Activation) (outcome : Wire)
      (hmade : ∀ b ∈ inner, MadeBy classes call before b)
      (hinner : ∀ b ∈ inner, Orderly classes b) :
      Orderly classes (.mk call before inner outcome before)

/-- What was in progress before is so after. -/
theorem Orderly.after_eq {a : Activation} (h : Orderly classes a) : a.after = a.before := by
  cases h
  rfl

/-- With a budget of what it costs a call ends, and comes to what `Classes.wireOf` says. Induction on the
budget: every call that is made on the way is cheaper. -/
theorem run_ends {budget : Nat} {call : Call} {opened : Open} {within : List ClassName} {depth : Nat}
    (hsound : call.IsSound classes) (h : InProgress classes opened within depth)
    (hbudget : call.cost classes opened ≤ budget) :
    ∃ inner, Orderly classes
        (.mk call opened inner (call.wire (classes.wireOf depth within)) opened)
      ∧ run classes budget call opened
        = some (.mk call opened inner (call.wire (classes.wireOf depth within)) opened) := by
  induction budget generalizing call opened within depth with
  | zero =>
    have hpos : 0 < call.cost classes opened := call.cost_pos opened
    omega
  | succ budget ih =>
    have hbody : Does (body classes (make (run classes budget)) call) opened
        (call.wire (classes.wireOf depth within))
        fun b => MadeBy classes call opened b ∧ Orderly classes b := by
      refine body_does hsound h fun next inside within' depth' henters hinside hnext hcost => ?_
      obtain ⟨inner, horderly, hrun⟩ := ih hnext hinside (by omega)
      exact .make hrun rfl ⟨⟨henters, hcost⟩, horderly⟩
    -- the record starts empty, so it holds just the calls that this one makes
    obtain ⟨inner, hrun, hmade⟩ := hbody []
    refine ⟨inner, ?_, ?_⟩
    · exact .mk call opened inner _ (fun b hb => (hmade b hb).1) fun b hb => (hmade b hb).2
    · rw [List.nil_append] at hrun
      simp only [run, hrun]
      rfl

/-! ## On the way to a call -/

/-- The second activation is made on the way through the first one, from inside the calls of the stack,
outermost first. -/
inductive Activation.Reaches : Activation → List Call → Activation → Prop where
  | here (a : Activation) : Reaches a [] a
  | inner (a b c : Activation) (stack : List Call) (hb : b ∈ a.inner) (h : Reaches b stack c) :
      Reaches a (a.call :: stack) c

/-- The structs that are entered by the calls of a stack. -/
def entered (stack : List Call) : List ClassName := stack.filterMap Call.struct?

/-- From the structs in progress before, entering those of the row one inside the other leads to those in
progress now. -/
structure LeadsIn (classes : Classes) (before : Open) (row : List ClassName) (now : Open) : Prop where
  now_eq : now = before ∪ row.toFinset
  nodup : row.Nodup
  new : ∀ c ∈ row, c ∉ before
  structs : row.toFinset ⊆ classes.structs

/-- At first no call has been made. -/
theorem LeadsIn.nil (before : Open) : LeadsIn classes before [] before where
  now_eq := by simp
  nodup := List.nodup_nil
  new := fun _ hc => absurd hc List.not_mem_nil
  structs := Finset.empty_subset _

/-- One call more on the outside. -/
theorem LeadsIn.enter {call : Call} {stack : List Call} {before inside now : Open}
    (h : LeadsIn classes inside (entered stack) now) (henters : Enters classes call before inside) :
    LeadsIn classes before (entered (call :: stack)) now := by
  cases henters with
  | other _ _ hother =>
    have hstack : entered (call :: stack) = entered stack := List.filterMap_cons_none hother
    rw [hstack]
    exact h
  -- the struct is new on the stack because it was not in progress
  | struct c _ hnew hc =>
    have hstack : entered (.struct c :: stack) = c :: entered stack := rfl
    rw [hstack]
    exact {
      now_eq := by rw [h.now_eq, List.toFinset_cons, Finset.union_insert, Finset.insert_union]
      nodup := List.nodup_cons.mpr ⟨fun hmem => h.new c hmem (Finset.mem_insert_self c _), h.nodup⟩
      new := by
        intro d hd hbefore
        rcases List.mem_cons.mp hd with rfl | hd
        · exact hnew hbefore
        · exact h.new d hd (Finset.mem_insert_of_mem hbefore)
      structs := by
        rw [List.toFinset_cons]
        exact Finset.insert_subset hc h.structs }

/-- What holds wherever a record in order leads. Induction on the way there: a struct is entered only
where it is not in progress. -/
theorem Orderly.of_reaches {a b : Activation} {stack : List Call} (h : Orderly classes a)
    (hreaches : a.Reaches stack b) :
    Orderly classes b ∧ LeadsIn classes a.before (entered stack) b.before
      ∧ stack.length + b.call.cost classes b.before ≤ a.call.cost classes a.before := by
  induction hreaches with
  | here a => exact ⟨h, .nil _, by simp⟩
  | inner a b c stack hb hreaches ih =>
    obtain ⟨call, before, inner, outcome, hmade, hinner⟩ := h
    obtain ⟨horderly, hleads, hlength⟩ := ih (hinner b hb)
    refine ⟨horderly, hleads.enter (hmade b hb).enters, ?_⟩
    have hlt := (hmade b hb).cheaper
    show (stack.length + 1) + c.call.cost classes c.before ≤ call.cost classes before
    omega

/-- Spelling out a shape always ends, with the signature or the fault of `Classes.wire`: a budget of twice
the struct classes and one more, times the size of the largest annotation and one more, is never used up.
On the way to any call, the structs in progress are those entered by the calls around it, all different, so
there are no more of them than struct classes; no more calls than the budget are around it; and at its end,
signature or fault, the structs in progress are those of its beginning. -/
theorem reflection_ends (classes : Classes) (t : Shape) (budget : Nat)
    (hbudget : 2 * ((classes.structs.card + 1) * (classes.annotationSize t + 1)) ≤ budget) :
    ∃ a, run classes budget (.signature t) ∅ = some a
      ∧ a.outcome = classes.wire t
      ∧ ∀ stack b, a.Reaches stack b →
          b.before = (entered stack).toFinset
          ∧ (entered stack).Nodup
          ∧ (entered stack).length ≤ classes.structs.card
          ∧ stack.length < 2 * ((classes.structs.card + 1) * (classes.annotationSize t + 1))
          ∧ b.after = b.before := by
  have hstart : InProgress classes ∅ [] (classes.length + 2) := ⟨.nil classes, rfl⟩
  have hcost : (Call.signature t).cost classes ∅
      < 2 * ((classes.structs.card + 1) * (classes.annotationSize t + 1)) := by
    have hfields : Shape.largest classes.fieldShapes ≤ classes.annotationSize t :=
      Nat.le_max_right _ _
    have hsize : t.size ≤ classes.annotationSize t := Nat.le_max_left _ _
    -- each struct takes as many calls as the largest annotation of all needs
    have hrooms := Nat.mul_le_mul_left classes.structs.card (Nat.add_le_add_right hfields 1)
    rw [Call.cost, Call.size, Finset.sdiff_empty, Nat.mul_left_comm,
      Nat.add_one_mul classes.structs.card]
    omega
  have hsound : (Call.signature t).IsSound classes := Call.isSound_of_other rfl
  obtain ⟨inner, horderly, hrun⟩ := run_ends hsound hstart (hcost.le.trans hbudget)
  refine ⟨_, hrun, rfl, fun stack b hreaches => ?_⟩
  obtain ⟨hb, hleads, hlength⟩ := horderly.of_reaches hreaches
  refine ⟨?_, hleads.nodup, ?_, ?_, hb.after_eq⟩
  · rw [hleads.now_eq]
    exact Finset.empty_union _
  · rw [← List.toFinset_card_of_nodup hleads.nodup]
    exact Finset.card_le_card hleads.structs
  · have hpos : 0 < b.call.cost classes b.before := b.call.cost_pos b.before
    change stack.length + _ ≤ (Call.signature t).cost classes ∅ at hlength
    omega

/-- The chain has itself for a field. It ends with a fault, far from the end of the budget. -/
theorem chain_ends :
    2 * ((selfReferring.structs.card + 1)
        * (selfReferring.annotationSize (.cls (.of "links" "Chain")) + 1)) ≤ 24
      ∧ ∃ a, run selfReferring 24 (.signature (.cls (.of "links" "Chain"))) ∅ = some a
        ∧ a.outcome = .error (.recursive (.of "links" "Chain"))
        ∧ ∀ stack b, a.Reaches stack b → (entered stack).length ≤ 3 ∧ b.after = b.before := by
  have hcard : selfReferring.structs.card = 3 := by decide
  have hsize : selfReferring.annotationSize (.cls (.of "links" "Chain")) = 2 := by decide
  have hbudget : 2 * ((selfReferring.structs.card + 1)
      * (selfReferring.annotationSize (.cls (.of "links" "Chain")) + 1)) ≤ 24 := by
    rw [hcard, hsize]
  obtain ⟨a, hrun, houtcome, hcalls⟩ := reflection_ends selfReferring _ 24 hbudget
  refine ⟨hbudget, a, hrun, houtcome, fun stack b hreaches => ?_⟩
  obtain ⟨-, -, hlength, -, hafter⟩ := hcalls stack b hreaches
  exact ⟨hcard ▸ hlength, hafter⟩

end Reflection

end BusContract
