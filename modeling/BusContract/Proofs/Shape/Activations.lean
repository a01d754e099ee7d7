import BusContract.Proofs.Shape.Nesting
import Mathlib.Data.Finset.Basic

/-!
# Signatures spelled out call by call

How a signature is spelled out by calls that keep the structs in progress in one set. A struct joins the
set before its fields are spelled out and leaves it afterwards, whatever came of them. What has been
called stays on record: an activation is a call with the set as it was before and after, what came of it,
and the activations of the calls made on the way.

Nothing here bounds how deep calls go but a budget, and a call without one left has no activation.

What a part of a call does is said by `Does`, with one rule for each way to put parts together.
-/

namespace BusContract

namespace Reflection

/-! ## Calls and their record -/

/-- A call. Each kind looks at a different part of the annotation. -/
inductive Call where
  | signature (t : Shape)
  | annotated (base : Shape) (marks : List Mark)
  | generic (shape : Shape) (origin : ClassName) (args : List Shape)
  | cls (c : ClassName)
  | struct (c : ClassName)

/-- The structs in progress. -/
abbrev Open := Finset ClassName

/-- A call from its beginning to its end, whether that is a signature or a fault. -/
inductive Activation where
  | mk (call : Call) (before : Open) (inner : List Activation) (outcome : Wire) (after : Open)

namespace Activation

def call : Activation → Call
  | mk call _ _ _ _ => call

/-- The structs in progress at the beginning. -/
def before : Activation → Open
  | mk _ before _ _ _ => before

/-- The calls made on the way, in order. -/
def inner : Activation → List Activation
  | mk _ _ inner _ _ => inner

def outcome : Activation → Wire
  | mk _ _ _ outcome _ => outcome

/-- The structs in progress at the end. -/
def after : Activation → Open
  | mk _ _ _ _ after => after

end Activation

/-- A part of a call. It keeps the structs in progress, also when it ends with a fault, and the calls made
so far. There is none where the budget is used up. -/
abbrev Part (α : Type) := ExceptT ReflectionFault (StateT (Open × List Activation) Option) α

/-- A part inside a struct: the struct joins those in progress, and leaves them at a signature and at a
fault alike. -/
def inside {α : Type} (c : ClassName) (part : Part α) : Part α :=
  ExceptT.mk fun (opened, calls) => do
    let (outcome, (opened, calls)) ← part.run.run (insert c opened, calls)
    return (outcome, (opened.erase c, calls))

/-- A call made on the way, which goes on record. -/
def make (run : Call → Open → Option Activation) (call : Call) : Part String :=
  ExceptT.mk fun (opened, calls) => do
    let a ← run call opened
    return (a.outcome, (a.after, calls ++ [a]))

section Body

variable (classes : Classes) (ask : Call → Part String)

/-- The signatures of shapes one after the other. -/
def row : List Shape → Part String
  | [] => return ""
  | t :: rest => do
    let s ← ask (.signature t)
    let more ← row rest
    return s ++ more

/-- A generic that stands for `origin`. -/
def generic (shape : Shape) (origin : ClassName) (args : List Shape) : Part String :=
  if origin ∈ Wire.arrayOrigins then
    match args with
    | [element] => do
      let s ← ask (.signature element)
      return "a" ++ s
    | _ => throw (.elementCount shape)
  else if origin ∈ Wire.mappingOrigins then
    match args with
    | [key, value] => do
      let s ← row ask [key, value]
      return "a\x7b" ++ s ++ "\x7d"
    | _ => throw (.entryCount shape)
  else if origin = .builtin "tuple" then
    match args with
    | [] => throw .emptyTuple
    | [element, .ellipsis] => do
      let s ← ask (.signature element)
      return "a" ++ s
    | args => do
      let s ← row ask args
      return "(" ++ s ++ ")"
  else throw (.unsupported shape)

/-- A class with fields, unless it is in progress already. -/
def struct (c : ClassName) : Part String := do
  let (opened, _) ← get
  if c ∈ opened then throw (.recursive c)
  else
    match classes.fieldTypes c with
    | .error fault => throw fault
    | .ok [] => throw (.noFields c)
    | .ok types =>
      inside c do
        let s ← row ask types
        return "(" ++ s ++ ")"

/-- What a call does, where `ask` makes the calls on the way. -/
def body : Call → Part String
  | .signature t =>
    match t with
    | .cls c =>
      if c = .any ∨ c = .variant then return "v"
      else if c = .generic then throw (.unsupported (.cls c))
      else
        match classes.explicit? c with
        | some s => return s
        | none => ask (.cls c)
    | .annotated base marks => ask (.annotated base marks)
    | .family name origin => ask (.generic (.family name origin) origin [])
    | .applied head native origin args =>
      ask (.generic (.applied head native origin args) origin args)
    | t => throw (.unsupported t)
  | .annotated base marks =>
    match Wire.pinned? marks with
    | some s => return s
    | none => ask (.signature base)
  | .generic shape origin args => generic ask shape origin args
  | .cls c =>
    match classes.simple? c with
    | some (.ok s) => return s
    | some (.error fault) => throw fault
    | none => ask (.struct c)
  | .struct c => struct classes ask c

end Body

/-- A call with a budget for itself and those on the way: each takes one and leaves the rest to the calls
that it makes. -/
def run (classes : Classes) : (budget : Nat) → Call → Open → Option Activation
  | 0, _, _ => none
  | budget + 1, call, opened => do
    let part := body classes (make (run classes budget)) call
    let (outcome, (after, inner)) ← part.run.run (opened, [])
    return .mk call opened inner outcome after

/-! ## What a part of a call does -/

/-- With the structs `opened` in progress the part comes to the outcome, leaves the structs in progress as
they were, and only makes calls of which `P` holds. -/
def Does {α : Type} (part : Part α) (opened : Open) (outcome : Except ReflectionFault α)
    (P : Activation → Prop) : Prop :=
  ∀ calls, ∃ more, part.run.run (opened, calls) = some (outcome, (opened, calls ++ more))
    ∧ ∀ a ∈ more, P a

namespace Does

variable {α β : Type} {part : Part α} {next : α → Part β} {opened : Open} {x : α}
  {fault : ReflectionFault} {P : Activation → Prop}

/-- Nothing is asked for. -/
theorem pure : Does (return x) opened (.ok x) P := by
  intro calls
  refine ⟨[], ?_, fun a ha => absurd ha List.not_mem_nil⟩
  rw [List.append_nil]
  rfl

/-- A fault ends it. -/
theorem throw : Does (throw fault : Part α) opened (.error fault) P := by
  intro calls
  refine ⟨[], ?_, fun a ha => absurd ha List.not_mem_nil⟩
  rw [List.append_nil]
  rfl

/-- After a fault nothing more is asked for. -/
theorem bind_error (h : Does part opened (.error fault) P) :
    Does (part >>= next) opened (.error fault) P := by
  intro calls
  obtain ⟨more, hrun, hmore⟩ := h calls
  refine ⟨more, ?_, hmore⟩
  simp only [ExceptT.run_bind, StateT.run_bind, hrun]
  rfl

/-- What comes next begins with what was left. -/
theorem bind_ok {outcome : Except ReflectionFault β} (h : Does part opened (.ok x) P)
    (hnext : Does (next x) opened outcome P) : Does (part >>= next) opened outcome P := by
  intro calls
  obtain ⟨more, hrun, hmore⟩ := h calls
  obtain ⟨rest, hrest, hcalls⟩ := hnext (calls ++ more)
  refine ⟨more ++ rest, ?_, ?_⟩
  · rw [← List.append_assoc, ← hrest]
    simp only [ExceptT.run_bind, StateT.run_bind, hrun]
    rfl
  · intro a ha
    exact (List.mem_append.mp ha).elim (hmore a) (hcalls a)

/-- A part whose result is changed afterwards. -/
theorem map {f : α → β} {outcome : Except ReflectionFault α} (h : Does part opened outcome P) :
    Does (do let y ← part; return f y) opened (outcome.map f) P := by
  cases outcome with
  | error fault => exact h.bind_error
  | ok y => exact h.bind_ok pure

/-- The structs in progress may be looked at. -/
theorem look {next : Open × List Activation → Part α} {outcome : Except ReflectionFault α}
    (h : ∀ calls, Does (next (opened, calls)) opened outcome P) :
    Does (get >>= next) opened outcome P :=
  fun calls => h calls calls

/-- Once a struct is through it is in progress no longer, whatever came of it. -/
theorem inside {c : ClassName} {outcome : Except ReflectionFault α} (hc : c ∉ opened)
    (h : Does part (insert c opened) outcome P) :
    Does (Reflection.inside c part) opened outcome P := by
  intro calls
  obtain ⟨more, hrun, hmore⟩ := h calls
  refine ⟨more, ?_, hmore⟩
  show (part.run.run (insert c opened, calls) >>= _) = _
  rw [hrun, ← Finset.erase_insert hc]
  simp

/-- A call is done by what it makes. -/
theorem make {run : Call → Open → Option Activation} {call : Call} {a : Activation}
    (h : run call opened = some a) (hafter : a.after = opened) (ha : P a) :
    Does (Reflection.make run call) opened a.outcome P := by
  intro calls
  refine ⟨[a], ?_, by simpa using ha⟩
  show (run call opened >>= _) = _
  rw [h, ← hafter]
  rfl

/-- Shapes in a row come to what they come to one after the other. Induction on the shapes. -/
theorem row {ask : Call → Part String} {ofClass : ClassName → Wire} {ts : List Shape}
    (h : ∀ t ∈ ts, Does (ask (.signature t)) opened (Wire.ofShape ofClass t) P) :
    Does (Reflection.row ask ts) opened (Wire.concat (Wire.ofShapes ofClass ts)) P := by
  induction ts with
  | nil => exact pure
  | cons t rest ih =>
    have hfirst := h t List.mem_cons_self
    have hrest := ih fun u hu => h u (List.mem_cons_of_mem _ hu)
    rw [Wire.ofShapes]
    cases hwire : Wire.ofShape ofClass t with
    | error fault =>
      rw [hwire] at hfirst
      exact hfirst.bind_error
    | ok s =>
      rw [hwire] at hfirst
      exact hfirst.bind_ok hrest.map

end Does

end Reflection

end BusContract
