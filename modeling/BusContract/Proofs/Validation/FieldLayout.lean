import BusContract.Proofs.Shape.Complete
import BusContract.Proofs.Validation.Verdict
import BusContract.Shape.Definition

/-!
# Types laid out as the arguments of a member

A struct whose fields have the types of the declared arguments, one by one, is what a user writes down
for a member. Its signature has one pair of parentheses more than the declared one, and the comparison
takes one pair off each side. So the struct passes as long as the declared side has no outer pair of
its own; a single argument that is a struct already loses its pair as well, and the two sides miss
each other by one.

* `validate_fields_iff`: when such a type passes, for every kind of class.
* `validate_nested_pair`: a type that does not pass, although it is laid out as declared.
-/

namespace BusContract

open BusContract.CompleteType (signature layout IsSingleStruct)

/-! ## Members declared once -/

/-- Is the member declared exactly once, with arguments of these types? For a method the arguments
are those that it is called with. -/
inductive DeclaredOnce (documents : List InterfaceDocument) (member : String)
    (interface : Option String) (ts : List CompleteType) : SignatureRole → Resolution → Prop where
  | signal (r : Resolution) (s : Signal)
      (hr : occurrences documents ⟨member, .signal, interface⟩ = [r]) (hs : r.member = .signal s)
      (hargs : s.args.map Arg.signature = ts.map fun t => signature [t]) :
      DeclaredOnce documents member interface ts .signalBody r
  | method (r : Resolution) (m : Method)
      (hr : occurrences documents ⟨member, .method, interface⟩ = [r]) (hm : r.member = .method m)
      (hargs : m.inArgs.map Arg.signature = ts.map fun t => signature [t]) :
      DeclaredOnce documents member interface ts .methodArgs r

variable {documents : List InterfaceDocument} {member : String} {interface : Option String}
  {ts : List CompleteType} {role : SignatureRole} {r : Resolution}

/-- A member that is declared once is found. -/
theorem DeclaredOnce.locate_eq (h : DeclaredOnce documents member interface ts role r) :
    locate documents (role.query member interface) = .ok r := by
  cases h with
  | signal _ _ hr => exact locate_of_occurrences_eq hr
  | method _ _ hr => exact locate_of_occurrences_eq hr

/-- Its signature is that of its arguments. -/
theorem DeclaredOnce.signature_eq (h : DeclaredOnce documents member interface ts role r) :
    role.signature r = .ok (signature ts) := by
  cases h with
  | signal _ s _ hs hargs =>
    show r.signalBodySignature = _
    rw [Resolution.signalBodySignature, hs]
    dsimp only
    rw [joinSignatures, hargs, CompleteType.join_map_signature]
  | method _ m _ hm hargs =>
    show r.methodArgsSignature = _
    rw [Resolution.methodArgsSignature, hm]
    dsimp only
    rw [joinSignatures, hargs, CompleteType.join_map_signature]

/-! ## The check -/

/-- A check for a given member that is located comes down to the comparison. -/
theorem CheckRequest.run_of_located {request : CheckRequest} (hmember : request.member = some member)
    (hlocate : locate documents (request.query member) = .ok r) :
    request.run documents = request.compare (request.query member) r := by
  have hnames : request.names = [member] := by rw [names, hmember]; rfl
  have hdecides : request.Decides documents request.names member := by
    refine ⟨[], [], hnames, fun _ h => absurd h List.not_mem_nil, ?_⟩
    rintro ⟨q, hq⟩
    exact absurd (hlocate.symm.trans hq) nofun
  rw [run_eq, searchFrom_eq_found hdecides hlocate]

namespace Validator

variable {classes : Classes} {config : Config} {host : Host} {c : ClassName} {derived : String}

/-- With a name for the member a type needs none of its own. -/
theorem exists_typeName (classes : Classes) (shape : Shape) (member : String) :
    ∃ name, typeName classes shape (some member) = .ok name := by
  unfold typeName
  split
  · exact ⟨_, rfl⟩
  · exact ⟨_, rfl⟩

/-- Checking a class with a signature against a member that is declared once passes exactly if the two
signatures are equivalent, and there is no other fault than that they are not. -/
theorem validate_declaredOnce (config : Config) (host : Host)
    (hderived : classes.wire (.cls c) = .ok derived)
    (hdeclared : DeclaredOnce documents member interface ts role r) :
    let outcome := ((Validator.mk config classes.wire (some documents)).validate classes host
      (.cls c) ⟨role, some member, interface⟩).1
    ((∃ report, outcome = .ok report) ↔
        (Signature.text derived).equivalent (.text (signature ts)) = true)
      ∧ ∀ fault, outcome = .error fault → ∃ name, fault = .check
          (.mismatch name (role.query member interface) role derived (signature ts)) := by
  intro outcome
  obtain ⟨name, hname⟩ := exists_typeName classes (.cls c) member
  let request : CheckRequest := ⟨name, derived, role, some member, interface⟩
  -- the member is declared once, so the look-up cannot fail and only the comparison is left
  have hrun : request.run documents = request.compare (request.query member) r :=
    CheckRequest.run_of_located rfl hdeclared.locate_eq
  have houtcome : outcome = (request.compare (request.query member) r).mapError .check := by
    rw [← hrun]
    simp only [outcome, validate, hname, hderived]
    rfl
  rw [houtcome, CheckRequest.compare]
  simp only [request, hdeclared.signature_eq]
  cases (Signature.text derived).equivalent (.text (signature ts)) with
  | true =>
    refine ⟨⟨fun _ => rfl, fun _ => ⟨_, rfl⟩⟩, ?_⟩
    intro fault h
    cases h
  | false =>
    refine ⟨⟨?_, fun h => absurd h Bool.false_ne_true⟩, ?_⟩
    · rintro ⟨report, h⟩
      cases h
    · intro fault h
      cases h
      exact ⟨name, rfl⟩

/-- **When a type laid out as the declared arguments passes.** Its fields have the complete types `ts`
one by one, and so have the arguments of the member, which is declared once. If the class is sent as a
struct it passes exactly if the arguments are not a single struct. A class that is sent otherwise, as
what it descends from, passes exactly if this is the layout of the arguments. Nothing but a mismatch
is ever reported. -/
theorem validate_fields_iff (config : Config) (classes : Classes)
    (documents : List InterfaceDocument) (host : Host) (c : ClassName) (types : List Shape)
    (ts : List CompleteType) (derived : String) (role : SignatureRole) (member : String)
    (interface : Option String) (r : Resolution) (hexplicit : classes.explicit? c = none)
    (htypes : classes.fieldTypes c = .ok types)
    (hwires : types.map classes.wire = ts.map fun t => .ok (signature [t]))
    (hderived : classes.wire (.cls c) = .ok derived)
    (hdeclared : DeclaredOnce documents member interface ts role r) :
    let outcome := ((Validator.mk config classes.wire (some documents)).validate classes host
      (.cls c) ⟨role, some member, interface⟩).1
    ((∃ report, outcome = .ok report) ↔
        (classes.SentAsStruct c ∧ ¬ IsSingleStruct ts)
          ∨ (¬ classes.SentAsStruct c ∧ ∃ t, derived = signature [t] ∧ layout ts = [t]))
      ∧ ∀ fault, outcome = .error fault → ∃ name, fault = .check
          (.mismatch name (role.query member interface) role derived (signature ts)) := by
  intro outcome
  obtain ⟨hpasses, hfaults⟩ := validate_declaredOnce config host hderived hdeclared
  refine ⟨hpasses.trans ?_, hfaults⟩
  by_cases hc : classes.SentAsStruct c
  · obtain ⟨first, rest, rfl, rfl⟩ := Classes.wire_struct_of_types hc htypes hwires hderived
    have hlayout := CompleteType.layout_eq_self_iff (first :: rest)
    -- the layout of the derived side is the whole row of arguments
    rw [Signature.equivalent_signature_iff, CompleteType.layout_struct, eq_comm, hlayout]
    constructor
    · intro h
      exact .inl ⟨hc, h⟩
    · rintro (⟨-, h⟩ | ⟨h, -⟩)
      · exact h
      · exact absurd hc h
  · obtain ⟨t, rfl, ht⟩ := Classes.exists_type_of_not_sentAsStruct hexplicit hc hderived
    rw [Signature.equivalent_signature_iff, ht]
    constructor
    · intro h
      exact .inr ⟨hc, t, rfl, h.symm⟩
    · rintro (⟨h, -⟩ | ⟨-, t', ht', h⟩)
      · exact absurd h hc
      · -- A text is the signature of one complete type at most.
        have hrow : [t] = [t'] :=
          Signature.toBytes_signature_inj (congrArg (fun s => (Signature.text s).toBytes) ht')
        rw [h, hrow]

/-! ### A pair, and a pair in a struct -/

/-- A record of two numbers, and a record whose only field is of that class. -/
def pairClasses : Classes :=
  let numbers := [("first", Shape.builtin "int"), ("second", .builtin "int")]
  let pair := ClassDefinition.mk (.of "shapes" "Pair") .record [] numbers none
  let moved := ClassDefinition.mk (.of "shapes" "Moved") .record [] [("pair", .forward "Pair")] none
  (Classes.add [] pair).add moved

/-- A signal of two numbers, and a signal of one struct of two numbers. -/
def pairDocument : InterfaceDocument :=
  let arg (signature : String) : Arg := ⟨none, signature, none, []⟩
  let signals := [Signal.mk "Resized" [arg "i", arg "i"] [], Signal.mk "Moved" [arg "(ii)"] []]
  ⟨"pairs.xml", none, [⟨"org.example.Pairs", [], signals, [], []⟩]⟩

/-- What a validator that has the document says to a class as the body of a signal. -/
def pairOutcome (c signal : String) : Except ValidationFault Report :=
  let v : Validator := ⟨⟨⟨"/", ["xml"]⟩, "*.xml"⟩, pairClasses.wire, some [pairDocument]⟩
  (v.validate pairClasses default (.cls (.of "shapes" c)) ⟨.signalBody, some signal, none⟩).1

/-- The pair passes for the signal of two numbers. -/
theorem validate_pair : ∃ report, pairOutcome "Pair" "Resized" = .ok report := by
  let number := CompleteType.basic .int32
  have hdeclared : ∃ r, DeclaredOnce [pairDocument] "Resized" none [number, number] .signalBody r :=
    ⟨_, .signal _ _ rfl rfl rfl⟩
  obtain ⟨r, hdeclared⟩ := hdeclared
  have h := validate_fields_iff ⟨⟨"/", ["xml"]⟩, "*.xml"⟩ pairClasses [pairDocument] default
    (.of "shapes" "Pair") [.builtin "int", .builtin "int"] [number, number] "(ii)" .signalBody
    "Resized" none r rfl rfl rfl rfl hdeclared
  refine h.1.mpr (.inl ⟨⟨by decide, rfl⟩, ?_⟩)
  rintro ⟨first, rest, hrow⟩
  exact absurd (List.cons.inj hrow).2 nofun

/-- The struct around it does not pass for the signal of one struct, although its only field has
exactly the declared type. The two signatures are one pair of parentheses apart. -/
theorem validate_nested_pair :
    pairClasses.fieldTypes (.of "shapes" "Moved") = .ok [.cls (.of "shapes" "Pair")]
      ∧ pairClasses.explicit? (.of "shapes" "Moved") = none
      ∧ pairClasses.wire (.cls (.of "shapes" "Pair")) = .ok "(ii)"
      ∧ pairClasses.wire (.cls (.of "shapes" "Moved")) = .ok "((ii))"
      ∧ (∃ r, DeclaredOnce [pairDocument] "Moved" none [.struct (.basic .int32) [.basic .int32]]
          .signalBody r)
      ∧ pairOutcome "Moved" "Moved" = .error (.check
          (.mismatch "Moved" ⟨"Moved", .signal, none⟩ .signalBody "((ii))" "(ii)")) := by
  refine ⟨rfl, rfl, rfl, rfl, ⟨_, .signal _ _ rfl rfl rfl⟩, ?_⟩
  rfl

end Validator

end BusContract
