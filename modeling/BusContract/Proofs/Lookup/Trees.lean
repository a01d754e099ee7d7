import BusContract.Proofs.Interface.Described
import BusContract.Proofs.Lookup.Resolution

/-!
# Signatures read off the trees

The signature of a member can be read off the trees that the documents come from, without any
documents: the elements that declare it are those of the right name two levels below a root, and the
signature is put together from the `type` attributes of the arguments below.

What an argument of a method that says no direction counts for is settled in two places, where it is
read and where the signature is put together, and for signals in a third way. Here it is settled in
one: `Declaration.signature`.

* `declarations_stand`: what is declared in the trees is what is found in the documents.
* **`resolveSignature_eq_treeSignature`**: the signature from the documents is that from the trees.
-/

namespace BusContract

open Markup (Element)

/-! ## Trees -/

/-- A tree and what identifies it. -/
structure SourceTree where
  source : String
  root : Element

/-- A member element, with the tree and the interface element that it stands in. -/
structure Declaration where
  source : String
  interface : Element
  element : Element

namespace SourceTree

/-- The document that a tree describes, if it is accepted. -/
def document (t : SourceTree) : Except SchemaFault InterfaceDocument :=
  Introspection.ofElement t.source t.root

/-- The interfaces of a tree that a query accepts. -/
def interfaces (t : SourceTree) (q : MemberQuery) : List Element :=
  (t.root.childrenNamed "interface").filter fun i =>
    q.interface.all fun name => i.textOf "name" == name

/-- The declarations in a tree that a query asks for. -/
def declarations (t : SourceTree) (q : MemberQuery) : List Declaration :=
  (t.interfaces q).flatMap fun i =>
    ((i.childrenNamed q.kind.word).filter fun e => e.textOf "name" == q.name).map
      (Declaration.mk t.source i)

end SourceTree

namespace Declaration

/-- The argument elements. -/
def args (p : Declaration) : List Element := p.element.childrenNamed "arg"

/-- Those that go to the callee: the direction says so, or is not given. -/
def inArgs (p : Declaration) : List Element :=
  p.args.filter fun arg =>
    arg.attribute? "direction" = none ∨ arg.attribute? "direction" = some "in"

def outArgs (p : Declaration) : List Element :=
  p.args.filter fun arg => arg.attribute? "direction" = some "out"

/-- The types of elements, one after the other. -/
def joinTypes (es : List Element) : String := String.join (es.map fun e => e.textOf "type")

/-- The signature for a role. -/
def signature (p : Declaration) : SignatureRole → Except UnsupportedMember String
  | .methodArgs => .ok (joinTypes p.inArgs)
  | .methodReturn =>
    match p.outArgs with
    | [arg] => .ok (arg.textOf "type")
    | args => .error (.outArgCount (p.element.textOf "name") (p.interface.textOf "name") args.length)
  | .signalBody => .ok (joinTypes p.args)
  | .property => .ok (p.element.textOf "type")

/-- The arguments say all that they are asked for. -/
structure HasSoundArgs (p : Declaration) : Prop where
  types : ∀ arg ∈ p.args, (arg.attribute? "type").isSome
  directions : ∀ arg ∈ p.args, ∀ word, arg.attribute? "direction" = some word →
    word = "in" ∨ word = "out"

/-- The declaration says all that it is asked for, so that nothing counts for want of an
attribute. -/
structure IsComplete (p : Declaration) (kind : MemberKind) : Prop where
  interface : (p.interface.attribute? "name").isSome
  name : (p.element.attribute? "name").isSome
  args : kind ≠ .property → p.HasSoundArgs
  type : kind = .property → (p.element.attribute? "type").isSome

end Declaration

/-- The declarations in trees that a query asks for. -/
def treeDeclarations (trees : List SourceTree) (q : MemberQuery) : List Declaration :=
  trees.flatMap fun t => t.declarations q

/-- The signature of a member for a role, read off the trees. -/
def treeSignature (trees : List SourceTree) (role : SignatureRole) (member : String)
    (interface : Option String) : Except ResolutionFault String :=
  let q := role.query member interface
  match treeDeclarations trees q with
  | [] => .error (.lookup (.notFound q))
  | [p] => (p.signature role).mapError .unsupported
  | found =>
    .error (.lookup (.ambiguous q (found.map fun p => p.interface.textOf "name").eraseDups
      (found.map fun p => p.source)))

/-! ## Declarations and occurrences -/

/-- The declaration stands where the occurrence was found, and declares its member. -/
structure StandsFor (kind : MemberKind) (p : Declaration) (r : Resolution) : Prop where
  source : p.source = r.document.source
  interface : p.interface.attribute? "name" = some r.interface.name
  member : DeclaresMember p.element kind r.member

/-- **What is declared in the trees is what is found in the documents**, one to one and in order. -/
theorem declarations_stand {trees : List SourceTree} {documents : List InterfaceDocument}
    (h : List.Forall₂ (fun t d => Describes t.source t.root d) trees documents) (q : MemberQuery) :
    List.Forall₂ (StandsFor q.kind) (treeDeclarations trees q) (occurrences documents q) := by
  refine List.rel_flatMap h ?_
  intro t d hdescribes
  -- on accepted trees the two tests agree, because the names are there
  have haccepts : ∀ ⦃e : Element⦄ ⦃i : Interface⦄, DeclaresInterface e i →
      ((q.interface.all fun name => e.textOf "name" == name) = true ↔ q.accepts i = true) := by
    intro e i hi
    rw [textOf_of_attribute? hi.name, MemberQuery.accepts]
    cases q.interface <;> rfl
  have hinterfaces :
      List.Forall₂ DeclaresInterface (t.interfaces q) (d.interfaces.filter q.accepts) :=
    List.rel_filter haccepts hdescribes.interfaces
  refine List.rel_flatMap hinterfaces ?_
  intro e i hi
  have hnamed : ∀ ⦃e : Element⦄ ⦃member : Member⦄, DeclaresMember e q.kind member →
      ((e.textOf "name" == q.name) = true ↔ (member.name == q.name) = true) := by
    intro e member hmember
    rw [textOf_of_attribute? hmember.name]
  have hmembers := List.rel_filter hnamed (hi.members q.kind)
  refine List.rel_map ?_ hmembers
  intro e' member hmember
  exact ⟨hdescribes.source.symm, hi.name, hmember⟩

/-! ## Signatures -/

section Arguments

variable {e : Element} {usual : Option Direction} {args : List Arg}

/-- The types that elements say, one after the other, are those of the arguments. -/
theorem joinTypes_eq {es : List Element} (h : List.Forall₂ (DeclaresArg usual) es args) :
    Declaration.joinTypes es = joinSignatures args := by
  have htypes : (es.map fun e => e.textOf "type") = args.map Arg.signature :=
    map_eq_map_of_forall₂ h fun _ _ harg => textOf_of_attribute? harg.signature
  rw [Declaration.joinTypes, joinSignatures, htypes]

/-- An argument of a method goes to the caller exactly if it says so. -/
theorem direction_eq_toCaller_iff {arg : Arg} (h : DeclaresArg (some .toCallee) e arg) :
    arg.direction = some .toCaller ↔ e.attribute? "direction" = some "out" := by
  have hdirection := h.direction
  generalize arg.direction = direction at hdirection
  cases hdirection with
  | nothing hnone => simp [hnone]
  | word direction hword => cases direction <;> simp [hword, Direction.word]

/-- An argument comes from the caller unless the element says that it goes there. -/
theorem direction_ne_toCaller_iff {arg : Arg} (h : DeclaresArg (some .toCallee) e arg) :
    arg.direction ≠ some .toCaller ↔
      e.attribute? "direction" = none ∨ e.attribute? "direction" = some "in" := by
  have hdirection := h.direction
  generalize arg.direction = direction at hdirection
  cases hdirection with
  | nothing hnone => simp [hnone]
  | word direction hword => cases direction <;> simp [hword, Direction.word]

end Arguments

section Members

variable {p : Declaration} {r : Resolution} {kind : MemberKind}

/-- The elements of arguments that come in declare those arguments. -/
theorem inArgs_declare {m : Method} (h : DeclaresArgs (some .toCallee) p.element m.args) :
    List.Forall₂ (DeclaresArg (some .toCallee)) p.inArgs m.inArgs := by
  refine List.rel_filter ?_ h
  intro e arg harg
  simp only [decide_eq_true_eq]
  exact (direction_ne_toCaller_iff harg).symm

/-- So do those of arguments that go out. -/
theorem outArgs_declare {m : Method} (h : DeclaresArgs (some .toCallee) p.element m.args) :
    List.Forall₂ (DeclaresArg (some .toCallee)) p.outArgs m.outArgs := by
  refine List.rel_filter ?_ h
  intro e arg harg
  simp only [decide_eq_true_eq]
  exact (direction_eq_toCaller_iff harg).symm

/-- The signature of an occurrence is that of the declaration. One case for each role; a role only
meets members of its kind. -/
theorem signature_eq_of_standsFor {role : SignatureRole} (h : StandsFor role.kind p r) :
    p.signature role = role.signature r := by
  have hinterface := textOf_of_attribute? h.interface
  have hmember := h.member
  cases role with
  | methodArgs =>
    generalize hr : r.member = member at hmember
    cases hmember with
    | method m hname hargs =>
      have hjoin := joinTypes_eq (inArgs_declare hargs)
      simp only [Declaration.signature, SignatureRole.signature, Resolution.methodArgsSignature, hr,
        hjoin]
  | methodReturn =>
    generalize hr : r.member = member at hmember
    cases hmember with
    | method m hname hargs =>
      have hout := outArgs_declare hargs
      have hcalled := textOf_of_attribute? hname
      simp only [Declaration.signature, SignatureRole.signature, Resolution.methodReturnSignature,
        hr, hinterface, hcalled]
      -- the two lists have the same length, and that is all that counts unless it is one
      generalize p.outArgs = es at hout
      generalize m.outArgs = args at hout
      cases hout with
      | nil => rfl
      | cons harg hrest =>
        cases hrest with
        | nil =>
          have htype := textOf_of_attribute? harg.signature
          simp only [htype]
        | cons _ hrest => simp [hrest.length_eq]
  | signalBody =>
    generalize hr : r.member = member at hmember
    cases hmember with
    | signal s hname hargs =>
      have hjoin : Declaration.joinTypes p.args = joinSignatures s.args := joinTypes_eq hargs
      simp only [Declaration.signature, SignatureRole.signature, Resolution.signalBodySignature, hr,
        hjoin]
  | property =>
    generalize hr : r.member = member at hmember
    cases hmember with
    | property q hname htype =>
      have htext := textOf_of_attribute? htype
      simp only [Declaration.signature, SignatureRole.signature, Resolution.propertySignature, hr,
        htext]

/-- Elements that declare arguments are sound. -/
theorem hasSoundArgs_of_declaresArgs {usual : Option Direction} {args : List Arg}
    (h : DeclaresArgs usual p.element args) : p.HasSoundArgs := by
  constructor
  · intro e he
    obtain ⟨arg, harg⟩ := exists_of_mem_of_forall₂ h he
    rw [harg.signature, Option.isSome_some]
  · intro e he word hword
    obtain ⟨arg, harg⟩ := exists_of_mem_of_forall₂ h he
    have hdirection := harg.direction
    generalize arg.direction = direction at hdirection
    cases hdirection with
    | nothing hnone => simp [hnone] at hword
    | word direction hsome =>
      obtain rfl := Option.some.inj (hsome.symm.trans hword)
      cases direction with
      | toCallee => exact .inl rfl
      | toCaller => exact .inr rfl

/-- An element that stands for a member says all that it has to. -/
theorem isComplete_of_standsFor (h : StandsFor kind p r) : p.IsComplete kind := by
  have hinterface : (p.interface.attribute? "name").isSome := by rw [h.interface, Option.isSome_some]
  have hname : (p.element.attribute? "name").isSome := by rw [h.member.name, Option.isSome_some]
  have hmember := h.member
  generalize r.member = member at hmember
  cases hmember with
  | method m _ hargs => exact ⟨hinterface, hname, fun _ => hasSoundArgs_of_declaresArgs hargs, nofun⟩
  | signal s _ hargs => exact ⟨hinterface, hname, fun _ => hasSoundArgs_of_declaresArgs hargs, nofun⟩
  | property q _ htype =>
    refine ⟨hinterface, hname, fun hne => absurd rfl hne, fun _ => ?_⟩
    rw [htype, Option.isSome_some]

end Members

/-! ## Accepted trees -/

/-- Whatever the number of declarations, the documents answer as the trees do. -/
theorem resolveSignature_of_declarations {trees : List SourceTree}
    {documents : List InterfaceDocument} {role : SignatureRole} {member : String}
    {interface : Option String}
    (h : List.Forall₂ (StandsFor role.kind)
      (treeDeclarations trees (role.query member interface))
      (occurrences documents (role.query member interface))) :
    resolveSignature documents role member interface = treeSignature trees role member interface := by
  have hlocate : locate documents (role.query member interface)
      = answerOf (role.query member interface)
          (occurrences documents (role.query member interface)) := rfl
  simp only [treeSignature]
  generalize treeDeclarations trees (role.query member interface) = declared at h
  generalize occurrences documents (role.query member interface) = found at h hlocate
  cases h with
  | nil => exact resolveSignature_of_locate_error hlocate
  | @cons p r ps rs hp hrest =>
    cases hrest with
    | nil =>
      have hsignature := signature_eq_of_standsFor hp
      simp only [resolveSignature_of_locate hlocate, hsignature]
    | @cons p' r' ps rs hp' hrest =>
      -- two or more: which they are is told by names and sources alone
      have hall : List.Forall₂ (StandsFor role.kind) (p :: p' :: ps) (r :: r' :: rs) :=
        .cons hp (.cons hp' hrest)
      have hnames := map_eq_map_of_forall₂ hall fun _ _ h => textOf_of_attribute? h.interface
      have hsources := map_eq_map_of_forall₂ hall fun _ _ h => h.source
      rw [resolveSignature_of_locate_error hlocate, ← hnames, ← hsources]

/-- Each document is described by its tree. -/
theorem describes_of_mapM {trees : List SourceTree} {documents : List InterfaceDocument}
    (h : trees.mapM SourceTree.document = .ok documents) :
    List.Forall₂ (fun t d => Describes t.source t.root d) trees documents :=
  (mapM_eq_ok_iff.mp h).imp fun _ _ => Introspection.describes_of_ofElement

/-- **From trees to signatures.** Over the documents of accepted trees, a signature is what the
declarations in the trees say, and what is asked of these is said. -/
theorem resolveSignature_eq_treeSignature {trees : List SourceTree}
    {documents : List InterfaceDocument} (h : trees.mapM SourceTree.document = .ok documents)
    (role : SignatureRole) (member : String) (interface : Option String) :
    resolveSignature documents role member interface = treeSignature trees role member interface
      ∧ ∀ p ∈ treeDeclarations trees (role.query member interface), p.IsComplete role.kind := by
  have hstand := declarations_stand (describes_of_mapM h) (role.query member interface)
  constructor
  · exact resolveSignature_of_declarations hstand
  · intro p hp
    obtain ⟨r, hr⟩ := exists_of_mem_of_forall₂ hstand hp
    exact isComplete_of_standsFor hr

/-- Texts that are accepted are read as trees that are. -/
theorem exists_trees_of_parse {texts : List (String × String)} {documents : List InterfaceDocument}
    (h : texts.mapM (fun (source, text) => Introspection.parse source text) = .ok documents) :
    ∃ trees : List SourceTree,
      List.Forall₂ (fun (source, text) t => t.source = source ∧ Markup.read text = .ok t.root) texts
        trees
      ∧ trees.mapM SourceTree.document = .ok documents := by
  simp only [mapM_eq_ok_iff] at h ⊢
  induction h with
  | nil => exact ⟨[], .nil, .nil⟩
  | @cons entry d texts documents hparse _ ih =>
    obtain ⟨source, text⟩ := entry
    obtain ⟨trees, htexts, htrees⟩ := ih
    dsimp only [Introspection.parse] at hparse
    split at hparse
    · cases hparse
    · next root hread =>
      rw [mapError_eq_ok_iff] at hparse
      exact ⟨⟨source, root⟩ :: trees, .cons ⟨rfl, hread⟩ htexts, .cons hparse htrees⟩

/-! ### A tree with other nodes in it -/

/-- An element whose names are in no namespace. -/
def plainElement (name : String) (attributes : List (String × String)) (children : List Element) :
    Element :=
  ⟨.plain name, attributes.map fun (key, value) => (.plain key, value), children⟩

/-- A method that is declared once for the object itself and once for an object below it. Its first
argument does not say where it goes. -/
def counterTree : SourceTree :=
  let add := plainElement "method" [("name", "Add")]
    [plainElement "arg" [("type", "u")] [],
      plainElement "annotation" [("name", "a"), ("value", "b")] [],
      plainElement "arg" [("type", "x"), ("direction", "out")] [],
      plainElement "arg" [("type", "as"), ("direction", "in")] []]
  let counter := plainElement "interface" [("name", "org.example.Counter")] [add]
  ⟨"counter.xml", plainElement "node" [] [plainElement "node" [] [counter], counter]⟩

/-- The document that the tree describes. -/
def counterDocument : InterfaceDocument :=
  let args : List Arg := [⟨none, "u", some .toCallee, []⟩, ⟨none, "x", some .toCaller, []⟩,
    ⟨none, "as", some .toCallee, []⟩]
  ⟨"counter.xml", none, [⟨"org.example.Counter", [⟨"Add", args, [("a", "b")]⟩], [], [], []⟩]⟩

/-- The object below is another object, and the argument that says nothing is one of those that the
method is called with. -/
theorem signatures_counterTree :
    [counterTree].mapM SourceTree.document = .ok [counterDocument]
      ∧ resolveSignature [counterDocument] .methodArgs "Add" none = .ok "uas"
      ∧ resolveSignature [counterDocument] .methodReturn "Add" none = .ok "x" := by
  have hread : [counterTree].mapM SourceTree.document = .ok [counterDocument] := by rfl
  have hargs := (resolveSignature_eq_treeSignature hread .methodArgs "Add" none).1
  have hreturn := (resolveSignature_eq_treeSignature hread .methodReturn "Add" none).1
  refine ⟨hread, ?_, ?_⟩
  · rw [hargs]
    rfl
  · rw [hreturn]
    rfl

end BusContract
