import BusContract.Proofs.Lookup.Resolution
import BusContract.Proofs.Validation.Names
import BusContract.Validation.Validator

/-!
# The verdict on a signature

A check is a function of look-ups in the library. `Verdict` says which one, by a rule for each way a
check can end: the first candidate that is not missing decides, and it decides alone, whatever later
candidates would have come to.

* **`run_eq_iff`**: the outcome of a check is the verdict.
* **`validateSignature_eq_iff_verdict`**: so is the answer of a validator that has its documents, on
  any host, and the validator stays as it was.
-/

namespace BusContract

namespace CheckRequest

/-! ## The verdict -/

/-- The query that the check asks for a name. -/
def query (request : CheckRequest) (name : String) : MemberQuery :=
  request.role.query name request.interface

/-- Does no interface declare the name? -/
def Missing (request : CheckRequest) (documents : List InterfaceDocument) (name : String) : Prop :=
  ∃ q, locate documents (request.query name) = .error (.notFound q)

/-- Is the name the first one that some interface declares? -/
def Decides (request : CheckRequest) (documents : List InterfaceDocument) (names : List String)
    (name : String) : Prop :=
  ∃ before after, names = before ++ name :: after
    ∧ (∀ earlier ∈ before, request.Missing documents earlier)
    ∧ ¬ request.Missing documents name

/-- The signature that is declared under a name. -/
def declared (request : CheckRequest) (documents : List InterfaceDocument) (name : String) :
    Except ResolutionFault String :=
  resolveSignature documents request.role name request.interface

/-- What a check over `names` has to come to. -/
inductive Verdict (request : CheckRequest) (documents : List InterfaceDocument)
    (names : List String) : Except CheckFault Report → Prop where
  /-- No name is declared. The fault names the first one and comes from its look-up. -/
  | missing (first : String) (cause : LookupFault) (hfirst : names.head? = some first)
      (hall : ∀ name ∈ names, request.Missing documents name)
      (hcause : locate documents (request.query first) = .error cause) :
      Verdict request documents names
        (.error (.notFound request.typeName (request.query first) (some cause)))
  | ambiguous (name : String) (q : MemberQuery) (candidates sources : List String)
      (hname : request.Decides documents names name)
      (hlocate : locate documents (request.query name)
        = .error (.ambiguous q candidates sources)) :
      Verdict request documents names
        (.error (.ambiguous request.typeName (request.query name) candidates
          (.ambiguous q candidates sources)))
  | unsupported (name : String) (cause : UnsupportedMember)
      (hname : request.Decides documents names name)
      (hdeclared : request.declared documents name = .error (.unsupported cause)) :
      Verdict request documents names
        (.error (.unsupported request.typeName (request.query name) request.role cause))
  | mismatch (name declared : String) (hname : request.Decides documents names name)
      (hdeclared : request.declared documents name = .ok declared)
      (hdiffers : (Signature.text request.signature).equivalent (.text declared) = false) :
      Verdict request documents names
        (.error (.mismatch request.typeName (request.query name) request.role request.signature
          declared))
  | accepted (name declared : String) (r : Resolution)
      (hname : request.Decides documents names name)
      (hlocate : locate documents (request.query name) = .ok r)
      (hdeclared : request.declared documents name = .ok declared)
      (hagrees : (Signature.text request.signature).equivalent (.text declared) = true) :
      Verdict request documents names
        (.ok { typeName := request.typeName
               interface := r.interface.name
               member := name
               role := request.role
               derived := request.signature
               declared := declared
               source := r.document.source })

/-! ## The search -/

variable {request : CheckRequest} {documents : List InterfaceDocument}

/-- Missing names only leave the fault of the first of them behind. Induction on the names. -/
theorem searchFrom_of_missing {names : List String}
    (h : ∀ name ∈ names, request.Missing documents name) (rest : List String)
    (missed : Option LookupFault) :
    searchFrom documents request.role request.interface missed (names ++ rest)
      = searchFrom documents request.role request.interface
          (missed.or (names.head?.map fun name => .notFound (request.query name))) rest := by
  induction names generalizing missed with
  | nil => rw [List.nil_append, List.head?_nil, Option.map_none, Option.or_none]
  | cons name names ih =>
    obtain ⟨q, hq⟩ := h name List.mem_cons_self
    obtain rfl := query_of_locate_notFound hq
    have hlocate : locate documents (request.role.query name request.interface)
        = .error (.notFound (request.query name)) := hq
    rw [List.cons_append, searchFrom]
    simp only [hlocate]
    rw [ih fun other hother => h other (List.mem_cons_of_mem name hother), List.head?_cons,
      Option.map_some]
    -- an earlier fault is kept, and this one only if there is none
    congr 1
    cases missed <;> rfl

/-- If every name is missing, so is the member, and the cause is the fault of the first name. -/
theorem searchFrom_eq_missing {names : List String}
    (h : ∀ name ∈ names, request.Missing documents name) :
    searchFrom documents request.role request.interface none names
      = .missing (names.head?.map fun name => .notFound (request.query name)) := by
  have hsearch := searchFrom_of_missing h [] none
  rw [List.append_nil] at hsearch
  rw [hsearch, searchFrom, Option.none_or]

/-- A name that decides with a single occurrence is found. -/
theorem searchFrom_eq_found {names : List String} {name : String} {r : Resolution}
    (hname : request.Decides documents names name)
    (hlocate : locate documents (request.query name) = .ok r) :
    searchFrom documents request.role request.interface none names
      = .found (request.query name) r := by
  obtain ⟨before, after, rfl, hbefore, -⟩ := hname
  have hlocate' : locate documents (request.role.query name request.interface) = .ok r := hlocate
  rw [searchFrom_of_missing hbefore, searchFrom]
  simp only [hlocate']
  rfl

/-- A name that decides with several occurrences is ambiguous. -/
theorem searchFrom_eq_ambiguous {names : List String} {name : String} {q : MemberQuery}
    {candidates sources : List String} (hname : request.Decides documents names name)
    (hlocate : locate documents (request.query name) = .error (.ambiguous q candidates sources)) :
    searchFrom documents request.role request.interface none names
      = .ambiguous (request.query name) candidates (.ambiguous q candidates sources) := by
  obtain ⟨before, after, rfl, hbefore, -⟩ := hname
  have hlocate' : locate documents (request.role.query name request.interface)
      = .error (.ambiguous q candidates sources) := hlocate
  rw [searchFrom_of_missing hbefore, searchFrom]
  simp only [hlocate']
  rfl

/-- Either all names are missing or one of them decides. Induction on the names. -/
theorem missing_or_decides (request : CheckRequest) (documents : List InterfaceDocument)
    (names : List String) :
    (∀ name ∈ names, request.Missing documents name)
      ∨ ∃ name, request.Decides documents names name := by
  induction names with
  | nil => exact .inl fun name hname => absurd hname List.not_mem_nil
  | cons first rest ih =>
    by_cases hfirst : request.Missing documents first
    · rcases ih with hall | ⟨name, before, after, rfl, hbefore, hname⟩
      · exact .inl (List.forall_mem_cons.mpr ⟨hfirst, hall⟩)
      · exact .inr ⟨name, first :: before, after, rfl,
          List.forall_mem_cons.mpr ⟨hfirst, hbefore⟩, hname⟩
    · exact .inr ⟨first, [], rest, rfl, fun _ h => absurd h List.not_mem_nil, hfirst⟩

/-! ## The outcome -/

/-- The names that a check looks for. -/
def names (request : CheckRequest) : List String :=
  memberNames request.typeName request.role request.member

/-- The outcome of a check is settled by the search for its names. -/
theorem run_eq (request : CheckRequest) (documents : List InterfaceDocument) :
    request.run documents =
      match searchFrom documents request.role request.interface none request.names with
      | .found query r => request.compare query r
      | .ambiguous query candidates cause =>
        .error (.ambiguous request.typeName query candidates cause)
      | .missing cause =>
        .error (.notFound request.typeName
          (request.query (request.names.headD request.typeName)) cause) := rfl

/-- A check comes to its verdict. -/
theorem run_of_verdict {outcome : Except CheckFault Report}
    (h : request.Verdict documents request.names outcome) : request.run documents = outcome := by
  rw [run_eq]
  cases h with
  | missing first cause hfirst hall hcause =>
    rw [searchFrom_eq_missing hall, List.headD_eq_head?_getD, hfirst]
    -- the fault of the first look-up names the query that was asked
    obtain ⟨q, hq⟩ := hall first (List.mem_of_mem_head? hfirst)
    obtain rfl := query_of_locate_notFound hq
    obtain rfl := Except.error.inj (hcause.symm.trans hq)
    rfl
  | ambiguous name q candidates sources hname hlocate =>
    rw [searchFrom_eq_ambiguous hname hlocate]
  | unsupported name cause hname hdeclared =>
    obtain ⟨r, hlocate, hsignature⟩ := resolveSignature_eq_unsupported_iff.mp hdeclared
    rw [searchFrom_eq_found hname hlocate]
    simp only [compare, hsignature]
  | mismatch name declared hname hdeclared hdiffers =>
    obtain ⟨r, hlocate, hsignature⟩ := resolveSignature_eq_ok_iff.mp hdeclared
    rw [searchFrom_eq_found hname hlocate]
    simp only [compare, hsignature, hdiffers, Bool.false_eq_true, if_false]
  | accepted name declared r hname hlocate hdeclared hagrees =>
    obtain ⟨r', hlocate', hsignature⟩ := resolveSignature_eq_ok_iff.mp hdeclared
    obtain rfl := Except.ok.inj (hlocate.symm.trans hlocate')
    rw [searchFrom_eq_found hname hlocate]
    simp only [compare, hsignature, hagrees, if_true]
    rfl

/-- Every check has a verdict. The rules are exhaustive: what a deciding name comes to is settled by
its look-up, and then by its signature. -/
theorem exists_verdict (request : CheckRequest) (documents : List InterfaceDocument) :
    ∃ outcome, request.Verdict documents request.names outcome := by
  rcases missing_or_decides request documents request.names with hall | ⟨name, hname⟩
  · -- there is a first name, whose look-up is the cause
    obtain ⟨first, rest, hnames⟩ :=
      memberNames_eq_cons request.typeName request.role request.member
    have hfirst : request.names.head? = some first := by
      unfold names
      rw [hnames, List.head?_cons]
    obtain ⟨q, hq⟩ := hall first (List.mem_of_mem_head? hfirst)
    exact ⟨_, .missing first _ hfirst hall hq⟩
  · cases hlocate : locate documents (request.query name) with
    | error fault =>
      cases fault with
      | notFound q =>
        -- a name that decides is not missing
        obtain ⟨-, -, -, -, hdeclared⟩ := hname
        exact absurd ⟨q, hlocate⟩ hdeclared
      | ambiguous q candidates sources => exact ⟨_, .ambiguous name q candidates sources hname hlocate⟩
    | ok r =>
      cases hsignature : request.role.signature r with
      | error cause =>
        exact ⟨_, .unsupported name cause hname
          (resolveSignature_eq_unsupported_iff.mpr ⟨r, hlocate, hsignature⟩)⟩
      | ok declared =>
        have hdeclared := resolveSignature_eq_ok_iff.mpr ⟨r, hlocate, hsignature⟩
        cases hagrees : (Signature.text request.signature).equivalent (.text declared) with
        | true => exact ⟨_, .accepted name declared r hname hlocate hdeclared hagrees⟩
        | false => exact ⟨_, .mismatch name declared hname hdeclared hagrees⟩

/-- The outcome of a check is the verdict over its candidate names. -/
theorem run_eq_iff (request : CheckRequest) (documents : List InterfaceDocument)
    (outcome : Except CheckFault Report) :
    request.run documents = outcome ↔
      ∃ names, CandidateNames request.typeName request.role request.member names
        ∧ request.Verdict documents names outcome := by
  constructor
  · rintro rfl
    obtain ⟨outcome, hverdict⟩ := exists_verdict request documents
    refine ⟨request.names, (memberNames_eq_iff _ _ _ _).mp rfl, ?_⟩
    rwa [run_of_verdict hverdict]
  · rintro ⟨names, hnames, hverdict⟩
    obtain rfl : request.names = names := (memberNames_eq_iff _ _ _ _).mpr hnames
    exact run_of_verdict hverdict

end CheckRequest

/-! ## Validators -/

namespace Validator

/-- **Checking is a function of look-ups.** A validator that has its documents answers a signature
with the verdict over the candidate names, whatever the host holds, and stays as it was. -/
theorem validateSignature_eq_iff_verdict (config : Config) (reflect : Shape → Wire)
    (documents : List InterfaceDocument) (host : Host) (typeName signature : String)
    (target : Target) (outcome : Except CheckFault Report) :
    (Validator.mk config reflect (some documents)).validateSignature host typeName signature target
        = (outcome.mapError .check, ⟨config, reflect, some documents⟩) ↔
      ∃ names, CandidateNames typeName target.role target.member names
        ∧ CheckRequest.Verdict ⟨typeName, signature, target.role, target.member, target.interface⟩
            documents names outcome := by
  let request : CheckRequest :=
    ⟨typeName, signature, target.role, target.member, target.interface⟩
  have hanswer : (Validator.mk config reflect (some documents)).validateSignature host typeName
      signature target
        = ((request.run documents).mapError .check, ⟨config, reflect, some documents⟩) := rfl
  rw [hanswer, Prod.mk.injEq, and_iff_left rfl]
  refine Iff.trans ?_ (CheckRequest.run_eq_iff request documents outcome)
  cases outcome with
  | ok report => exact mapError_eq_ok_iff
  | error fault => exact mapError_eq_error_iff ValidationFault.check.inj

end Validator

end BusContract
