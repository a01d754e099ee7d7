import BusContract.Proofs.Files.Names
import BusContract.Proofs.Files.WidePaths
import BusContract.Validation.Session

/-!
# Documents are loaded once

A validator that is made without documents loads them when a call first needs them. Until that has
worked once, every such call reads the files as they are by then and leaves nothing behind if it
fails. From then on the validator cannot be told from one that was made with these documents, and no
change of the host shows in any answer, not even if the documents are none at all.

* `answer_eq`: all that one call can come to.
* `answer_state`, `answers_state`: what one call, and a row of calls, leaves of a validator.
* **`answers_keep_first_load`**: what holds after any row of calls, for all that may follow.
* **`validateSignature_eq_inTurn`**: it makes no difference that a check asks for the documents anew
  for each name it tries, even if the files change between two of these.
-/

namespace BusContract

/-- The documents that a configuration leads to, on the host as it is. -/
def Host.documentsOf (host : Host) (config : Config) : Except LoadFault (List InterfaceDocument) :=
  host.loadDocuments config.xmlPath config.filePattern

namespace Validator

variable {v : Validator} {classes : Classes} {host elsewhere : Host}
  {documents : List InterfaceDocument} {call : Call}

/-! ## One load -/

/-- Documents that were loaded are not loaded again. -/
theorem load_of_documents (h : v.documents = some documents) (host : Host) :
    v.load host = (.ok documents, v) := by
  simp [load, h]

/-- A load that fails leaves nothing behind. -/
theorem load_of_error {fault : LoadFault} (h : v.documents = none)
    (hload : host.documentsOf v.config = .error fault) : v.load host = (.error fault, v) := by
  have hload' : host.loadDocuments v.config.xmlPath v.config.filePattern = .error fault := hload
  simp [load, h, hload']

/-- A load that succeeds is kept. -/
theorem load_of_ok (h : v.documents = none) (hload : host.documentsOf v.config = .ok documents) :
    v.load host = (.ok documents, { v with documents := some documents }) := by
  have hload' : host.loadDocuments v.config.xmlPath v.config.filePattern = .ok documents := hload
  simp [load, h, hload']

/-- A load leaves the documents that are there, or else those that the host gives, if it does. -/
theorem load_state (v : Validator) (host : Host) :
    (v.load host).2 =
      { v with documents := v.documents.or (host.documentsOf v.config).toOption } := by
  cases h : v.documents with
  | some documents =>
    rw [load_of_documents h, Option.some_or, ← h]
  | none =>
    cases hload : host.documentsOf v.config with
    | error fault =>
      rw [load_of_error h hload, Option.none_or, Except.toOption, ← h]
    | ok documents =>
      rw [load_of_ok h hload, Option.none_or, Except.toOption]

/-! ## One call -/

/-- The name and the signature that a shape is checked under, or the fault that keeps it from being
checked at all. -/
def prepare (classes : Classes) (reflect : Shape → Wire) (shape : Shape) (member : Option String) :
    Except ValidationFault (String × String) :=
  match typeName classes shape member, reflect shape with
  | .error fault, _ => .error fault
  | .ok _, .error fault => .error (.reflection fault)
  | .ok name, .ok signature => .ok (name, signature)

def checkAgainst (documents : List InterfaceDocument) (name signature : String) (target : Target) :
    Except ValidationFault Report :=
  (CheckRequest.run ⟨name, signature, target.role, target.member, target.interface⟩
    documents).mapError .check

/-- The fault that keeps a shape from being checked: it has no name of its own and none is given, or
it has no signature. -/
def refusal? (classes : Classes) (reflect : Shape → Wire) (shape : Shape) (member : Option String) :
    Option ValidationFault :=
  if shape.isDerived = true ∧ member = none then some (.nameless (classes.spell shape))
  else
    match reflect shape with
    | .error fault => some (.reflection fault)
    | .ok _ => none

/-- The fault that a call comes to before it needs documents. -/
def Call.refusal? (classes : Classes) (reflect : Shape → Wire) : Call → Option ValidationFault
  | .check shape target => Validator.refusal? classes reflect shape target.member
  | .checkDefinition shape target => Validator.refusal? classes reflect shape target.member
  | _ => none

/-- The answer to a call from documents that are there. -/
def Call.answerFrom (classes : Classes) (reflect : Shape → Wire)
    (documents : List InterfaceDocument) : Call → Answer
  | .documents => .ok (.documents documents)
  | .check shape target =>
    match prepare classes reflect shape target.member with
    | .error fault => .error fault
    | .ok (name, signature) => (checkAgainst documents name signature target).map .report
  | .checkSignature name signature target =>
    (checkAgainst documents name signature target).map .report
  | .checkDefinition shape target =>
    match prepare classes reflect shape target.member with
    | .error fault => .error fault
    | .ok (name, signature) =>
      (checkAgainst documents name signature target).map fun _ => .shape shape

/-- There is no other way not to get ready. -/
theorem refusal?_eq (classes : Classes) (reflect : Shape → Wire) (shape : Shape)
    (member : Option String) :
    refusal? classes reflect shape member =
      match prepare classes reflect shape member with
      | .error fault => some fault
      | .ok _ => none := by
  unfold refusal? prepare typeName
  by_cases hderived : shape.isDerived = true
  · cases member with
    | none => simp [hderived]
    | some member => cases reflect shape <;> simp [hderived]
  · cases reflect shape <;> simp [hderived]

/-- A check loads documents first, and then only looks at them. -/
theorem validateSignature_eq (v : Validator) (host : Host) (name signature : String)
    (target : Target) :
    v.validateSignature host name signature target =
      match v.load host with
      | (.error fault, w) => (.error (.loading fault), w)
      | (.ok documents, w) => (checkAgainst documents name signature target, w) := rfl

/-- A type is turned into a signature before documents are loaded. -/
theorem validate_eq (v : Validator) (classes : Classes) (host : Host) (shape : Shape)
    (target : Target) :
    v.validate classes host shape target =
      match prepare classes v.reflect shape target.member with
      | .error fault => (.error fault, v)
      | .ok (name, signature) => v.validateSignature host name signature target := by
  unfold validate prepare
  cases typeName classes shape target.member with
  | error fault => rfl
  | ok name => cases v.reflect shape <;> rfl

/-- **All that a call can come to.** Either it is refused, and then neither the host nor the
documents have a part in it, or it is answered from what the load gives. -/
theorem answer_eq (v : Validator) (classes : Classes) (host : Host) (call : Call) :
    v.answer classes host call =
      match call.refusal? classes v.reflect with
      | some fault => (.error fault, v)
      | none =>
        match v.load host with
        | (.error fault, w) => (.error (.loading fault), w)
        | (.ok documents, w) => (call.answerFrom classes v.reflect documents, w) := by
  cases call with
  | documents =>
    simp only [answer, Call.refusal?]
    rcases v.load host with ⟨fault | documents, w⟩ <;> rfl
  | checkSignature name signature target =>
    simp only [answer, Call.refusal?, validateSignature_eq]
    rcases v.load host with ⟨fault | documents, w⟩ <;> rfl
  | check shape target =>
    simp only [answer, Call.refusal?, Call.answerFrom, validate_eq, refusal?_eq]
    -- a shape that cannot be prepared never comes to the load
    cases prepare classes v.reflect shape target.member with
    | error fault => rfl
    | ok ready =>
      simp only [validateSignature_eq]
      rcases v.load host with ⟨fault | documents, w⟩ <;> rfl
  | checkDefinition shape target =>
    simp only [answer, validateType, Call.refusal?, Call.answerFrom, validate_eq, refusal?_eq]
    cases prepare classes v.reflect shape target.member with
    | error fault => rfl
    | ok ready =>
      simp only [validateSignature_eq]
      rcases v.load host with ⟨fault | documents, w⟩
      · rfl
      · dsimp only
        cases checkAgainst documents ready.1 ready.2 target <;> rfl

/-- A call that is refused loads nothing. -/
theorem answer_of_refusal {fault : ValidationFault}
    (h : call.refusal? classes v.reflect = some fault) (host : Host) :
    v.answer classes host call = (.error fault, v) := by
  simp [answer_eq, h]

/-- A call that cannot load says so. -/
theorem answer_of_load_error {fault : LoadFault} (h : call.refusal? classes v.reflect = none)
    (hload : v.load host = (.error fault, v)) :
    v.answer classes host call = (.error (.loading fault), v) := by
  simp [answer_eq, h, hload]

/-- A call that can answers from the documents. -/
theorem answer_of_load_ok {w : Validator} (h : call.refusal? classes v.reflect = none)
    (hload : v.load host = (.ok documents, w)) :
    v.answer classes host call = (call.answerFrom classes v.reflect documents, w) := by
  simp [answer_eq, h, hload]

/-- A validator that has its documents gives the same answer on every host and stays as it is. -/
theorem answer_of_documents (h : v.documents = some documents) (host elsewhere : Host)
    (call : Call) :
    v.answer classes host call = v.answer classes elsewhere call
      ∧ (v.answer classes host call).2 = v := by
  cases hrefusal : call.refusal? classes v.reflect with
  | some fault => simp [answer_of_refusal hrefusal]
  | none => simp [answer_of_load_ok hrefusal (load_of_documents h _)]

/-- The documents that a call loads on a host if there are none: none either if it is refused
before, or if the load fails. -/
def Call.loads? (classes : Classes) (config : Config) (reflect : Shape → Wire) (host : Host)
    (call : Call) : Option (List InterfaceDocument) :=
  match call.refusal? classes reflect with
  | some _ => none
  | none => (host.documentsOf config).toOption

/-- **The step.** A call leaves the documents that are there, or else those that it loads. -/
theorem answer_state (v : Validator) (classes : Classes) (host : Host) (call : Call) :
    (v.answer classes host call).2 =
      { v with documents := v.documents.or (call.loads? classes v.config v.reflect host) } := by
  cases hrefusal : call.refusal? classes v.reflect with
  | some fault => simp [answer_of_refusal hrefusal, Call.loads?, hrefusal]
  | none =>
    have hstate : (v.answer classes host call).2 = (v.load host).2 := by
      rw [answer_eq, hrefusal]
      rcases v.load host with ⟨fault | documents, w⟩ <;> rfl
    simp [hstate, load_state, Call.loads?, hrefusal]

/-! ## Rows of calls -/

/-- The documents of the first call in a row that loads any. -/
def firstLoad? (classes : Classes) (config : Config) (reflect : Shape → Wire)
    (history : List (Host × Call)) : Option (List InterfaceDocument) :=
  history.findSome? fun (host, call) => call.loads? classes config reflect host

/-- The first load is that of the first call that loads. -/
theorem firstLoad?_cons (classes : Classes) (config : Config) (reflect : Shape → Wire)
    (host : Host) (call : Call) (rest : List (Host × Call)) :
    firstLoad? classes config reflect ((host, call) :: rest)
      = (call.loads? classes config reflect host).or (firstLoad? classes config reflect rest) := by
  simp only [firstLoad?, List.findSome?_cons]
  cases call.loads? classes config reflect host <;> rfl

/-- **The run.** A row of calls leaves the documents that are there, or else those that it loads
first. Induction on the row. -/
theorem answers_state (v : Validator) (classes : Classes) (history : List (Host × Call)) :
    (answers classes v history).2 =
      { v with documents := v.documents.or (firstLoad? classes v.config v.reflect history) } := by
  induction history generalizing v with
  | nil => simp [answers, firstLoad?]
  | cons event rest ih =>
    obtain ⟨host, call⟩ := event
    simp only [answers, ih, answer_state, firstLoad?_cons, Option.or_assoc]

/-- Once there are documents a row of calls gets the same answers wherever it is made. Induction on
the row. -/
theorem answers_of_documents (h : v.documents = some documents) {history other : List (Host × Call)}
    (hcalls : history.map Prod.snd = other.map Prod.snd) :
    answers classes v history = answers classes v other := by
  induction history generalizing other with
  | nil =>
    obtain rfl : other = [] := by simpa using hcalls.symm
    rfl
  | cons event rest ih =>
    obtain ⟨host, call⟩ := event
    cases other with
    | nil => simp at hcalls
    | cons event' rest' =>
      obtain ⟨elsewhere, call'⟩ := event'
      simp only [List.map_cons, List.cons.injEq] at hcalls
      obtain ⟨rfl, hrest⟩ := hcalls
      -- the validator is left as it was, so the other calls are made to the same one
      have hanswer : v.answer classes host call = v.answer classes elsewhere call :=
        (answer_of_documents h host elsewhere call).1
      have hstate : (v.answer classes host call).2 = v :=
        (answer_of_documents h host elsewhere call).2
      simp only [answers, ← hanswer, hstate, ih hrest]

/-! ## Asking anew for each name -/

/-- Looks for names in turn and asks for the documents anew for each of them, on the host as it is
by then. -/
def searchInTurn (role : SignatureRole) (interface : Option String) :
    Validator → Option LookupFault → List (Host × String) → Except LoadFault Search × Validator
  | v, missed, [] => (.ok (.missing missed), v)
  | v, missed, (host, name) :: rest =>
    match v.load host with
    | (.error fault, w) => (.error fault, w)
    | (.ok documents, w) =>
      let query := role.query name interface
      match locate documents query with
      | .ok r => (.ok (.found query r), w)
      | .error (.ambiguous q candidates sources) =>
        (.ok (.ambiguous query candidates (.ambiguous q candidates sources)), w)
      | .error (.notFound q) =>
        searchInTurn role interface w (missed.or (some (.notFound q))) rest

/-- With documents, the search looks for the names in these. Induction on the names. -/
theorem searchInTurn_of_documents (h : v.documents = some documents) (role : SignatureRole)
    (interface : Option String) (missed : Option LookupFault) (attempts : List (Host × String)) :
    searchInTurn role interface v missed attempts
      = (.ok (searchFrom documents role interface missed (attempts.map Prod.snd)), v) := by
  induction attempts generalizing missed with
  | nil => rfl
  | cons attempt rest ih =>
    obtain ⟨host, name⟩ := attempt
    simp only [searchInTurn, load_of_documents h, List.map_cons, searchFrom, ih]
    rcases locate documents (role.query name interface) with ⟨q | ⟨q, candidates, sources⟩⟩ | r
    · rfl
    · rfl
    · rfl

/-- What is loaded is what is kept. -/
theorem documents_of_load {w : Validator} (h : v.load host = (.ok documents, w)) :
    w.documents = some documents := by
  cases hthere : v.documents with
  | some there =>
    rw [load_of_documents hthere, Prod.mk.injEq, Except.ok.injEq] at h
    rw [← h.2, ← h.1, hthere]
  | none =>
    cases hload : host.documentsOf v.config with
    | error fault => simp [load_of_error hthere hload] at h
    | ok found =>
      rw [load_of_ok hthere hload, Prod.mk.injEq, Except.ok.injEq] at h
      rw [← h.2, ← h.1]

/-- The first name settles the documents for the others. -/
theorem searchInTurn_cons (v : Validator) (role : SignatureRole) (interface : Option String)
    (missed : Option LookupFault) (host : Host) (name : String) (rest : List (Host × String)) :
    searchInTurn role interface v missed ((host, name) :: rest) =
      match v.load host with
      | (.error fault, w) => (.error fault, w)
      | (.ok documents, w) =>
        (.ok (searchFrom documents role interface missed (name :: rest.map Prod.snd)), w) := by
  rcases hload : v.load host with ⟨fault | documents, w⟩
  · simp only [searchInTurn, hload]
  · -- what the load gave it has left, so the first name makes no difference to the others
    have hthere := documents_of_load hload
    have hsearch := searchInTurn_of_documents hthere role interface missed ((host, name) :: rest)
    rw [searchInTurn, load_of_documents hthere] at hsearch
    rw [searchInTurn, hload]
    exact hsearch

def conclude (request : CheckRequest) : Search → Except CheckFault Report
  | .found query r => request.compare query r
  | .ambiguous query candidates cause => .error (.ambiguous request.typeName query candidates cause)
  | .missing cause =>
    let first := (memberNames request.typeName request.role request.member).headD request.typeName
    .error (.notFound request.typeName (request.role.query first request.interface) cause)

/-- A check looks for the names one after the other, and draws its conclusion. -/
theorem run_eq_conclude (request : CheckRequest) (documents : List InterfaceDocument) :
    request.run documents =
      conclude request (searchFrom documents request.role request.interface none
        (memberNames request.typeName request.role request.member)) := rfl

/-- A check may as well ask for the documents anew for each name that it tries, and be made on a host
that changes all the while: the documents are those of the first attempt. -/
theorem validateSignature_eq_inTurn (v : Validator) (host : Host) (typeName signature : String)
    (target : Target) {first : String} {rest : List (Host × String)}
    (hnames : memberNames typeName target.role target.member = first :: rest.map Prod.snd) :
    v.validateSignature host typeName signature target =
      match searchInTurn target.role target.interface v none ((host, first) :: rest) with
      | (.error fault, w) => (.error (.loading fault), w)
      | (.ok search, w) =>
        ((conclude ⟨typeName, signature, target.role, target.member, target.interface⟩
          search).mapError .check, w) := by
  rw [validateSignature_eq, searchInTurn_cons]
  rcases v.load host with ⟨fault | documents, w⟩
  · rfl
  · simp only [checkAgainst, run_eq_conclude, hnames]

/-! ## Whole runs -/

def preloaded (config : Config) (reflect : Shape → Wire) (documents : List InterfaceDocument) :
    Validator :=
  ⟨config, reflect, some documents⟩

/-- What holds of the validator `v` that is left of one made without documents, after it was asked
for `past`. Hosts are arbitrary throughout: nothing is known about how one came from the other. -/
structure KeepsFirstLoad (classes : Classes) (config : Config) (reflect : Shape → Wire)
    (past : List (Host × Call)) (v : Validator) : Prop where
  /-- Its documents are those of the first call that loaded any. Nothing else has changed. -/
  state : v = ⟨config, reflect, firstLoad? classes config reflect past⟩
  /-- A call that fails before it needs documents fails on every host, loads none and leaves those
  that are there. -/
  refused : ∀ call fault, call.refusal? classes reflect = some fault →
    ∀ host, v.answer classes host call = (.error fault, v)
  /-- Without documents, a call that needs them reads the files as they are by then. If that fails
  the call tells why, and there are still no documents. -/
  failed : v.documents = none → ∀ call host fault, call.refusal? classes reflect = none →
    host.documentsOf config = .error fault →
    v.answer classes host call = (.error (.loading fault), v)
  /-- If it works, then answer and validator are those that come of the documents alone. -/
  loaded : v.documents = none → ∀ call host documents, call.refusal? classes reflect = none →
    host.documentsOf config = .ok documents → ∀ elsewhere,
    v.answer classes host call = (preloaded config reflect documents).answer classes elsewhere call
  /-- With documents, be they none at all, whatever is asked for is answered as by a validator that
  was made with them, wherever that one is asked. -/
  kept : ∀ documents, v.documents = some documents → ∀ future elsewhere,
    future.map Prod.snd = elsewhere.map Prod.snd →
    answers classes v future = answers classes (preloaded config reflect documents) elsewhere
      ∧ (answers classes v future).2 = v
  /-- So the documents are the same ever after. -/
  same : ∀ documents, v.documents = some documents → ∀ host,
    v.answer classes host .documents = (.ok (.documents documents), v)

/-- Once there are documents no call changes anything. -/
theorem answers_state_of_documents (h : v.documents = some documents)
    (history : List (Host × Call)) : (answers classes v history).2 = v := by
  rw [answers_state, h, Option.some_or, ← h]

/-- This is what is kept at any point of a history. -/
theorem keepsFirstLoad (classes : Classes) (config : Config) (reflect : Shape → Wire)
    (past : List (Host × Call)) :
    KeepsFirstLoad classes config reflect past (answers classes ⟨config, reflect, none⟩ past).2 := by
  have hstate := answers_state ⟨config, reflect, none⟩ classes past
  rw [Option.none_or] at hstate
  generalize (answers classes ⟨config, reflect, none⟩ past).2 = v at hstate ⊢
  -- of the past no more is needed than what it has left
  have hconfig : v.config = config := by rw [hstate]
  have hreflect : v.reflect = reflect := by rw [hstate]
  have hpreloaded : ∀ documents, v.documents = some documents →
      v = preloaded config reflect documents := by
    intro documents h
    rw [preloaded, ← h, ← hconfig, ← hreflect]
  exact
    { state := hstate
      refused := by
        intro call fault h host
        rw [← hreflect] at h
        exact answer_of_refusal h host
      failed := by
        intro hnone call host fault h hload
        rw [← hreflect] at h
        rw [← hconfig] at hload
        exact answer_of_load_error h (load_of_error hnone hload)
      loaded := by
        intro hnone call host documents h hload elsewhere
        rw [← hreflect] at h
        rw [← hconfig] at hload
        have hleft : { v with documents := some documents } = preloaded config reflect documents := by
          rw [preloaded, hconfig, hreflect]
        have hthere : (preloaded config reflect documents).documents = some documents := rfl
        rw [answer_of_load_ok h (load_of_ok hnone hload), hleft, hreflect]
        rw [hreflect] at h
        exact (answer_of_load_ok h (load_of_documents hthere elsewhere)).symm
      kept := by
        intro documents h future elsewhere hcalls
        rw [← hpreloaded documents h]
        exact ⟨answers_of_documents h hcalls, answers_state_of_documents h future⟩
      same := by
        intro documents h host
        exact answer_of_load_ok rfl (load_of_documents h host) }

/-- **Documents are loaded once.** After any calls on any hosts, a validator that was made without
documents has those of the first load that worked, keeps them, and reads no file for them again. One
that was made with documents never reads a file. -/
theorem answers_keep_first_load (classes : Classes) (config : Config) (reflect : Shape → Wire) :
    (∀ past, KeepsFirstLoad classes config reflect past
        (answers classes ⟨config, reflect, none⟩ past).2)
      ∧ ∀ documents history elsewhere, history.map Prod.snd = elsewhere.map Prod.snd →
        answers classes (preloaded config reflect documents) history
            = answers classes (preloaded config reflect documents) elsewhere
          ∧ (answers classes (preloaded config reflect documents) history).2
            = preloaded config reflect documents := by
  constructor
  · intro past
    exact keepsFirstLoad classes config reflect past
  · intro documents history elsewhere hcalls
    exact ⟨answers_of_documents rfl hcalls, answers_state_of_documents rfl history⟩

/-! ### An empty directory -/

def usualConfig : Config := ⟨.ofName "xml", defaultFilePattern⟩

/-- A host without any files. -/
def bareHost : Host := ⟨FileTree.empty, [], []⟩

/-- A host whose only directory is that of the documents, which is empty. -/
def emptyHost : Host := ⟨⟨[(["xml"], .directory)]⟩, [], []⟩

theorem selection_defaultFilePattern :
    Selection.ofText defaultFilePattern
      = .ok ⟨[.fitting (.ofText defaultFilePattern)], false⟩ := by
  have hpath : FilePath.ofText defaultFilePattern = ⟨"", [defaultFilePattern]⟩ := by decide
  have hend : defaultFilePattern.endsWith "/" = false := endsWith_slash_of_not_mem (by decide)
  have hempty : defaultFilePattern.isEmpty = false := by decide
  have hstep : Selection.stepOfText defaultFilePattern
      = .ok (.fitting (.ofText defaultFilePattern)) := by
    rw [Selection.stepOfText, if_neg (by decide), if_neg (by decide), if_pos (by decide)]
  simp [Selection.ofText, hpath, hend, hempty, FilePath.isAbsolute, hstep, Except.map, bind,
    Except.bind, pure, Except.pure]

/-- Where there is no directory nothing is loaded. -/
theorem documentsOf_bareHost :
    bareHost.documentsOf usualConfig = .error (.noDirectory (.ofName "xml")) := by
  have hfind : bareHost.find true (.ofName "xml") = .error (.refused .missing (.ofName "xml")) :=
    Host.find_ofName_of_none (by decide) rfl
  have hdirectory : bareHost.isDirectory (.ofName "xml") = .ok false := by
    rw [Host.isDirectory, Host.test, hfind]
  rw [Host.documentsOf, usualConfig, Host.loadDocuments, hdirectory]
  rfl

/-- An empty directory holds no documents. -/
theorem documentsOf_emptyHost : emptyHost.documentsOf usualConfig = .ok [] := by
  have hentry : emptyHost.files.entry? ["xml"] = some .directory := by decide
  have hfind : emptyHost.find true (.ofName "xml") = .ok .directory :=
    Host.find_ofName_of_some (by decide) hentry (.inr nofun)
  have hdirectory : emptyHost.isDirectory (.ofName "xml") = .ok true := by
    rw [Host.isDirectory, Host.test, hfind]
  have hlocate : emptyHost.locate true (.ofName "xml") = .ok ["xml"] :=
    Host.locate_ofName_of_some (by decide) hentry (.inr nofun)
  have hlist : emptyHost.list (.ofName "xml") = .ok [] := by
    rw [Host.list, hlocate]
    rfl
  have hselect (p : NamePattern) :
      emptyHost.select ⟨[.fitting p], false⟩ (.ofName "xml") = .ok [] := by
    have hfollow : emptyHost.follow false [.fitting p] (.ofName "xml") = .ok [] := by
      rw [Host.follow, hlist]
      rfl
    rw [Host.select, hdirectory]
    exact hfollow
  have hfiles : emptyHost.documentFiles (.ofName "xml") defaultFilePattern = .ok [] := by
    rw [Host.documentFiles, Selection.ofWide_ofText, selection_defaultFilePattern]
    show (do
      let files ← (emptyHost.select _ (.ofName "xml")).mapError LoadFault.file
      return files.mergeSort _) = _
    rw [hselect]
    show Except.ok (List.mergeSort [] _) = _
    rw [List.mergeSort_nil]
  rw [Host.documentsOf, usualConfig, Host.loadDocuments, hdirectory, hfiles]
  rfl

/-- No documents at all are documents: once the empty directory was read, it makes no difference
that there is no directory any more, while the first call failed for want of one. -/
theorem emptyLoad_kept :
    (answers [] ⟨usualConfig, Classes.wire [], none⟩
        [(bareHost, .documents), (emptyHost, .documents), (bareHost, .documents)]).1
      = [.error (.loading (.noDirectory (.ofName "xml"))), .ok (.documents []),
          .ok (.documents [])] := by
  obtain ⟨hkeeps, -⟩ := answers_keep_first_load [] usualConfig (Classes.wire [])
  have hfailed := (hkeeps []).failed rfl .documents bareHost _ rfl documentsOf_bareHost
  have hloaded := (hkeeps []).loaded rfl .documents emptyHost _ rfl documentsOf_emptyHost bareHost
  simp only [answers] at hfailed hloaded
  simp only [answers, hfailed, hloaded]
  rfl

end Validator

end BusContract
