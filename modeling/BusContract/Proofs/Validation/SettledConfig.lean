import BusContract.Proofs.Files.Absolute
import BusContract.Proofs.Validation.FirstLoad
import BusContract.Proofs.Workspace.Precedence

/-!
# The configuration of the surroundings is settled once

The validator of the surroundings comes with the first definition for which a configuration can be
had, whatever then becomes of that definition: its documents may not load, its class may not pass.
Definitions before that one leave nothing behind, and each of them asks for the configuration
afresh. From then on the configuration stays, while the documents under it have a life of their own:
they are loaded once, by the same rules as those of any validator.

* `outcomeBy_state`, `definitionOutcomes_none_memory`: what one definition, and a row of them, leaves
  behind.
* `definitionOutcomes_eq_of_sees`: two rows of definitions side by side, on hosts that differ in all
  that the validator does not see.
* **`definitions_settle_config`**: what holds after any row of definitions, for all that may follow.
-/

namespace BusContract

namespace Validator

variable {v : Validator} {classes : Classes} {host elsewhere : Host}

/-! ## Checking definitions -/

/-- The documents that a validator works with on a host: those that it has, or else those that the
host gives. -/
def documentsOn (v : Validator) (host : Host) : Except LoadFault (List InterfaceDocument) :=
  match v.documents with
  | some documents => .ok documents
  | none => host.documentsOf v.config

/-- Documents that are kept are the ones that count. -/
theorem documentsOn_of_documents {documents : List InterfaceDocument}
    (h : v.documents = some documents) (host : Host) : v.documentsOn host = .ok documents := by
  rw [documentsOn, h]

/-- Without any they are those of the directory. -/
theorem documentsOn_of_none (h : v.documents = none) (host : Host) :
    v.documentsOn host = host.documentsOf v.config := by
  rw [documentsOn, h]

/-- Hosts on which a validator works with the same documents give the same load. -/
theorem load_eq_of_documentsOn (h : v.documentsOn host = v.documentsOn elsewhere) :
    v.load host = v.load elsewhere := by
  cases hthere : v.documents with
  | some documents => rw [load_of_documents hthere, load_of_documents hthere]
  | none =>
    rw [documentsOn_of_none hthere, documentsOn_of_none hthere] at h
    have h' : host.loadDocuments v.config.xmlPath v.config.filePattern
        = elsewhere.loadDocuments v.config.xmlPath v.config.filePattern := h
    simp only [load, hthere, h']

/-- `w` is what can become of `v`: the configuration stays, and so do documents once there are any. -/
structure Becomes (v w : Validator) : Prop where
  config : w.config = v.config
  documents : ∀ documents, v.documents = some documents → w.documents = some documents

theorem Becomes.refl (v : Validator) : v.Becomes v := ⟨rfl, fun _ h => h⟩

/-- What becomes of a validator goes on from there. -/
theorem Becomes.trans {u w : Validator} (h : v.Becomes w) (h' : w.Becomes u) : v.Becomes u :=
  ⟨h'.config.trans h.config, fun documents hthere => h'.documents _ (h.documents documents hthere)⟩

/-- What a validator sees of two hosts does not come to differ by its getting documents. -/
theorem Becomes.documentsOn_eq {w : Validator} (hbecomes : v.Becomes w)
    (h : v.documentsOn host = v.documentsOn elsewhere) :
    w.documentsOn host = w.documentsOn elsewhere := by
  cases hthere : w.documents with
  | some documents => rw [documentsOn_of_documents hthere, documentsOn_of_documents hthere]
  | none =>
    have hnone : v.documents = none := by
      cases hv : v.documents with
      | none => rfl
      | some documents => simp [hbecomes.documents _ hv] at hthere
    -- neither has documents, so both would have to load them, and under the same configuration
    rw [documentsOn_of_none hnone, documentsOn_of_none hnone] at h
    rw [documentsOn_of_none hthere, documentsOn_of_none hthere, hbecomes.config, h]

/-- All that the check of a definition takes from the host is what the load gives. -/
theorem validateType_eq_of_load (h : v.load host = v.load elsewhere) (classes : Classes)
    (shape : Shape) (target : Target) :
    v.validateType classes host shape target = v.validateType classes elsewhere shape target := by
  simp only [validateType, validate_eq, validateSignature_eq, h]

/-- A check keeps at most the documents that it loads. -/
theorem validateType_state (v : Validator) (classes : Classes) (host : Host) (shape : Shape)
    (target : Target) :
    (v.validateType classes host shape target).2 =
      { v with
        documents := v.documents.or
          ((Call.checkDefinition shape target).loads? classes v.config v.reflect host) } :=
  answer_state v classes host (.checkDefinition shape target)

end Validator

/-! ## One definition -/

namespace CheckedDefinition

variable {d : CheckedDefinition} {host elsewhere : Host} {v : Validator}

/-- The outcome of a definition that the validator `v` checks. -/
def outcomeBy (d : CheckedDefinition) (v : Validator) (host : Host) :
    Except DefaultFault Shape × Option Validator :=
  let (outcome, w) := v.validateType d.classes host d.shape d.target
  (outcome.mapError .validation, some w)

/-- A configuration that fails is looked for again. -/
theorem outcome_none_of_error {fault : ConfigFault} (h : host.surroundingConfig = .error fault) :
    d.outcome host none = (.error (.config fault), none) := by
  simp [outcome, validateByDefault, defaultValidator, h, Except.map]

/-- One that is found is used for the check. -/
theorem outcome_none_of_ok {config : Config} (h : host.surroundingConfig = .ok config) :
    d.outcome host none = d.outcomeBy ⟨config, d.classes.wire, none⟩ host := by
  simp [outcome, validateByDefault, defaultValidator, h, Except.map, outcomeBy]

/-- One that was found is not looked for again. -/
theorem outcome_some (d : CheckedDefinition) (host : Host) (v : Validator) :
    d.outcome host (some v) = d.outcomeBy ⟨v.config, d.classes.wire, v.documents⟩ host := rfl

/-- The documents that checking a definition loads on a host if there are none. -/
def loads? (d : CheckedDefinition) (config : Config) (host : Host) :
    Option (List InterfaceDocument) :=
  (Validator.Call.checkDefinition d.shape d.target).loads? d.classes config d.classes.wire host

/-- **The step.** A definition leaves the configuration of the validator that checks it, and the
documents of this one or else those that it loads, whether it passes or not. -/
theorem outcomeBy_state (d : CheckedDefinition) (host : Host) (config : Config)
    (documents : Option (List InterfaceDocument)) :
    (d.outcomeBy ⟨config, d.classes.wire, documents⟩ host).2
      = some ⟨config, d.classes.wire, documents.or (d.loads? config host)⟩ := by
  simp only [outcomeBy, Validator.validateType_state, loads?]

/-- A definition takes nothing from the host but the documents once the configuration is settled. -/
theorem outcome_some_eq (h : v.documentsOn host = v.documentsOn elsewhere)
    (d : CheckedDefinition) : d.outcome host (some v) = d.outcome elsewhere (some v) := by
  let asked : Validator := ⟨v.config, d.classes.wire, v.documents⟩
  have hload : asked.load host = asked.load elsewhere := Validator.load_eq_of_documentsOn h
  rw [outcome_some, outcome_some, outcomeBy, Validator.validateType_eq_of_load hload, outcomeBy]

/-- After a definition there is still a validator with the same configuration. -/
theorem exists_becomes (d : CheckedDefinition) (host : Host) (v : Validator) :
    ∃ w, (d.outcome host (some v)).2 = some w ∧ v.Becomes w := by
  refine ⟨_, outcomeBy_state d host v.config v.documents, rfl, ?_⟩
  intro documents hthere
  rw [hthere, Option.some_or]

end CheckedDefinition

/-! ## Rows of definitions -/

/-- What counts of the validator of the surroundings: its configuration, and its documents if there
are any. Signatures are derived anew for each definition. -/
def Validator.memory (v : Validator) : Config × Option (List InterfaceDocument) :=
  (v.config, v.documents)

/-- The documents of the first definition in a row that loads any. -/
def firstDocuments? (config : Config) (history : List (Host × CheckedDefinition)) :
    Option (List InterfaceDocument) :=
  history.findSome? fun (host, d) => d.loads? config host

/-- The first documents are those of the first definition that loads any. -/
theorem firstDocuments?_cons (config : Config) (host : Host) (d : CheckedDefinition)
    (rest : List (Host × CheckedDefinition)) :
    firstDocuments? config ((host, d) :: rest)
      = (d.loads? config host).or (firstDocuments? config rest) := by
  simp only [firstDocuments?, List.findSome?_cons]
  cases d.loads? config host <;> rfl

/-- What a row of definitions settles: the configuration of the first host that gives one, and the
documents that are loaded first from there on. -/
def settled? : List (Host × CheckedDefinition) → Option (Config × Option (List InterfaceDocument))
  | [] => none
  | (host, d) :: rest =>
    let here := host.surroundingConfig.toOption.map fun config =>
      (config, firstDocuments? config ((host, d) :: rest))
    here.or (settled? rest)

section Steps

variable {host : Host} {d : CheckedDefinition} {rest : List (Host × CheckedDefinition)}

/-- A definition that fails settles nothing. -/
theorem settled?_cons_of_error {fault : ConfigFault} (h : host.surroundingConfig = .error fault) :
    settled? ((host, d) :: rest) = settled? rest := by
  simp [settled?, h, Except.toOption]

/-- The first that finds a configuration settles it. -/
theorem settled?_cons_of_ok {config : Config} (h : host.surroundingConfig = .ok config) :
    settled? ((host, d) :: rest) = some (config, firstDocuments? config ((host, d) :: rest)) := by
  simp [settled?, h, Except.toOption]

/-- What is kept is handed on. -/
theorem definitionOutcomes_cons (kept : Option Validator) :
    (definitionOutcomes kept ((host, d) :: rest)).2
      = (definitionOutcomes (d.outcome host kept).2 rest).2 := rfl

end Steps

/-- **The run**, with a validator that is there. Induction on the row. -/
theorem definitionOutcomes_some_memory (v : Validator) (history : List (Host × CheckedDefinition)) :
    (definitionOutcomes (some v) history).2.map Validator.memory
      = some (v.config, v.documents.or (firstDocuments? v.config history)) := by
  induction history generalizing v with
  | nil => simp [definitionOutcomes, firstDocuments?, Validator.memory]
  | cons event rest ih =>
    obtain ⟨host, d⟩ := event
    rw [definitionOutcomes_cons, CheckedDefinition.outcome_some, CheckedDefinition.outcomeBy_state,
      ih, firstDocuments?_cons, Option.or_assoc]

/-- **The run**, from the beginning. Induction on the row: as long as no host gives a configuration
nothing is left behind, and the first that does comes to a validator without documents. -/
theorem definitionOutcomes_none_memory (history : List (Host × CheckedDefinition)) :
    (definitionOutcomes none history).2.map Validator.memory = settled? history := by
  induction history with
  | nil => rfl
  | cons event rest ih =>
    obtain ⟨host, d⟩ := event
    cases hconfig : host.surroundingConfig with
    | error fault =>
      have houtcome := CheckedDefinition.outcome_none_of_error (d := d) hconfig
      rw [definitionOutcomes_cons, houtcome, ih, settled?_cons_of_error hconfig]
    | ok config =>
      have houtcome := CheckedDefinition.outcome_none_of_ok (d := d) hconfig
      rw [definitionOutcomes_cons, houtcome, CheckedDefinition.outcomeBy_state,
        definitionOutcomes_some_memory, settled?_cons_of_ok hconfig, firstDocuments?_cons,
        Option.none_or]

/-- What the validator `v` sees of a definition and its host. -/
def Validator.sees (v : Validator) (event : Host × CheckedDefinition) :
    Except LoadFault (List InterfaceDocument) × CheckedDefinition :=
  (v.documentsOn event.1, event.2)

/-- Once the configuration is settled, nothing of a host counts but the documents. Induction on the
rows; what carries it is that a definition leaves a validator that sees no more of the hosts. -/
theorem definitionOutcomes_eq_of_sees {v w : Validator} (hbecomes : v.Becomes w)
    {history other : List (Host × CheckedDefinition)}
    (hsees : history.map v.sees = other.map v.sees) :
    definitionOutcomes (some w) history = definitionOutcomes (some w) other := by
  induction history generalizing w other with
  | nil =>
    obtain rfl : other = [] := by simpa using hsees.symm
    rfl
  | cons event rest ih =>
    obtain ⟨host, d⟩ := event
    cases other with
    | nil => simp at hsees
    | cons event' rest' =>
      obtain ⟨elsewhere, d'⟩ := event'
      simp only [List.map_cons, List.cons.injEq, Validator.sees, Prod.mk.injEq] at hsees
      obtain ⟨⟨hdocuments, rfl⟩, hrest⟩ := hsees
      -- `w` may have documents by now that `v` had not, but what it sees it sees on both hosts
      have hnow : d.outcome host (some w) = d.outcome elsewhere (some w) :=
        CheckedDefinition.outcome_some_eq (hbecomes.documentsOn_eq hdocuments) d
      obtain ⟨u, hu, hlater⟩ := d.exists_becomes host w
      have hthen := ih (hbecomes.trans hlater) hrest
      simp only [definitionOutcomes, ← hnow, hu, hthen]

/-! ## Surroundings -/

/-- A configuration of the surroundings is asked for without an argument. -/
def Host.configRequest (host : Host) : ConfigRequest :=
  ⟨host, none, host.here, host.environment, by rfl⟩

theorem Host.surroundingConfig_eq (host : Host) :
    host.surroundingConfig = host.configRequest.outcome := rfl

/-- The directory of the documents is given from the root. -/
theorem Host.xmlPath_isAbsolute {host : Host} {config : Config}
    (h : host.surroundingConfig = .ok config) : config.xmlPath.isAbsolute = true := by
  rw [surroundingConfig_eq, ConfigRequest.outcome_eq_iff_configures] at h
  cases h with
  | found _ _ _ _ _ _ htarget =>
    obtain ⟨_, -, hcanonical⟩ := canonicalSaid_eq_ok_iff.mp htarget
    exact canonical_isAbsolute hcanonical

/-- Induction on the row. -/
theorem xmlPath_isAbsolute_of_settled {history : List (Host × CheckedDefinition)} {config : Config}
    {documents : Option (List InterfaceDocument)} (h : settled? history = some (config, documents)) :
    config.xmlPath.isAbsolute = true := by
  induction history with
  | nil => cases h
  | cons event rest ih =>
    obtain ⟨host, d⟩ := event
    cases hconfig : host.surroundingConfig with
    | error fault =>
      rw [settled?_cons_of_error hconfig] at h
      exact ih h
    | ok found =>
      rw [settled?_cons_of_ok hconfig] at h
      obtain ⟨rfl, -⟩ := Prod.mk.inj (Option.some.inj h)
      exact Host.xmlPath_isAbsolute hconfig

/-! ## Whole runs -/

/-- What holds of the validator `kept` that is left of the surroundings after the definitions
`past`. Hosts are arbitrary throughout: between two definitions the files, the working directory, the
variables and the configuration file may have changed in any way. -/
structure SettlesConfig (past : List (Host × CheckedDefinition)) (kept : Option Validator) :
    Prop where
  /-- There is one from the first host on that gave a configuration, with this configuration, and
  with the documents that were loaded first since, if any were. -/
  state : kept.map Validator.memory = settled? past
  /-- As long as there is none each definition asks for the configuration afresh. If that fails there
  is still none. -/
  failed : kept = none → ∀ (d : CheckedDefinition) (host : Host) fault,
    host.surroundingConfig = .error fault → d.outcome host kept = (.error (.config fault), none)
  /-- If it works the definition is checked under this configuration, without documents. -/
  made : kept = none → ∀ (d : CheckedDefinition) (host : Host) config,
    host.surroundingConfig = .ok config →
    d.outcome host kept = d.outcomeBy ⟨config, d.classes.wire, none⟩ host
  /-- From then on definitions are checked as by a validator with this configuration and the documents
  that there are, whatever the host would say. -/
  used : ∀ v, kept = some v → ∀ (d : CheckedDefinition) (host : Host),
    d.outcome host kept = d.outcomeBy ⟨v.config, d.classes.wire, v.documents⟩ host
  /-- The configuration stays for ever, and so do the documents once there are any. -/
  fixed : ∀ v, kept = some v → ∀ future,
    (definitionOutcomes kept future).2.map Validator.memory
      = some (v.config, v.documents.or (firstDocuments? v.config future))
  /-- Nothing of later hosts counts but the documents under this configuration. -/
  lasting : ∀ v, kept = some v → ∀ future other, future.map v.sees = other.map v.sees →
    definitionOutcomes kept future = definitionOutcomes kept other
  /-- And nothing counts for these but the files: neither the working directory nor the variables. -/
  surroundings : ∀ v, kept = some v → ∀ host other, host.files = other.files →
    v.documentsOn host = v.documentsOn other
  /-- Once there are documents not even the files count. -/
  loaded : ∀ v documents, kept = some v → v.documents = some documents → ∀ host,
    v.documentsOn host = .ok documents

/-- An absolute directory holds the same documents, wherever one works. -/
theorem documentsOn_eq_of_files {v : Validator} (habsolute : v.config.xmlPath.isAbsolute = true)
    {host other : Host} (hfiles : host.files = other.files) :
    v.documentsOn host = v.documentsOn other := by
  have hload : host.documentsOf v.config = other.documentsOf v.config :=
    Host.loadDocuments_eq_of_files hfiles v.config.filePattern habsolute
  simp only [Validator.documentsOn, hload]

/-- **The configuration is settled once.** After any definitions on any hosts, the validator of the
surroundings has the configuration of the first host that gave one, and keeps it. -/
theorem definitions_settle_config (past : List (Host × CheckedDefinition)) :
    SettlesConfig past (definitionOutcomes none past).2 := by
  have hstate := definitionOutcomes_none_memory past
  generalize (definitionOutcomes none past).2 = kept at hstate
  exact
    { state := hstate
      failed := by
        rintro rfl d host fault h
        exact CheckedDefinition.outcome_none_of_error h
      made := by
        rintro rfl d host config h
        exact CheckedDefinition.outcome_none_of_ok h
      used := by
        rintro v rfl d host
        exact d.outcome_some host v
      fixed := by
        rintro v rfl future
        exact definitionOutcomes_some_memory v future
      lasting := by
        rintro v rfl future other hsees
        exact definitionOutcomes_eq_of_sees (.refl v) hsees
      surroundings := by
        rintro v rfl host other hfiles
        exact documentsOn_eq_of_files (xmlPath_isAbsolute_of_settled hstate.symm) hfiles
      loaded := by
        rintro v documents rfl h host
        exact Validator.documentsOn_of_documents h host }

/-! ### A definition that fails and settles the configuration -/

section Nameless

open Validator (bareHost emptyHost usualConfig)

/-- Where there is no directory there is no configuration. -/
theorem surroundingConfig_bareHost : bareHost.surroundingConfig = .error (.noXmlPath ⟨"/", []⟩) := by
  have hnone (name : String) (hname : IsProperName name) :
      bareHost.configRequest.holds name = .ok false := Host.isPresent_ofName_of_none hname rfl
  have hfile : bareHost.configRequest.CountsAsFile .default := .absent (hnone _ (by decide))
  have hnothing : bareHost.configRequest.NothingDecides .default :=
    ⟨rfl, ⟨rfl, rfl⟩, hnone _ (by decide), hnone _ (by decide)⟩
  rw [Host.surroundingConfig_eq]
  exact ConfigRequest.outcome_of_configures (.nowhere _ hfile hnothing)

/-- A directory of a usual name makes one. -/
theorem surroundingConfig_emptyHost : emptyHost.surroundingConfig = .ok usualConfig := by
  have hentry : emptyHost.files.entry? [lowerName] = some .directory := by decide
  have hfile : emptyHost.configRequest.CountsAsFile .default :=
    .absent (Host.isPresent_ofName_of_none (by decide) (by decide))
  have hupper : emptyHost.configRequest.holds upperName = .ok false :=
    Host.isPresent_ofName_of_none (by decide) (by decide)
  have hlower : emptyHost.configRequest.holds lowerName = .ok true :=
    Host.isPresent_ofName_of_some (by decide) hentry nofun
  have hsees : emptyHost.configRequest.Sees .default := by
    rintro - fault (h | ⟨there, hthere, h⟩)
    · cases hlower.symm.trans h
    · cases hupper.symm.trans h
  have hpath : emptyHost.configRequest.Decides .default ⟨"", [lowerName]⟩ :=
    .lower rfl ⟨rfl, rfl⟩ hupper hlower
  have htarget : emptyHost.configRequest.target ⟨"", [lowerName]⟩ = .ok (.ofName lowerName) :=
    ConfigRequest.target_ofName rfl (by decide) hentry nofun
  rw [Host.surroundingConfig_eq]
  exact ConfigRequest.outcome_of_configures (.found _ _ _ hfile hsees hpath htarget)

/-- A shape without a name of its own, with or without a member that it stands for. -/
def listDefinition (member : Option String) : CheckedDefinition :=
  ⟨[], .applied "list" true (.builtin "list") [.cls (.builtin "int")], ⟨.signalBody, member, none⟩⟩

/-- The first definition finds no configuration. The second one finds it, and fails for want of a
name. The third one is checked under that configuration, although by then the host would not give
one any more. -/
theorem listDefinition_outcomes :
    (definitionOutcomes none [(bareHost, listDefinition none), (emptyHost, listDefinition none),
        (bareHost, listDefinition (some "Listed"))]).1
      = [.error (.config (.noXmlPath ⟨"/", []⟩)), .error (.validation (.nameless "list[int]")),
          .error (.validation (.loading (.noDirectory (.ofName "xml"))))] := by
  let asked : Validator := ⟨usualConfig, Classes.wire [], none⟩
  have hfirst := (definitions_settle_config []).failed rfl (listDefinition none) bareHost _
    surroundingConfig_bareHost
  have hsecond := (definitions_settle_config []).made rfl (listDefinition none) emptyHost _
    surroundingConfig_emptyHost
  have hnameless : (listDefinition none).outcomeBy asked emptyHost
      = (.error (.validation (.nameless "list[int]")), some asked) := by rfl
  have hload : asked.load bareHost = (.error (.noDirectory (.ofName "xml")), asked) :=
    Validator.load_of_error rfl Validator.documentsOf_bareHost
  have hready : Validator.prepare [] asked.reflect (listDefinition none).shape (some "Listed")
      = .ok ("list[int]", "ai") := by rfl
  have hunloaded : (listDefinition (some "Listed")).outcomeBy asked bareHost
      = (.error (.validation (.loading (.noDirectory (.ofName "xml")))), some asked) := by
    simp only [listDefinition] at hready
    simp only [CheckedDefinition.outcomeBy, listDefinition, Validator.validateType,
      Validator.validate_eq, hready, Validator.validateSignature_eq, hload]
    rfl
  have hthird : (listDefinition (some "Listed")).outcome bareHost (some asked)
      = (listDefinition (some "Listed")).outcomeBy asked bareHost :=
    CheckedDefinition.outcome_some _ _ _
  -- before the first definition there is no validator
  have hnone : (definitionOutcomes none []).2 = none := rfl
  rw [hnone] at hfirst hsecond
  have hsecond' := hsecond.trans hnameless
  have hthird' := hthird.trans hunloaded
  simp only [definitionOutcomes, hfirst, hsecond', hthird']

end Nameless

end BusContract
