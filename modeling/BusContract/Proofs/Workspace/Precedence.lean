import BusContract.Proofs.Files.Names
import BusContract.Proofs.Workspace.Rules

/-!
# What decides where the documents are

At most one file counts and at most one path decides. So a configuration is settled by the pattern
of the file and by where the path leads, and by nothing else: whatever comes after that path in the
order of the rules may be there or not, and may lead anywhere.

* **`loadConfig_precedence`**: this, for all hosts, arguments, directories and variables.
* `loadConfig_linkLoop`, `loadConfig_unseenUsual`: faults that are none of the configuration are
  met.
-/

namespace BusContract

namespace ConfigRequest

variable {r : ConfigRequest} {file : ConfigFile} {path : WidePath}

/-! ## One file and one path -/

/-- There is one file that counts. -/
theorem CountsAsFile.unique {file' : ConfigFile} (h : r.CountsAsFile file)
    (h' : r.CountsAsFile file') : file = file' := by
  have hfile := (configFileOf_of_countsAsFile h).symm.trans (configFileOf_of_countsAsFile h')
  exact Except.ok.inj hfile

/-- At most one path decides. Each rule excludes those before it. -/
theorem Decides.unique {path' : WidePath} (h : r.Decides file path) (h' : r.Decides file path') :
    path = path' := by
  -- each source needs the higher ones to be absent, so two different ones exclude each other
  cases h with
  | setting text h =>
    cases h' with
    | setting _ h' => rw [Option.some.inj (h.symm.trans h')]
    | argument _ hunset _ => simp [hunset] at h
    | file _ hunset _ _ => simp [hunset] at h
    | upper hunset _ _ => simp [hunset] at h
    | lower hunset _ _ _ => simp [hunset] at h
  | argument _ hunset h =>
    cases h' with
    | setting _ h' => simp [hunset] at h'
    | argument _ _ h' => exact Option.some.inj (h.symm.trans h')
    | file _ _ hnone _ => simp [hnone] at h
    | upper _ hlooks _ => simp [hlooks.argument] at h
    | lower _ hlooks _ _ => simp [hlooks.argument] at h
  | file text hunset hnone h =>
    cases h' with
    | setting _ h' => simp [hunset] at h'
    | argument _ _ h' => simp [hnone] at h'
    | file _ _ _ h' => rw [Option.some.inj (h.symm.trans h')]
    | upper _ hlooks _ => simp [hlooks.file] at h
    | lower _ hlooks _ _ => simp [hlooks.file] at h
  | upper hunset hlooks h =>
    cases h' with
    | setting _ h' => simp [hunset] at h'
    | argument _ _ h' => simp [hlooks.argument] at h'
    | file _ _ _ h' => simp [hlooks.file] at h'
    | upper => rfl
    | lower _ _ hupper _ => simp [hupper] at h
  | lower hunset hlooks hupper h =>
    cases h' with
    | setting _ h' => simp [hunset] at h'
    | argument _ _ h' => simp [hlooks.argument] at h'
    | file _ _ _ h' => simp [hlooks.file] at h'
    | upper _ _ h' => simp [hupper] at h'
    | lower => rfl

/-- A path of characters leads where it does. -/
theorem target_wide (r : ConfigRequest) (path : FilePath) :
    r.target path = (r.host.canonical (r.directory.join path)).mapError FileFault.said :=
  Host.canonicalSaid_join_wide r.directory path

/-- Seen from the root, the name of something that is no link stays what it is. -/
theorem target_ofName {name : String} {entry : FileEntry} (hdirectory : r.directory = .top)
    (hname : IsProperName name) (hentry : r.host.files.entry? [name] = some entry)
    (hlink : ∀ target, entry ≠ .link target) : r.target ⟨"", [name]⟩ = .ok (.ofName name) := by
  have hcanonical := Host.canonical_ofName_of_some hname hentry hlink
  have hpath : (⟨"", [name]⟩ : WidePath) = FilePath.wide ⟨"", [name]⟩ := rfl
  have hjoin : FilePath.top.join ⟨"", [name]⟩ = .ofName name := rfl
  rw [hpath, target_wide, hdirectory, hjoin, hcanonical]
  rfl

/-- Where something decides, a configuration is had exactly if the path leads somewhere. -/
theorem outcome_eq_ok_iff (hfile : r.CountsAsFile file) (hsees : r.Sees file)
    (hpath : r.Decides file path) {config : Config} :
    r.outcome = .ok config ↔
      r.target path = .ok config.xmlPath ∧ config.filePattern = file.filePattern := by
  constructor
  · intro h
    rw [outcome_eq_iff_configures] at h
    -- the rule speaks of a file and a path of its own, but there is only one of each
    cases h with
    | found file' path' canonical hfile' _ hpath' h =>
      obtain rfl := hfile.unique hfile'
      obtain rfl := hpath.unique hpath'
      exact ⟨h, rfl⟩
  · rintro ⟨htarget, hpattern⟩
    rw [outcome_of_configures (.found file path config.xmlPath hfile hsees hpath htarget),
      ← hpattern]

/-! ## Precedence -/

/-- What decides about a configuration, and what does not. -/
structure KeepsPrecedence (r : ConfigRequest) : Prop where
  /-- The rules leave nothing out and nothing open. -/
  rules : ∀ o, r.outcome = o ↔ r.Configures o
  /-- A file that is there and does not load decides before anything else is asked. -/
  badFile : ∀ fault, r.holds ConfigFile.fileName = .ok true →
    r.host.loadConfigFile (r.directory.child ConfigFile.fileName) = .error fault →
    ∀ argument environment,
      r.host.loadConfig argument r.directory environment = .error fault
  oneFile : ∀ file file', r.CountsAsFile file → r.CountsAsFile file' → file = file'
  onePath : ∀ file path path', r.Decides file path → r.Decides file path' → path = path'
  /-- Where something decides the configuration consists of the canonical form of that path and of
  the pattern of the file. -/
  found : ∀ file path, r.CountsAsFile file → r.Sees file → r.Decides file path → ∀ config,
    r.outcome = .ok config ↔
      r.target path = .ok config.xmlPath ∧ config.filePattern = file.filePattern
  /-- If it leads nowhere no other path is tried, and the fault is about this one. It is one of the
  configuration unless the path meets a loop of links, or holds a character that no path may hold or
  half of a surrogate pair that the system cannot be given. -/
  told : ∀ file path, r.CountsAsFile file → r.Sees file → r.Decides file path → ∀ fault,
    r.outcome = .error fault →
      (fault.isOfConfig = true ↔
        ∃ flaw refused, flaw ≠ .tooManyLinks ∧ r.target path = .error (.refused flaw refused)
          ∧ fault = .noSuchXmlPath (r.directory.wide.join path) flaw refused)
  /-- An empty text says the directory one works in, also as the value of the variable. -/
  empty : r.directory.wide.join (.ofText "") = r.directory
  /-- Nothing else counts: where the paths that decide lead to the same, and the files have the same
  pattern, the configuration is the same, and the fault is if the path is. -/
  independent : ∀ (s : ConfigRequest) file file' path path', r.CountsAsFile file → r.Sees file →
    r.Decides file path → s.CountsAsFile file' → s.Sees file' → s.Decides file' path' →
    file.filePattern = file'.filePattern → r.target path = s.target path' →
    r.outcome.toOption = s.outcome.toOption
      ∧ (r.directory.wide.join path = s.directory.wide.join path' → r.outcome = s.outcome)

/-- Where something decides, a fault is told as one of the configuration exactly if the path leads nowhere,
and not if it leads in a circle. -/
theorem told_of_decides (hfile : r.CountsAsFile file) (hsees : r.Sees file)
    (hpath : r.Decides file path) {fault : ConfigFault} (h : r.outcome = .error fault) :
    fault.isOfConfig = true ↔
      ∃ flaw refused, flaw ≠ .tooManyLinks ∧ r.target path = .error (.refused flaw refused)
        ∧ fault = .noSuchXmlPath (r.directory.wide.join path) flaw refused := by
  constructor
  · intro hconfig
    rw [outcome_of_decides hfile hsees hpath, settle] at h
    -- resolving decides alone; a link loop is the one refusal that is not told
    cases htarget : r.target path with
    | ok canonical => simp [htarget, Except.map] at h
    | error cause =>
      cases cause with
      | nullCharacter =>
        rw [htarget] at h
        obtain rfl := Except.error.inj h
        cases hconfig
      | unencodable refused =>
        rw [htarget] at h
        obtain rfl := Except.error.inj h
        cases hconfig
      | refused flaw refused =>
        rw [htarget] at h
        cases flaw with
        | tooManyLinks =>
          obtain rfl := Except.error.inj h
          cases hconfig
        | _ => exact ⟨_, _, by simp, rfl, (Except.error.inj h).symm⟩
  · rintro ⟨flaw, refused, -, -, rfl⟩
    rfl

/-- What does not decide makes no difference. -/
theorem independent_of_decides {s : ConfigRequest} {file' : ConfigFile} {path' : WidePath}
    (hfile : r.CountsAsFile file) (hsees : r.Sees file) (hpath : r.Decides file path)
    (hfile' : s.CountsAsFile file') (hsees' : s.Sees file') (hpath' : s.Decides file' path')
    (hpattern : file.filePattern = file'.filePattern) (htarget : r.target path = s.target path') :
    r.outcome.toOption = s.outcome.toOption
      ∧ (r.directory.wide.join path = s.directory.wide.join path' → r.outcome = s.outcome) := by
  rw [outcome_of_decides hfile hsees hpath, outcome_of_decides hfile' hsees' hpath', hpattern]
  simp only [settle, htarget]
  constructor
  · rcases s.target path' with (⟨flaw, refused⟩ | _ | refused) | canonical
    · cases flaw <;> rfl
    · rfl
    · rfl
    · rfl
  · intro hjoin
    rw [hjoin]

/-- **What decides about a configuration.** -/
theorem loadConfig_precedence (r : ConfigRequest) : r.KeepsPrecedence where
  rules _ := outcome_eq_iff_configures
  badFile _ h hload argument environment :=
    outcome_of_badFile (r := { r with argument := argument, environment := environment }) h hload
  oneFile _ _ h h' := h.unique h'
  onePath _ _ _ h h' := h.unique h'
  found _ _ hfile hsees hpath _ := outcome_eq_ok_iff hfile hsees hpath
  told _ _ hfile hsees hpath _ := told_of_decides hfile hsees hpath
  empty := WidePath.join_ofText_empty r.directory
  independent _ _ _ _ _ hfile hsees hpath hfile' hsees' hpath' hpattern htarget :=
    independent_of_decides hfile hsees hpath hfile' hsees' hpath' hpattern htarget

/-! ### A variable that is set -/

/-- The path of the documents in the requests below. -/
def docs : WidePath := ⟨"", ["docs"]⟩

/-- The variable says the documents are in a directory that exists, among other things. -/
def docsRequest (argument : Option WidePath) (others : List (Place × FileEntry)) : ConfigRequest :=
  ⟨⟨⟨(["docs"], .directory) :: others⟩, [], []⟩, argument, ⟨"/", []⟩, [(xmlPathVariable, "docs")],
    by decide⟩

/-- The variable decides, whatever else is there. -/
theorem decides_docsRequest (argument : Option WidePath) (others : List (Place × FileEntry))
    (file : ConfigFile) : (docsRequest argument others).Decides file docs := by
  have hdocs : docs = .ofText "docs" := by decide
  rw [hdocs]
  exact .setting "docs" rfl

/-- It leads to the directory. -/
theorem target_docsRequest (argument : Option WidePath) (others : List (Place × FileEntry)) :
    (docsRequest argument others).target docs = .ok (.ofName "docs") :=
  target_ofName rfl (by decide) (show _ = some FileEntry.directory from rfl) nofun

/-- Directories of a usual name make no difference to an argument that leads nowhere, nor does this
argument, as long as the variable is set. -/
theorem outcome_docsRequest :
    let given := docsRequest (some ⟨"", ["elsewhere"]⟩) []
    let usual := docsRequest none [(["XML"], .directory), (["xml"], .directory)]
    given.outcome = .ok ⟨.ofName "docs", defaultFilePattern⟩ ∧ usual.outcome = given.outcome := by
  intro given usual
  have hgiven : given.CountsAsFile .default :=
    .absent (Host.isPresent_ofName_of_none (by decide) (by decide))
  have husual : usual.CountsAsFile .default :=
    .absent (Host.isPresent_ofName_of_none (by decide) (by decide))
  have hsees : given.Sees .default := fun hlooks => nomatch hlooks.argument
  have hlower : usual.holds lowerName = .ok true :=
    Host.isPresent_ofName_of_some (by decide) (show _ = some FileEntry.directory from rfl) nofun
  have hupper : usual.holds upperName = .ok true :=
    Host.isPresent_ofName_of_some (by decide) (show _ = some FileEntry.directory from rfl) nofun
  have hsees' : usual.Sees .default := by
    rintro - fault (h | ⟨there, hthere, h⟩)
    · cases hlower.symm.trans h
    · cases hupper.symm.trans h
  have hpath := decides_docsRequest (some ⟨"", ["elsewhere"]⟩) [] .default
  have hpath' := decides_docsRequest none [(["XML"], .directory), (["xml"], .directory)] .default
  have htarget := target_docsRequest (some ⟨"", ["elsewhere"]⟩) []
  have htarget' := target_docsRequest none [(["XML"], .directory), (["xml"], .directory)]
  constructor
  · exact ((loadConfig_precedence given).found _ _ hgiven hsees hpath _).mpr ⟨htarget, rfl⟩
  · -- the paths that decide are the same, and so is where they lead
    have hsame := (loadConfig_precedence usual).independent given _ _ _ _ husual hsees' hpath' hgiven
      hsees hpath rfl (htarget'.trans htarget.symm)
    exact hsame.2 rfl

/-! ### Faults that are none of the configuration -/

/-- The argument is a link that leads back to itself. -/
def loopRequest : ConfigRequest :=
  ⟨⟨⟨[(["loop"], .link "loop")]⟩, [], []⟩, some ⟨"", ["loop"]⟩, ⟨"/", []⟩, [], by decide⟩

/-- The link leads in a circle. -/
theorem target_loopRequest :
    loopRequest.target ⟨"", ["loop"]⟩ = .error (.refused .tooManyLinks (FilePath.ofName "loop")) := by
  have hcanonical : loopRequest.host.canonical (.ofName "loop")
      = .error (.refused .tooManyLinks (.ofName "loop")) :=
    Host.canonical_ofName_of_loop (by decide) (show _ = some (FileEntry.link "loop") from rfl)
  rw [show (⟨"", ["loop"]⟩ : WidePath) = FilePath.wide ⟨"", ["loop"]⟩ from rfl, target_wide]
  exact congrArg (Except.mapError _) hcanonical

/-- The path that decides leads nowhere, and the fault is none of the configuration. -/
theorem loadConfig_linkLoop :
    loopRequest.CountsAsFile .default ∧ loopRequest.Decides .default ⟨"", ["loop"]⟩
      ∧ loopRequest.holds "loop" = .ok false
      ∧ loopRequest.outcome = .error (.linkLoop (FilePath.ofName "loop"))
      ∧ (ConfigFault.linkLoop (FilePath.ofName "loop")).isOfConfig = false := by
  have hfile : loopRequest.CountsAsFile .default :=
    .absent (Host.isPresent_ofName_of_none (by decide) (by decide))
  have hpath : loopRequest.Decides .default ⟨"", ["loop"]⟩ := .argument _ rfl rfl
  have hsees : loopRequest.Sees .default := fun hlooks => nomatch hlooks.argument
  have hlink : loopRequest.host.files.entry? ["loop"] = some (.link "loop") := rfl
  have hnowhere : loopRequest.holds "loop" = .ok false :=
    Host.isPresent_ofName_of_loop (by decide) hlink
  exact ⟨hfile, hpath, hnowhere,
    outcome_of_configures (.loop _ _ _ hfile hsees hpath target_loopRequest), rfl⟩

/-- The variable decides, and where it leads is no secret, but a link of a usual name is in the
way. -/
theorem loadConfig_unseenUsual :
    let blocked := docsRequest none [(["xml"], .link (letters 256))]
    blocked.CountsAsFile .default ∧ blocked.Decides .default docs
      ∧ blocked.target docs = .ok (.ofName "docs")
      ∧ blocked.outcome = .error (.file (.refused .nameTooLong (.ofName "xml"))) := by
  intro blocked
  have hfile : blocked.CountsAsFile .default :=
    .absent (Host.isPresent_ofName_of_none (by decide) (by decide))
  have hlong : longestName < (letters 256).utf8ByteSize := by
    rw [utf8ByteSize_letters, longestName]
    omega
  have hunseen : blocked.holds lowerName = .error (.refused .nameTooLong (.ofName "xml")) :=
    Host.isPresent_ofName_of_long (by decide) rfl (slash_not_mem_letters 256) hlong
  have houtcome := outcome_of_configures (.unseenUsual _ _ hfile ⟨rfl, rfl⟩ (.lower _ hunseen))
  exact ⟨hfile, decides_docsRequest _ _ _, target_docsRequest _ _, houtcome⟩

end ConfigRequest

end BusContract
