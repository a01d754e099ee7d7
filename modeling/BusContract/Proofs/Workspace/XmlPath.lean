import BusContract.Proofs.Workspace.Precedence

/-!
# The directory of the documents

Once it is known what the configuration file says, the directory of the documents is the canonical form of
the path that decides. Asked for by itself it is the one of a file that says nothing.

* `ConfigRequest.xmlPathWith_of_decides`: where something decides, only where its path leads counts.
* `ConfigRequest.xmlPathWith_eq_ok_iff`: the directory that comes out.
-/

namespace BusContract

/-! ## The steps of a configuration -/

namespace Host

variable {host : Host} {argument : Option WidePath} {directory : FilePath}
  {environment : List (String × WideText)}

/-- The directory of the documents, once it is known what the configuration file says. -/
def xmlPathWith (host : Host) (file : ConfigFile) (argument : Option WidePath)
    (directory : FilePath) (environment : List (String × WideText)) : Except ConfigFault FilePath :=
  host.resolveXmlPath (argument.or ((file.xmlPath.map WidePath.ofText).map directory.wide.join))
    directory environment

/-- A configuration file that says nothing is as good as none. -/
theorem xmlPathWith_default :
    host.xmlPathWith .default argument directory environment
      = host.resolveXmlPath argument directory environment := by
  rw [xmlPathWith, ConfigFile.default, Option.map_none, Option.map_none, Option.or_none]

/-- Where there is no configuration file the one that says nothing counts. -/
theorem configFileOf_of_absent (h : host.isPresent (directory.child ConfigFile.fileName) = .ok false) :
    host.configFileOf directory = .ok .default := by
  rw [configFileOf, h]

/-- The file and the directory make the configuration. -/
theorem loadConfig_of_file {file : ConfigFile} (h : host.configFileOf directory = .ok file) :
    host.loadConfig argument directory environment
      = (host.xmlPathWith file argument directory environment).map (⟨·, file.filePattern⟩) := by
  simp only [loadConfig, h, bind, Except.bind, xmlPathWith]
  cases host.resolveXmlPath _ directory environment <;> rfl

/-- Without a file the usual names of documents count. -/
theorem loadConfig_of_path {path : FilePath} (hfile : host.configFileOf directory = .ok .default)
    (hpath : host.resolveXmlPath argument directory environment = .ok path) :
    host.loadConfig argument directory environment = .ok ⟨path, defaultFilePattern⟩ := by
  rw [loadConfig_of_file hfile, xmlPathWith_default, hpath]
  rfl

/-- A fault of the file is one of the configuration. -/
theorem loadConfig_of_error {fault : ConfigFault} (h : host.configFileOf directory = .error fault) :
    host.loadConfig argument directory environment = .error fault := by
  simp only [loadConfig, h, bind, Except.bind]

/-- A fault of looking for a directory of a usual name is passed on. -/
theorem resolveXmlPath_of_error {fault : FileFault}
    (h : host.xmlPathCandidate argument directory environment = .error fault) :
    host.resolveXmlPath argument directory environment = .error (.file fault) := by
  rw [resolveXmlPath, h]

/-- Where nothing is said and nothing is there it is told where one works. -/
theorem resolveXmlPath_of_none
    (h : host.xmlPathCandidate argument directory environment = .ok none) :
    host.resolveXmlPath argument directory environment = .error (.noXmlPath directory) := by
  rw [resolveXmlPath, h]

/-- The path that decides is joined to where one works, and a directory comes out if this leads somewhere. -/
theorem toOption_resolveXmlPath {path : WidePath}
    (h : host.xmlPathCandidate argument directory environment = .ok (some path)) :
    (host.resolveXmlPath argument directory environment).toOption
      = (host.canonicalSaid (directory.wide.join path)).toOption := by
  simp only [resolveXmlPath, h]
  rcases host.canonicalSaid (directory.wide.join path) with (⟨flaw, refused⟩ | _ | refused) | canonical
  · cases flaw <;> rfl
  · rfl
  · rfl
  · rfl

/-- A path of characters that leads somewhere. -/
theorem resolveXmlPath_of_canonical {path q : FilePath}
    (h : host.xmlPathCandidate argument directory environment = .ok (some path.wide))
    (hq : host.canonical (directory.join path) = .ok q) :
    host.resolveXmlPath argument directory environment = .ok q := by
  rw [← toOption_eq_some_iff, toOption_resolveXmlPath h, canonicalSaid_join_wide, hq]
  rfl

/-- A path of characters that leads nowhere is a fault of the configuration. -/
theorem resolveXmlPath_of_missing {path refused : FilePath}
    (h : host.xmlPathCandidate argument directory environment = .ok (some path.wide))
    (hrefused : host.canonical (directory.join path) = .error (.refused .missing refused)) :
    host.resolveXmlPath argument directory environment
      = .error (.noSuchXmlPath (directory.join path) .missing refused) := by
  simp only [resolveXmlPath, h, canonicalSaid_join_wide, hrefused, WidePath.wide_join]
  rfl

end Host

/-! ## The path that decides -/

namespace ConfigRequest

variable {r : ConfigRequest} {file : ConfigFile} {path : WidePath} {p : FilePath} {fault : FileFault}

/-- Where nothing decides there is no path that does. -/
theorem NothingDecides.not_decides (h : r.NothingDecides file) : ¬ r.Decides file path := by
  intro hpath
  have hunset := h.unset
  have hargument := h.looks.argument
  have hfile := h.looks.file
  have hupper := h.upper
  have hlower := h.lower
  cases hpath with
  | setting text hset => simp [hset] at hunset
  | argument path _ hgiven => simp [hgiven] at hargument
  | file text _ _ htext => simp [htext] at hfile
  | upper _ _ hthere => simp [hthere] at hupper
  | lower _ _ _ hthere => simp [hthere] at hlower

/-- The directory of the documents, asked for by itself. -/
def xmlPath (r : ConfigRequest) : Except ConfigFault FilePath :=
  r.host.resolveXmlPath r.argument r.directory r.environment

/-- The directory of the documents, once it is known what the configuration file says. -/
def xmlPathWith (r : ConfigRequest) (file : ConfigFile) : Except ConfigFault FilePath :=
  r.host.xmlPathWith file r.argument r.directory r.environment

theorem xmlPathWith_default (r : ConfigRequest) : r.xmlPathWith .default = r.xmlPath :=
  Host.xmlPathWith_default

/-- The outcome is that of the file that counts. -/
theorem outcome_of_countsAsFile (h : r.CountsAsFile file) :
    r.outcome = (r.xmlPathWith file).map (⟨·, file.filePattern⟩) :=
  Host.loadConfig_of_file (configFileOf_of_countsAsFile h)

/-- A directory of a usual name that cannot be looked for. -/
theorem xmlPathWith_of_usualFault (hlooks : r.LooksForUsual file) (h : r.UsualFault fault) :
    r.xmlPathWith file = .error (.file fault) :=
  Host.resolveXmlPath_of_error (candidate_of_usualFault hlooks h)

/-- No path at all. -/
theorem xmlPathWith_of_nothingDecides (h : r.NothingDecides file) :
    r.xmlPathWith file = .error (.noXmlPath r.directory) :=
  Host.resolveXmlPath_of_none (candidate_of_nothingDecides h)

/-- The path that decides is settled. -/
theorem xmlPathWith_of_decides (hsees : r.Sees file) (hpath : r.Decides file path) :
    r.xmlPathWith file = r.settle path := by
  obtain ⟨taken, hcandidate, htaken⟩ := candidate_of_decides hsees hpath
  rw [candidate, argumentWith] at hcandidate
  -- wherever the path leads, the cases are the same on both sides
  rcases hled : r.host.canonicalSaid (r.directory.wide.join path) with
    (⟨_ | _ | _ | _ | _, refused⟩ | _ | _) | canonical <;>
    simp only [xmlPathWith, Host.xmlPathWith, Host.resolveXmlPath, hcandidate, htaken, settle, target, hled]

/-- To settle a path is to follow it. -/
theorem settle_eq_ok_iff : r.settle path = .ok p ↔ r.target path = .ok p := by
  unfold settle
  -- faults are told in different ways, but none of them is a directory
  rcases r.target path with (⟨flaw, refused⟩ | _ | _) | canonical
  · cases flaw <;> simp
  · simp
  · simp
  · simp

/-- A directory comes out if the one that decides can be told, and leads somewhere. -/
theorem xmlPathWith_eq_ok_iff :
    r.xmlPathWith file = .ok p ↔
      ∃ path, r.Sees file ∧ r.Decides file path ∧ r.target path = .ok p := by
  constructor
  · intro h
    -- only in the last of the three cases is there a path at all
    rcases r.decision file with ⟨hlooks, fault, hfault⟩ | hnothing | ⟨hsees, path, hpath⟩
    · rw [xmlPathWith_of_usualFault hlooks hfault] at h
      cases h
    · rw [xmlPathWith_of_nothingDecides hnothing] at h
      cases h
    · rw [xmlPathWith_of_decides hsees hpath, settle_eq_ok_iff] at h
      exact ⟨path, hsees, hpath, h⟩
  · rintro ⟨path, hsees, hpath, h⟩
    rw [xmlPathWith_of_decides hsees hpath, settle_eq_ok_iff]
    exact h

/-- Nothing is given, and one works in the root. -/
def topRequest (host : Host) : ConfigRequest := ⟨host, none, .top, [], by decide⟩

end ConfigRequest

end BusContract
