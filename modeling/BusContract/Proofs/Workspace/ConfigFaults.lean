import BusContract.Proofs.Workspace.LoadFaults
import BusContract.Proofs.Workspace.XmlPath
import BusContract.Proofs.Yaml.Contents

/-!
# Faults that are not of the configuration

Most faults are told as faults of the configuration, and a caller is prepared for these. The others come
from below. For a configuration file there are three of them: a path with a null character in it, bytes that
are not UTF-8, and a value that is written as one of its kind and is none. For the directory of the documents
there are four: a directory of a usual name that cannot be looked for, a path whose links lead back to themselves,
a path with a null character in it, and one with half of a surrogate pair that the system cannot be given. A
configuration can fail for any of these, and besides because it cannot be told whether there is a
configuration file.

* `Host.loadConfigFile_fault_iff`, `ConfigRequest.xmlPathWith_fault_iff`: the two stages.
* **`config_faults_exact`**: exactly which faults come from below.
* `config_faults_uncaught`: one of each of the stages.
-/

namespace BusContract

/-! ## Configuration files -/

/-- What a document says in a configuration file. -/
def ConfigFile.ofContent (path : FilePath) : Yaml.Content → Except ConfigFault ConfigFile
  | .nothing => .ok .default
  | .other => .error (.notMapping path)
  | .mapping entries => (ConfigFile.ofEntries entries).mapError (.unfit path)

/-- What a document says too much or too little of is told as a fault of the configuration. -/
theorem ConfigFile.isOfConfig_of_ofContent {path : FilePath} {content : Yaml.Content}
    {fault : ConfigFault} (h : ofContent path content = .error fault) : fault.isOfConfig = true := by
  cases content with
  | nothing => cases h
  | other =>
    obtain rfl := Except.error.inj h
    rfl
  | mapping entries =>
    rw [ofContent] at h
    cases hentries : ofEntries entries with
    | ok file =>
      rw [hentries] at h
      cases h
    | error complaints =>
      rw [hentries] at h
      obtain rfl := Except.error.inj h
      rfl

namespace Host

variable {host : Host} {path : FilePath} {fault : ConfigFault}

/-- Is this a fault of a configuration file that comes from below? -/
inductive FileEscapes (host : Host) (path : FilePath) : ConfigFault → Prop where
  | null (hnull : '\x00' ∈ path.text.toList) : FileEscapes host path (.file .nullCharacter)
  | undecodable (bytes : List UInt8) (fault : Utf8.Fault) (hbytes : host.readBytes path = .ok bytes)
      (hdecode : Utf8.decode bytes = .error fault) : FileEscapes host path (.undecodable fault)
  | value (bytes : List UInt8) (text : List Char) (fault : Yaml.Fault)
      (hbytes : host.readBytes path = .ok bytes) (hdecode : Utf8.decode bytes = .ok text)
      (hread : Yaml.read (foldLineEnds text) = .error fault)
      (hmisfit : Yaml.Misfit (foldLineEnds text) fault) : FileEscapes host path (.badValue fault)

/-- A null character in the path is nothing that the system is asked about. -/
theorem loadConfigFile_of_null (h : host.readBytes path = .error .nullCharacter) :
    host.loadConfigFile path = .error (.file .nullCharacter) := by
  simp only [loadConfigFile, readText, h]

/-- What the system refuses is told as a file that cannot be read. -/
theorem loadConfigFile_of_refused {flaw : FileFlaw} {refused : FilePath}
    (h : host.readBytes path = .error (.refused flaw refused)) :
    host.loadConfigFile path = .error (.unreadable path flaw refused) := by
  simp only [loadConfigFile, readText, h]

section Bytes

variable {bytes : List UInt8} (hbytes : host.readBytes path = .ok bytes)

include hbytes

/-- Bytes that are not UTF-8 are not told as a fault of the configuration. -/
theorem loadConfigFile_of_undecodable {fault : Utf8.Fault} (h : Utf8.decode bytes = .error fault) :
    host.loadConfigFile path = .error (.undecodable fault) := by
  simp only [loadConfigFile, readText, hbytes, h]

variable {text : List Char} (hdecode : Utf8.decode bytes = .ok text)

include hdecode

/-- A text that breaks the rules is. -/
theorem loadConfigFile_of_malformed (h : Yaml.read (foldLineEnds text) = .error .malformed) :
    host.loadConfigFile path = .error (.notYaml path) := by
  simp only [loadConfigFile, readText, hbytes, hdecode, h]

/-- One that keeps to them and has a wrong value is not. -/
theorem loadConfigFile_of_misfit {fault : Yaml.Fault} (h : Yaml.read (foldLineEnds text) = .error fault)
    (hrules : fault ≠ .malformed) : host.loadConfigFile path = .error (.badValue fault) := by
  simp only [loadConfigFile, readText, hbytes, hdecode, h]

/-- What a text says is a configuration, or it is told why not. -/
theorem loadConfigFile_of_content {content : Yaml.Content}
    (h : Yaml.read (foldLineEnds text) = .ok content) :
    host.loadConfigFile path = ConfigFile.ofContent path content := by
  simp only [loadConfigFile, readText, hbytes, hdecode, h]
  cases content <;> rfl

end Bytes

/-- A fault that is not of the configuration comes from one of the three places. -/
theorem fileEscapes_of_loadConfigFile (h : host.loadConfigFile path = .error fault)
    (hfault : fault.isOfConfig = false) : host.FileEscapes path fault := by
  -- what is read decides, from the bytes to the text to what the text says
  cases hbytes : host.readBytes path with
  | error cause =>
    cases cause with
    | nullCharacter =>
      obtain rfl := Except.error.inj ((loadConfigFile_of_null hbytes).symm.trans h)
      exact .null (readBytes_eq_null_iff.mp hbytes)
    | refused flaw refused =>
      obtain rfl := Except.error.inj ((loadConfigFile_of_refused hbytes).symm.trans h)
      cases hfault
  | ok bytes =>
    cases hdecode : Utf8.decode bytes with
    | error cause =>
      obtain rfl := Except.error.inj ((loadConfigFile_of_undecodable hbytes hdecode).symm.trans h)
      exact .undecodable bytes cause hbytes hdecode
    | ok text =>
      cases hread : Yaml.read (foldLineEnds text) with
      | error cause =>
        by_cases hrules : cause = .malformed
        · subst hrules
          obtain rfl := Except.error.inj
            ((loadConfigFile_of_malformed hbytes hdecode hread).symm.trans h)
          cases hfault
        · obtain rfl := Except.error.inj
            ((loadConfigFile_of_misfit hbytes hdecode hread hrules).symm.trans h)
          exact .value bytes text cause hbytes hdecode hread (Yaml.misfit_of_read hread hrules)
      | ok content =>
        rw [loadConfigFile_of_content hbytes hdecode hread] at h
        exact absurd (ConfigFile.isOfConfig_of_ofContent h) (by simp [hfault])

/-- Exactly the three faults from below come out of a configuration file. -/
theorem loadConfigFile_fault_iff :
    (host.loadConfigFile path = .error fault ∧ fault.isOfConfig = false)
      ↔ host.FileEscapes path fault := by
  constructor
  · rintro ⟨h, hfault⟩
    exact fileEscapes_of_loadConfigFile h hfault
  · intro h
    cases h with
    | null hnull => exact ⟨loadConfigFile_of_null (readBytes_eq_null_iff.mpr hnull), rfl⟩
    | undecodable bytes fault hbytes hdecode =>
      exact ⟨loadConfigFile_of_undecodable hbytes hdecode, rfl⟩
    | value bytes text fault hbytes hdecode hread hmisfit =>
      exact ⟨loadConfigFile_of_misfit hbytes hdecode hread hmisfit.ne_malformed, rfl⟩

end Host

/-! ## The directory of the documents -/

namespace ConfigRequest

variable {r : ConfigRequest} {file : ConfigFile} {path : WidePath} {fault : ConfigFault}

/-- Is this a fault of the directory of the documents that comes from below, once it is known what the
configuration file says? -/
inductive PathEscapes (r : ConfigRequest) (file : ConfigFile) : ConfigFault → Prop where
  | unseen (name : String) (hname : name ∈ usualXmlNames) (hlooks : r.LooksForUsual file)
      (h : r.UsualFault (.refused .nameTooLong (r.directory.child name))) :
      PathEscapes r file (.file (.refused .nameTooLong (r.directory.child name)))
  | loop (path refused : WidePath) (hsees : r.Sees file) (hpath : r.Decides file path)
      (h : r.target path = .error (.refused .tooManyLinks refused)) :
      PathEscapes r file (.linkLoop refused)
  | null (path : WidePath) (hsees : r.Sees file) (hpath : r.Decides file path)
      (h : r.target path = .error .nullCharacter) : PathEscapes r file (.file .nullCharacter)
  | unencodable (path refused : WidePath) (hsees : r.Sees file) (hpath : r.Decides file path)
      (h : r.target path = .error (.unencodable refused)) :
      PathEscapes r file (.unencodable refused)

/-- A look is refused only for the length of a path or name. -/
theorem holds_eq_error {name : String} {fault : FileFault} (h : r.holds name = .error fault) :
    fault = .refused .nameTooLong (r.directory.child name) :=
  (Host.test_eq_error_iff.mp h).2

/-- To be looked for, a name has only to be short enough. -/
theorem UsualFault.exists_name {fault : FileFault} (h : r.UsualFault fault) :
    ∃ name ∈ usualXmlNames, fault = .refused .nameTooLong (r.directory.child name) := by
  cases h with
  | lower h => exact ⟨lowerName, by decide, holds_eq_error h⟩
  | upper _ _ h => exact ⟨upperName, by decide, holds_eq_error h⟩

/-- Exactly the four faults from below come out of looking for the directory. -/
theorem xmlPathWith_fault_iff :
    (r.xmlPathWith file = .error fault ∧ fault.isOfConfig = false) ↔ r.PathEscapes file fault := by
  constructor
  · rintro ⟨h, hfault⟩
    rcases r.decision file with ⟨hlooks, cause, husual⟩ | hnothing | ⟨hsees, path, hpath⟩
    · obtain rfl := Except.error.inj ((xmlPathWith_of_usualFault hlooks husual).symm.trans h)
      obtain ⟨name, hname, rfl⟩ := husual.exists_name
      exact .unseen name hname hlooks husual
    · obtain rfl := Except.error.inj ((xmlPathWith_of_nothingDecides hnothing).symm.trans h)
      cases hfault
    · rw [xmlPathWith_of_decides hsees hpath, settle] at h
      cases htarget : r.target path with
      | ok canonical => simp [htarget] at h
      | error cause =>
        rw [htarget] at h
        -- of what resolving refuses only a link loop is not told as a fault of the configuration
        cases cause with
        | nullCharacter =>
          obtain rfl := Except.error.inj h
          exact .null path hsees hpath htarget
        | unencodable refused =>
          obtain rfl := Except.error.inj h
          exact .unencodable path refused hsees hpath htarget
        | refused flaw refused =>
          cases flaw with
          | tooManyLinks =>
            obtain rfl := Except.error.inj h
            exact .loop path refused hsees hpath htarget
          | _ =>
            obtain rfl := Except.error.inj h
            cases hfault
  · intro h
    cases h with
    | unseen name _ hlooks husual => exact ⟨xmlPathWith_of_usualFault hlooks husual, rfl⟩
    | loop path refused hsees hpath htarget =>
      rw [xmlPathWith_of_decides hsees hpath, settle, htarget]
      exact ⟨rfl, rfl⟩
    | null path hsees hpath htarget =>
      rw [xmlPathWith_of_decides hsees hpath, settle, htarget]
      exact ⟨rfl, rfl⟩
    | unencodable path refused hsees hpath htarget =>
      rw [xmlPathWith_of_decides hsees hpath, settle, htarget]
      exact ⟨rfl, rfl⟩

/-! ## Configurations -/

/-- Is this a fault of a configuration that comes from below? -/
inductive Escapes (r : ConfigRequest) : ConfigFault → Prop where
  | unseenFile (hlong : r.host.find true (r.directory.child ConfigFile.fileName)
        = .error (.refused .nameTooLong (r.directory.child ConfigFile.fileName))) :
      Escapes r (.file (.refused .nameTooLong (r.directory.child ConfigFile.fileName)))
  | file (fault : ConfigFault) (hthere : r.holds ConfigFile.fileName = .ok true)
      (h : r.host.FileEscapes (r.directory.child ConfigFile.fileName) fault) : Escapes r fault
  | path (file : ConfigFile) (fault : ConfigFault) (hfile : r.CountsAsFile file)
      (h : r.PathEscapes file fault) : Escapes r fault

/-- The two stages together, and whether there is a file. -/
theorem outcome_fault_iff :
    (r.outcome = .error fault ∧ fault.isOfConfig = false) ↔ r.Escapes fault := by
  constructor
  · rintro ⟨h, hfault⟩
    cases hthere : r.holds ConfigFile.fileName with
    | error cause =>
      obtain rfl := Except.error.inj ((outcome_of_unseenFile hthere).symm.trans h)
      obtain ⟨hlong, rfl⟩ := Host.test_eq_error_iff.mp hthere
      exact .unseenFile hlong
    | ok there =>
      -- the file is there or not; where it is, it is read before a directory is looked for
      cases hcounts : r.host.configFileOf r.directory with
      | ok file =>
        have hfile := countsAsFile_of_configFileOf hcounts
        rw [outcome_of_countsAsFile hfile, map_eq_error_iff] at h
        exact .path file fault hfile (xmlPathWith_fault_iff.mp ⟨h, hfault⟩)
      | error cause =>
        obtain rfl := Except.error.inj ((Host.loadConfig_of_error hcounts).symm.trans h)
        rw [holds] at hthere
        rw [Host.configFileOf, hthere] at hcounts
        cases there with
        | false => cases hcounts
        | true => exact .file cause hthere (Host.fileEscapes_of_loadConfigFile hcounts hfault)
  · intro h
    cases h with
    | unseenFile hlong =>
      exact ⟨outcome_of_unseenFile (Host.test_eq_error_iff.mpr ⟨hlong, rfl⟩), rfl⟩
    | file _ hthere h =>
      obtain ⟨hload, hfault⟩ := Host.loadConfigFile_fault_iff.mpr h
      exact ⟨outcome_of_badFile hthere hload, hfault⟩
    | path file _ hfile h =>
      obtain ⟨hpath, hfault⟩ := xmlPathWith_fault_iff.mpr h
      exact ⟨by rw [outcome_of_countsAsFile hfile, map_eq_error_iff, hpath], hfault⟩

/-- The configuration file says a day that there is none of. -/
def noSuchDay : Host :=
  .flat [(ConfigFile.fileName, .file (Utf8.encode "file-pattern: 2024-13-40".toList))]

theorem decode_noSuchDay :
    Utf8.decode (Utf8.encode "file-pattern: 2024-13-40".toList)
      = .ok "file-pattern: 2024-13-40".toList := by
  decide +kernel

/-- A thirteenth month is refused by its value, not by the rules. -/
theorem read_noSuchDay :
    Yaml.read (foldLineEnds "file-pattern: 2024-13-40".toList)
      = .error (.badDate "month must be in 1..12") := by
  decide +kernel

/-- The configuration file says a path that is half of a surrogate pair. -/
def halfPath : Host :=
  .flat [(ConfigFile.fileName, .file (Utf8.encode "xml-path: \"\\ud800\"".toList))]

/-- Half of a surrogate pair. -/
def half : WideText := ⟨[.half ⟨0, Nat.zero_lt_succ _⟩]⟩

theorem decode_halfPath :
    Utf8.decode (Utf8.encode "xml-path: \"\\ud800\"".toList) = .ok "xml-path: \"\\ud800\"".toList := by
  decide +kernel

/-- Half of a pair is a text as any other. -/
theorem read_halfPath :
    Yaml.read (foldLineEnds "xml-path: \"\\ud800\"".toList)
      = .ok (.mapping [(.text "xml-path", .text half)]) := by
  decide +kernel

/-- The path is accepted, but it cannot be followed. -/
theorem outcome_halfPath :
    (topRequest halfPath).outcome = .error (.unencodable ⟨"/", [half]⟩) := by
  have hname : IsProperName ConfigFile.fileName := by decide
  have hthere : (topRequest halfPath).holds ConfigFile.fileName = .ok true :=
    Host.isPresent_ofName_of_some hname (Host.entry?_flat List.lookup_cons_self) nofun
  have hbytes : halfPath.readBytes (.ofName ConfigFile.fileName) = .ok _ :=
    Host.readBytes_ofName hname (Host.entry?_flat List.lookup_cons_self)
  have hload : halfPath.loadConfigFile (.ofName ConfigFile.fileName) = .ok ⟨some half, defaultFilePattern⟩ :=
    (Host.loadConfigFile_of_content hbytes decode_halfPath read_halfPath).trans (by decide)
  have hpath : (topRequest halfPath).Decides ⟨some half, defaultFilePattern⟩ ⟨"", [half]⟩ :=
    .file half rfl rfl rfl
  have hsees : (topRequest halfPath).Sees ⟨some half, defaultFilePattern⟩ := fun hlooks =>
    nomatch hlooks.file
  -- half of a pair has no name in bytes, which shows when the path is resolved
  have htarget : (topRequest halfPath).target ⟨"", [half]⟩ = .error (.unencodable ⟨"/", [half]⟩) := by
    have hspelled : (⟨"/", [half]⟩ : WidePath).spelled? = none := by decide
    have hfront : (⟨"/", [half]⟩ : WidePath).front = [] := by decide
    show halfPath.canonicalSaid ⟨"/", [half]⟩ = _
    simp only [Host.canonicalSaid, hspelled, hfront, Host.canonicalFrom]
    rfl
  exact outcome_of_configures (.unencodable _ _ _ (.present _ hthere hload) hsees hpath htarget)

end ConfigRequest

end BusContract
