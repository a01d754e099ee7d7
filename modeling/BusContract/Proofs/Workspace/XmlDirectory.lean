import BusContract.Proofs.Files.Arrivals
import BusContract.Proofs.Workspace.XmlPath

/-!
# Is the directory of the documents a directory?

The path that decides is taken from wherever it leads to. So something is there, and it is what the path
that decides leads to, whether that is a directory or not. In particular whatever is of a usual name is
taken for a directory: a file of the name that goes first stands in the way of a directory of the other
one.

* `ConfigRequest.xmlPath_of_directory`: where a directory decides, a directory comes out.
* **`ConfigRequest.xmlPath_directory_exact`**: what comes out, and when directories of a usual name do.
* `ConfigRequest.xmlPath_file`: a file that is taken instead of a directory.
-/

namespace BusContract

namespace ConfigRequest

variable {r : ConfigRequest} {file : ConfigFile} {said : WidePath} {path p : FilePath}

/-- Does a name lead to a directory in the directory one works in? -/
def HoldsDirectory (r : ConfigRequest) (name : String) : Prop :=
  r.host.isDirectory (r.directory.child name) = .ok true

/-- A directory is something that is there. -/
theorem HoldsDirectory.holds {name : String} (h : r.HoldsDirectory name) : r.holds name = .ok true := by
  have hfind := Host.isDirectory_eq_ok_true_iff.mp h
  exact Host.test_eq_ok_true_iff.mpr ⟨_, hfind, rfl⟩

/-- The path that decides leads to what is found at the one that comes out. -/
theorem exists_arrives_of_target (h : r.target said = .ok p) :
    ∃ path place entry, said.spelled? = some path ∧ r.host.Arrives (r.directory.join path) p place entry := by
  obtain ⟨_, hspelled, hcanonical⟩ := Host.canonicalSaid_eq_ok_iff.mp h
  rw [WidePath.spelled?_join] at hspelled
  obtain ⟨path, hpath, rfl⟩ := Option.map_eq_some_iff.mp hspelled
  obtain ⟨place, entry, harrives⟩ :=
    Host.exists_arrives (FilePath.isAbsolute_join r.absolute path) hcanonical
  exact ⟨path, place, entry, hpath, harrives⟩

/-- A path of characters leads where it does. -/
theorem target_of_canonical (h : r.host.canonical (r.directory.join path) = .ok p) :
    r.target path = .ok p := by
  rw [target_wide, h]
  rfl

/-- What the path leads to is a directory, or the place has no documents. -/
theorem isDirectory_iff_of_arrives {place : Place} {entry : FileEntry}
    (h : r.host.Arrives (r.directory.join path) p place entry) :
    r.host.isDirectory p = .ok true ↔ entry = .directory := by
  rw [Host.isDirectory_eq_ok_true_iff, h.found]
  exact ⟨Except.ok.inj, congrArg Except.ok⟩

/-- Where a directory decides, a directory comes out, unless its path is too long. -/
theorem xmlPath_of_directory (hsound : r.host.files.Sound) (hsees : r.Sees .default)
    (hpath : r.Decides .default path.wide) (hdirectory : r.host.isDirectory (r.directory.join path) = .ok true)
    (hshort : ∀ refused, r.target path ≠ .error (.refused .nameTooLong refused)) :
    ∃ p, r.xmlPath = .ok p ∧ r.target path = .ok p ∧ r.host.isDirectory p = .ok true := by
  have habsolute := FilePath.isAbsolute_join r.absolute path
  have hfind := Host.isDirectory_eq_ok_true_iff.mp hdirectory
  rcases Host.canonical_of_find hsound habsolute hfind with ⟨p, hcanonical⟩ | ⟨fault, hfault, hlong⟩
  · obtain ⟨place, entry, harrives⟩ := Host.exists_arrives habsolute hcanonical
    have hentry := (harrives.find_eq hsound habsolute hfind).symm
    have htarget := target_of_canonical hcanonical
    refine ⟨p, ?_, htarget, (isDirectory_iff_of_arrives harrives).mpr hentry⟩
    rw [← xmlPathWith_default, xmlPathWith_eq_ok_iff]
    exact ⟨path, hsees, hpath, htarget⟩
  · obtain ⟨refused, -, rfl⟩ := hlong
    refine absurd ?_ (hshort refused)
    rw [target_wide, hfault]
    rfl

/-- Does nothing stand in the way of directories of a usual name: no look that is refused, nothing else of
the name that goes first, and no path that is too long? -/
structure TakesUsual (r : ConfigRequest) : Prop where
  sees : r.Sees .default
  upper : r.holds upperName = .ok true → r.HoldsDirectory upperName
  short : ∀ path, r.Decides .default path →
    ∀ refused, r.target path ≠ .error (.refused .nameTooLong refused)

section Usual

variable (hsound : r.host.files.Sound) (hargument : r.argument = none) (hunset : r.setting = none)

include hsound hargument hunset

/-- If a usual name is that of a directory, one of the two is taken. -/
theorem TakesUsual.xmlPath (h : r.TakesUsual)
    (hdirectory : ∃ name ∈ usualXmlNames, r.HoldsDirectory name) :
    ∃ name ∈ usualXmlNames, ∃ p, r.xmlPath = .ok p ∧ r.target ⟨"", [name]⟩ = .ok p
      ∧ r.host.isDirectory p = .ok true := by
  have hlooks : r.LooksForUsual .default := ⟨hargument, rfl⟩
  obtain ⟨lower, upper, hlower, hupper⟩ := holds_of_sees h.sees hlooks
  cases upper with
  | true =>
    have hpath : r.Decides .default (FilePath.wide ⟨"", [upperName]⟩) := .upper hunset hlooks hupper
    exact ⟨upperName, by decide,
      xmlPath_of_directory hsound h.sees hpath (h.upper hupper) (h.short _ hpath)⟩
  | false =>
    -- the directory is not of the name that goes first, so it is of the other one
    have hlowerDirectory : r.HoldsDirectory lowerName := by
      obtain ⟨name, hname, hdirectory⟩ := hdirectory
      rcases List.mem_pair.mp hname with rfl | rfl
      · exact hdirectory
      · cases hdirectory.holds.symm.trans hupper
    have hpath : r.Decides .default (FilePath.wide ⟨"", [lowerName]⟩) :=
      .lower hunset hlooks hupper hlowerDirectory.holds
    exact ⟨lowerName, by decide,
      xmlPath_of_directory hsound h.sees hpath hlowerDirectory (h.short _ hpath)⟩

/-- A directory that is taken was found under a usual name. -/
theorem takesUsual_of_xmlPath (h : r.xmlPath = .ok p) (hp : r.host.isDirectory p = .ok true) :
    r.TakesUsual := by
  rw [← xmlPathWith_default, xmlPathWith_eq_ok_iff] at h
  obtain ⟨said, hsees, hpath, htarget⟩ := h
  refine ⟨hsees, fun hupper => ?_, fun path' hpath' refused => ?_⟩
  · have hupperPath : r.Decides .default (FilePath.wide ⟨"", [upperName]⟩) :=
      .upper hunset ⟨hargument, rfl⟩ hupper
    obtain rfl := hpath.unique hupperPath
    obtain ⟨path, place, entry, hspelled, harrives⟩ := exists_arrives_of_target htarget
    obtain rfl := Option.some.inj ((WidePath.spelled?_wide _).symm.trans hspelled)
    obtain ⟨entry', hfind, -⟩ := Host.test_eq_ok_true_iff.mp hupper
    have hsame := harrives.find_eq hsound (FilePath.isAbsolute_join r.absolute _) hfind
    rw [hsame, (isDirectory_iff_of_arrives harrives).mp hp] at hfind
    exact Host.isDirectory_eq_ok_true_iff.mpr hfind
  · rw [← hpath.unique hpath', htarget]
    nofun

end Usual

/-- **What comes out is what the path that decides leads to**, so it is a directory exactly if that is one. If
nothing is given and there is a directory of a usual name, then such a directory comes out exactly if
nothing stands in its way. -/
theorem xmlPath_directory_exact (r : ConfigRequest) (hsound : r.host.files.Sound) :
    (∀ p, r.xmlPath = .ok p → ∃ said path place entry, r.Decides .default said
        ∧ said.spelled? = some path ∧ r.host.Arrives (r.directory.join path) p place entry
        ∧ (r.host.isDirectory p = .ok true ↔ entry = .directory)
        ∧ ∀ found, r.host.find true (r.directory.join path) = .ok found → found = entry)
      ∧ (r.argument = none → r.setting = none → (∃ name ∈ usualXmlNames, r.HoldsDirectory name) →
        ((∃ name ∈ usualXmlNames, ∃ p, r.xmlPath = .ok p ∧ r.target ⟨"", [name]⟩ = .ok p
          ∧ r.host.isDirectory p = .ok true) ↔ r.TakesUsual)) := by
  constructor
  · intro p h
    rw [← xmlPathWith_default, xmlPathWith_eq_ok_iff] at h
    obtain ⟨said, -, hpath, htarget⟩ := h
    obtain ⟨path, place, entry, hspelled, harrives⟩ := exists_arrives_of_target htarget
    exact ⟨said, path, place, entry, hpath, hspelled, harrives, isDirectory_iff_of_arrives harrives,
      fun found => harrives.find_eq hsound (FilePath.isAbsolute_join r.absolute path)⟩
  · intro hargument hunset hdirectory
    constructor
    · rintro ⟨name, -, p, h, -, hp⟩
      exact takesUsual_of_xmlPath hsound hargument hunset h hp
    · exact fun h => h.xmlPath hsound hargument hunset hdirectory

/-! ### A directory and a file -/

/-- A directory of the name that goes last is taken where nothing is of the other one. -/
theorem xmlPath_usualDirectory :
    (topRequest (.flat [("xml", .directory)])).HoldsDirectory lowerName
      ∧ ∃ p, (topRequest (.flat [("xml", .directory)])).xmlPath = .ok p
        ∧ (topRequest (.flat [("xml", .directory)])).host.isDirectory p = .ok true := by
  have hsound : (Host.flat [("xml", .directory)]).files.Sound := Host.sound_flat (by decide) (by decide)
  have hentry : (Host.flat [("xml", .directory)]).files.entry? ["xml"] = some .directory :=
    Host.entry?_flat List.lookup_cons_self
  have hlower : (topRequest (.flat [("xml", .directory)])).HoldsDirectory lowerName :=
    Host.isDirectory_eq_ok_true_iff.mpr (Host.find_ofName_of_some (by decide) hentry (.inr nofun))
  have hupper : (topRequest (.flat [("xml", .directory)])).holds upperName = .ok false :=
    Host.isPresent_ofName_of_none (by decide) (by decide)
  have htakes : (topRequest (.flat [("xml", .directory)])).TakesUsual := by
    refine ⟨?_, fun h => absurd (hupper.symm.trans h) nofun, fun path hpath refused h => ?_⟩
    · rintro - fault (h | ⟨there, hthere, h⟩)
      · exact absurd (hlower.holds.symm.trans h) nofun
      · exact absurd (hupper.symm.trans h) nofun
    · obtain rfl := hpath.unique (.lower rfl ⟨rfl, rfl⟩ hupper hlower.holds)
      have htarget := target_ofName (r := topRequest (.flat [("xml", .directory)])) rfl (by decide) hentry nofun
      exact absurd (htarget.symm.trans h) nofun
  obtain ⟨-, husual⟩ := xmlPath_directory_exact (topRequest (.flat [("xml", .directory)])) hsound
  obtain ⟨name, -, p, hp, -, hdirectory⟩ :=
    (husual rfl rfl ⟨lowerName, by decide, hlower⟩).mpr htakes
  exact ⟨hlower, p, hp, hdirectory⟩

/-- A file of the name that goes first, and a directory of the other one. -/
def fileAndDirectory : Host := .flat [("XML", .file []), ("xml", .directory)]

/-- The file is taken for the directory of the documents, although there is a directory. -/
theorem xmlPath_file :
    (topRequest fileAndDirectory).HoldsDirectory lowerName
      ∧ (topRequest fileAndDirectory).xmlPath = .ok (.ofName "XML")
      ∧ fileAndDirectory.isDirectory (.ofName "XML") = .ok false := by
  have hfile : fileAndDirectory.files.entry? ["XML"] = some (.file []) :=
    Host.entry?_flat List.lookup_cons_self
  have hdirectory : fileAndDirectory.files.entry? ["xml"] = some .directory := Host.entry?_flat rfl
  have hlower : (topRequest fileAndDirectory).HoldsDirectory lowerName :=
    Host.isDirectory_eq_ok_true_iff.mpr (Host.find_ofName_of_some (by decide) hdirectory (.inr nofun))
  have hupper : (topRequest fileAndDirectory).holds upperName = .ok true :=
    Host.isPresent_ofName_of_some (by decide) hfile nofun
  have hsees : (topRequest fileAndDirectory).Sees .default := by
    rintro - fault (h | ⟨there, hthere, h⟩)
    · exact absurd (hlower.holds.symm.trans h) nofun
    · exact absurd (hupper.symm.trans h) nofun
  refine ⟨hlower, ?_, ?_⟩
  · rw [← xmlPathWith_default, xmlPathWith_eq_ok_iff]
    exact ⟨_, hsees, .upper rfl ⟨rfl, rfl⟩ hupper, target_ofName rfl (by decide) hfile nofun⟩
  · rw [Host.isDirectory, Host.test, Host.find_ofName_of_some (by decide) hfile (.inr nofun)]

end ConfigRequest

end BusContract
