import BusContract.Proofs.Interface.Alike
import BusContract.Proofs.Workspace.DirectoryOrder

/-!
# Files beyond the directory

A pattern can have more than one step, and then it leads beyond the entries of the directory it begins
at: to files in directories below, and by double dots to files anywhere. How deep a file is can be told
from the pattern (`Finds.exists_names`), and a file that is found is one of the directory itself exactly
if its path has one name more.

With a single step nothing but the directory counts. The documents are those of its own entries, no two
of one name, and they are the same on every host where the directory holds the same and its links lead
to the same (`Host.AgreesOn`).

* **`loadDocuments_direct_entries`**: what is loaded, for all patterns and for those of a single step.
* `loadDocuments_floorBelow`: a pattern with which a file further down is loaded.
-/

namespace BusContract

namespace Host

variable {host other : Host} {directory p q : FilePath} {pattern name : String} {only : Bool}
  {step : SelectionStep} {steps : List SelectionStep} {files : List FilePath}
  {documents : List InterfaceDocument}

/-- Is the path that of an entry of the directory itself? This goes by how the path is written: one that goes
down and up again is not, though it leads to the same file. -/
def IsDirect (host : Host) (directory q : FilePath) : Prop :=
  ∃ name, host.IsListed directory name ∧ q = directory.child name

/-! ## How deep files are -/

/-- What is below a directory has further names behind those of the directory. -/
theorem Below.exists_names {n : Nat} (h : host.Below n p q) :
    ∃ names : List String, q = ⟨p.root, p.parts ++ names⟩ ∧ names.length = n := by
  induction h with
  | here p => exact ⟨[], by rw [List.append_nil], rfl⟩
  | down n p name entries q hlist hmem h ih =>
    obtain ⟨names, rfl, hlength⟩ := ih
    exact ⟨name :: names, by simp [FilePath.child], congrArg Nat.succ hlength⟩

/-- Each step but that to any depth goes one name down. -/
theorem Finds.exists_names (h : host.Finds only steps p q) :
    ∃ names : List String, q = ⟨p.root, p.parts ++ names⟩
      ∧ (.anyDepth ∉ steps → names.length = steps.length) := by
  induction h with
  | file p hfile => exact ⟨[], by rw [List.append_nil], fun _ => rfl⟩
  | name name rest p q hopen h ih =>
    obtain ⟨names, rfl, hlength⟩ := ih
    refine ⟨name :: names, by simp [FilePath.child], fun hno => ?_⟩
    rw [List.length_cons, List.length_cons, hlength fun hmem => hno (List.mem_cons_of_mem _ hmem)]
  | fitting pattern rest p name entry entries q hlist hmem hopen hfits h ih =>
    obtain ⟨names, rfl, hlength⟩ := ih
    refine ⟨name :: names, by simp [FilePath.child], fun hno => ?_⟩
    rw [List.length_cons, List.length_cons, hlength fun hmem => hno (List.mem_cons_of_mem _ hmem)]
  | anyDepth n rest p start q hbelow h ih =>
    obtain ⟨above, rfl, -⟩ := hbelow.exists_names
    obtain ⟨names, rfl, -⟩ := ih
    exact ⟨above ++ names, by simp, fun hno => absurd List.mem_cons_self hno⟩

/-- A file that is found is one of the directory itself exactly if its path has one name more. -/
theorem isDirect_iff (hsound : host.files.Sound) (hdirectory : host.isDirectory directory = .ok true)
    (h : host.Finds only steps directory q) :
    host.IsDirect directory q ↔ q.parts.length = directory.parts.length + 1 := by
  constructor
  · rintro ⟨name, -, rfl⟩
    simp [FilePath.child]
  · intro hlength
    obtain ⟨names, rfl, -⟩ := h.exists_names
    rw [List.length_append, Nat.add_left_cancel_iff, List.length_eq_one_iff] at hlength
    obtain ⟨name, rfl⟩ := hlength
    exact ⟨name, isListed_of_isFile hsound hdirectory h.isFile, rfl⟩

/-! ## Single steps -/

/-- A directory is no file. -/
theorem not_isFile_of_isDirectory (h : host.isDirectory p = .ok true) : host.isFile p ≠ .ok true := by
  intro hfile
  obtain ⟨bytes, hfind⟩ := isFile_eq_ok_true_iff.mp hfile
  exact absurd (hfind.symm.trans (isDirectory_eq_ok_true_iff.mp h)) (by simp)

/-- Nor is one that is listed. -/
theorem not_isFile_of_listed (hsound : host.files.Sound) (h : host.HasEntry p name .directory) :
    host.isFile (p.child name) ≠ .ok true := by
  have hfind := find_child_of_hasEntry hsound h (by simp)
  intro hfile
  obtain ⟨bytes, hfound⟩ := isFile_eq_ok_true_iff.mp hfile
  rw [hfound] at hfind
  split at hfind <;> simp at hfind

/-- Going down through directories alone leads to no file. -/
theorem Below.not_isFile (hsound : host.files.Sound) {n : Nat} (h : host.Below n p q)
    (hdirectory : host.isDirectory p = .ok true ∨ host.isFile p ≠ .ok true) :
    host.isFile q ≠ .ok true := by
  induction h with
  | here p => exact hdirectory.elim not_isFile_of_isDirectory id
  | down n p name entries q hlist hmem h ih =>
    exact ih (.inr (not_isFile_of_listed hsound ⟨entries, hlist, hmem⟩))

/-- Where a selection can go on there is no file. -/
theorem not_isFile_of_isOpenEntry (hsound : host.files.Sound) {entry : FileEntry}
    (h : host.HasEntry p name entry) (hopen : host.isOpenEntry true p name entry = .ok true) :
    host.isFile (p.child name) ≠ .ok true := by
  cases entry with
  | directory => exact not_isFile_of_listed hsound h
  | file bytes => cases hopen
  | link target =>
    obtain ⟨entries, hlist, hmem⟩ := h
    exact not_isFile_of_isDirectory (isDirectory_child_of_listed hlist hopen)

/-- A single step finds the entries of the directory that it fits and that lead to a file, unless only
directories are wanted. -/
theorem finds_step_iff (hsound : host.files.Sound) (hdirectory : host.isDirectory p = .ok true) :
    host.Finds only [step] p q ↔ only = false ∧ ∃ name, q = p.child name ∧ host.IsListed p name
      ∧ step.fits name = true ∧ host.isFile (p.child name) = .ok true := by
  constructor
  · intro h
    have hfile := h.isFile
    cases h with
    | name name _ _ _ hopen h =>
      cases h
      cases only with
      | true => exact absurd hfile (not_isFile_of_isDirectory hopen)
      | false =>
        have hlisted := isListed_of_isFile hsound hdirectory hfile
        exact ⟨rfl, name, rfl, hlisted, beq_self_eq_true name, hfile⟩
    | fitting pattern _ _ name entry entries _ hlist hmem hopen hfits h =>
      cases h
      cases only with
      | true => exact absurd hfile (not_isFile_of_isOpenEntry hsound ⟨entries, hlist, hmem⟩ hopen)
      | false => exact ⟨rfl, name, rfl, ⟨entry, entries, hlist, hmem⟩, hfits, hfile⟩
    -- the last step of `**` stands for directories, and none of them is a file
    | anyDepth n _ _ start _ hbelow h =>
      cases h
      exact absurd hfile (hbelow.not_isFile hsound (.inl hdirectory))
  · rintro ⟨rfl, name, rfl, ⟨entry, entries, hlist, hmem⟩, hfits, hfile⟩
    cases step with
    | name given =>
      obtain rfl : name = given := beq_iff_eq.mp hfits
      obtain ⟨bytes, hfind⟩ := isFile_eq_ok_true_iff.mp hfile
      have hopen : host.isOpen false (p.child name) = .ok true :=
        test_eq_ok_true_iff.mpr ⟨.file bytes, hfind, rfl⟩
      exact .name name [] p _ hopen (.file _ hfile)
    | fitting pattern =>
      exact .fitting pattern [] p name entry entries _ hlist hmem (isOpenEntry_false entry) hfits
        (.file _ hfile)
    | anyDepth => cases hfits

/-! ## What is loaded -/

/-- What is true of the documents of a directory, whatever selects their files. -/
structure LoadsFound (host : Host) (directory : FilePath) (selection : Selection)
    (files : List FilePath) (documents : List InterfaceDocument) : Prop where
  found : ∀ q, q ∈ files ↔ host.Finds selection.onlyDirectories selection.steps directory q
  ordered : files.Pairwise fun a b => a.name ≤ b.name
  read : List.Forall₂ (fun q d => host.loadDocument q = .ok d ∧ d.source = q.text) files documents
  direct : ∀ q ∈ files, host.IsDirect directory q ↔ q.parts.length = directory.parts.length + 1
  depth : .anyDepth ∉ selection.steps → ∀ q ∈ files,
    q.parts.length = directory.parts.length + selection.steps.length

/-- Documents come from the files that are found. -/
theorem exists_loadsFound (hsound : host.files.Sound)
    (hload : host.loadDocuments directory pattern = .ok documents) :
    ∃ selection files, Selection.ofText pattern = .ok selection
      ∧ host.documentFiles directory pattern = .ok files
      ∧ host.LoadsFound directory selection files documents := by
  obtain ⟨hdirectory, files, hfiles, hread⟩ := loadDocuments_eq_ok_iff.mp hload
  obtain ⟨selection, hselection⟩ := exists_selection_of_documentFiles hfiles
  obtain ⟨found, hfound, rfl⟩ := (documentFiles_eq_ok_iff hdirectory hselection).mp hfiles
  have hmem (q : FilePath) : q ∈ found.mergeSort (fun a b => !decide (b.name < a.name)) ↔
      host.Finds selection.onlyDirectories selection.steps directory q :=
    List.mem_mergeSort.trans (mem_follow_iff hsound hfound)
  refine ⟨selection, _, hselection, hfiles, hmem, pairwise_le_mergeSort FilePath.name found, ?_, ?_, ?_⟩
  · exact hread.imp fun _ _ h => ⟨h, source_of_loadDocument h⟩
  · exact fun q hq => isDirect_iff hsound hdirectory ((hmem q).mp hq)
  · intro hno q hq
    obtain ⟨names, rfl, hlength⟩ := ((hmem q).mp hq).exists_names
    rw [List.length_append, hlength hno]

/-! ## What a single step loads -/

/-- A search that succeeds has been refused no look. -/
theorem succeeds_of_looksAt (hsound : host.files.Sound) (hdirectory : host.isDirectory p = .ok true)
    (hstep : step ≠ .anyDepth) (h : Succeeds (host.follow false [step] p))
    (hlook : host.LooksAt p step name) : Succeeds (host.isFile (p.child name)) := by
  obtain ⟨entries, hlist⟩ := exists_list_of_isDirectory hdirectory
  by_contra hno
  obtain ⟨fault, hfault⟩ := not_succeeds_iff.mp hno
  have hmeets := (meets_step_iff hlist hstep).mpr ⟨name, hlook, hfault⟩
  exact not_succeeds_of_meets hsound hmeets h

/-- What is loaded by a single step are files of the directory itself, each name once. -/
theorem exists_names_of_step (hsound : host.files.Sound)
    (hdirectory : host.isDirectory directory = .ok true)
    (hselection : Selection.ofText pattern = .ok ⟨[step], only⟩)
    (hfiles : host.documentFiles directory pattern = .ok files) :
    ∃ names : List String, names.Pairwise (· < ·)
      ∧ (∀ name, name ∈ names ↔ only = false ∧ host.IsListed directory name ∧ step.fits name = true
          ∧ host.isFile (directory.child name) = .ok true)
      ∧ files = names.map directory.child := by
  obtain ⟨found, hfound, rfl⟩ := (documentFiles_eq_ok_iff hdirectory hselection).mp hfiles
  -- otherwise only directories are asked for, and no file is among what is found
  by_cases hfinds : only = false ∧ step ≠ .anyDepth
  · obtain ⟨rfl, hstep⟩ := hfinds
    have hlooks (name : String) (hlook : host.LooksAt directory step name) :=
      succeeds_of_looksAt hsound hdirectory hstep ⟨found, hfound⟩ hlook
    obtain ⟨names, hsorted, hnames, hfiles'⟩ :=
      exists_names_of_documentFiles hsound hdirectory hselection hstep hlooks
    have hsame := Except.ok.inj (hfiles.symm.trans hfiles')
    exact ⟨names, hsorted, fun name => by simp [hnames], hsame⟩
  · have hnone (name : String) : ¬ (only = false ∧ host.IsListed directory name ∧ step.fits name = true
        ∧ host.isFile (directory.child name) = .ok true) := by
      rintro ⟨honly, -, hfits, -⟩
      refine hfinds ⟨honly, ?_⟩
      rintro rfl
      cases hfits
    have hempty : found = [] := by
      refine List.eq_nil_iff_forall_not_mem.mpr fun q hq => ?_
      obtain ⟨honly, name, -, hname⟩ :=
        (finds_step_iff hsound hdirectory).mp (finds_of_mem_follow hfound hq)
      exact hnone name ⟨honly, hname⟩
    refine ⟨[], List.Pairwise.nil, fun name => iff_of_false List.not_mem_nil (hnone name), ?_⟩
    rw [hempty, List.mergeSort_nil, List.map_nil]

/-! ## Nothing but the directory counts -/

/-- Does the directory hold the same on the other host, and do its links lead to the same there? -/
structure AgreesOn (host other : Host) (directory : FilePath) : Prop where
  sound : other.files.Sound
  isDirectory : other.isDirectory directory = .ok true
  entries : ∀ name entry, other.HasEntry directory name entry ↔ host.HasEntry directory name entry
  links : ∀ name target, host.HasEntry directory name (.link target) →
    other.find true (directory.child name) = host.find true (directory.child name)

/-- The entries lead to the same. -/
theorem AgreesOn.find_eq (hsound : host.files.Sound) (h : host.AgreesOn other directory)
    (hlisted : host.IsListed directory name) :
    other.find true (directory.child name) = host.find true (directory.child name) := by
  obtain ⟨entry, hentry⟩ := hlisted
  by_cases hlink : ∃ target, entry = .link target
  · obtain ⟨target, rfl⟩ := hlink
    exact h.links name target hentry
  · have hno := not_exists.mp hlink
    have hentry' : other.HasEntry directory name entry := (h.entries name entry).mpr hentry
    rw [find_child_of_hasEntry hsound hentry hno, find_child_of_hasEntry h.sound hentry' hno]

/-- The names are the same. -/
theorem AgreesOn.isListed_iff (h : host.AgreesOn other directory) :
    other.IsListed directory name ↔ host.IsListed directory name :=
  exists_congr fun entry => h.entries name entry

/-- A name that is not listed is refused for its length alone. -/
theorem isFile_child_eq_error_iff (hsound : host.files.Sound)
    (hdirectory : host.isDirectory p = .ok true) (hnot : ¬ host.IsListed p name) :
    (∃ fault, host.isFile (p.child name) = .error fault) ↔
      '\x00' ∉ name.toList ∧ ((p.child name).IsOverlong ∨ longestName < name.utf8ByteSize) := by
  obtain ⟨place, hplace, hentry⟩ := exists_place_of_isDirectory hdirectory
  have hnone : host.files.entry? (place ++ [name]) = none := by
    cases hfound : host.files.entry? (place ++ [name]) with
    | none => rfl
    | some entry =>
      have hlist := list_eq_ok_iff.mpr ⟨place, hplace, hentry, rfl⟩
      exact absurd ⟨entry, _, hlist, hsound.mem_listing.mpr hfound⟩ hnot
  obtain ⟨left, hleft⟩ := locate_child hplace
  have hrefused : (∃ fault, host.isFile (p.child name) = .error fault) ↔
      host.find true (p.child name) = .error (.refused .nameTooLong (p.child name)) := by
    simp [isFile, test_eq_error_iff]
  rw [hrefused, find, hleft]
  by_cases hnull : '\x00' ∈ name.toList
  · simp [hnull]
  by_cases hlong : (p.child name).IsOverlong
  · simp [hnull, hlong]
  by_cases hdot : name = "."
  · -- one stays in the directory
    subst hdot
    have hshort : ¬ longestName < ".".utf8ByteSize := by decide
    simp [hlong, hshort, FileTree.walk, hentry, mapError_ok]
  by_cases hdots : name = ".."
  · subst hdots
    have hshort : ¬ longestName < "..".utf8ByteSize := by decide
    simp [hlong, hshort, FileTree.walk, hentry, mapError_ok, hsound.entry?_dropLast hentry]
  by_cases hbig : longestName < name.utf8ByteSize
  · simp [hnull, hlong, hbig, FileTree.walk_cons_of_long hentry hbig, mapError_error]
  · simp [hnull, hlong, hbig, FileTree.walk, hentry, hdot, hdots, hnone, mapError_error]

/-- The same entries are files. -/
theorem AgreesOn.isFile_eq (hsound : host.files.Sound) (h : host.AgreesOn other directory)
    (hlisted : host.IsListed directory name) :
    other.isFile (directory.child name) = host.isFile (directory.child name) :=
  test_eq_of_find (h.find_eq hsound hlisted) _

/-- What can be told of a name on one host can be told of it on the other. -/
theorem AgreesOn.succeeds_isFile (hsound : host.files.Sound)
    (hdirectory : host.isDirectory directory = .ok true) (h : host.AgreesOn other directory)
    (hsucceeds : Succeeds (host.isFile (directory.child name))) :
    Succeeds (other.isFile (directory.child name)) := by
  by_cases hlisted : host.IsListed directory name
  · rwa [h.isFile_eq hsound hlisted]
  · have hlisted' : ¬ other.IsListed directory name := mt h.isListed_iff.mp hlisted
    by_contra hno
    have hlong := (isFile_child_eq_error_iff h.sound h.isDirectory hlisted').mp (not_succeeds_iff.mp hno)
    have hrefused := (isFile_child_eq_error_iff hsound hdirectory hlisted).mpr hlong
    exact not_succeeds_iff.mpr hrefused hsucceeds

/-- The same names are looked at. -/
theorem AgreesOn.looksAt_iff (h : host.AgreesOn other directory) :
    other.LooksAt directory step name ↔ host.LooksAt directory step name := by
  constructor
  · exact fun hlook => hlook.of_isListed fun _ => h.isListed_iff.mp
  · exact fun hlook => hlook.of_isListed fun _ => h.isListed_iff.mpr

/-- The same files are selected on both hosts, and they hold the same documents. -/
theorem AgreesOn.files_eq (hsound : host.files.Sound)
    (hdirectory : host.isDirectory directory = .ok true) (h : host.AgreesOn other directory)
    (hselection : Selection.ofText pattern = .ok ⟨[step], only⟩)
    (hfiles : host.documentFiles directory pattern = .ok files) {files' : List FilePath}
    (hfiles' : other.documentFiles directory pattern = .ok files') :
    files' = files ∧ ∀ q ∈ files, other.loadDocument q = host.loadDocument q := by
  obtain ⟨names, hsorted, hnames, rfl⟩ := exists_names_of_step hsound hdirectory hselection hfiles
  obtain ⟨names', hsorted', hnames', rfl⟩ :=
    exists_names_of_step h.sound h.isDirectory hselection hfiles'
  have hsame : names' = names := by
    refine hsorted'.eq_of_mem_iff hsorted fun name => ?_
    rw [hnames', hnames, h.isListed_iff]
    refine and_congr_right fun _ => and_congr_right fun hlisted => ?_
    rw [h.isFile_eq hsound hlisted]
  refine ⟨congrArg _ hsame, fun q hq => ?_⟩
  obtain ⟨name, hname, rfl⟩ := List.mem_map.mp hq
  exact loadDocument_eq_of_find (h.find_eq hsound ((hnames name).mp hname).2.1)

/-- Whether the search succeeds is a matter of the directory as well, unless it goes down. -/
theorem AgreesOn.succeeds_documentFiles (hsound : host.files.Sound)
    (hdirectory : host.isDirectory directory = .ok true) (h : host.AgreesOn other directory)
    (hselection : Selection.ofText pattern = .ok ⟨[step], false⟩) (hstep : step ≠ .anyDepth)
    (hfiles : Succeeds (host.documentFiles directory pattern)) :
    Succeeds (other.documentFiles directory pattern) := by
  have hsearch : Succeeds (host.follow false [step] directory) := by
    obtain ⟨files, hfiles⟩ := hfiles
    obtain ⟨found, hfound, -⟩ := (documentFiles_eq_ok_iff hdirectory hselection).mp hfiles
    exact ⟨found, hfound⟩
  have hlooks (name : String) (hlook : other.LooksAt directory step name) :
      Succeeds (other.isFile (directory.child name)) :=
    h.succeeds_isFile hsound hdirectory
      (succeeds_of_looksAt hsound hdirectory hstep hsearch (h.looksAt_iff.mp hlook))
  obtain ⟨names, -, -, hfiles'⟩ :=
    exists_names_of_documentFiles h.sound h.isDirectory hselection hstep hlooks
  exact ⟨_, hfiles'⟩

/-- So the same documents are loaded, unless the search fails. -/
theorem AgreesOn.loadDocuments_eq (hsound : host.files.Sound) (h : host.AgreesOn other directory)
    (hselection : Selection.ofText pattern = .ok ⟨[step], only⟩)
    (hload : host.loadDocuments directory pattern = .ok documents)
    (hfiles : Succeeds (other.documentFiles directory pattern)) :
    other.loadDocuments directory pattern = .ok documents := by
  obtain ⟨hdirectory, files, hfound, hread⟩ := loadDocuments_eq_ok_iff.mp hload
  obtain ⟨files', hfound'⟩ := hfiles
  obtain ⟨rfl, hsame⟩ := h.files_eq hsound hdirectory hselection hfound hfound'
  have hread' : files'.mapM other.loadDocument = .ok documents :=
    (mapM_congr hsame).trans (mapM_eq_ok_iff.mpr hread)
  exact loadDocuments_eq_ok_iff.mpr ⟨h.isDirectory, files', hfound', mapM_eq_ok_iff.mp hread'⟩

/-! ## All patterns -/

/-- What is true beyond that of the documents that a single step selects. -/
structure LoadsOwnEntries (host : Host) (directory : FilePath) (pattern : String) (selection : Selection)
    (files : List FilePath) (documents : List InterfaceDocument) : Prop where
  direct : ∀ q ∈ files, host.IsDirect directory q
  names : (files.map FilePath.name).Pairwise (· < ·)
  confined : ∀ other, host.AgreesOn other directory → ∀ documents',
    other.loadDocuments directory pattern = .ok documents' → documents' = documents
  /-- Going down may fail elsewhere, for what is in the directories below. -/
  unaffected : selection.onlyDirectories = false → .anyDepth ∉ selection.steps →
    ∀ other, host.AgreesOn other directory → other.loadDocuments directory pattern = .ok documents

/-- A single step selects entries of the directory itself, and each at most once. -/
theorem loadsOwnEntries (hsound : host.files.Sound)
    (hselection : Selection.ofText pattern = .ok ⟨[step], only⟩)
    (hload : host.loadDocuments directory pattern = .ok documents)
    (hfiles : host.documentFiles directory pattern = .ok files) :
    host.LoadsOwnEntries directory pattern ⟨[step], only⟩ files documents := by
  obtain ⟨hdirectory, -⟩ := loadDocuments_eq_ok_iff.mp hload
  obtain ⟨names, hsorted, hnames, rfl⟩ := exists_names_of_step hsound hdirectory hselection hfiles
  refine ⟨fun q hq => ?_, ?_, fun other h documents' hload' => ?_, fun honly hdepth other h => ?_⟩
  · obtain ⟨name, hname, rfl⟩ := List.mem_map.mp hq
    exact ⟨name, ((hnames name).mp hname).2.1, rfl⟩
  · have hsame : (names.map directory.child).map FilePath.name = names := by
      rw [List.map_map]
      exact (List.map_congr_left fun name _ => name_child).trans (List.map_id names)
    rwa [hsame]
  · -- two hosts that agree on the directory itself find the same files
    obtain ⟨-, files', hfiles', -⟩ := loadDocuments_eq_ok_iff.mp hload'
    have hsame := h.loadDocuments_eq hsound hselection hload ⟨files', hfiles'⟩
    exact Except.ok.inj (hload'.symm.trans hsame)
  · obtain rfl : only = false := honly
    have hstep : step ≠ .anyDepth := fun hstep => hdepth (hstep ▸ List.mem_singleton_self _)
    have hfiles' := h.succeeds_documentFiles hsound hdirectory hselection hstep ⟨_, hfiles⟩
    exact h.loadDocuments_eq hsound hselection hload hfiles'

/-- **What is loaded from a directory**: the files that the pattern leads to, in the order of their names.
Those that are entries of the directory are told by the number of their names. With a single step all of
them are, no two have the same name, and nothing else in the tree makes a difference. -/
theorem loadDocuments_direct_entries (hsound : host.files.Sound)
    (hload : host.loadDocuments directory pattern = .ok documents) :
    ∃ selection files, Selection.ofText pattern = .ok selection
      ∧ host.LoadsFound directory selection files documents
      ∧ (selection.steps.length = 1 →
          host.LoadsOwnEntries directory pattern selection files documents) := by
  obtain ⟨selection, files, hselection, hfiles, hfound⟩ := exists_loadsFound hsound hload
  refine ⟨selection, files, hselection, hfound, fun hlength => ?_⟩
  obtain ⟨steps, only⟩ := selection
  obtain ⟨step, rfl⟩ := List.length_eq_one_iff.mp hlength
  exact loadsOwnEntries hsound hselection hload hfiles

/-! ### Two floors -/

/-- The text `<node/>` in bytes. -/
def emptyNode : List UInt8 := [60, 110, 111, 100, 101, 47, 62]

/-- The smallest document says nothing. -/
theorem loadDocument_emptyNode (h : host.find true p = .ok (.file emptyNode)) :
    host.loadDocument p = .ok ⟨p.text, none, []⟩ := by
  have hdecode : Utf8.decode emptyNode = .ok "<node/>".toList := by cbv
  have hbytes : host.readBytes p = .ok emptyNode := by rw [readBytes, h]
  have hfold : String.ofList (foldLineEnds "<node/>".toList) = "<node/>" := by decide
  rw [loadDocument_of_text hbytes hdecode, hfold, Introspection.parse_emptyNode]
  rfl

/-- A file in the root, and another of the same name in a directory there. -/
def twoFloors : Host :=
  ⟨⟨[(["a.xml"], .file emptyNode), (["sub"], .directory), (["sub", "a.xml"], .file emptyNode)]⟩, [], []⟩

theorem sound_twoFloors : twoFloors.files.Sound where
  proper place entry hmem := by
    simp only [twoFloors, List.mem_cons, Prod.mk.injEq, List.not_mem_nil, or_false] at hmem
    obtain ⟨rfl, -⟩ | ⟨rfl, -⟩ | ⟨rfl, -⟩ := hmem <;> decide
  once := by decide
  inside place entry hmem := by
    simp only [twoFloors, List.mem_cons, Prod.mk.injEq, List.not_mem_nil, or_false] at hmem
    obtain ⟨rfl, -⟩ | ⟨rfl, -⟩ | ⟨rfl, -⟩ := hmem <;> rfl

theorem list_topFloor : twoFloors.list .top = .ok [("a.xml", .file emptyNode), ("sub", .directory)] :=
  list_eq_ok_iff.mpr ⟨[], locate_top _, rfl, rfl⟩

/-- What is in the root. -/
theorem find_topFloor :
    twoFloors.find true (FilePath.child .top "a.xml") = .ok (.file emptyNode)
      ∧ twoFloors.find true (FilePath.child .top "sub") = .ok .directory := by
  constructor
  · exact find_ofName_of_some (by decide) rfl (.inr (by simp))
  · exact find_ofName_of_some (by decide) rfl (.inr (by simp))

theorem list_floorBelow :
    twoFloors.list (FilePath.child .top "sub") = .ok [("a.xml", .file emptyNode)] := by
  have hplace : twoFloors.locate true (FilePath.child .top "sub") = .ok ["sub"] :=
    locate_ofName_of_some (by decide) rfl (.inr (by simp))
  exact list_eq_ok_iff.mpr ⟨["sub"], hplace, rfl, rfl⟩

/-- What is in the directory below. -/
theorem find_floorBelow :
    twoFloors.find true ((FilePath.child .top "sub").child "a.xml") = .ok (.file emptyNode) := by
  have hmem : twoFloors.HasEntry (FilePath.child .top "sub") "a.xml" (.file emptyNode) :=
    ⟨_, list_floorBelow, List.mem_singleton_self _⟩
  have hshort : ¬ ((FilePath.child .top "sub").child "a.xml").IsOverlong := by decide
  rw [find_child_of_hasEntry sound_twoFloors hmem (by simp), if_neg hshort]

/-- With one step the file in the root is loaded, and it stays the only one whatever there is below. -/
theorem loadDocuments_topFloor :
    twoFloors.loadDocuments .top "*.xml" = .ok [⟨"/a.xml", none, []⟩]
      ∧ ∀ other, twoFloors.AgreesOn other .top →
        other.loadDocuments .top "*.xml" = .ok [⟨"/a.xml", none, []⟩] := by
  obtain ⟨hfind, hbelow⟩ := find_topFloor
  have hfits : (NamePattern.ofText "*.xml").fits "a.xml".toList = true := fits_xml ['a']
  have hfile : twoFloors.isFile (FilePath.child .top "a.xml") = .ok true :=
    isFile_eq_ok_true_iff.mpr ⟨_, hfind⟩
  have hdirectory : twoFloors.isFile (FilePath.child .top "sub") = .ok false := by
    rw [isFile, test, hbelow]
  have htold : ∀ name ∈ ["a.xml", "sub"], Succeeds (twoFloors.isFile (FilePath.child .top name)) := by
    simp [Succeeds, hfile, hdirectory]
  have hselect : twoFloors.select ⟨[.fitting (.ofText "*.xml")], false⟩ .top
      = .ok [FilePath.child .top "a.xml"] := by
    rw [select_of_isDirectory _ (isDirectory_top _), follow_fitting_of_succeeds list_topFloor
      fun name hlook => htold name (mem_of_looksAt list_topFloor hlook)]
    simp only [List.map_cons, List.map_nil, List.filter_cons, List.filter_nil, hfits, hfile, hdirectory,
      Bool.and_self, decide_true, if_true, Except.ok.injEq, Bool.false_eq_true, decide_false,
      Bool.and_false, if_false]
  have hfiles := documentFiles_of_single selection_xml hselect
  have hload : twoFloors.loadDocuments .top "*.xml" = .ok [⟨"/a.xml", none, []⟩] :=
    loadDocuments_eq_ok_iff.mpr
      ⟨isDirectory_top _, _, hfiles, .cons (loadDocument_emptyNode hfind) .nil⟩
  obtain ⟨selection, files, hselection, -, hown⟩ := loadDocuments_direct_entries sound_twoFloors hload
  obtain rfl := Except.ok.inj (selection_xml.symm.trans hselection)
  exact ⟨hload, (hown rfl).unaffected rfl (by simp)⟩

/-- With two steps the file below is loaded, which is no entry of the root. -/
theorem loadDocuments_floorBelow :
    twoFloors.documentFiles .top "sub/*.xml" = .ok [⟨"/", ["sub", "a.xml"]⟩]
      ∧ twoFloors.loadDocuments .top "sub/*.xml" = .ok [⟨"/sub/a.xml", none, []⟩]
      ∧ ¬ twoFloors.IsDirect .top ⟨"/", ["sub", "a.xml"]⟩ := by
  have hselection : Selection.ofText "sub/*.xml"
      = .ok ⟨[.name "sub", .fitting (.ofText "*.xml")], false⟩ := by
    have hend : "sub/*.xml".endsWith "/" = false := by cbv
    rw [Selection.ofText, hend]
    decide
  have hopen : twoFloors.isOpen true (FilePath.child .top "sub") = .ok true :=
    isDirectory_eq_ok_true_iff.mpr find_topFloor.2
  have hfits : (NamePattern.ofText "*.xml").fits "a.xml".toList = true := fits_xml ['a']
  have hfile : twoFloors.isFile ((FilePath.child .top "sub").child "a.xml") = .ok true :=
    isFile_eq_ok_true_iff.mpr ⟨_, find_floorBelow⟩
  have htold : ∀ name ∈ ["a.xml"],
      Succeeds (twoFloors.isFile ((FilePath.child .top "sub").child name)) := by
    simp [Succeeds, hfile]
  have hbelow : twoFloors.follow false [.fitting (.ofText "*.xml")] (FilePath.child .top "sub")
      = .ok [(FilePath.child .top "sub").child "a.xml"] := by
    rw [follow_fitting_of_succeeds list_floorBelow
      fun name hlook => htold name (mem_of_looksAt list_floorBelow hlook)]
    simp only [List.map_cons, List.map_nil, List.filter_cons, List.filter_nil, hfits, hfile,
      Bool.and_self, decide_true, if_true]
  have hselect : twoFloors.select ⟨[.name "sub", .fitting (.ofText "*.xml")], false⟩ .top
      = .ok [⟨"/", ["sub", "a.xml"]⟩] := by
    rw [select_of_isDirectory _ (isDirectory_top _), follow]
    show (twoFloors.isOpen true (FilePath.child .top "sub") >>= _) = _
    rw [hopen]
    exact hbelow
  have hfiles := documentFiles_of_single hselection hselect
  have hread := loadDocument_emptyNode find_floorBelow
  refine ⟨hfiles, loadDocuments_eq_ok_iff.mpr ⟨isDirectory_top _, _, hfiles, .cons hread .nil⟩, ?_⟩
  -- an own entry has one name behind the directory, and this one has two
  rintro ⟨name, -, hname⟩
  have hparts := congrArg (fun q => q.parts.length) hname
  simp [FilePath.child, FilePath.top] at hparts

end Host

end BusContract
