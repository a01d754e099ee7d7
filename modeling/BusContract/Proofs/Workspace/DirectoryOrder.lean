import BusContract.Proofs.Files.OneStep
import BusContract.Proofs.Workspace.Loading
import Mathlib.Data.List.Sort

/-!
# The documents of a directory, in order

A pattern that is a single name selects entries of the directory itself: those that it fits and that
lead to a file. They are loaded in the order of their names, each once, and the first that does not load
decides (`Host.LoadsInTurn`). In which order the file system lists them makes no difference.

This holds as long as the system can tell of every name that is looked at whether it is a file. A link
to a name that is too long is not passed over, as other links that lead nowhere are. It ends the search
with a fault that is none of the documents, and which of several such links is told depends on the order
in which they are listed.

* **`loadDocuments_name_order`**: both cases, for all directories and all patterns of a single name.
-/

namespace BusContract

/-- Is the pattern a single name, with or without wildcards, and does it select anything at all? -/
structure IsNameGlob (pattern : String) : Prop where
  noSlash : '/' ∉ pattern.toList
  notDepth : pattern ≠ "**"
  accepted : Succeeds (Selection.ofText pattern)

namespace Host

variable {host other : Host} {directory p : FilePath} {pattern name : String} {names : List String}
  {d : InterfaceDocument}

/-- Is the name looked at? The names that the directory is listed with are, if the pattern fits them. A
name that is given without wildcards is looked at in any case. -/
def Considers (host : Host) (directory : FilePath) (pattern name : String) : Prop :=
  (NamePattern.ofText pattern).fits name.toList = true
    ∧ (host.IsListed directory name ∨ NamePattern.isPattern pattern = false)

/-- Is the name listed, does the pattern fit it, and does it lead to a file? -/
def Selects (host : Host) (directory : FilePath) (pattern name : String) : Prop :=
  host.IsListed directory name ∧ (NamePattern.ofText pattern).fits name.toList = true
    ∧ host.isFile (directory.child name) = .ok true

/-- What comes of loading the files of the given names in order. -/
inductive LoadsInTurn (host : Host) (directory : FilePath) (names : List String) :
    Except LoadFault (List InterfaceDocument) → Prop where
  | all (documents : List InterfaceDocument)
      (h : List.Forall₂ (fun name d => host.loadDocument (directory.child name) = .ok d
        ∧ d.source = (directory.child name).text) names documents) :
      LoadsInTurn host directory names (.ok documents)
  | first (name : String) (fault : LoadFault) (hname : name ∈ names)
      (hfault : host.loadDocument (directory.child name) = .error fault)
      (hbefore : ∀ earlier ∈ names, earlier < name →
        Succeeds (host.loadDocument (directory.child earlier))) :
      LoadsInTurn host directory names (.error fault)

/-! ## Patterns and steps -/

/-- A pattern of a single name is a single step. -/
theorem exists_step_of_isNameGlob (host : Host) (directory : FilePath) (h : IsNameGlob pattern) :
    ∃ step, Selection.ofText pattern = .ok ⟨[step], false⟩ ∧ step ≠ .anyDepth
      ∧ (∀ name, step.fits name = true ↔ (NamePattern.ofText pattern).fits name.toList = true)
      ∧ ∀ name, host.LooksAt directory step name ↔ host.Considers directory pattern name := by
  obtain ⟨selection, hselection⟩ := h.accepted
  have hempty : pattern ≠ "" := by
    rintro rfl
    cases hselection
  have hdot : pattern ≠ "." := by
    rintro rfl
    have hpath : FilePath.ofText "." = ⟨"", []⟩ := by decide
    simp [Selection.ofText, hpath, FilePath.isAbsolute] at hselection
  have hread := Selection.ofText_of_noSlash h.noSlash hempty hdot
  rw [hread, map_eq_ok_iff] at hselection
  obtain ⟨step, hstep, -⟩ := hselection
  refine ⟨step, hread.trans (by rw [hstep]; rfl), ?_⟩
  rw [Selection.stepOfText, if_neg h.notDepth] at hstep
  -- a broken `**` is no step, then patterns apart from plain names
  split at hstep
  next => cases hstep
  split at hstep
  next hpattern =>
    obtain rfl := Except.ok.inj hstep
    refine ⟨by simp, fun _ => Iff.rfl, fun name => ?_⟩
    constructor
    · intro hlook
      cases hlook with
      | listed _ _ hlisted hfits => exact ⟨hfits, .inl hlisted⟩
    · rintro ⟨hfits, hlisted | hplain⟩
      · exact .listed _ name hlisted hfits
      · exact absurd (hplain.symm.trans hpattern) (by simp)
  next hplain =>
    obtain rfl := Except.ok.inj hstep
    have hplain : NamePattern.isPattern pattern = false := by simpa using hplain
    refine ⟨by simp, fun name => ?_, fun name => ?_⟩
    · exact beq_iff_eq.trans (NamePattern.fits_ofText_of_plain hplain).symm
    · constructor
      · rintro ⟨⟩
        exact ⟨(NamePattern.fits_ofText_of_plain hplain).mpr rfl, .inr hplain⟩
      · rintro ⟨hfits, -⟩
        rw [(NamePattern.fits_ofText_of_plain hplain).mp hfits]
        exact .given pattern

/-! ## Loading in order -/

theorem name_child : (directory.child name).name = name := by simp [FilePath.name, FilePath.child]

/-- What is sorted by a key is in the order of it. -/
theorem pairwise_le_mergeSort {α : Type} (key : α → String) (xs : List α) :
    (xs.mergeSort fun a b => !decide (key b < key a)).Pairwise fun a b => key a ≤ key b := by
  have hle (a b : α) : (!decide (key b < key a)) = true ↔ key a ≤ key b := by
    rw [Bool.not_eq_true', decide_eq_false_iff_not, String.not_lt]
  have hsorted : (xs.mergeSort fun a b => !decide (key b < key a)).Pairwise
      fun a b => (!decide (key b < key a)) = true := by
    refine List.pairwise_mergeSort (fun a b c hab hbc => ?_) (fun a b => ?_) xs
    · rw [hle] at hab hbc ⊢
      exact String.le_trans hab hbc
    · rw [Bool.or_eq_true, hle, hle]
      exact String.le_total (key a) (key b)
  exact hsorted.imp fun {a b} h => (hle a b).mp h

/-- Names that are there once each are put in strictly increasing order. -/
theorem pairwise_lt_mergeSort (h : names.Nodup) :
    (names.mergeSort fun a b => !decide (b < a)).Pairwise (· < ·) := by
  have hle : (names.mergeSort fun a b => !decide (b < a)).Pairwise (· ≤ ·) :=
    pairwise_le_mergeSort id names
  have hne := (List.mergeSort_perm names fun a b => !decide (b < a)).nodup_iff.mpr h
  refine (hle.and hne).imp fun {a b} ⟨hab, hne⟩ => ?_
  exact String.not_le.mp fun hba => hne (String.le_antisymm hab hba)

/-- Reading one file after the other stops at the first that fails. -/
theorem loadsInTurn_mapM (h : names.Pairwise (· < ·)) :
    host.LoadsInTurn directory names
      (names.mapM fun name => host.loadDocument (directory.child name)) := by
  cases hload : names.mapM fun name => host.loadDocument (directory.child name) with
  | ok documents =>
    exact .all documents ((mapM_eq_ok_iff.mp hload).imp fun _ _ h => ⟨h, source_of_loadDocument h⟩)
  | error fault =>
    obtain ⟨before, name, after, rfl, hbefore, hfault⟩ := mapM_eq_error_iff.mp hload
    refine .first name fault (by simp) hfault fun earlier hmem hlt => ?_
    rw [List.pairwise_append, List.pairwise_cons] at h
    obtain ⟨-, ⟨hafter, -⟩, -⟩ := h
    rcases List.mem_append.mp hmem with hmem | hmem
    · exact hbefore earlier hmem
    · rcases List.mem_cons.mp hmem with rfl | hmem
      · exact absurd hlt (String.lt_irrefl _)
      · exact absurd (String.lt_trans hlt (hafter earlier hmem)) (String.lt_irrefl _)

/-- The files that a single step selects, in the order of their names. -/
theorem exists_names_of_documentFiles {step : SelectionStep} (hsound : host.files.Sound)
    (hdirectory : host.isDirectory directory = .ok true)
    (hselection : Selection.ofText pattern = .ok ⟨[step], false⟩) (hstep : step ≠ .anyDepth)
    (hlooks : ∀ name, host.LooksAt directory step name → Succeeds (host.isFile (directory.child name))) :
    ∃ names : List String, names.Pairwise (· < ·)
      ∧ (∀ name, name ∈ names ↔ host.IsListed directory name ∧ step.fits name = true
          ∧ host.isFile (directory.child name) = .ok true)
      ∧ host.documentFiles directory pattern = .ok (names.map directory.child) := by
  obtain ⟨names, hnodup, hnames, hselect⟩ := exists_names_of_select hsound hdirectory hstep hlooks
  refine ⟨names.mergeSort fun a b => !decide (b < a), pairwise_lt_mergeSort hnodup, fun name => ?_, ?_⟩
  · rw [List.mem_mergeSort, hnames]
  · have hsort : (names.map directory.child).mergeSort (fun a b => !decide (b.name < a.name))
        = (names.mergeSort fun a b => !decide (b < a)).map directory.child := by
      refine (List.map_mergeSort fun a _ b _ => ?_).symm
      rw [name_child, name_child]
    rw [documentFiles_of_selection hselection, hselect, ← hsort]
    rfl

/-- The files that are selected are loaded in the order of their names. -/
theorem exists_names_of_loadDocuments (hsound : host.files.Sound)
    (hdirectory : host.isDirectory directory = .ok true) (hpattern : IsNameGlob pattern)
    (hlooks : ∀ name, host.Considers directory pattern name →
      Succeeds (host.isFile (directory.child name))) :
    ∃ names : List String, names.Pairwise (· < ·)
      ∧ (∀ name, name ∈ names ↔ host.Selects directory pattern name)
      ∧ host.loadDocuments directory pattern
          = names.mapM fun name => host.loadDocument (directory.child name) := by
  obtain ⟨step, hselection, hstep, hfits, hconsiders⟩ :=
    exists_step_of_isNameGlob host directory hpattern
  obtain ⟨names, hsorted, hnames, hfiles⟩ := exists_names_of_documentFiles hsound hdirectory hselection
    hstep fun name hlook => hlooks name ((hconsiders name).mp hlook)
  refine ⟨names, hsorted, fun name => ?_, ?_⟩
  · rw [hnames, hfits]
    rfl
  · rw [loadDocuments_of_isDirectory hdirectory, hfiles]
    exact List.mapM_map

/-! ## The order of the entries -/

section Order

variable (hperm : host.files.entries.Perm other.files.entries)
  (hworking : host.workingDirectory = other.workingDirectory) (hsound : host.files.Sound)

include hperm hworking hsound

/-- In which order entries are listed does not matter to what is a file. -/
theorem isFile_eq_of_perm (p : FilePath) : host.isFile p = other.isFile p :=
  test_eq_of_find (find_eq_of_perm hperm hworking hsound true p) _

theorem isDirectory_eq_of_perm (p : FilePath) : host.isDirectory p = other.isDirectory p :=
  test_eq_of_find (find_eq_of_perm hperm hworking hsound true p) _

/-- Nor to what is listed. -/
theorem isListed_iff_of_perm (hdirectory : host.isDirectory p = .ok true) :
    host.IsListed p name ↔ other.IsListed p name := by
  obtain ⟨entries, hlist⟩ := exists_list_of_isDirectory hdirectory
  obtain ⟨entries', hlist', hentries⟩ := exists_list_of_perm hperm hworking hsound hlist
  rw [isListed_iff hlist, isListed_iff hlist', (hentries.map Prod.fst).mem_iff]

/-- So the same names are considered. -/
theorem considers_iff_of_perm (hdirectory : host.isDirectory directory = .ok true) :
    host.Considers directory pattern name ↔ other.Considers directory pattern name :=
  and_congr_right' (or_congr_left (isListed_iff_of_perm hperm hworking hsound hdirectory))

/-- And the same are selected. -/
theorem selects_iff_of_perm (hdirectory : host.isDirectory directory = .ok true) :
    host.Selects directory pattern name ↔ other.Selects directory pattern name := by
  rw [Selects, Selects, isListed_iff_of_perm hperm hworking hsound hdirectory,
    isFile_eq_of_perm hperm hworking hsound]

/-- So the documents are the same, in the same order. -/
theorem loadDocuments_eq_of_perm (hdirectory : host.isDirectory directory = .ok true)
    (hpattern : IsNameGlob pattern)
    (hlooks : ∀ name, host.Considers directory pattern name →
      Succeeds (host.isFile (directory.child name))) :
    host.loadDocuments directory pattern = other.loadDocuments directory pattern := by
  have hsound' : other.files.Sound := FileTree.sound_of_perm hperm hsound
  have hdirectory' : other.isDirectory directory = .ok true := by
    rw [← isDirectory_eq_of_perm hperm hworking hsound, hdirectory]
  have hlooks' (name : String) (hconsiders : other.Considers directory pattern name) :
      Succeeds (other.isFile (directory.child name)) := by
    rw [← isFile_eq_of_perm hperm hworking hsound]
    exact hlooks name ((considers_iff_of_perm hperm hworking hsound hdirectory).mpr hconsiders)
  obtain ⟨names, hsorted, hnames, hload⟩ :=
    exists_names_of_loadDocuments hsound hdirectory hpattern hlooks
  obtain ⟨names', hsorted', hnames', hload'⟩ :=
    exists_names_of_loadDocuments hsound' hdirectory' hpattern hlooks'
  -- there is but one way to put the same names in strictly increasing order
  have hsame : names = names' := by
    refine hsorted.eq_of_mem_iff hsorted' fun name => ?_
    rw [hnames, hnames', selects_iff_of_perm hperm hworking hsound hdirectory]
  rw [hload, hload', hsame]
  exact mapM_congr fun name _ => loadDocument_eq_of_find (find_eq_of_perm hperm hworking hsound true _)

end Order

/-- **Documents are loaded in the order of their names**, one for each entry of the directory that the
pattern fits and that leads to a file, whatever the order of the entries. If the system refuses to tell of
a name that is looked at whether it is a file, no document is loaded, and the fault is told of such a
name. -/
theorem loadDocuments_name_order (hsound : host.files.Sound)
    (hdirectory : host.isDirectory directory = .ok true) (hpattern : IsNameGlob pattern) :
    ((∀ name, host.Considers directory pattern name →
        Succeeds (host.isFile (directory.child name))) →
      (∃ names : List String, names.Pairwise (· < ·)
          ∧ (∀ name, name ∈ names ↔ host.Selects directory pattern name)
          ∧ host.LoadsInTurn directory names (host.loadDocuments directory pattern))
        ∧ ∀ other : Host, host.files.entries.Perm other.files.entries →
            host.workingDirectory = other.workingDirectory →
            host.loadDocuments directory pattern = other.loadDocuments directory pattern)
      ∧ ((∃ name, host.Considers directory pattern name
            ∧ ¬ Succeeds (host.isFile (directory.child name))) →
        ∃ name, host.Considers directory pattern name
          ∧ host.loadDocuments directory pattern
              = .error (.file (.refused .nameTooLong (directory.child name)))) := by
  constructor
  · intro hlooks
    constructor
    · obtain ⟨names, hsorted, hnames, hload⟩ :=
        exists_names_of_loadDocuments hsound hdirectory hpattern hlooks
      exact ⟨names, hsorted, hnames, hload ▸ loadsInTurn_mapM hsorted⟩
    · intro other hperm hworking
      exact loadDocuments_eq_of_perm hperm hworking hsound hdirectory hpattern hlooks
  · -- the fault need not be at this name: the first look that is refused ends the search
    rintro ⟨name, hconsiders, hno⟩
    obtain ⟨step, hselection, hstep, -, hlooks⟩ := exists_step_of_isNameGlob host directory hpattern
    obtain ⟨name', hlook', hselect⟩ :=
      exists_fault_of_select hsound hdirectory hstep ⟨name, (hlooks name).mpr hconsiders, hno⟩
    refine ⟨name', (hlooks name').mp hlook', ?_⟩
    rw [loadDocuments_of_isDirectory hdirectory, documentFiles_of_selection hselection, hselect]
    rfl

/-! ### Files, links and directories side by side -/

theorem selection_xml : Selection.ofText "*.xml" = .ok ⟨[.fitting (.ofText "*.xml")], false⟩ :=
  Selection.ofText_of_noSlash (by decide) (by decide) (by decide)

/-- The pattern of documents is a single name. -/
theorem isNameGlob_xml : IsNameGlob "*.xml" := ⟨by decide, by decide, _, selection_xml⟩

theorem ofText_xml :
    NamePattern.ofText "*.xml" = .anything :: ['.', 'x', 'm', 'l'].map fun c => .point (.char c) := by
  decide

/-- It fits all names with its ending. -/
theorem fits_xml (before : List Char) : (NamePattern.ofText "*.xml").fits (before ++ ".xml".toList) = true := by
  rw [ofText_xml]
  induction before with
  | nil => simp [NamePattern.fits]
  | cons c before ih => rw [List.cons_append, NamePattern.fits, ih, Bool.or_true]

/-- A directory, a file and a link to the file, all of names that end alike. -/
def mixedEntries : List (String × FileEntry) :=
  [("c.xml", .directory), ("b.xml", .file []), ("a.xml", .link "b.xml")]

theorem find_mixedEntries :
    (flat mixedEntries).find true (.ofName "a.xml") = .ok (.file [])
      ∧ (flat mixedEntries).find true (.ofName "b.xml") = .ok (.file [])
      ∧ (flat mixedEntries).find true (.ofName "c.xml") = .ok .directory := by
  have hfile : FileTree.entry? (flat mixedEntries).files ["b.xml"] = some (.file []) := entry?_flat rfl
  refine ⟨?_, ?_, ?_⟩
  · exact find_ofName_of_link (by decide) (entry?_flat rfl) (by decide) hfile (by simp)
  · exact find_ofName_of_some (by decide) hfile (.inr (by simp))
  · exact find_ofName_of_some (by decide) (entry?_flat rfl) (.inr (by simp))

theorem isListed_mixedEntries :
    (flat mixedEntries).IsListed .top name ↔ name = "c.xml" ∨ name = "b.xml" ∨ name = "a.xml" := by
  rw [isListed_iff list_flat]
  simp [mixedEntries]

/-- The link and the file are loaded and the directory is not. Listed the other way round they come to
the same. -/
theorem loadDocuments_mixedEntries :
    (∃ names : List String, names.Pairwise (· < ·) ∧ "a.xml" ∈ names ∧ "b.xml" ∈ names ∧ "c.xml" ∉ names
        ∧ (flat mixedEntries).LoadsInTurn .top names ((flat mixedEntries).loadDocuments .top "*.xml"))
      ∧ (flat mixedEntries).loadDocuments .top "*.xml"
          = (flat mixedEntries.reverse).loadDocuments .top "*.xml" := by
  obtain ⟨ha, hb, hc⟩ := find_mixedEntries
  have hafile : (flat mixedEntries).isFile (.ofName "a.xml") = .ok true := isFile_eq_ok_true_iff.mpr ⟨_, ha⟩
  have hbfile : (flat mixedEntries).isFile (.ofName "b.xml") = .ok true := isFile_eq_ok_true_iff.mpr ⟨_, hb⟩
  have hcfile : (flat mixedEntries).isFile (.ofName "c.xml") = .ok false := by rw [isFile, test, hc]
  have hsound : (flat mixedEntries).files.Sound := sound_flat (by decide) (by decide)
  have hlooks (name : String) (h : (flat mixedEntries).Considers .top "*.xml" name) :
      Succeeds ((flat mixedEntries).isFile (FilePath.child .top name)) := by
    have hlisted := isListed_mixedEntries.mp (h.2.resolve_right (by decide))
    obtain rfl | rfl | rfl := hlisted
    · exact ⟨false, hcfile⟩
    · exact ⟨true, hbfile⟩
    · exact ⟨true, hafile⟩
  obtain ⟨⟨names, hsorted, hnames, hload⟩, hperm⟩ :=
    (loadDocuments_name_order hsound (isDirectory_top _) isNameGlob_xml).1 hlooks
  refine ⟨⟨names, hsorted, ?_, ?_, ?_, hload⟩, ?_⟩
  · exact (hnames "a.xml").mpr ⟨isListed_mixedEntries.mpr (.inr (.inr rfl)), fits_xml ['a'], hafile⟩
  · exact (hnames "b.xml").mpr ⟨isListed_mixedEntries.mpr (.inr (.inl rfl)), fits_xml ['b'], hbfile⟩
  · intro hmem
    obtain ⟨-, -, hfile⟩ := (hnames "c.xml").mp hmem
    exact absurd (hfile.symm.trans hcfile) (by simp)
  · exact hperm (flat mixedEntries.reverse) (perm_flat (List.reverse_perm mixedEntries).symm) rfl

/-! ### Links to names that are too long -/

/-- Two links to a name that no directory can have. -/
def longLinks (first second : String) : Host :=
  flat [(first, .link (letters 256)), (second, .link (letters 256))]

/-- The first link that is listed is the one that is told. -/
theorem loadDocuments_longLinks_eq {first second : String} (hname : IsProperName first)
    (hfits : (NamePattern.ofText "*.xml").fits first.toList = true) :
    (longLinks first second).loadDocuments .top "*.xml"
      = .error (.file (.refused .nameTooLong (.ofName first))) := by
  have hlong : longestName < (letters 256).utf8ByteSize := by
    rw [utf8ByteSize_letters, longestName]
    omega
  have hentry : FileTree.entry? (longLinks first second).files [first] = some (.link (letters 256)) :=
    entry?_flat (List.lookup_cons_self)
  have hfile : (longLinks first second).isFile (.ofName first)
      = .error (.refused .nameTooLong (.ofName first)) :=
    isPresent_eq_error_iff.mp (isPresent_ofName_of_long hname hentry (slash_not_mem_letters 256) hlong)
  have hdirectory := isDirectory_top (longLinks first second)
  have hselect : (longLinks first second).select ⟨[.fitting (.ofText "*.xml")], false⟩ .top
      = .error (.refused .nameTooLong (.ofName first)) := by
    rw [select_of_isDirectory _ hdirectory]
    exact follow_fitting_of_first list_flat hfits hfile
  rw [loadDocuments_of_isDirectory hdirectory, documentFiles_of_selection selection_xml, hselect]
  rfl

/-- Links that lead nowhere are not passed over here, and which of them is told depends on their order. -/
theorem loadDocuments_longLinks :
    (longLinks "a.xml" "b.xml").files.entries.Perm (longLinks "b.xml" "a.xml").files.entries
      ∧ (longLinks "a.xml" "b.xml").loadDocuments .top "*.xml"
          = .error (.file (.refused .nameTooLong (.ofName "a.xml")))
      ∧ (longLinks "b.xml" "a.xml").loadDocuments .top "*.xml"
          = .error (.file (.refused .nameTooLong (.ofName "b.xml"))) := by
  refine ⟨perm_flat (.swap _ _ _), ?_, ?_⟩
  · exact loadDocuments_longLinks_eq (by decide) (fits_xml ['a'])
  · exact loadDocuments_longLinks_eq (by decide) (fits_xml ['b'])

end Host

end BusContract
