import BusContract.Files.Canonical
import BusContract.Proofs.Workspace.Loading

/-!
# Paths that begin at the root

What a path that begins at the root leads to is settled by the files alone: hosts with the same files
agree on it, wherever their working directories are and whatever their variables say. A walk through
such a directory only comes by paths of this kind, so the documents that are loaded from it are the
same as well.

* `canonical_isAbsolute`: a canonical path begins at the root.
* **`loadDocuments_eq_of_files`**: hosts with the same files give the same documents.
-/

namespace BusContract

namespace Host

/-- A canonical path begins at the root. -/
theorem canonical_isAbsolute {host : Host} {p q : FilePath} (h : host.canonical p = .ok q) :
    q.isAbsolute = true := by
  simp only [canonical] at h
  generalize host.canonicalFrom _ _ _ _ = walked at h
  cases walked with
  | error fault => cases h
  | ok r =>
    by_cases habsolute : r.isAbsolute = true
    · simp only [habsolute, if_true, Except.ok.injEq] at h
      rwa [← h]
    · simp only [habsolute, Bool.false_eq_true, if_false, Except.ok.injEq] at h
      rw [← h]
      rfl

/-! ## Single paths -/

section SinglePaths

variable {host other : Host} {p : FilePath} (hfiles : host.files = other.files)
  (habsolute : p.isAbsolute = true)

include hfiles habsolute

/-- An absolute path leads to the same place, wherever one works. -/
theorem locate_eq_of_files (follow : Bool) : host.locate follow p = other.locate follow p := by
  simp only [locate, hfiles, habsolute, if_true]

theorem find_eq_of_files (follow : Bool) : host.find follow p = other.find follow p := by
  simp only [find, locate_eq_of_files hfiles habsolute, hfiles]

/-- The same is told of it. -/
theorem test_eq_of_files (accept : FileEntry → Bool) : host.test accept p = other.test accept p :=
  test_eq_of_find (find_eq_of_files hfiles habsolute true) accept

theorem isDirectory_eq_of_files : host.isDirectory p = other.isDirectory p :=
  test_eq_of_files hfiles habsolute _

theorem isOpen_eq_of_files (needsDirectory : Bool) :
    host.isOpen needsDirectory p = other.isOpen needsDirectory p := by
  unfold isOpen isDirectory isPresent
  simp only [test_eq_of_files hfiles habsolute]

/-- The same is listed there. -/
theorem list_eq_of_files : host.list p = other.list p := by
  simp only [list, locate_eq_of_files hfiles habsolute, hfiles]

/-- The same document is read there. -/
theorem loadDocument_eq_of_files : host.loadDocument p = other.loadDocument p :=
  loadDocument_eq_of_find (find_eq_of_files hfiles habsolute true)

end SinglePaths

/-! ## Walks -/

/-- The same entries can be gone into. -/
theorem isOpenEntry_eq_of_files {host other : Host} (hfiles : host.files = other.files)
    (needsDirectory : Bool) {p : FilePath} (habsolute : p.isAbsolute = true) (name : String)
    (entry : FileEntry) :
    host.isOpenEntry needsDirectory p name entry = other.isOpenEntry needsDirectory p name entry := by
  -- only a path that does not begin at the root is listed with a dot
  have hroot : p.root.isEmpty = false := by simpa [FilePath.isAbsolute] using habsolute
  have hlisted : p.listed name = p.child name := by simp [FilePath.listed, hroot]
  have hdirectory : host.isDirectory (p.listed name) = other.isDirectory (p.listed name) := by
    rw [hlisted]
    exact isDirectory_eq_of_files hfiles habsolute
  cases entry with
  | directory => rfl
  | file bytes => rfl
  | link target => rw [isOpenEntry, isOpenEntry, hdirectory]

/-- Induction on the depth. The directories below begin where the path does. -/
theorem descend_eq_of_files {host other : Host} (hfiles : host.files = other.files)
    {visit visit' : FilePath → Except FileFault (List FilePath)}
    (hvisit : ∀ q : FilePath, q.isAbsolute = true → visit q = visit' q) (depth : Nat) {p : FilePath}
    (habsolute : p.isAbsolute = true) : host.descend visit depth p = other.descend visit' depth p := by
  induction depth generalizing p with
  | zero => exact hvisit p habsolute
  | succ depth ih =>
    have hbelow (name : String) := ih (p := p.child name) habsolute
    simp only [descend, hvisit p habsolute, list_eq_of_files hfiles habsolute, hbelow]

/-- Induction on the steps. -/
theorem follow_eq_of_files {host other : Host} (hfiles : host.files = other.files)
    (onlyDirectories : Bool) (steps : List SelectionStep) {p : FilePath}
    (habsolute : p.isAbsolute = true) :
    host.follow onlyDirectories steps p = other.follow onlyDirectories steps p := by
  induction steps generalizing p with
  | nil =>
    have hfile : host.isFile p = other.isFile p := test_eq_of_files hfiles habsolute _
    simp only [follow, hfile]
  | cons step rest ih =>
    -- all that is looked at lies below, so it is given from the root as well
    have hchild (name : String) : (p.child name).isAbsolute = true := habsolute
    have hrest (name : String) := ih (hchild name)
    cases step with
    | name name =>
      simp only [follow, isOpen_eq_of_files hfiles (hchild name), hrest]
    | fitting pattern =>
      have hopen (needsDirectory : Bool) := isOpenEntry_eq_of_files hfiles needsDirectory habsolute
      simp only [follow, list_eq_of_files hfiles habsolute, hopen, hrest]
    | anyDepth =>
      have hbelow := descend_eq_of_files hfiles (fun q hq => ih (p := q) hq)
        (host.files.entries.length + 1) habsolute
      rw [follow, follow, hbelow, hfiles]

/-! ## Documents -/

/-- The same files are selected. -/
theorem select_eq_of_files {host other : Host} (hfiles : host.files = other.files)
    (selection : Selection) {p : FilePath} (habsolute : p.isAbsolute = true) :
    host.select selection p = other.select selection p := by
  simp only [select, isDirectory_eq_of_files hfiles habsolute, follow_eq_of_files hfiles _ _ habsolute]

/-- The same files hold documents. -/
theorem documentFiles_eq_of_files {host other : Host} (hfiles : host.files = other.files)
    (pattern : WideText) {directory : FilePath} (habsolute : directory.isAbsolute = true) :
    host.documentFiles directory pattern = other.documentFiles directory pattern := by
  simp only [documentFiles, select_eq_of_files hfiles _ habsolute]

/-- What is selected in an absolute directory has an absolute path. -/
theorem isAbsolute_of_mem_select {host : Host} {selection : Selection} {p : FilePath}
    {found : List FilePath} (h : host.select selection p = .ok found)
    (habsolute : p.isAbsolute = true) : ∀ q ∈ found, q.isAbsolute = true := by
  intro q hq
  rw [select, bind_eq_ok_iff] at h
  obtain ⟨isDirectory, -, h⟩ := h
  split at h
  · have hroot := (finds_of_mem_follow h hq).root_eq
    rw [FilePath.isAbsolute, hroot]
    exact habsolute
  · obtain rfl : [] = found := Except.ok.inj h
    exact absurd hq List.not_mem_nil

theorem isAbsolute_of_mem_documentFiles {host : Host} {directory : FilePath} {pattern : WideText}
    {found : List FilePath} (h : host.documentFiles directory pattern = .ok found)
    (habsolute : directory.isAbsolute = true) : ∀ q ∈ found, q.isAbsolute = true := by
  simp only [documentFiles, bind_eq_ok_iff, mapError_eq_ok_iff] at h
  obtain ⟨selection, -, files, hfiles, h⟩ := h
  obtain rfl := Except.ok.inj h
  intro q hq
  exact isAbsolute_of_mem_select hfiles habsolute q (List.mem_mergeSort.mp hq)

/-- Hosts with the same files load the same documents from a directory given from the root. -/
theorem loadDocuments_eq_of_files {host other : Host} (hfiles : host.files = other.files)
    (pattern : WideText) {directory : FilePath} (habsolute : directory.isAbsolute = true) :
    host.loadDocuments directory pattern = other.loadDocuments directory pattern := by
  have hdirectory := isDirectory_eq_of_files hfiles habsolute
  have hdocuments := documentFiles_eq_of_files hfiles pattern habsolute
  unfold loadDocuments
  cases hfound : host.documentFiles directory pattern with
  | error fault => simp only [← hdirectory, ← hdocuments, hfound, bind, Except.bind]
  | ok found =>
    have hload : found.mapM host.loadDocument = found.mapM other.loadDocument :=
      mapM_congr fun q hq =>
        loadDocument_eq_of_files hfiles (isAbsolute_of_mem_documentFiles hfound habsolute q hq)
    simp only [← hdirectory, ← hdocuments, hfound, bind, Except.bind, hload]

end Host

end BusContract
