import BusContract.Proofs.Files.Found
import BusContract.Proofs.Files.WidePaths
import BusContract.Proofs.Interface.Described
import BusContract.Workspace.Documents

/-!
# Loading, step by step

What a document comes to depends on what its path leads to, and on nothing else of the host. The
documents of a directory are those of the files that are selected, if the directory is one.
-/

namespace BusContract

namespace Host

variable {host other : Host} {directory p : FilePath} {pattern : String} {d : InterfaceDocument}

/-! ## Single documents -/

/-- Where a path leads to the same, the same is told of it. -/
theorem test_eq_of_find (h : host.find true p = other.find true p) (accept : FileEntry → Bool) :
    host.test accept p = other.test accept p := by
  simp only [test, h]

/-- Where a path leads to the same, the same is read from it. -/
theorem loadDocument_eq_of_find (h : host.find true p = other.find true p) :
    host.loadDocument p = other.loadDocument p := by
  simp only [loadDocument, readText, readBytes, h]

/-- What the system refuses is told as a document that cannot be read. -/
theorem loadDocument_of_refused {flaw : FileFlaw} {refused : FilePath}
    (h : host.readBytes p = .error (.refused flaw refused)) :
    host.loadDocument p = .error (.unreadable p flaw refused) := by
  simp only [loadDocument, readText, h]

/-- A null character in the path is nothing that the system is asked about. -/
theorem loadDocument_of_null (h : host.readBytes p = .error .nullCharacter) :
    host.loadDocument p = .error (.file .nullCharacter) := by
  simp only [loadDocument, readText, h]

section Bytes

variable {bytes : List UInt8} (hbytes : host.readBytes p = .ok bytes)

include hbytes

/-- Bytes that are not UTF-8 are no document, nor told as one. -/
theorem loadDocument_of_undecodable {fault : Utf8.Fault} (h : Utf8.decode bytes = .error fault) :
    host.loadDocument p = .error (.undecodable fault) := by
  simp only [loadDocument, readText, hbytes, h]

/-- A text is a document or told as none. -/
theorem loadDocument_of_text {text : List Char} (h : Utf8.decode bytes = .ok text) :
    host.loadDocument p
      = (Introspection.parse p.text (String.ofList (foldLineEnds text))).mapError .unfit := by
  simp only [loadDocument, readText, hbytes, h]

end Bytes

/-- A document knows where it comes from. -/
theorem source_of_loadDocument (h : host.loadDocument p = .ok d) : d.source = p.text := by
  unfold loadDocument at h
  split at h
  · cases h
  · cases h
  · cases h
  · rw [mapError_eq_ok_iff, Introspection.parse] at h
    split at h
    · cases h
    · rw [mapError_eq_ok_iff] at h
      exact (Introspection.describes_of_ofElement h).source

/-! ## Directories -/

/-- The files of a directory are read one after the other. -/
theorem loadDocuments_of_isDirectory (h : host.isDirectory directory = .ok true) :
    host.loadDocuments directory pattern
      = host.documentFiles directory pattern >>= fun files => files.mapM host.loadDocument := by
  rw [loadDocuments, h]
  rfl

/-- It may be refused to tell whether there is a directory. -/
theorem loadDocuments_of_isDirectory_error {fault : FileFault}
    (h : host.isDirectory directory = .error fault) :
    host.loadDocuments directory pattern = .error (.file fault) := by
  rw [loadDocuments, h]
  rfl

/-- What is no directory has no documents. -/
theorem loadDocuments_of_not_isDirectory (h : host.isDirectory directory = .ok false) :
    host.loadDocuments directory pattern = .error (.noDirectory directory) := by
  rw [loadDocuments, h]
  rfl

/-- The files that are selected are ordered by their names. -/
theorem documentFiles_of_selection {selection : Selection}
    (h : Selection.ofText pattern = .ok selection) :
    host.documentFiles directory pattern =
      ((host.select selection directory).mapError LoadFault.file).map fun files =>
        files.mergeSort fun a b => !decide (b.name < a.name) := by
  rw [documentFiles, Selection.ofWide_ofText, h]
  show (host.select selection directory).mapError LoadFault.file >>= _ = _
  cases host.select selection directory <;> rfl

/-- A pattern that selects nothing in any directory is refused. -/
theorem documentFiles_of_selection_error {fault : SelectionFault}
    (h : Selection.ofText pattern = .error fault) :
    host.documentFiles directory pattern = .error (.selection fault) := by
  rw [documentFiles, Selection.ofWide_ofText, h]
  rfl

/-- The files of a directory are those that a search comes to. -/
theorem documentFiles_eq_ok_iff {selection : Selection} {files : List FilePath}
    (hdirectory : host.isDirectory directory = .ok true)
    (hselection : Selection.ofText pattern = .ok selection) :
    host.documentFiles directory pattern = .ok files ↔
      ∃ found, host.follow selection.onlyDirectories selection.steps directory = .ok found
        ∧ files = found.mergeSort fun a b => !decide (b.name < a.name) := by
  rw [documentFiles_of_selection hselection, map_eq_ok_iff, select_of_isDirectory _ hdirectory]
  simp only [mapError_eq_ok_iff]

/-- Where there are files to be read the pattern is accepted. -/
theorem exists_selection_of_documentFiles {files : List FilePath}
    (h : host.documentFiles directory pattern = .ok files) :
    ∃ selection, Selection.ofText pattern = .ok selection := by
  cases hselection : Selection.ofText pattern with
  | ok selection => exact ⟨selection, rfl⟩
  | error fault =>
    rw [documentFiles_of_selection_error hselection] at h
    cases h

/-- A single file is in order. -/
theorem documentFiles_of_single {selection : Selection} {q : FilePath}
    (hselection : Selection.ofText pattern = .ok selection)
    (hselect : host.select selection directory = .ok [q]) :
    host.documentFiles directory pattern = .ok [q] := by
  rw [documentFiles_of_selection hselection, hselect, mapError_ok]
  exact congrArg Except.ok (List.mergeSort_singleton q)

/-- Documents are loaded only from a directory, each from a file of its own. -/
theorem loadDocuments_eq_ok_iff {documents : List InterfaceDocument} :
    host.loadDocuments directory pattern = .ok documents ↔
      host.isDirectory directory = .ok true ∧ ∃ files, host.documentFiles directory pattern = .ok files
        ∧ List.Forall₂ (fun q d => host.loadDocument q = .ok d) files documents := by
  cases hdirectory : host.isDirectory directory with
  | error fault => simp [loadDocuments_of_isDirectory_error hdirectory]
  | ok isDirectory =>
    cases isDirectory with
    | false => simp [loadDocuments_of_not_isDirectory hdirectory]
    | true =>
      rw [loadDocuments_of_isDirectory hdirectory, bind_eq_ok_iff]
      simp only [mapM_eq_ok_iff, true_and]

end Host

end BusContract
