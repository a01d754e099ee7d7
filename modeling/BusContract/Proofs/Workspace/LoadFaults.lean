import BusContract.Proofs.Workspace.DirectoryOrder

/-!
# Faults that are not of the documents

Most faults are told as faults of the documents, and a caller is prepared for these. The others come from
below. For a single document there are two of them: a path with a null character in it, and bytes that are
not UTF-8. For a directory there are four: a path to it that is too long, a pattern that is no
selection, a look on the way that is refused, and a file that is selected whose bytes are not UTF-8.

* `Selection.ofText_eq_error_iff`: which texts are no selections.
* **`Host.load_faults_exact`**: exactly when a fault from below comes out.
* `Host.load_faults_uncaught`: a file and a pattern for which one does.
-/

namespace BusContract

/-! ## Texts that are no selections -/

namespace Selection

variable {text part : String} {fault : SelectionFault}

/-- Is this what is wrong with a text that is no selection? -/
inductive Rejects (text : String) : SelectionFault → Prop where
  | empty (hempty : text = "") : Rejects text .empty
  | absolute (habsolute : (FilePath.ofText text).isAbsolute = true) : Rejects text .absolute
  | noSteps (hempty : text ≠ "") (hrelative : (FilePath.ofText text).isAbsolute = false)
      (hparts : (FilePath.ofText text).parts = []) (hend : text.endsWith "/" = false) :
      Rejects text .noSteps
  | onlyDirectory (hrelative : (FilePath.ofText text).isAbsolute = false)
      (hparts : (FilePath.ofText text).parts = []) (hend : text.endsWith "/" = true) :
      Rejects text .onlyDirectory
  | brokenDepth (part : String) (hrelative : (FilePath.ofText text).isAbsolute = false)
      (hpart : part ∈ (FilePath.ofText text).parts) (hne : part ≠ "**")
      (hstars : hasDoubleStar part.toList = true) : Rejects text .brokenDepth

/-- A step is refused only where two stars are a part of it. -/
theorem stepOfText_eq_error_iff :
    stepOfText part = .error fault ↔
      fault = .brokenDepth ∧ part ≠ "**" ∧ hasDoubleStar part.toList = true := by
  unfold stepOfText
  split
  next h => simp [h]
  next h =>
    split
    next hstars => simp [h, hstars, eq_comm]
    next hstars => split <;> simp [hstars]

/-- Steps are refused if one of them is. -/
theorem mapM_stepOfText_eq_error_iff {parts : List String} :
    parts.mapM stepOfText = .error fault ↔
      fault = .brokenDepth ∧ ∃ part ∈ parts, part ≠ "**" ∧ hasDoubleStar part.toList = true := by
  constructor
  · intro h
    obtain ⟨part, hpart, hfault⟩ := exists_mem_of_mapM_error h
    obtain ⟨rfl, hbroken⟩ := stepOfText_eq_error_iff.mp hfault
    exact ⟨rfl, part, hpart, hbroken⟩
  · rintro ⟨rfl, part, hpart, hbroken⟩
    have hfails : ¬ Succeeds (parts.mapM stepOfText) := by
      intro hsucceeds
      obtain ⟨step, hstep⟩ := succeeds_mapM_iff.mp hsucceeds part hpart
      exact absurd (hstep.symm.trans (stepOfText_eq_error_iff.mpr ⟨rfl, hbroken⟩)) (by simp)
    obtain ⟨fault, hfault⟩ := not_succeeds_iff.mp hfails
    obtain ⟨_, -, hpart'⟩ := exists_mem_of_mapM_error hfault
    rw [hfault, (stepOfText_eq_error_iff.mp hpart').1]

/-- A pattern that is refused is so for one of the reasons. -/
theorem rejects_of_ofText (h : ofText text = .error fault) : Rejects text fault := by
  -- the conditions in the order in which the pattern is checked
  unfold ofText at h
  dsimp only at h
  split at h
  next hempty =>
    obtain rfl := Except.error.inj h
    exact .empty (String.isEmpty_iff.mp hempty)
  next hempty =>
    have hne : text ≠ "" := mt String.isEmpty_iff.mpr hempty
    split at h
    next habsolute =>
      obtain rfl := Except.error.inj h
      exact .absolute habsolute
    next habsolute =>
      have hrelative := Bool.eq_false_iff.mpr habsolute
      split at h
      next hparts =>
        rw [List.isEmpty_iff] at hparts
        cases hend : text.endsWith "/" with
        | true =>
          rw [hend] at h
          obtain rfl := Except.error.inj h
          exact .onlyDirectory hrelative hparts hend
        | false =>
          rw [hend] at h
          obtain rfl := Except.error.inj h
          exact .noSteps hne hrelative hparts hend
      next hparts =>
        obtain ⟨rfl, part, hpart, hplain, hstars⟩ :=
          mapM_stepOfText_eq_error_iff.mp (map_eq_error_iff.mp h)
        exact .brokenDepth part hrelative hpart hplain hstars

/-- Those are all the reasons, and each of them counts. -/
theorem ofText_eq_error_iff : ofText text = .error fault ↔ Rejects text fault := by
  refine ⟨rejects_of_ofText, fun h => ?_⟩
  cases h with
  | empty hempty => simp [ofText, hempty]
  | absolute habsolute =>
    have hne : text ≠ "" := by
      rintro rfl
      exact absurd habsolute (by decide)
    simp [ofText, String.isEmpty_iff, hne, habsolute]
  | noSteps hne hrelative hparts hend => simp [ofText, String.isEmpty_iff, hne, hrelative, hparts, hend]
  | onlyDirectory hrelative hparts hend =>
    have hne : text ≠ "" := by
      rintro rfl
      exact absurd (hend.symm.trans (endsWith_slash_of_not_mem List.not_mem_nil)) (by decide)
    simp [ofText, String.isEmpty_iff, hne, hrelative, hparts, hend]
  | brokenDepth part hrelative hpart hplain hstars =>
    have hsteps := mapM_stepOfText_eq_error_iff.mpr ⟨rfl, part, hpart, hplain, hstars⟩
    have hne : text ≠ "" := by
      rintro rfl
      exact absurd hpart List.not_mem_nil
    have hparts : (FilePath.ofText text).parts ≠ [] := List.ne_nil_of_mem hpart
    simp [ofText, String.isEmpty_iff, hne, hrelative, hparts, map_eq_error_iff, hsteps]

end Selection

namespace Host

variable {host : Host} {directory p q : FilePath} {pattern : String} {fault : LoadFault}
  {files : List FilePath} {bytes : List UInt8}

/-! ## Single documents -/

/-- Is this a fault of a single document that comes from below? -/
inductive DocumentEscapes (host : Host) (p : FilePath) : LoadFault → Prop where
  | null (hnull : '\x00' ∈ p.text.toList) : DocumentEscapes host p (.file .nullCharacter)
  | undecodable (bytes : List UInt8) (fault : Utf8.Fault) (hbytes : host.readBytes p = .ok bytes)
      (hdecode : Utf8.decode bytes = .error fault) : DocumentEscapes host p (.undecodable fault)

/-- A null character in the path is found before anything is read. -/
theorem readBytes_eq_null_iff :
    host.readBytes p = .error .nullCharacter ↔ '\x00' ∈ p.text.toList := by
  have hfind : host.find true p = .error .nullCharacter ↔ '\x00' ∈ p.text.toList := find_eq_null_iff
  rw [← hfind, readBytes]
  cases host.find true p with
  | error cause => simp
  | ok entry => cases entry <;> simp

/-- A fault that is not of the document comes from one of the two places. -/
theorem documentEscapes_of_loadDocument (h : host.loadDocument p = .error fault)
    (hfault : fault.isOfDocuments = false) : host.DocumentEscapes p fault := by
  cases hbytes : host.readBytes p with
  | error cause =>
    cases cause with
    | nullCharacter =>
      rw [loadDocument_of_null hbytes] at h
      cases h
      exact .null (readBytes_eq_null_iff.mp hbytes)
    | refused flaw refused =>
      rw [loadDocument_of_refused hbytes] at h
      cases h
      cases hfault
  | ok bytes =>
    cases hdecode : Utf8.decode bytes with
    | error cause =>
      rw [loadDocument_of_undecodable hbytes hdecode] at h
      cases h
      exact .undecodable bytes cause hbytes hdecode
    | ok text =>
      -- whatever is wrong with a text is a fault of the document
      rw [loadDocument_of_text hbytes hdecode] at h
      cases hparse : Introspection.parse p.text (String.ofList (foldLineEnds text)) with
      | ok d =>
        rw [hparse] at h
        cases h
      | error cause =>
        rw [hparse] at h
        cases h
        cases hfault

/-- Each of the two comes out. -/
theorem DocumentEscapes.loadDocument (h : host.DocumentEscapes p fault) :
    host.loadDocument p = .error fault := by
  cases h with
  | null hnull => exact loadDocument_of_null (readBytes_eq_null_iff.mpr hnull)
  | undecodable bytes fault hbytes hdecode => exact loadDocument_of_undecodable hbytes hdecode

/-! ## Directories -/

/-- Is this a fault of the documents of a directory that comes from below? -/
inductive Escapes (host : Host) (directory : FilePath) (pattern : String) : LoadFault → Prop where
  | directory (hfind : host.find true directory = .error (.refused .nameTooLong directory)) :
      Escapes host directory pattern (.file (.refused .nameTooLong directory))
  | pattern (fault : SelectionFault) (hdirectory : host.isDirectory directory = .ok true)
      (hrejects : Selection.Rejects pattern fault) : Escapes host directory pattern (.selection fault)
  | search (selection : Selection) (q : FilePath) (hdirectory : host.isDirectory directory = .ok true)
      (hselection : Selection.ofText pattern = .ok selection)
      (hmeets : host.Meets selection.onlyDirectories selection.steps directory
        (.refused .nameTooLong q)) : Escapes host directory pattern (.file (.refused .nameTooLong q))
  | document (before : List FilePath) (q : FilePath) (after : List FilePath) (bytes : List UInt8)
      (fault : Utf8.Fault) (hdirectory : host.isDirectory directory = .ok true)
      (hfiles : host.documentFiles directory pattern = .ok (before ++ q :: after))
      (hbefore : ∀ a ∈ before, Succeeds (host.loadDocument a))
      (hbytes : host.readBytes q = .ok bytes) (hdecode : Utf8.decode bytes = .error fault) :
      Escapes host directory pattern (.undecodable fault)

/-- Files that are selected can be read. -/
theorem exists_bytes_of_mem_documentFiles (hdirectory : host.isDirectory directory = .ok true)
    (hfiles : host.documentFiles directory pattern = .ok files) (hq : q ∈ files) :
    ∃ bytes, host.readBytes q = .ok bytes := by
  obtain ⟨selection, hselection⟩ := exists_selection_of_documentFiles hfiles
  obtain ⟨found, hfound, rfl⟩ := (documentFiles_eq_ok_iff hdirectory hselection).mp hfiles
  have hfinds := finds_of_mem_follow hfound (List.mem_mergeSort.mp hq)
  obtain ⟨bytes, hfind⟩ := isFile_eq_ok_true_iff.mp hfinds.isFile
  exact ⟨bytes, by rw [readBytes, hfind]⟩

/-- A search fails with a fault from below, and only for a path that is too long. -/
theorem escapes_of_documentFiles (hsound : host.files.Sound)
    (hdirectory : host.isDirectory directory = .ok true)
    (h : host.documentFiles directory pattern = .error fault) : host.Escapes directory pattern fault := by
  cases hselection : Selection.ofText pattern with
  | error cause =>
    rw [documentFiles_of_selection_error hselection] at h
    cases h
    exact .pattern cause hdirectory (Selection.ofText_eq_error_iff.mp hselection)
  | ok selection =>
    rw [documentFiles_of_selection hselection, map_eq_error_iff, select_of_isDirectory _ hdirectory] at h
    cases hsearch : host.follow selection.onlyDirectories selection.steps directory with
    | ok files =>
      rw [hsearch] at h
      cases h
    | error cause =>
      rw [hsearch] at h
      cases h
      have hmeets := meets_of_follow hsearch
      obtain ⟨q, rfl⟩ := hmeets.nameTooLong hsound fun _ => isListable_of_isDirectory hdirectory
      exact .search selection q hdirectory hselection hmeets

/-- A fault that is not of the documents comes from the pattern, from looking for files or from one of them.
-/
theorem escapes_of_loadDocuments (hsound : host.files.Sound)
    (h : host.loadDocuments directory pattern = .error fault)
    (hfault : fault.isOfDocuments = false) : host.Escapes directory pattern fault := by
  cases hdirectory : host.isDirectory directory with
  | error cause =>
    rw [loadDocuments_of_isDirectory_error hdirectory] at h
    cases h
    obtain ⟨hfind, rfl⟩ := test_eq_error_iff.mp hdirectory
    exact .directory hfind
  | ok isDirectory =>
    cases isDirectory with
    | false =>
      rw [loadDocuments_of_not_isDirectory hdirectory] at h
      cases h
      cases hfault
    | true =>
      rw [loadDocuments_of_isDirectory hdirectory, bind_eq_error_iff] at h
      rcases h with hfiles | ⟨files, hfiles, hread⟩
      · exact escapes_of_documentFiles hsound hdirectory hfiles
      · obtain ⟨before, q, after, rfl, hbefore, hq⟩ := mapM_eq_error_iff.mp hread
        have hmem : q ∈ before ++ q :: after := List.mem_append_right before List.mem_cons_self
        obtain ⟨bytes, hbytes⟩ := exists_bytes_of_mem_documentFiles hdirectory hfiles hmem
        -- a file that was found has been looked at, so its path has no NUL character
        cases documentEscapes_of_loadDocument hq hfault with
        | null hnull => exact absurd (hbytes.symm.trans (readBytes_eq_null_iff.mpr hnull)) (by simp)
        | undecodable bytes cause hbytes hdecode =>
          exact .document before q after bytes cause hdirectory hfiles hbefore hbytes hdecode

/-- If a fault can come from below, one does. Where several looks are refused it need not be this one. -/
theorem Escapes.exists_fault (hsound : host.files.Sound) (h : host.Escapes directory pattern fault) :
    ∃ cause, host.loadDocuments directory pattern = .error cause ∧ cause.isOfDocuments = false := by
  cases h with
  | directory hfind =>
    exact ⟨_, loadDocuments_of_isDirectory_error (test_eq_error_iff.mpr ⟨hfind, rfl⟩), rfl⟩
  | pattern cause hdirectory hrejects =>
    have hfiles : host.documentFiles directory pattern = .error (.selection cause) :=
      documentFiles_of_selection_error (Selection.ofText_eq_error_iff.mpr hrejects)
    refine ⟨.selection cause, ?_, rfl⟩
    rw [loadDocuments_of_isDirectory hdirectory, hfiles]
    rfl
  | search selection q hdirectory hselection hmeets =>
    obtain ⟨cause, hsearch⟩ := (follow_fails_iff hsound).mpr ⟨_, hmeets⟩
    have hfiles : host.documentFiles directory pattern = .error (.file cause) := by
      rw [documentFiles_of_selection hselection, map_eq_error_iff, select_of_isDirectory _ hdirectory,
        hsearch, mapError_error]
    refine ⟨.file cause, ?_, rfl⟩
    rw [loadDocuments_of_isDirectory hdirectory, hfiles]
    rfl
  | document before q after bytes cause hdirectory hfiles hbefore hbytes hdecode =>
    have hread : (before ++ q :: after).mapM host.loadDocument = .error (.undecodable cause) :=
      mapM_eq_error_iff.mpr
        ⟨before, q, after, rfl, hbefore, loadDocument_of_undecodable hbytes hdecode⟩
    refine ⟨.undecodable cause, ?_, rfl⟩
    rw [loadDocuments_of_isDirectory hdirectory, hfiles]
    exact hread

/-- **Exactly which faults come from below**: for a single document those of the rules, and for a directory
one of those of the rules if there are any. All other faults are of the documents. -/
theorem load_faults_exact (hsound : host.files.Sound) :
    (∀ p fault, fault.isOfDocuments = false →
        (host.loadDocument p = .error fault ↔ host.DocumentEscapes p fault))
      ∧ (∀ directory (pattern : String) fault, host.loadDocuments directory pattern = .error fault →
          fault.isOfDocuments = false → host.Escapes directory pattern fault)
      ∧ ∀ directory (pattern : String),
          (∀ fault, host.loadDocuments directory pattern = .error fault → fault.isOfDocuments = true) ↔
            ∀ fault, ¬ host.Escapes directory pattern fault := by
  refine ⟨fun p fault hfault => ?_, fun directory pattern fault => escapes_of_loadDocuments hsound,
    fun directory pattern => ?_⟩
  · exact ⟨fun h => documentEscapes_of_loadDocument h hfault, DocumentEscapes.loadDocument⟩
  · constructor
    · intro htold fault hescapes
      obtain ⟨cause, hload, hcause⟩ := hescapes.exists_fault hsound
      exact absurd (htold cause hload) (by simp [hcause])
    · intro hnone fault hload
      by_contra hfault
      exact hnone fault (escapes_of_loadDocuments hsound hload (Bool.eq_false_iff.mpr hfault))

/-! ### Bytes that are no text -/

/-- A single file, of a byte that begins no character. -/
def strayByte (name : String) : Host := flat [(name, .file [0xff])]

theorem decode_strayByte : Utf8.decode [0xff] = .error ⟨0xff, 0, 0, .startByte⟩ := by
  rw [Utf8.decode, Utf8.decodeFrom]
  rfl

theorem readBytes_strayByte {name : String} (hname : IsProperName name) :
    (strayByte name).readBytes (.ofName name) = .ok [0xff] :=
  readBytes_ofName hname (entry?_flat List.lookup_cons_self)

/-- A file that the pattern does not fit is not read with the directory, only by itself. -/
theorem load_faults_unselected :
    (strayByte "a.txt").loadDocument (.ofName "a.txt")
        = .error (.undecodable ⟨0xff, 0, 0, .startByte⟩)
      ∧ ∀ fault, (strayByte "a.txt").loadDocuments .top "*.xml" = .error fault →
          fault.isOfDocuments = true := by
  have hsound : (strayByte "a.txt").files.Sound := sound_flat (by decide) (by decide)
  have hunfit (name : String) (hmem : name ∈ ["a.txt"]) :
      (NamePattern.ofText "*.xml").fits name.toList ≠ true := by
    rw [List.mem_singleton.mp hmem, ofText_xml]
    simp [NamePattern.fits]
  obtain ⟨hdocument, -, hdirectory⟩ := load_faults_exact hsound
  constructor
  · exact (hdocument _ _ rfl).mpr (.undecodable _ _ (readBytes_strayByte (by decide)) decode_strayByte)
  · refine (hdirectory .top "*.xml").mpr fun fault hescapes => ?_
    cases hescapes with
    | directory hfind =>
      have htop := isDirectory_eq_ok_true_iff.mp (isDirectory_top (strayByte "a.txt"))
      exact absurd (hfind.symm.trans htop) (by simp)
    | pattern cause _ hrejects =>
      have hcause := Selection.ofText_eq_error_iff.mpr hrejects
      exact absurd (hcause.symm.trans selection_xml) (by simp)
    | search selection q _ hselection hmeets =>
      obtain rfl := Except.ok.inj (selection_xml.symm.trans hselection)
      obtain ⟨name, hlook, -⟩ := (meets_step_iff list_flat (by simp)).mp hmeets
      cases hlook with
      | listed _ _ hlisted hfits => exact hunfit name ((isListed_iff list_flat).mp hlisted) hfits
    | document before q after bytes cause htop hfiles =>
      obtain ⟨found, hfound, hsorted⟩ := (documentFiles_eq_ok_iff htop selection_xml).mp hfiles
      have hq : q ∈ found := List.mem_mergeSort.mp (hsorted ▸ List.mem_append_right before List.mem_cons_self)
      cases finds_of_mem_follow hfound hq with
      | fitting _ _ _ name entry entries _ hlist hmem _ hfits _ =>
        exact hunfit name ((isListed_iff list_flat).mp ⟨entry, entries, hlist, hmem⟩) hfits

/-- A byte that begins no character and a pattern without a character are not told as faults of the
documents. -/
theorem load_faults_uncaught :
    (∃ fault, (strayByte "a.xml").loadDocument (.ofName "a.xml") = .error fault
        ∧ fault.isOfDocuments = false)
      ∧ ∃ fault, (strayByte "a.xml").loadDocuments .top "" = .error fault
          ∧ fault.isOfDocuments = false := by
  constructor
  · have hread : (strayByte "a.xml").readBytes (.ofName "a.xml") = .ok [0xff] :=
      readBytes_strayByte (by decide)
    exact ⟨_, loadDocument_of_undecodable hread decode_strayByte, rfl⟩
  · have hrejected : Selection.ofText "" = .error .empty :=
      Selection.ofText_eq_error_iff.mpr (.empty rfl)
    refine ⟨.selection .empty, ?_, rfl⟩
    rw [loadDocuments_of_isDirectory (isDirectory_top _), documentFiles_of_selection_error hrejected]
    rfl

end Host

end BusContract
