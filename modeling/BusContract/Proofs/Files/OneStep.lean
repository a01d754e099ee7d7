import BusContract.Proofs.Files.Found

/-!
# Selections of a single step

A single step does not go below the directory it begins at. A pattern looks at the names that the
directory is listed with and that it fits, a given name at itself, listed or not (`Host.LooksAt`).
Unless one of these looks is refused, the names that are selected are those that are listed, fit, and
lead to a file, each once (`exists_names_of_select`).
-/

namespace BusContract

/-! ## Patterns of a single name -/

namespace NamePattern

/-- A text without wildcards is a pattern of its characters. -/
theorem read_of_plain {cs : List Char} (h : ∀ c ∈ cs, ¬ (c == '*' || c == '?' || c == '[')) :
    read cs.length (cs.map .char) = cs.map fun c => .point (.char c) := by
  induction cs with
  | nil => rfl
  | cons c cs ih =>
    obtain ⟨hc, hcs⟩ := List.forall_mem_cons.mp h
    simp only [Bool.or_eq_true, beq_iff_eq, not_or] at hc
    rw [List.length_cons, List.map_cons, read, ih hcs, List.map_cons]
    -- none of the characters that stand for others
    all_goals simp_all

/-- A pattern of characters fits that text alone. -/
theorem fits_map_point {cs name : List Char} :
    fits (cs.map fun c => .point (.char c)) name = true ↔ name = cs := by
  induction cs generalizing name with
  | nil => cases name <;> simp [fits]
  | cons c cs ih =>
    cases name with
    | nil => simp [fits]
    | cons c' name =>
      simp only [List.map_cons, fits, Bool.and_eq_true, beq_iff_eq, ih, TextPoint.char.injEq,
        List.cons.injEq, @eq_comm _ c]

/-- A text without wildcards fits itself alone. -/
theorem fits_ofText_of_plain {text name : String} (h : isPattern text = false) :
    (ofText text).fits name.toList = true ↔ name = text := by
  have hplain : ∀ c ∈ text.toList, ¬ (c == '*' || c == '?' || c == '[') := by
    simpa [isPattern] using h
  have hread : ofText text = text.toList.map fun c => .point (.char c) := by
    rw [← read_of_plain hplain, ofText, ofWide, WideText.ofText, WideText.ofChars, List.length_map]
  rw [hread, fits_map_point, String.toList_inj]

end NamePattern

namespace Selection

/-- A text without slashes is a single step. -/
theorem ofText_of_noSlash {text : String} (h : '/' ∉ text.toList) (hempty : text ≠ "")
    (hdot : text ≠ ".") : ofText text = (stepOfText text).map fun step => ⟨[step], false⟩ := by
  have hroot : FilePath.rootOf text.toList = "" := by
    have hnone : text.toList.takeWhile (· == '/') = [] := by
      cases hchars : text.toList with
      | nil => rfl
      | cons c cs =>
        have hc : c ≠ '/' := fun hc => h (hchars ▸ hc ▸ List.mem_cons_self)
        simp [hc]
    rw [FilePath.rootOf, hnone]
    rfl
  -- without a slash the text is a single part
  have hparts : (FilePath.ofText text).parts = [text] := by
    simp [FilePath.ofText, FilePath.properNames, slashParts_of_not_mem h, hempty, hdot]
  have habsolute : (FilePath.ofText text).isAbsolute = false := by
    simp [FilePath.isAbsolute, FilePath.ofText, hroot]
  have hsteps : ofText text
      = ([text].mapM stepOfText).map fun steps => (⟨steps, false⟩ : Selection) := by
    simp [ofText, String.isEmpty_iff, hempty, habsolute, hparts, endsWith_slash_of_not_mem h]
  rw [hsteps]
  cases hstep : stepOfText text <;> simp [hstep, Except.map, bind, Except.bind, pure, Except.pure]

end Selection

/-! ## Single steps -/

/-- Does the step fit the name? -/
def SelectionStep.fits : SelectionStep → String → Bool
  | name given, other => other == given
  | fitting pattern, other => pattern.fits other.toList
  | anyDepth, _ => false

namespace Host

variable {host : Host} {p : FilePath} {step : SelectionStep} {pattern : NamePattern} {name : String}
  {entries : List (String × FileEntry)} {fault : FileFault}

/-- Is there such an entry in the directory that the path leads to? -/
def HasEntry (host : Host) (p : FilePath) (name : String) (entry : FileEntry) : Prop :=
  ∃ entries, host.list p = .ok entries ∧ (name, entry) ∈ entries

/-- Is there an entry of this name in the directory that the path leads to? -/
def IsListed (host : Host) (p : FilePath) (name : String) : Prop := ∃ entry, host.HasEntry p name entry

/-- Does a search by the step alone look at the name? -/
inductive LooksAt (host : Host) (p : FilePath) : SelectionStep → String → Prop where
  | given (name : String) : LooksAt host p (.name name) name
  | listed (pattern : NamePattern) (name : String) (hlisted : host.IsListed p name)
      (hfits : pattern.fits name.toList = true) : LooksAt host p (.fitting pattern) name

/-- A name is listed if it is one of those in the directory. -/
theorem isListed_iff (hlist : host.list p = .ok entries) :
    host.IsListed p name ↔ name ∈ entries.map Prod.fst := by
  rw [List.mem_map]
  constructor
  · rintro ⟨entry, entries', hlist', hmem⟩
    have hsame : entries' = entries := Except.ok.inj (hlist'.symm.trans hlist)
    exact ⟨(name, entry), hsame ▸ hmem, rfl⟩
  · rintro ⟨⟨_, entry⟩, hmem, rfl⟩
    exact ⟨entry, entries, hlist, hmem⟩

/-- A file in the directory is listed. -/
theorem isListed_of_isFile (hsound : host.files.Sound) (hdirectory : host.isDirectory p = .ok true)
    (hfile : host.isFile (p.child name) = .ok true) : host.IsListed p name := by
  obtain ⟨place, hplace, hentry⟩ := exists_place_of_isDirectory hdirectory
  obtain ⟨bytes, hfind⟩ := isFile_eq_ok_true_iff.mp hfile
  obtain ⟨entry, hmem⟩ := exists_listed_of_file hsound hplace hentry hfind
  exact ⟨entry, _, list_eq_ok_iff.mpr ⟨place, hplace, hentry, rfl⟩, hmem⟩

/-- A name that is listed leads to its entry, unless it is that of a link. -/
theorem find_child_of_hasEntry (hsound : host.files.Sound) {entry : FileEntry}
    (h : host.HasEntry p name entry) (hno : ∀ target, entry ≠ .link target) :
    host.find true (p.child name) =
      if (p.child name).IsOverlong then .error (.refused .nameTooLong (p.child name))
      else .ok entry := by
  obtain ⟨entries, hlist, hmem⟩ := h
  obtain ⟨place, hplace, hdirectory, rfl⟩ := list_eq_ok_iff.mp hlist
  exact find_child_of_listed hsound hplace hdirectory hmem hno true

/-- Only the names that are listed matter. -/
theorem LooksAt.of_isListed {other : Host} (h : host.LooksAt p step name)
    (hlisted : ∀ name, host.IsListed p name → other.IsListed p name) : other.LooksAt p step name := by
  cases h with
  | given => exact .given name
  | listed pattern _ hmem hfits => exact .listed pattern name (hlisted name hmem) hfits

/-- Only names in the directory are looked at by a pattern. -/
theorem mem_of_looksAt (hlist : host.list p = .ok entries) (h : host.LooksAt p (.fitting pattern) name) :
    name ∈ entries.map Prod.fst := by
  cases h with
  | listed _ _ hlisted _ => exact (isListed_iff hlist).mp hlisted

/-- All tests of a path are refused alike. -/
theorem isPresent_eq_error_iff : host.isPresent p = .error fault ↔ host.isFile p = .error fault :=
  test_eq_error_iff.trans test_eq_error_iff.symm

/-- Where any entry will do, it can be gone into. -/
theorem isOpenEntry_false (entry : FileEntry) : host.isOpenEntry false p name entry = .ok true := by
  cases entry <;> rfl

/-! ## Looks that are refused -/

/-- At the end it is asked whether there is a file. -/
theorem meets_nil_iff {only : Bool} : host.Meets only [] p fault ↔ host.isFile p = .error fault := by
  constructor
  · intro h
    cases h with
    | file _ _ hfile => exact hfile
  · exact .file p fault

/-- A search by one step is refused a name that it looks at. -/
theorem meets_step_iff (hlist : host.list p = .ok entries) (hstep : step ≠ .anyDepth) :
    host.Meets false [step] p fault ↔
      ∃ name, host.LooksAt p step name ∧ host.isFile (p.child name) = .error fault := by
  constructor
  · intro h
    cases h with
    | opening name _ _ _ hopen => exact ⟨name, .given name, isPresent_eq_error_iff.mp hopen⟩
    | name name _ _ _ _ h => exact ⟨name, .given name, meets_nil_iff.mp h⟩
    | listing pattern _ _ _ hlist' => exact absurd (hlist'.symm.trans hlist) (by simp)
    -- a step that is the last one opens nothing, so only the look at the file can fail
    | entry pattern _ _ name entry _ _ _ _ hopen =>
      exact absurd (hopen.symm.trans (isOpenEntry_false entry)) (by simp)
    | fitting pattern _ _ name entry entries _ hlist hmem _ hfits h =>
      exact ⟨name, .listed pattern name ⟨entry, entries, hlist, hmem⟩ hfits, meets_nil_iff.mp h⟩
    | anyDepth => exact absurd rfl hstep
    | descent => exact absurd rfl hstep
  · rintro ⟨name, hlooks, hfault⟩
    cases hlooks with
    | given => exact .opening name [] p fault (isPresent_eq_error_iff.mpr hfault)
    | listed pattern _ hlisted hfits =>
      obtain ⟨entry, entries, hlist, hmem⟩ := hlisted
      exact .fitting pattern [] p name entry entries fault hlist hmem (isOpenEntry_false entry) hfits
        (meets_nil_iff.mpr hfault)

/-! ## Names that are selected -/

/-- And if so it is what is selected. -/
theorem follow_nil_of_succeeds {only : Bool} (h : Succeeds (host.isFile p)) :
    host.follow only [] p = .ok (if host.isFile p = .ok true then [p] else []) := by
  obtain ⟨isFile, hfile⟩ := h
  rw [follow, hfile]
  cases isFile <;> rfl

/-- Each name that is listed is selected or not for itself. -/
theorem follow_fitting_of_succeeds (hlist : host.list p = .ok entries)
    (hlooks : ∀ name, host.LooksAt p (.fitting pattern) name → Succeeds (host.isFile (p.child name))) :
    host.follow false [.fitting pattern] p = .ok (((entries.map Prod.fst).filter fun name =>
      pattern.fits name.toList && host.isFile (p.child name) = .ok true).map p.child) := by
  -- an entry that does not fit is not looked at, so it may be one that cannot be
  have hentry (name : String) (entry : FileEntry) (hmem : (name, entry) ∈ entries) :
      host.followEntry false pattern [] p name entry =
        .ok (if pattern.fits name.toList && host.isFile (p.child name) = .ok true
          then [p.child name] else []) := by
    by_cases hfits : pattern.fits name.toList = true
    · have hsucceeds := hlooks name (.listed pattern name ⟨entry, entries, hlist, hmem⟩ hfits)
      rw [followEntry_of_fits (isOpenEntry_false entry) hfits, follow_nil_of_succeeds hsucceeds]
      simp [hfits]
    · simp [followEntry, isOpenEntry_false, hfits, bind, Except.bind, pure, Except.pure]
  have hrows : (entries.mapM fun e => host.followEntry false pattern [] p e.1 e.2)
      = .ok (entries.map fun e =>
          if pattern.fits e.1.toList && host.isFile (p.child e.1) = .ok true
            then [p.child e.1] else []) := by
    rw [mapM_eq_ok_iff, List.forall₂_map_right_iff, List.forall₂_same]
    exact fun e hmem => hentry e.1 e.2 hmem
  rw [follow_fitting, hlist]
  show (entries.mapM fun e => host.followEntry false pattern [] p e.1 e.2) >>= _ = _
  rw [hrows]
  refine congrArg Except.ok ?_
  rw [← flatten_map_ite, List.map_map]
  rfl

/-- A step of one name selects what is of that name. -/
theorem follow_name_of_succeeds (hlooks : Succeeds (host.isFile (p.child name))) :
    host.follow false [.name name] p =
      .ok (if host.isFile (p.child name) = .ok true then [p.child name] else []) := by
  have hopen : Succeeds (host.isOpen false (p.child name)) := by
    by_contra hno
    obtain ⟨fault, hfault⟩ := not_succeeds_iff.mp hno
    exact not_succeeds_iff.mpr ⟨fault, isPresent_eq_error_iff.mp hfault⟩ hlooks
  obtain ⟨isOpen, hopen⟩ := hopen
  rw [follow, show host.isOpen (false || !([] : List SelectionStep).isEmpty) (p.child name) = _ from hopen]
  cases isOpen with
  | true =>
    have hfollow : host.follow false [] (p.child name) = _ := follow_nil_of_succeeds hlooks
    exact hfollow
  | false =>
    -- what is not there is no file
    have hno : host.isFile (p.child name) ≠ .ok true := by
      intro hfile
      obtain ⟨bytes, hfind⟩ := isFile_eq_ok_true_iff.mp hfile
      have hpresent : host.isOpen false (p.child name) = .ok true :=
        test_eq_ok_true_iff.mpr ⟨.file bytes, hfind, rfl⟩
      exact absurd (hopen.symm.trans hpresent) (by simp)
    rw [if_neg hno]
    rfl

/-- If the name that is listed first is refused, nothing else is looked at. -/
theorem follow_fitting_of_first {entry : FileEntry} (hlist : host.list p = .ok ((name, entry) :: entries))
    (hfits : pattern.fits name.toList = true) (hfault : host.isFile (p.child name) = .error fault) :
    host.follow false [.fitting pattern] p = .error fault := by
  have hentry : host.followEntry false pattern [] p name entry = .error fault := by
    rw [followEntry_of_fits (isOpenEntry_false entry) hfits, follow, hfault]
    rfl
  have hrows : ((name, entry) :: entries).mapM
      (fun e => host.followEntry false pattern [] p e.1 e.2) = .error fault :=
    mapM_eq_error_iff.mpr ⟨[], (name, entry), entries, rfl, List.forall_mem_nil _, hentry⟩
  rw [follow_fitting, hlist]
  show ((name, entry) :: entries).mapM (fun e => host.followEntry false pattern [] p e.1 e.2) >>= _ = _
  rw [hrows]
  rfl

/-- **A single step selects the names that are listed, fit, and lead to a file**, unless a look is
refused. -/
theorem exists_names_of_select (hsound : host.files.Sound) (hdirectory : host.isDirectory p = .ok true)
    (hstep : step ≠ .anyDepth)
    (hlooks : ∀ name, host.LooksAt p step name → Succeeds (host.isFile (p.child name))) :
    ∃ names : List String, names.Nodup
      ∧ (∀ name, name ∈ names ↔
          host.IsListed p name ∧ step.fits name = true ∧ host.isFile (p.child name) = .ok true)
      ∧ host.select ⟨[step], false⟩ p = .ok (names.map p.child) := by
  obtain ⟨place, hplace, hentry⟩ := exists_place_of_isDirectory hdirectory
  have hlist : host.list p = .ok (host.files.listing place) :=
    list_eq_ok_iff.mpr ⟨place, hplace, hentry, rfl⟩
  rw [select_of_isDirectory _ hdirectory]
  cases step with
  | name given =>
    refine ⟨if host.isFile (p.child given) = .ok true then [given] else [], ?_, fun name => ?_, ?_⟩
    · split
      · exact List.nodup_singleton given
      · exact List.nodup_nil
    · constructor
      · intro hmem
        split at hmem
        next hfile =>
          obtain rfl := List.mem_singleton.mp hmem
          exact ⟨isListed_of_isFile hsound hdirectory hfile, beq_self_eq_true name, hfile⟩
        next => exact absurd hmem List.not_mem_nil
      · rintro ⟨-, hfits, hfile⟩
        obtain rfl : name = given := beq_iff_eq.mp hfits
        rw [if_pos hfile]
        exact List.mem_singleton_self name
    · rw [follow_name_of_succeeds (hlooks given (.given given))]
      split <;> rfl
  | fitting pattern =>
    -- names stand once in a listing, so the filtered row has none twice
    have honce : ((host.files.listing place).map Prod.fst).Nodup := hsound.nodup_listing
    refine ⟨_, honce.filter _, fun name => ?_, follow_fitting_of_succeeds hlist hlooks⟩
    rw [List.mem_filter, isListed_iff hlist, Bool.and_eq_true, decide_eq_true_iff]
    rfl
  | anyDepth => exact absurd rfl hstep

/-- A search by one step that is refused a look fails for a name that it looks at. -/
theorem exists_fault_of_select (hsound : host.files.Sound) (hdirectory : host.isDirectory p = .ok true)
    (hstep : step ≠ .anyDepth)
    (hlooks : ∃ name, host.LooksAt p step name ∧ ¬ Succeeds (host.isFile (p.child name))) :
    ∃ name, host.LooksAt p step name
      ∧ host.select ⟨[step], false⟩ p = .error (.refused .nameTooLong (p.child name)) := by
  obtain ⟨entries, hlist⟩ := exists_list_of_isDirectory hdirectory
  obtain ⟨name, hlook, hno⟩ := hlooks
  obtain ⟨fault, hfault⟩ := not_succeeds_iff.mp hno
  have hmeets : host.Meets false [step] p fault := (meets_step_iff hlist hstep).mpr ⟨name, hlook, hfault⟩
  obtain ⟨fault', hselect⟩ := (follow_fails_iff hsound).mpr ⟨fault, hmeets⟩
  obtain ⟨name', hlook', hfault'⟩ := (meets_step_iff hlist hstep).mp (meets_of_follow hselect)
  obtain ⟨-, rfl⟩ := test_eq_error_iff.mp hfault'
  exact ⟨name', hlook', (select_of_isDirectory _ hdirectory).trans hselect⟩

end Host

end BusContract
