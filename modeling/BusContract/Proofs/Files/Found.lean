import BusContract.Proofs.Files.Listings
import BusContract.Proofs.Files.Search
import Mathlib.Data.List.Perm.Subperm

/-!
# A search finds all there is

A way down through directories passes an entry of the tree with every step, and none twice. So the
bound on the depth of a search is never the reason that it ends: a search that succeeds gives exactly
the files that the rules lead to, and it fails exactly if a look is met that the system refuses. All
that the system can refuse by then is a path, or a name on the way, that is too long.

* `mem_follow_iff`, `follow_fails_iff`: what a search gives, and when it fails.
* `Meets.nameTooLong`: what it fails for.
-/

namespace BusContract

namespace Host

variable {host : Host} {only : Bool} {p q : FilePath} {place : Place} {steps : List SelectionStep}
  {fault : FileFault}

/-! ## How far down a search can go -/

/-- Every step down goes to a place of its own. -/
theorem exists_names_of_below (hsound : host.files.Sound) {n : Nat} (h : host.Below n p q)
    (hplace : host.locate true p = .ok place) :
    ∃ names : List String, names.length = n
      ∧ ∀ k < n, place ++ names.take (k + 1) ∈ host.files.entries.map Prod.fst := by
  induction h generalizing place with
  | here p => exact ⟨[], rfl, fun k hk => absurd hk (Nat.not_lt_zero k)⟩
  | down n p name entries q hlist hmem h ih =>
    obtain ⟨place', hplace', hdirectory, rfl⟩ := list_eq_ok_iff.mp hlist
    obtain rfl : place' = place := Except.ok.inj (hplace'.symm.trans hplace)
    have hentry : place' ++ [name] ∈ host.files.entries.map Prod.fst :=
      List.mem_map.mpr ⟨_, FileTree.mem_listing_iff.mp hmem, rfl⟩
    cases n with
    | zero =>
      refine ⟨[name], rfl, fun k hk => ?_⟩
      obtain rfl : k = 0 := by omega
      exact hentry
    | succ n =>
      -- there is another step, so the directory can be listed, and its path leads to the place
      have hchild : host.locate true (p.child name) = .ok (place' ++ [name]) := by
        cases h with
        | down _ _ name' entries' _ hlist' _ _ =>
          obtain ⟨below, hbelow, -, -⟩ := list_eq_ok_iff.mp hlist'
          have hlocate := locate_child_of_listed hsound hplace hdirectory hmem nofun true
          rw [hbelow] at hlocate
          split at hlocate
          next => cases hlocate
          next => rw [hbelow, hlocate]
      obtain ⟨names, hlength, hnames⟩ := ih hchild
      refine ⟨name :: names, congrArg Nat.succ hlength, fun k hk => ?_⟩
      cases k with
      | zero => exact hentry
      | succ k =>
        have hk := hnames k (Nat.lt_of_succ_lt_succ hk)
        rwa [List.append_assoc] at hk

/-- Below a path there are no more levels of directories than there are entries. -/
theorem below_le (hsound : host.files.Sound) {n : Nat} (h : host.Below n p q) :
    n ≤ host.files.entries.length := by
  cases h with
  | here => exact Nat.zero_le _
  | down n _ name entries _ hlist hmem h =>
    obtain ⟨place, hplace, -, -⟩ := list_eq_ok_iff.mp hlist
    obtain ⟨names, hlength, hnames⟩ :=
      exists_names_of_below hsound (.down n p name entries q hlist hmem h) hplace
    -- the directories on the way are different entries of the tree
    let places := (List.range (n + 1)).map fun k => place ++ names.take (k + 1)
    have hnodup : places.Nodup := by
      refine List.Nodup.map_on ?_ List.nodup_range
      intro k hk l hl hsame
      have hk := List.mem_range.mp hk
      have hl := List.mem_range.mp hl
      have htake := congrArg List.length (List.append_cancel_left hsame)
      rw [List.length_take, List.length_take, hlength] at htake
      omega
    have hsubset : places ⊆ host.files.entries.map Prod.fst := by
      intro whole hwhole
      obtain ⟨k, hk, rfl⟩ := List.mem_map.mp hwhole
      exact hnames k (List.mem_range.mp hk)
    have hle := (hnodup.subperm hsubset).length_le
    simpa [places] using hle

/-! ## Completeness -/

/-- A step to any depth goes down everywhere. -/
theorem succeeds_follow_anyDepth_iff {rest : List SelectionStep} :
    Succeeds (host.follow only (.anyDepth :: rest) p) ↔
      Succeeds (host.descend (host.follow only rest) (host.files.entries.length + 1) p) := by
  rw [follow]
  exact succeeds_bind_pure_iff

/-- What a search comes to at one entry of a directory. -/
def followEntry (host : Host) (only : Bool) (pattern : NamePattern) (rest : List SelectionStep)
    (p : FilePath) (name : String) (entry : FileEntry) : Except FileFault (List FilePath) := do
  let isOpen ← host.isOpenEntry (only || !rest.isEmpty) p name entry
  if isOpen && pattern.fits name.toList then host.follow only rest (p.child name) else return []

section Entry

variable {pattern : NamePattern} {rest : List SelectionStep} {name : String} {entry : FileEntry}
  {entries : List (String × FileEntry)}

theorem follow_fitting :
    host.follow only (.fitting pattern :: rest) p = do
      let found ← (← host.list p).mapM fun e => host.followEntry only pattern rest p e.1 e.2
      return found.flatten := rfl

/-- An entry that fits is gone on from. -/
theorem followEntry_of_fits
    (hopen : host.isOpenEntry (only || !rest.isEmpty) p name entry = .ok true)
    (hfits : pattern.fits name.toList = true) :
    host.followEntry only pattern rest p name entry = host.follow only rest (p.child name) := by
  simp only [followEntry, hopen, bind, Except.bind, hfits, Bool.and_self, if_true]

/-- A step succeeds only if it does for each entry. -/
theorem succeeds_entry_of_follow (hlist : host.list p = .ok entries) (hmem : (name, entry) ∈ entries)
    (h : Succeeds (host.follow only (.fitting pattern :: rest) p)) :
    Succeeds (host.followEntry only pattern rest p name entry) := by
  rw [follow_fitting, hlist] at h
  exact succeeds_mapM_iff.mp (succeeds_bind_pure_iff.mp h) (name, entry) hmem

end Entry

/-- A search that meets a look that is refused does not succeed. -/
theorem not_succeeds_of_meets (hsound : host.files.Sound) (h : host.Meets only steps p fault) :
    ¬ Succeeds (host.follow only steps p) := by
  induction h with
  | file p fault hfile =>
    rintro ⟨files, hfiles⟩
    rw [follow, hfile] at hfiles
    cases hfiles
  | opening name rest p fault hopen =>
    rintro ⟨files, hfiles⟩
    rw [follow, hopen] at hfiles
    cases hfiles
  | name name rest p fault hopen h ih =>
    rintro ⟨files, hfiles⟩
    rw [follow, hopen] at hfiles
    exact ih ⟨files, hfiles⟩
  | listing pattern rest p fault hlist =>
    rintro ⟨files, hfiles⟩
    rw [follow, hlist] at hfiles
    cases hfiles
  | entry pattern rest p name entry entries fault hlist hmem hopen =>
    intro hsucceeds
    obtain ⟨row, hrow⟩ := succeeds_entry_of_follow hlist hmem hsucceeds
    rw [followEntry, hopen] at hrow
    cases hrow
  | fitting pattern rest p name entry entries fault hlist hmem hopen hfits h ih =>
    intro hsucceeds
    obtain ⟨row, hrow⟩ := succeeds_entry_of_follow hlist hmem hsucceeds
    rw [followEntry_of_fits hopen hfits] at hrow
    exact ih ⟨row, hrow⟩
  -- no chain of directories is longer than the bound of the search, so the place of the fault is visited
  | anyDepth n rest p start fault hbelow h ih =>
    intro hsucceeds
    have hdepth := Nat.le_succ_of_le (below_le hsound hbelow)
    obtain ⟨hvisit, -⟩ := succeeds_of_descend (succeeds_follow_anyDepth_iff.mp hsucceeds) hbelow
    exact ih (hvisit hdepth)
  | descent n rest p start fault hbelow hlist =>
    intro hsucceeds
    have hdepth := Nat.lt_succ_of_le (below_le hsound hbelow)
    obtain ⟨-, hlists⟩ := succeeds_of_descend (succeeds_follow_anyDepth_iff.mp hsucceeds) hbelow
    obtain ⟨entries, hentries⟩ := hlists hdepth
    rw [hlist] at hentries
    cases hentries

/-- **A search fails exactly if it meets a look that is refused.** -/
theorem follow_fails_iff (hsound : host.files.Sound) :
    (∃ fault, host.follow only steps p = .error fault) ↔ ∃ fault, host.Meets only steps p fault := by
  constructor
  · rintro ⟨fault, h⟩
    exact ⟨fault, meets_of_follow h⟩
  · rintro ⟨fault, h⟩
    exact not_succeeds_iff.mp (not_succeeds_of_meets hsound h)

/-- What the rules find is in what the search gives. Induction on the rules. -/
theorem mem_follow_of_finds (hsound : host.files.Sound) (h : host.Finds only steps p q)
    {files : List FilePath} (hfiles : host.follow only steps p = .ok files) : q ∈ files := by
  induction h generalizing files with
  | file p hfile =>
    rw [follow, hfile] at hfiles
    obtain rfl : [p] = files := Except.ok.inj hfiles
    exact List.mem_singleton_self p
  | name name rest p q hopen h ih =>
    rw [follow, hopen] at hfiles
    exact ih hfiles
  | fitting pattern rest p name entry entries q hlist hmem hopen hfits h ih =>
    -- the whole search succeeded, so that of this entry did
    obtain ⟨row, hrow⟩ := succeeds_entry_of_follow hlist hmem ⟨files, hfiles⟩
    simp only [follow, bind_eq_ok_iff] at hfiles
    obtain ⟨entries', hlist', rows, hrows, hflat⟩ := hfiles
    obtain rfl : entries' = entries := Except.ok.inj (hlist'.symm.trans hlist)
    obtain rfl : rows.flatten = files := Except.ok.inj hflat
    refine (mem_flatten_of_mapM hrows).mpr ⟨(name, entry), hmem, row, hrow, ih ?_⟩
    rwa [followEntry_of_fits hopen hfits] at hrow
  | anyDepth n rest p start q hbelow h ih =>
    rw [follow, bind_eq_ok_iff] at hfiles
    obtain ⟨found, hfound, hdups⟩ := hfiles
    obtain rfl : found.eraseDups = files := Except.ok.inj hdups
    have hdepth := Nat.le_succ_of_le (below_le hsound hbelow)
    obtain ⟨hvisit, -⟩ := succeeds_of_descend ⟨found, hfound⟩ hbelow
    obtain ⟨row, hrow⟩ := hvisit hdepth
    exact List.mem_eraseDups.mpr
      ((mem_descend_iff hfound).mpr ⟨n, start, hdepth, hbelow, row, hrow, ih hrow⟩)

/-- **A search that succeeds gives exactly the files that the rules lead to.** -/
theorem mem_follow_iff (hsound : host.files.Sound) {files : List FilePath}
    (h : host.follow only steps p = .ok files) : q ∈ files ↔ host.Finds only steps p q :=
  ⟨finds_of_mem_follow h, fun hq => mem_follow_of_finds hsound hq h⟩

/-! ## What a search fails for -/

/-- Can the directory at a path be listed, unless the path is too long? -/
def IsListable (host : Host) (p : FilePath) : Prop :=
  ∀ fault, host.list p = .error fault → fault = .refused .nameTooLong p

/-- A directory can be listed. -/
theorem isListable_of_isDirectory (h : host.isDirectory p = .ok true) : host.IsListable p := by
  obtain ⟨entries, hentries⟩ := exists_list_of_isDirectory h
  intro fault hlist
  exact absurd (hlist.symm.trans hentries) nofun

/-- A directory in one that can be listed can be listed too. -/
theorem isListable_child (hsound : host.files.Sound) {name : String}
    {entries : List (String × FileEntry)} (hlist : host.list p = .ok entries)
    (hmem : (name, .directory) ∈ entries) : host.IsListable (p.child name) := by
  obtain ⟨place, hplace, hdirectory, rfl⟩ := list_eq_ok_iff.mp hlist
  intro fault hfault
  have hlocate := locate_child_of_listed hsound hplace hdirectory hmem nofun true
  by_cases hlong : (p.child name).IsOverlong
  · rw [if_pos hlong] at hlocate
    rw [list, hlocate] at hfault
    exact (Except.error.inj hfault).symm
  · rw [if_neg hlong] at hlocate
    have hentry := hsound.mem_listing.mp hmem
    have hentries := list_eq_ok_iff.mpr ⟨place ++ [name], hlocate, hentry, rfl⟩
    exact absurd (hfault.symm.trans hentries) nofun

/-- The dot that a listing puts in front makes no difference but to the length. -/
theorem isDirectory_child_of_listed {name : String} {entries : List (String × FileEntry)}
    (hlist : host.list p = .ok entries) (h : host.isDirectory (p.listed name) = .ok true) :
    host.isDirectory (p.child name) = .ok true := by
  unfold FilePath.listed at h
  split at h
  next hempty =>
    obtain ⟨hroot, hparts⟩ := Bool.and_eq_true_iff.mp hempty
    obtain rfl : p = ⟨"", []⟩ := by
      cases p
      simp only [FilePath.mk.injEq]
      exact ⟨by simpa using hroot, by simpa using hparts⟩
    have htext : (FilePath.mk "" [".", name]).text = "./" ++ name := by simp [FilePath.text]
    have htext' : (FilePath.child ⟨"", []⟩ name).text = name := by simp [FilePath.text, FilePath.child]
    obtain ⟨here, hhere, hdirectory, -⟩ := list_eq_ok_iff.mp hlist
    obtain ⟨-, -, hwalkhere⟩ := locate_eq_ok_iff.mp hhere
    have hworking : host.files.entry? host.workingDirectory = some .directory := by
      rw [FileTree.walk] at hwalkhere
      rwa [show host.workingDirectory = here from Except.ok.inj hwalkhere]
    -- of the two the path without the dot is the shorter one, and the walks are the same
    obtain ⟨place, hplace, hentry⟩ := exists_place_of_isDirectory h
    obtain ⟨hnull, hshort, hwalk⟩ := locate_eq_ok_iff.mp hplace
    have hlocate : host.locate true (FilePath.child ⟨"", []⟩ name) = .ok place := by
      refine locate_eq_ok_iff.mpr ⟨fun hmem => hnull ?_, fun hlong => hshort ?_, ?_⟩
      · rw [htext'] at hmem
        rw [htext, String.toList_append]
        exact List.mem_append_right _ hmem
      · rw [FilePath.IsOverlong, htext'] at hlong
        rw [FilePath.IsOverlong, htext, String.utf8ByteSize_append]
        omega
      · have hstay : host.files.walk true mostLinks host.workingDirectory [".", name]
            = host.files.walk true mostLinks host.workingDirectory [name] := by
          rw [FileTree.walk, if_neg (not_not_intro hworking), if_pos rfl]
        exact hstay.symm.trans hwalk
    exact isDirectory_eq_ok_true_iff.mpr (find_eq_ok_iff.mpr ⟨place, hlocate, hentry⟩)
  next => exact h

/-- So can an entry that can be gone into. -/
theorem isListable_of_isOpenEntry (hsound : host.files.Sound) {name : String} {entry : FileEntry}
    {entries : List (String × FileEntry)} (hlist : host.list p = .ok entries)
    (hmem : (name, entry) ∈ entries) (hopen : host.isOpenEntry true p name entry = .ok true) :
    host.IsListable (p.child name) := by
  cases entry with
  | directory => exact isListable_child hsound hlist hmem
  | file bytes => cases hopen
  | link target => exact isListable_of_isDirectory (isDirectory_child_of_listed hlist hopen)

/-- So can all directories below. -/
theorem isListable_of_below (hsound : host.files.Sound) {n : Nat} (h : host.Below n p q)
    (hp : host.IsListable p) : host.IsListable q := by
  induction h with
  | here => exact hp
  | down n p name entries q hlist hmem h ih => exact ih (isListable_child hsound hlist hmem)

/-- Nothing but a name that is too long keeps the system from telling. -/
theorem nameTooLong_of_test {accept : FileEntry → Bool} (h : host.test accept p = .error fault) :
    ∃ q, fault = .refused .nameTooLong q := ⟨p, (test_eq_error_iff.mp h).2⟩

/-- Only paths and names that are too long are refused. -/
theorem Meets.nameTooLong (hsound : host.files.Sound) (h : host.Meets only steps p fault)
    (hp : steps ≠ [] → host.IsListable p) : ∃ q, fault = .refused .nameTooLong q := by
  -- a directory can be listed, so the only looks that are refused are those at names that are too long
  induction h with
  | file p fault hfile => exact nameTooLong_of_test hfile
  | opening name rest p fault hopen =>
    unfold isOpen at hopen
    split at hopen <;> exact nameTooLong_of_test hopen
  | name name rest p fault hopen h ih =>
    refine ih fun hrest => ?_
    rw [List.isEmpty_eq_false_iff.mpr hrest, Bool.not_false, Bool.or_true] at hopen
    exact isListable_of_isDirectory hopen
  | listing pattern rest p fault hlist => exact ⟨p, hp (List.cons_ne_nil _ _) fault hlist⟩
  | entry pattern rest p name entry entries fault hlist hmem hopen =>
    cases entry with
    | directory => cases hopen
    | file bytes => cases hopen
    | link target =>
      rw [isOpenEntry] at hopen
      split at hopen
      next => exact nameTooLong_of_test hopen
      next => cases hopen
  | fitting pattern rest p name entry entries fault hlist hmem hopen hfits h ih =>
    refine ih fun hrest => ?_
    rw [List.isEmpty_eq_false_iff.mpr hrest, Bool.not_false, Bool.or_true] at hopen
    exact isListable_of_isOpenEntry hsound hlist hmem hopen
  | anyDepth n rest p start fault hbelow h ih =>
    exact ih fun _ => isListable_of_below hsound hbelow (hp (List.cons_ne_nil _ _))
  | descent n rest p start fault hbelow hlist =>
    exact ⟨start, isListable_of_below hsound hbelow (hp (List.cons_ne_nil _ _)) fault hlist⟩

/-! ## Whole selections -/

/-- In a directory the steps are followed. -/
theorem select_of_isDirectory (selection : Selection) (h : host.isDirectory p = .ok true) :
    host.select selection p = host.follow selection.onlyDirectories selection.steps p := by
  rw [select, h]
  rfl

end Host

end BusContract
