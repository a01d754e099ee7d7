import BusContract.Files.Selection
import BusContract.Proofs.Outcomes

/-!
# What a selection finds

A search goes through a directory by the steps of a selection. Which files it comes to is told by
rules for single steps (`Host.Finds`), and so is every look that the system refuses on the way
(`Host.Meets`). Neither says in which order things are looked at, nor how deep a search may go: below a
directory there are no more directories than there are entries in the tree.

* `finds_of_mem_follow`, `meets_of_follow`: what a search gives or fails for is found or met.
* `mem_descend_iff`, `descend_fails_iff`: all there is to going down through directories.
-/

namespace BusContract

namespace Host

/-- Is the second path some steps below the first, each into a directory and none by a link? -/
inductive Below (host : Host) : Nat → FilePath → FilePath → Prop where
  | here (p : FilePath) : Below host 0 p p
  | down (n : Nat) (p : FilePath) (name : String) (entries : List (String × FileEntry))
      (q : FilePath) (hlist : host.list p = .ok entries) (hmem : (name, .directory) ∈ entries)
      (h : Below host n (p.child name) q) : Below host (n + 1) p q

/-- Do the steps of a selection lead from a path to a file? -/
inductive Finds (host : Host) (only : Bool) : List SelectionStep → FilePath → FilePath → Prop where
  | file (p : FilePath) (hfile : host.isFile p = .ok true) : Finds host only [] p p
  | name (name : String) (rest : List SelectionStep) (p q : FilePath)
      (hopen : host.isOpen (only || !rest.isEmpty) (p.child name) = .ok true)
      (h : Finds host only rest (p.child name) q) : Finds host only (.name name :: rest) p q
  | fitting (pattern : NamePattern) (rest : List SelectionStep) (p : FilePath) (name : String)
      (entry : FileEntry) (entries : List (String × FileEntry)) (q : FilePath)
      (hlist : host.list p = .ok entries) (hmem : (name, entry) ∈ entries)
      (hopen : host.isOpenEntry (only || !rest.isEmpty) p name entry = .ok true)
      (hfits : pattern.fits name.toList = true) (h : Finds host only rest (p.child name) q) :
      Finds host only (.fitting pattern :: rest) p q
  | anyDepth (n : Nat) (rest : List SelectionStep) (p start q : FilePath)
      (hbelow : host.Below n p start) (h : Finds host only rest start q) :
      Finds host only (.anyDepth :: rest) p q

/-- Do the steps of a selection lead from a path to a look that the system refuses? -/
inductive Meets (host : Host) (only : Bool) : List SelectionStep → FilePath → FileFault → Prop where
  | file (p : FilePath) (fault : FileFault) (hfile : host.isFile p = .error fault) :
      Meets host only [] p fault
  | opening (name : String) (rest : List SelectionStep) (p : FilePath) (fault : FileFault)
      (hopen : host.isOpen (only || !rest.isEmpty) (p.child name) = .error fault) :
      Meets host only (.name name :: rest) p fault
  | name (name : String) (rest : List SelectionStep) (p : FilePath) (fault : FileFault)
      (hopen : host.isOpen (only || !rest.isEmpty) (p.child name) = .ok true)
      (h : Meets host only rest (p.child name) fault) : Meets host only (.name name :: rest) p fault
  | listing (pattern : NamePattern) (rest : List SelectionStep) (p : FilePath) (fault : FileFault)
      (hlist : host.list p = .error fault) : Meets host only (.fitting pattern :: rest) p fault
  | entry (pattern : NamePattern) (rest : List SelectionStep) (p : FilePath) (name : String)
      (entry : FileEntry) (entries : List (String × FileEntry)) (fault : FileFault)
      (hlist : host.list p = .ok entries) (hmem : (name, entry) ∈ entries)
      (hopen : host.isOpenEntry (only || !rest.isEmpty) p name entry = .error fault) :
      Meets host only (.fitting pattern :: rest) p fault
  | fitting (pattern : NamePattern) (rest : List SelectionStep) (p : FilePath) (name : String)
      (entry : FileEntry) (entries : List (String × FileEntry)) (fault : FileFault)
      (hlist : host.list p = .ok entries) (hmem : (name, entry) ∈ entries)
      (hopen : host.isOpenEntry (only || !rest.isEmpty) p name entry = .ok true)
      (hfits : pattern.fits name.toList = true) (h : Meets host only rest (p.child name) fault) :
      Meets host only (.fitting pattern :: rest) p fault
  | anyDepth (n : Nat) (rest : List SelectionStep) (p start : FilePath) (fault : FileFault)
      (hbelow : host.Below n p start) (h : Meets host only rest start fault) :
      Meets host only (.anyDepth :: rest) p fault
  | descent (n : Nat) (rest : List SelectionStep) (p start : FilePath) (fault : FileFault)
      (hbelow : host.Below n p start) (hlist : host.list start = .error fault) :
      Meets host only (.anyDepth :: rest) p fault

variable {host : Host} {only : Bool} {p q : FilePath} {fault : FileFault}

/-- Whatever is found is a file. -/
theorem Finds.isFile {steps : List SelectionStep} (h : host.Finds only steps p q) : host.isFile q = .ok true := by
  induction h with
  | file p hfile => exact hfile
  | name name rest p q hopen h ih => exact ih
  | fitting pattern rest p name entry entries q hlist hmem hopen hfits h ih => exact ih
  | anyDepth n rest p start q hbelow h ih => exact ih

/-! ## Going down -/

section Descent

variable {visit : FilePath → Except FileFault (List FilePath)} {depth : Nat}

/-- One step down is a step into each of the directories that are listed. -/
theorem below_succ_iff {n : Nat} {entries : List (String × FileEntry)}
    (hlist : host.list p = .ok entries) :
    host.Below (n + 1) p q ↔ ∃ name, (name, FileEntry.directory) ∈ entries
      ∧ host.Below n (p.child name) q := by
  constructor
  · intro h
    cases h with
    | down _ _ name entries' _ hlist' hmem h =>
      have hsame : entries' = entries := Except.ok.inj (hlist'.symm.trans hlist)
      exact ⟨name, hsame ▸ hmem, h⟩
  · rintro ⟨name, hmem, h⟩
    exact .down n p name entries q hlist hmem h

/-- Nothing is zero levels below but the place itself. -/
theorem below_zero_iff : host.Below 0 p q ↔ q = p := by
  constructor
  · intro h
    cases h
    rfl
  · rintro rfl
    exact .here q

/-- What is found on the way down is what is found from the directories below. Induction on the
levels that are left. -/
theorem mem_descend_iff {found : List FilePath} (h : host.descend visit depth p = .ok found) :
    q ∈ found ↔ ∃ n start, n ≤ depth ∧ host.Below n p start
      ∧ ∃ row, visit start = .ok row ∧ q ∈ row := by
  induction depth generalizing p found with
  | zero =>
    rw [descend] at h
    constructor
    · intro hq
      exact ⟨0, p, Nat.le_refl 0, .here p, found, h, hq⟩
    · rintro ⟨n, start, hn, hbelow, row, hrow, hq⟩
      obtain rfl := Nat.le_zero.mp hn
      obtain rfl := below_zero_iff.mp hbelow
      have hsame : row = found := Except.ok.inj (hrow.symm.trans h)
      exact hsame ▸ hq
  | succ depth ih =>
    simp only [descend, bind_eq_ok_iff] at h
    obtain ⟨own, hown, entries, hlist, rows, hrows, h⟩ := h
    obtain rfl : own ++ rows.flatten = found := Except.ok.inj h
    rw [List.mem_append, mem_flatten_of_mapM hrows]
    constructor
    · -- a file or a link adds nothing: the search goes down through directories only
      rintro (hq | ⟨⟨name, entry⟩, hmem, row, hrow, hq⟩)
      · exact ⟨0, p, Nat.zero_le _, .here p, own, hown, hq⟩
      · cases entry with
        | directory =>
          obtain ⟨n, start, hn, hbelow, hstart⟩ := (ih hrow).mp hq
          exact ⟨n + 1, start, Nat.succ_le_succ hn, .down n p name entries start hlist hmem hbelow,
            hstart⟩
        | file bytes =>
          obtain rfl : [] = row := Except.ok.inj hrow
          exact absurd hq List.not_mem_nil
        | link target =>
          obtain rfl : [] = row := Except.ok.inj hrow
          exact absurd hq List.not_mem_nil
    · rintro ⟨n, start, hn, hbelow, row, hrow, hq⟩
      cases n with
      | zero =>
        obtain rfl := below_zero_iff.mp hbelow
        have hsame : row = own := Except.ok.inj (hrow.symm.trans hown)
        exact .inl (hsame ▸ hq)
      | succ n =>
        obtain ⟨name, hmem, hbelow⟩ := (below_succ_iff hlist).mp hbelow
        have hchild : Succeeds (host.descend visit depth (p.child name)) :=
          succeeds_mapM_iff.mp ⟨rows, hrows⟩ (name, .directory) hmem
        obtain ⟨found, hfound⟩ := hchild
        have hmemfound := (ih hfound).mpr
          ⟨n, start, Nat.le_of_succ_le_succ hn, hbelow, row, hrow, hq⟩
        exact .inr ⟨(name, .directory), hmem, found, hfound, hmemfound⟩

/-- The way down ends at a directory where the visit fails or that cannot be listed. -/
theorem exists_of_descend_error (h : host.descend visit depth p = .error fault) :
    ∃ n start, host.Below n p start
      ∧ (visit start = .error fault ∨ host.list start = .error fault) := by
  induction depth generalizing p with
  | zero => exact ⟨0, p, .here p, .inl h⟩
  | succ depth ih =>
    rw [descend, bind_eq_error_iff] at h
    -- the visit comes first, then the listing, then the directories in it
    rcases h with hvisit | ⟨own, -, h⟩
    · exact ⟨0, p, .here p, .inl hvisit⟩
    rw [bind_eq_error_iff] at h
    rcases h with hlist | ⟨entries, hlist, h⟩
    · exact ⟨0, p, .here p, .inr hlist⟩
    rw [bind_eq_error_iff] at h
    rcases h with hrows | ⟨rows, -, h⟩
    · obtain ⟨⟨name, entry⟩, hmem, hchild⟩ := exists_mem_of_mapM_error hrows
      cases entry with
      | directory =>
        obtain ⟨n, start, hbelow, hstart⟩ := ih hchild
        exact ⟨n + 1, start, .down n p name entries start hlist hmem hbelow, hstart⟩
      | file bytes => cases hchild
      | link target => cases hchild
    · cases h

/-- The way down succeeds only if everything on it does. -/
theorem succeeds_of_descend {n : Nat} {start : FilePath}
    (h : Succeeds (host.descend visit depth p)) (hbelow : host.Below n p start) :
    (n ≤ depth → Succeeds (visit start)) ∧ (n < depth → Succeeds (host.list start)) := by
  induction depth generalizing p n with
  | zero =>
    refine ⟨fun hn => ?_, fun hn => absurd hn (Nat.not_lt_zero n)⟩
    obtain rfl := Nat.le_zero.mp hn
    rwa [below_zero_iff.mp hbelow]
  | succ depth ih =>
    obtain ⟨found, h⟩ := h
    simp only [descend, bind_eq_ok_iff] at h
    obtain ⟨own, hown, entries, hlist, rows, hrows, -⟩ := h
    cases n with
    | zero =>
      rw [below_zero_iff.mp hbelow]
      exact ⟨fun _ => ⟨own, hown⟩, fun _ => ⟨entries, hlist⟩⟩
    | succ n =>
      -- a place further down lies below one of the directories that are listed
      obtain ⟨name, hmem, hbelow⟩ := (below_succ_iff hlist).mp hbelow
      have hchild : Succeeds (host.descend visit depth (p.child name)) :=
        succeeds_mapM_iff.mp ⟨rows, hrows⟩ (name, .directory) hmem
      obtain ⟨hvisit, hlists⟩ := ih hchild hbelow
      exact ⟨fun hn => hvisit (Nat.le_of_succ_le_succ hn), fun hn => hlists (Nat.lt_of_succ_lt_succ hn)⟩

end Descent

/-! ## Soundness -/

/-- What a search gives is found by the rules. Induction on the steps. -/
theorem finds_of_mem_follow {steps : List SelectionStep} {files : List FilePath}
    (h : host.follow only steps p = .ok files) (hq : q ∈ files) : host.Finds only steps p q := by
  induction steps generalizing p files with
  | nil =>
    rw [follow, bind_eq_ok_iff] at h
    obtain ⟨isFile, hfile, h⟩ := h
    obtain rfl : (if isFile = true then [p] else []) = files := Except.ok.inj h
    cases isFile with
    | false => exact absurd hq List.not_mem_nil
    | true =>
      obtain rfl := List.mem_singleton.mp hq
      exact .file q hfile
  | cons step rest ih =>
    cases step with
    | name name =>
      rw [follow, bind_eq_ok_iff] at h
      obtain ⟨isOpen, hopen, h⟩ := h
      cases isOpen with
      | false =>
        obtain rfl : [] = files := Except.ok.inj h
        exact absurd hq List.not_mem_nil
      | true => exact .name name rest p q hopen (ih h hq)
    -- the file is in the row of one entry, and that entry was open and fits
    | fitting pattern =>
      simp only [follow, bind_eq_ok_iff] at h
      obtain ⟨entries, hlist, rows, hrows, h⟩ := h
      obtain rfl : rows.flatten = files := Except.ok.inj h
      obtain ⟨⟨name, entry⟩, hmem, row, hrow, hq⟩ := (mem_flatten_of_mapM hrows).mp hq
      rw [bind_eq_ok_iff] at hrow
      obtain ⟨isOpen, hopen, hrow⟩ := hrow
      split at hrow
      next haccepted =>
        obtain ⟨rfl, hfits⟩ := Bool.and_eq_true_iff.mp haccepted
        exact .fitting pattern rest p name entry entries q hlist hmem hopen hfits (ih hrow hq)
      next =>
        obtain rfl : [] = row := Except.ok.inj hrow
        exact absurd hq List.not_mem_nil
    | anyDepth =>
      rw [follow, bind_eq_ok_iff] at h
      obtain ⟨found, hfound, h⟩ := h
      obtain rfl : found.eraseDups = files := Except.ok.inj h
      obtain ⟨n, start, -, hbelow, row, hrow, hq⟩ :=
        (mem_descend_iff hfound).mp (List.mem_eraseDups.mp hq)
      exact .anyDepth n rest p start q hbelow (ih hrow hq)

/-- What a search fails for is met by the rules. -/
theorem meets_of_follow {steps : List SelectionStep} (h : host.follow only steps p = .error fault) :
    host.Meets only steps p fault := by
  induction steps generalizing p with
  | nil =>
    rw [follow, bind_eq_error_iff] at h
    rcases h with hfile | ⟨isFile, -, h⟩
    · exact .file p fault hfile
    · cases h
  | cons step rest ih =>
    cases step with
    | name name =>
      rw [follow, bind_eq_error_iff] at h
      rcases h with hopen | ⟨isOpen, hopen, h⟩
      · exact .opening name rest p fault hopen
      cases isOpen with
      | false => cases h
      | true => exact .name name rest p fault hopen (ih h)
    -- the first fault is at the listing, at a look at an entry, or behind an entry that fits
    | fitting pattern =>
      rw [follow, bind_eq_error_iff] at h
      rcases h with hlist | ⟨entries, hlist, h⟩
      · exact .listing pattern rest p fault hlist
      rw [bind_eq_error_iff] at h
      rcases h with hrows | ⟨rows, -, h⟩
      · obtain ⟨⟨name, entry⟩, hmem, hrow⟩ := exists_mem_of_mapM_error hrows
        dsimp only at hrow
        rw [bind_eq_error_iff] at hrow
        rcases hrow with hopen | ⟨isOpen, hopen, hrow⟩
        · exact .entry pattern rest p name entry entries fault hlist hmem hopen
        split at hrow
        next haccepted =>
          obtain ⟨rfl, hfits⟩ := Bool.and_eq_true_iff.mp haccepted
          exact .fitting pattern rest p name entry entries fault hlist hmem hopen hfits (ih hrow)
        next => cases hrow
      · cases h
    | anyDepth =>
      rw [follow, bind_eq_error_iff] at h
      rcases h with hfound | ⟨found, -, h⟩
      · obtain ⟨n, start, hbelow, hvisit | hlist⟩ := exists_of_descend_error hfound
        · exact .anyDepth n rest p start fault hbelow (ih hvisit)
        · exact .descent n rest p start fault hbelow hlist
      · cases h

/-! ## Where paths begin -/

/-- Going down changes nothing about where a path begins. -/
theorem Below.root_eq {n : Nat} (h : host.Below n p q) : q.root = p.root := by
  induction h with
  | here => rfl
  | down n p name entries q hlist hmem h ih => exact ih

/-- A file that is found is below where the search began. -/
theorem Finds.root_eq {steps : List SelectionStep} (h : host.Finds only steps p q) :
    q.root = p.root := by
  induction h with
  | file => rfl
  | name name rest p q hopen h ih => exact ih
  | fitting pattern rest p name entry entries q hlist hmem hopen hfits h ih => exact ih
  | anyDepth n rest p start q hbelow h ih => exact ih.trans hbelow.root_eq

end Host

end BusContract
