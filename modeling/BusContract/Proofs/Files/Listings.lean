import BusContract.Files.Selection
import BusContract.Proofs.Files.Places
import Mathlib.Data.List.Nodup

/-!
# What a directory holds

In a sound tree every name is one that something in a directory can have, and there is at most one
entry at a place. So the listing of a directory tells what every name in it leads to, and the order in
which the entries came to be makes no difference to what a path leads to.

* `Host.find_child`: what a name below a directory leads to, however one got to the directory.
* `Host.find_eq_of_perm`: paths lead to the same in any order of the entries.
-/

namespace BusContract

namespace FileTree

/-- Can all names be had by something in a directory, is nothing told of a place twice, and is everything
in a directory? -/
structure Sound (tree : FileTree) : Prop where
  proper : ∀ place entry, (place, entry) ∈ tree.entries → ∀ name ∈ place, IsProperName name
  once : (tree.entries.map Prod.fst).Nodup
  inside : ∀ place entry, (place, entry) ∈ tree.entries →
    tree.entry? place.dropLast = some .directory

variable {tree other : FileTree} {place : Place} {name : String} {entry : FileEntry}

/-- What is listed at a place is an entry below it. -/
theorem mem_listing_iff :
    (name, entry) ∈ tree.listing place ↔ (place ++ [name], entry) ∈ tree.entries := by
  simp only [listing, List.mem_filterMap, Prod.exists]
  constructor
  · rintro ⟨whole, found, hmem, h⟩
    cases hlast : whole.getLast? with
    | none => simp [hlast] at h
    | some last =>
      simp only [hlast, Option.ite_none_right_eq_some, Option.some.injEq, Prod.mk.injEq] at h
      obtain ⟨rfl, rfl, rfl⟩ := h
      rwa [List.dropLast_append_getLast? last hlast]
  · intro hmem
    exact ⟨place ++ [name], entry, hmem, by simp⟩

/-- In a row that has each key once a look-up finds what is there. -/
theorem lookup_eq_some_iff {α β : Type} [BEq α] [LawfulBEq α] {xs : List (α × β)} {a : α} {b : β}
    (h : (xs.map Prod.fst).Nodup) : xs.lookup a = some b ↔ (a, b) ∈ xs := by
  induction xs with
  | nil => simp
  | cons x xs ih =>
    obtain ⟨a', b'⟩ := x
    rw [List.map_cons, List.nodup_cons] at h
    by_cases ha : a = a'
    · have hlater : (a, b) ∉ xs := fun hmem => h.1 (List.mem_map.mpr ⟨(a, b), hmem, ha⟩)
      simp [ha, ha ▸ hlater, eq_comm]
    · have hne : (a == a') = false := beq_false_of_ne ha
      simp [List.lookup_cons, hne, ha, ih h.2]

/-- So an entry is found at its place. -/
theorem entry?_eq_some_iff (honce : (tree.entries.map Prod.fst).Nodup) (hplace : place ≠ []) :
    tree.entry? place = some entry ↔ (place, entry) ∈ tree.entries := by
  have hempty : place.isEmpty = false := List.isEmpty_eq_false_iff.mpr hplace
  unfold entry?
  rw [hempty]
  exact lookup_eq_some_iff honce

namespace Sound

/-- Above a directory there is a directory. -/
theorem entry?_dropLast (h : tree.Sound) (hdirectory : tree.entry? place = some .directory) :
    tree.entry? place.dropLast = some .directory := by
  by_cases hplace : place = []
  · rw [hplace]
    rfl
  · exact h.inside place .directory ((entry?_eq_some_iff h.once hplace).mp hdirectory)

/-- The listing of a directory tells what is at the places in it. -/
theorem mem_listing (h : tree.Sound) :
    (name, entry) ∈ tree.listing place ↔ tree.entry? (place ++ [name]) = some entry := by
  rw [mem_listing_iff, entry?_eq_some_iff h.once (by simp)]

theorem isProperName (h : tree.Sound) (hmem : (name, entry) ∈ tree.listing place) :
    IsProperName name :=
  h.proper _ _ (mem_listing_iff.mp hmem) name (List.mem_append_right _ (List.mem_singleton_self name))

/-- Each name is listed once. -/
theorem nodup_listing (h : tree.Sound) : ((tree.listing place).map Prod.fst).Nodup := by
  have hpairs : tree.entries.Nodup := h.once.of_map
  have hlisting : (tree.listing place).Nodup := by
    refine hpairs.filterMap ?_
    rintro ⟨p, e⟩ ⟨q, f⟩ ⟨name, found⟩ hp hq
    have hleft : (name, found) ∈ FileTree.listing ⟨[(p, e)]⟩ place := by simpa [listing] using hp
    have hright : (name, found) ∈ FileTree.listing ⟨[(q, f)]⟩ place := by simpa [listing] using hq
    rw [mem_listing_iff, List.mem_singleton] at hleft hright
    exact hleft.symm.trans hright
  refine hlisting.map_on ?_
  rintro ⟨name, entry⟩ hmem ⟨name', entry'⟩ hmem' rfl
  have hentry := (h.mem_listing.mp hmem).symm.trans (h.mem_listing.mp hmem')
  rw [Option.some.inj hentry]

end Sound

/-! ## Trees that are built up -/

/-- What is removed takes with it what is below. -/
theorem mem_remove_iff {gone : Place} :
    (place, entry) ∈ (tree.remove gone).entries ↔ (place, entry) ∈ tree.entries ∧ ¬ gone <+: place := by
  simp [FileTree.remove, ← List.isPrefixOf_iff_prefix]

theorem nodup_remove (honce : (tree.entries.map Prod.fst).Nodup) (gone : Place) :
    ((tree.remove gone).entries.map Prod.fst).Nodup :=
  honce.sublist (List.filter_sublist.map Prod.fst)

/-- What is not below a place stays when the place is taken out. -/
theorem entry?_remove (honce : (tree.entries.map Prod.fst).Nodup) {gone : Place}
    (hkept : ¬ gone <+: place) (hentry : tree.entry? place = some entry) :
    FileTree.entry? (tree.remove gone) place = some entry := by
  by_cases hplace : place = []
  · subst hplace
    exact hentry
  · have hmem : (place, entry) ∈ tree.entries := (entry?_eq_some_iff honce hplace).mp hentry
    exact (entry?_eq_some_iff (nodup_remove honce gone) hplace).mpr (mem_remove_iff.mpr ⟨hmem, hkept⟩)

/-- Removing something leaves a tree sound. -/
theorem Sound.remove (h : tree.Sound) (gone : Place) : (tree.remove gone).Sound where
  proper place entry hmem := h.proper place entry (mem_remove_iff.mp hmem).1
  once := nodup_remove h.once gone
  inside place entry hmem := by
    obtain ⟨hmem, hkept⟩ := mem_remove_iff.mp hmem
    have habove : ¬ gone <+: place.dropLast := fun hgone => hkept (hgone.trans place.dropLast_prefix)
    exact entry?_remove h.once habove (h.inside place entry hmem)

/-- Putting something in a directory keeps a tree sound, if it has a proper name. -/
theorem Sound.put (h : tree.Sound) (hproper : ∀ name ∈ place, IsProperName name)
    (hinside : tree.entry? place.dropLast = some .directory) : (tree.put place entry).Sound := by
  unfold FileTree.put
  split
  next => exact h
  next hplace =>
    have hplace : place ≠ [] := by simpa using hplace
    have hkept := h.remove place
    have hnew : place ∉ (tree.remove place).entries.map Prod.fst := by
      rw [List.mem_map]
      rintro ⟨⟨whole, found⟩, hmem, rfl⟩
      exact (mem_remove_iff.mp hmem).2 (List.prefix_refl _)
    have honce : (((tree.remove place).entries ++ [(place, entry)]).map Prod.fst).Nodup := by
      have hplaces : ((tree.remove place).entries ++ [(place, entry)]).map Prod.fst
          = (tree.remove place).entries.map Prod.fst ++ [place] := by simp
      rw [hplaces]
      exact List.Nodup.append hkept.once (List.nodup_singleton place) (List.disjoint_singleton.mpr hnew)
    -- what is still there is where it was
    have hsame (above : Place) (habove : FileTree.entry? (tree.remove place) above = some .directory) :
        FileTree.entry? ⟨(tree.remove place).entries ++ [(place, entry)]⟩ above = some .directory := by
      by_cases hroot : above = []
      · rw [hroot]
        rfl
      · have hmem := (entry?_eq_some_iff hkept.once hroot).mp habove
        exact (entry?_eq_some_iff honce hroot).mpr (List.mem_append_left _ hmem)
    refine ⟨fun whole found hmem => ?_, honce, fun whole found hmem => ?_⟩
    · rcases List.mem_append.mp hmem with hmem | hmem
      · exact hkept.proper whole found hmem
      · obtain ⟨rfl, rfl⟩ := Prod.mk.inj (List.mem_singleton.mp hmem)
        exact hproper
    · rcases List.mem_append.mp hmem with hmem | hmem
      · exact hsame _ (hkept.inside whole found hmem)
      · obtain ⟨rfl, rfl⟩ := Prod.mk.inj (List.mem_singleton.mp hmem)
        have hshort : ¬ whole <+: whole.dropLast := fun hprefix => by
          have hle := hprefix.length_le
          have hpos := List.length_pos_iff.mpr hplace
          rw [List.length_dropLast] at hle
          omega
        exact hsame _ (entry?_remove h.once hshort hinside)

/-! ## Walks -/

/-- A walk beyond a place goes by the way to the place, and has the links left that it did not take. -/
theorem walk_append_of_walk {links : Nat} {start : Place} {steps : List String}
    (h : tree.walk true links start steps = .ok place) :
    ∃ left, ∀ follow rest, rest ≠ [] →
      tree.walk follow links start (steps ++ rest) = tree.walk follow left place rest := by
  fun_induction tree.walk true links start steps with
  | case1 links start =>
    obtain rfl : start = place := Except.ok.inj h
    exact ⟨links, fun _ _ _ => rfl⟩
  | case2 => cases h
  | case3 links start rest hdirectory ih =>
    obtain ⟨left, hleft⟩ := ih h
    refine ⟨left, fun follow more hmore => ?_⟩
    rw [List.cons_append, walk, if_neg hdirectory, if_pos rfl, hleft follow more hmore]
  | case4 links start rest hdirectory hdot ih =>
    obtain ⟨left, hleft⟩ := ih h
    refine ⟨left, fun follow more hmore => ?_⟩
    rw [List.cons_append, walk, if_neg hdirectory, if_neg hdot, if_pos rfl, hleft follow more hmore]
  | case5 => cases h
  | case6 => cases h
  | case7 => simp at *
  | case8 => cases h
  | case9 start step rest hdirectory hdot hdots hshort target hentry _ links next ih =>
    obtain ⟨left, hleft⟩ := ih h
    refine ⟨left, fun follow more hmore => ?_⟩
    -- there is more to come, so the link is followed either way
    have hgo : ((rest ++ more).isEmpty && !follow) = false := by simp [hmore]
    rw [List.cons_append, walk, if_neg hdirectory, if_neg hdot, if_neg hdots, if_neg hshort, hentry]
    simp only [hgo, Bool.false_eq_true, if_false]
    rw [← hleft follow more hmore, List.append_assoc]
    rfl
  | case10 links start step rest hdirectory hdot hdots hshort entry hno hentry ih =>
    obtain ⟨left, hleft⟩ := ih h
    refine ⟨left, fun follow more hmore => ?_⟩
    rw [List.cons_append, walk, if_neg hdirectory, if_neg hdot, if_neg hdots, if_neg hshort, hentry]
    cases entry with
    | link target => exact absurd rfl (hno target)
    | directory => exact hleft follow more hmore
    | file bytes => exact hleft follow more hmore

/-- A walk only asks what is at the places that it comes to. -/
theorem walk_eq_of_entry? (hsame : ∀ place, tree.entry? place = other.entry? place) (follow : Bool)
    (links : Nat) (start : Place) (steps : List String) :
    tree.walk follow links start steps = other.walk follow links start steps := by
  -- a walk looks at the tree only through `entry?`, branch by branch
  fun_induction tree.walk follow links start steps with
  | case1 => rw [walk]
  | case2 links start step rest hdirectory => rw [walk, ← hsame, if_pos hdirectory]
  | case3 links start rest hdirectory ih => rw [walk, ← hsame, if_neg hdirectory, if_pos rfl, ih]
  | case4 links start rest hdirectory hdot ih =>
    rw [walk, ← hsame, if_neg hdirectory, if_neg hdot, if_pos rfl, ih]
  | case5 links start step rest hdirectory hdot hdots hlong =>
    rw [walk, ← hsame, if_neg hdirectory, if_neg hdot, if_neg hdots, if_pos hlong]
  | case6 links start step rest hdirectory hdot hdots hshort hentry =>
    rw [walk, ← hsame, if_neg hdirectory, if_neg hdot, if_neg hdots, if_neg hshort, ← hsame, hentry]
  | case7 links start step rest hdirectory hdot hdots hshort target hentry hstays =>
    rw [walk, ← hsame, if_neg hdirectory, if_neg hdot, if_neg hdots, if_neg hshort, ← hsame, hentry]
    simp only [hstays, if_true]
  | case8 start step rest hdirectory hdot hdots hshort target hentry hgoes =>
    rw [walk, ← hsame, if_neg hdirectory, if_neg hdot, if_neg hdots, if_neg hshort, ← hsame, hentry]
    simp only [hgoes, Bool.false_eq_true, if_false]
  | case9 start step rest hdirectory hdot hdots hshort target hentry hgoes links next ih =>
    rw [walk, ← hsame, if_neg hdirectory, if_neg hdot, if_neg hdots, if_neg hshort, ← hsame, hentry]
    simp only [hgoes, Bool.false_eq_true, if_false]
    exact ih
  | case10 links start step rest hdirectory hdot hdots hshort entry hno hentry ih =>
    rw [walk, ← hsame, if_neg hdirectory, if_neg hdot, if_neg hdots, if_neg hshort, ← hsame, hentry]
    cases entry with
    | link target => exact absurd rfl (hno target)
    | directory => exact ih
    | file bytes => exact ih

/-! ## The order of the entries -/

section Order

variable (hperm : tree.entries.Perm other.entries)

include hperm

/-- A tree in another order lists the same in another order. -/
theorem listing_perm (place : Place) : (tree.listing place).Perm (other.listing place) :=
  hperm.filterMap _

variable (hsound : tree.Sound)

include hsound

/-- It has the same entries. -/
theorem entry?_eq_of_perm (place : Place) : tree.entry? place = other.entry? place := by
  by_cases hplace : place = []
  · rw [hplace]
    rfl
  · have honce : (other.entries.map Prod.fst).Nodup := (hperm.map Prod.fst).nodup_iff.mp hsound.once
    ext entry
    rw [entry?_eq_some_iff hsound.once hplace, entry?_eq_some_iff honce hplace, hperm.mem_iff]

/-- It is as sound. -/
theorem sound_of_perm : other.Sound where
  proper place entry hmem := hsound.proper place entry (hperm.mem_iff.mpr hmem)
  once := (hperm.map Prod.fst).nodup_iff.mp hsound.once
  inside place entry hmem := by
    rw [← entry?_eq_of_perm hperm hsound]
    exact hsound.inside place entry (hperm.mem_iff.mpr hmem)

end Order

end FileTree

/-! ## Below a directory -/

namespace Host

variable {host : Host} {p : FilePath} {place : Place} {name : String} {entry : FileEntry}

/-- A path leads to a place if the system takes it and its names do. -/
theorem locate_eq_ok_iff {follow : Bool} :
    host.locate follow p = .ok place ↔ '\x00' ∉ p.text.toList ∧ ¬ p.IsOverlong
      ∧ host.files.walk follow mostLinks (host.startOf p) p.parts = .ok place := by
  unfold locate
  by_cases hnull : '\x00' ∈ p.text.toList
  · simp [hnull]
  by_cases hlong : p.IsOverlong
  · have hlong' : p.text.utf8ByteSize > longestPath := hlong
    simp [hnull, hlong, hlong']
  · have hlong' : ¬ p.text.utf8ByteSize > longestPath := hlong
    rw [if_neg (mt List.contains_iff_mem.mp hnull), if_neg hlong', mapError_eq_ok_iff, startOf]
    simp [hnull, hlong]

/-- Where a name below a path leads is a matter of where the path leads, and of the links left. -/
theorem locate_child (h : host.locate true p = .ok place) :
    ∃ left, ∀ follow name, host.locate follow (p.child name) =
      if '\x00' ∈ name.toList then .error .nullCharacter
      else if (p.child name).IsOverlong then .error (.refused .nameTooLong (p.child name))
      else (host.files.walk follow left place [name]).mapError
        fun flaw => .refused flaw (p.child name) := by
  obtain ⟨hnull, -, hwalk⟩ := locate_eq_ok_iff.mp h
  obtain ⟨left, hleft⟩ := FileTree.walk_append_of_walk hwalk
  refine ⟨left, fun follow name => ?_⟩
  have hgo := hleft follow [name] (List.cons_ne_nil name [])
  unfold locate
  rw [← hgo]
  simp only [List.contains_iff_mem, FilePath.null_mem_text_child hnull]
  rfl

/-- What is listed is what is in the directory that the path leads to. -/
theorem list_eq_ok_iff {entries : List (String × FileEntry)} :
    host.list p = .ok entries ↔ ∃ place, host.locate true p = .ok place
      ∧ host.files.entry? place = some .directory ∧ entries = host.files.listing place := by
  unfold list
  cases hplace : host.locate true p with
  | error fault => simp
  | ok place =>
    by_cases hdirectory : host.files.entry? place = some .directory
    · simp [hdirectory, eq_comm]
    · simp [hdirectory]

section Listed

variable (hsound : host.files.Sound) (hplace : host.locate true p = .ok place)
  (hdirectory : host.files.entry? place = some .directory)
  (hmem : (name, entry) ∈ host.files.listing place) (hno : ∀ target, entry ≠ .link target)

include hsound hplace hdirectory hmem hno

/-- A name that is listed leads to its place, unless it is that of a link. -/
theorem locate_child_of_listed (follow : Bool) :
    host.locate follow (p.child name) =
      if (p.child name).IsOverlong then .error (.refused .nameTooLong (p.child name))
      else .ok (place ++ [name]) := by
  have hname := hsound.isProperName hmem
  have hentry := hsound.mem_listing.mp hmem
  obtain ⟨left, hleft⟩ := locate_child hplace
  have hwalk : host.files.walk follow left place [name] = .ok (place ++ [name]) := by
    rw [FileTree.walk_enter ⟨hname.isStep, hdirectory, hentry⟩ hno, FileTree.walk]
  rw [hleft, if_neg hname.noNull, hwalk]
  rfl

/-- A name that is listed leads to its entry, unless it is that of a link. -/
theorem find_child_of_listed (follow : Bool) :
    host.find follow (p.child name) =
      if (p.child name).IsOverlong then .error (.refused .nameTooLong (p.child name))
      else .ok entry := by
  have hentry := hsound.mem_listing.mp hmem
  have hlocate := locate_child_of_listed hsound hplace hdirectory hmem hno follow
  by_cases hlong : (p.child name).IsOverlong
  · rw [if_pos hlong] at hlocate
    rw [find, hlocate, if_pos hlong]
  · rw [if_neg hlong] at hlocate
    rw [find, hlocate, if_neg hlong]
    simp only [hentry]

end Listed

/-! ## Faults -/

/-- A look that fails is told of the path that was looked at. -/
theorem fault_of_find {follow : Bool} {fault : FileFault} (h : host.find follow p = .error fault) :
    fault = .nullCharacter ∨ ∃ flaw, fault = .refused flaw p := by
  -- either the place cannot be located, or nothing is there
  unfold find at h
  split at h
  next fault' hlocate =>
    obtain rfl := Except.error.inj h
    unfold locate at hlocate
    split at hlocate
    next => exact .inl (Except.error.inj hlocate).symm
    split at hlocate
    next => exact .inr ⟨_, (Except.error.inj hlocate).symm⟩
    next =>
      dsimp only at hlocate
      cases hwalk : host.files.walk follow mostLinks
          (if p.isAbsolute = true then [] else host.workingDirectory) p.parts with
      | error flaw =>
        rw [hwalk] at hlocate
        exact .inr ⟨flaw, (Except.error.inj hlocate).symm⟩
      | ok place =>
        rw [hwalk] at hlocate
        cases hlocate
  next place hlocate =>
    split at h
    next => cases h
    next => exact .inr ⟨_, (Except.error.inj h).symm⟩

/-- Nothing is looked for with a null character. -/
theorem find_eq_null_iff {follow : Bool} :
    host.find follow p = .error .nullCharacter ↔ '\x00' ∈ p.text.toList := by
  by_cases hnull : '\x00' ∈ p.text.toList
  · simp [find, locate, hnull]
  · refine iff_of_false (fun h => ?_) hnull
    cases hlocate : host.locate follow p with
    | ok place => cases hentry : host.files.entry? place <;> simp [find, hlocate, hentry] at h
    | error fault =>
      -- without the character every other fault of a look is a refusal
      obtain rfl : fault = .nullCharacter := by simpa [find, hlocate] using h
      simp only [locate, List.contains_iff_mem, hnull, if_false] at hlocate
      split at hlocate
      next => cases hlocate
      next =>
        cases hwalk : host.files.walk follow mostLinks
            (if p.isAbsolute = true then [] else host.workingDirectory) p.parts with
        | error flaw =>
          rw [hwalk] at hlocate
          cases hlocate
        | ok place =>
          rw [hwalk] at hlocate
          cases hlocate

/-- A test is only refused for a path, or a name on the way, that is too long. -/
theorem test_eq_error_iff {accept : FileEntry → Bool} {fault : FileFault} :
    host.test accept p = .error fault ↔
      host.find true p = .error (.refused .nameTooLong p) ∧ fault = .refused .nameTooLong p := by
  unfold test
  cases hfind : host.find true p with
  | ok entry => simp
  | error fault' =>
    rcases fault_of_find hfind with rfl | ⟨flaw, rfl⟩
    · simp
    · cases flaw <;> simp [eq_comm]

/-- A test says yes of something that is there. -/
theorem test_eq_ok_true_iff {accept : FileEntry → Bool} :
    host.test accept p = .ok true ↔ ∃ entry, host.find true p = .ok entry ∧ accept entry = true := by
  unfold test
  cases hfind : host.find true p with
  | ok entry => simp
  | error fault =>
    rcases fault with ⟨flaw, refused⟩ | _
    · cases flaw <;> simp
    · simp

/-- A file is found as one. -/
theorem isFile_eq_ok_true_iff :
    host.isFile p = .ok true ↔ ∃ bytes, host.find true p = .ok (.file bytes) := by
  rw [isFile, test_eq_ok_true_iff]
  constructor
  · rintro ⟨entry, hfind, haccept⟩
    cases entry with
    | file bytes => exact ⟨bytes, hfind⟩
    | directory => cases haccept
    | link target => cases haccept
  · rintro ⟨bytes, hfind⟩
    exact ⟨.file bytes, hfind, rfl⟩

/-- A directory is found as one. -/
theorem isDirectory_eq_ok_true_iff :
    host.isDirectory p = .ok true ↔ host.find true p = .ok .directory := by
  rw [isDirectory, test_eq_ok_true_iff]
  constructor
  · rintro ⟨entry, hfind, haccept⟩
    cases entry with
    | directory => exact hfind
    | file bytes => cases haccept
    | link target => cases haccept
  · intro hfind
    exact ⟨.directory, hfind, rfl⟩

/-- What is found is at the place that the path leads to. -/
theorem find_eq_ok_iff {follow : Bool} :
    host.find follow p = .ok entry ↔ ∃ place, host.locate follow p = .ok place
      ∧ host.files.entry? place = some entry := by
  unfold find
  cases host.locate follow p with
  | error fault => simp
  | ok place => cases hentry : host.files.entry? place <;> simp [hentry]

/-- What is not listed is none of the files there, and a dot or two lead to a directory. -/
theorem not_file_of_walk {left : Nat} {last : Place} {bytes : List UInt8} (hsound : host.files.Sound)
    (hdirectory : host.files.entry? place = some .directory)
    (hnone : host.files.entry? (place ++ [name]) = none)
    (hwalk : host.files.walk true left place [name] = .ok last) :
    host.files.entry? last ≠ some (.file bytes) := by
  rw [FileTree.walk, if_neg (not_not_intro hdirectory)] at hwalk
  split at hwalk
  · rw [FileTree.walk] at hwalk
    obtain rfl := Except.ok.inj hwalk
    simp [hdirectory]
  split at hwalk
  · rw [FileTree.walk] at hwalk
    obtain rfl := Except.ok.inj hwalk
    simp [hsound.entry?_dropLast hdirectory]
  · simp only [hnone] at hwalk
    split at hwalk <;> cases hwalk

/-- A name that leads to a file is listed. -/
theorem exists_listed_of_file {bytes : List UInt8} (hsound : host.files.Sound)
    (hplace : host.locate true p = .ok place)
    (hdirectory : host.files.entry? place = some .directory)
    (hfind : host.find true (p.child name) = .ok (.file bytes)) :
    ∃ entry, (name, entry) ∈ host.files.listing place := by
  obtain ⟨left, hleft⟩ := locate_child hplace
  obtain ⟨last, hlast, hfile⟩ := find_eq_ok_iff.mp hfind
  rw [hleft] at hlast
  split at hlast
  next => cases hlast
  split at hlast
  next => cases hlast
  next =>
    cases hentry : host.files.entry? (place ++ [name]) with
    | some entry => exact ⟨entry, hsound.mem_listing.mpr hentry⟩
    | none => exact absurd hfile (not_file_of_walk hsound hdirectory hentry (mapError_eq_ok_iff.mp hlast))

/-- A path to a directory can be listed. -/
theorem exists_place_of_isDirectory (h : host.isDirectory p = .ok true) :
    ∃ place, host.locate true p = .ok place ∧ host.files.entry? place = some .directory :=
  find_eq_ok_iff.mp (isDirectory_eq_ok_true_iff.mp h)

/-- A directory is listed. -/
theorem exists_list_of_isDirectory (h : host.isDirectory p = .ok true) :
    ∃ entries, host.list p = .ok entries := by
  obtain ⟨place, hplace, hdirectory⟩ := exists_place_of_isDirectory h
  exact ⟨_, list_eq_ok_iff.mpr ⟨place, hplace, hdirectory, rfl⟩⟩

/-! ## The order of the entries -/

section Order

variable {other : Host} (hperm : host.files.entries.Perm other.files.entries)
  (hworking : host.workingDirectory = other.workingDirectory) (hsound : host.files.Sound)

include hperm hworking hsound

/-- A path leads to the same place in a tree in another order. -/
theorem locate_eq_of_perm (follow : Bool) (p : FilePath) :
    host.locate follow p = other.locate follow p := by
  have hwalk := FileTree.walk_eq_of_entry? (FileTree.entry?_eq_of_perm hperm hsound)
  unfold locate
  simp only [hwalk, hworking]

/-- Paths lead to the same in whatever order the entries came to be. -/
theorem find_eq_of_perm (follow : Bool) (p : FilePath) : host.find follow p = other.find follow p := by
  unfold find
  simp only [locate_eq_of_perm hperm hworking hsound, FileTree.entry?_eq_of_perm hperm hsound]

/-- A directory is listed with the same names in whatever order the entries came to be. -/
theorem exists_list_of_perm {entries : List (String × FileEntry)} (hlist : host.list p = .ok entries) :
    ∃ entries', other.list p = .ok entries' ∧ entries.Perm entries' := by
  obtain ⟨place, hplace, hdirectory, rfl⟩ := list_eq_ok_iff.mp hlist
  rw [locate_eq_of_perm hperm hworking hsound] at hplace
  rw [FileTree.entry?_eq_of_perm hperm hsound] at hdirectory
  exact ⟨_, list_eq_ok_iff.mpr ⟨place, hplace, hdirectory, rfl⟩, FileTree.listing_perm hperm place⟩

end Order

/-! ## Hosts with everything in the root -/

/-- A host with these entries in the root, where it works as well. -/
def flat (entries : List (String × FileEntry)) : Host :=
  ⟨⟨entries.map fun (name, entry) => ([name], entry)⟩, [], []⟩

section Flat

variable {entries : List (String × FileEntry)}

theorem perm_flat {entries' : List (String × FileEntry)} (h : entries.Perm entries') :
    (flat entries).files.entries.Perm (flat entries').files.entries :=
  h.map _

/-- In a tree without directories all is in the root. -/
theorem listing_flat : (flat entries).files.listing [] = entries := by
  induction entries with
  | nil => rfl
  | cons x entries ih => exact congrArg (x :: ·) ih

/-- The root leads to itself. -/
theorem locate_top (host : Host) : host.locate true .top = .ok [] := by
  refine locate_eq_ok_iff.mpr ⟨by decide, by decide, ?_⟩
  simp [FilePath.top, startOf, FilePath.isAbsolute, FileTree.walk]

theorem isDirectory_top (host : Host) : host.isDirectory .top = .ok true :=
  isDirectory_eq_ok_true_iff.mpr (find_eq_ok_iff.mpr ⟨[], host.locate_top, rfl⟩)

theorem list_flat : (flat entries).list .top = .ok entries :=
  list_eq_ok_iff.mpr ⟨[], locate_top _, rfl, listing_flat.symm⟩

/-- A tree without directories is sound if its names are. -/
theorem sound_flat (hproper : ∀ name ∈ entries.map Prod.fst, IsProperName name)
    (honce : (entries.map Prod.fst).Nodup) : (flat entries).files.Sound where
  proper place entry hmem name hname := by
    simp only [flat, List.mem_map, Prod.mk.injEq] at hmem
    obtain ⟨⟨name', entry'⟩, hmem, rfl, rfl⟩ := hmem
    rw [List.mem_singleton.mp hname]
    exact hproper name' (List.mem_map.mpr ⟨_, hmem, rfl⟩)
  once := by
    have hplaces : (flat entries).files.entries.map Prod.fst = (entries.map Prod.fst).map fun name => [name] := by
      simp [flat]
    rw [hplaces]
    exact honce.map fun _ _ h => (List.cons.inj h).1
  inside place entry hmem := by
    simp only [flat, List.mem_map, Prod.mk.injEq] at hmem
    obtain ⟨⟨name', entry'⟩, -, rfl, rfl⟩ := hmem
    rfl

/-- An entry is found by its name. -/
theorem entry?_flat (h : entries.lookup name = some entry) :
    FileTree.entry? (flat entries).files [name] = some entry := by
  rw [← h]
  show List.lookup [name] (entries.map fun (name, entry) => ([name], entry)) = _
  clear h
  induction entries with
  | nil => rfl
  | cons x entries ih =>
    have hsame : ([name] == [x.1]) = (name == x.1) := by simp
    rw [List.map_cons, List.lookup_cons, List.lookup_cons, ih, hsame]

end Flat

end Host

end BusContract
