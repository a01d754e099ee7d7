import BusContract.Proofs.Files.Absolute
import BusContract.Proofs.Files.Listings
import BusContract.Proofs.Files.WorkingDirectory

/-!
# Where walks arrive

The system walks to what a path leads to, over forty links at most, and refuses a path that takes a file
for a directory on its way. A canonical walk has other limits, and takes back a name without asking what
it is. But where both arrive they arrive at the same place: the steps of the system follow the rules of
a canonical walk as well. And since a canonical walk looks at every name, its path can be looked at in
the end, and leads to something that is no link.

* `FileTree.leadsTo_of_walk`: whatever the system walks to follows from the rules.
* **`Host.exists_arrives`**: a canonical path leads to where the path leads.
* `Host.Arrives.find_eq`, `Host.canonical_of_find`: what the system finds, it finds by the canonical path.
-/

namespace BusContract

/-! ## Where names lead -/

namespace FileTree

variable {tree : FileTree} {place last : Place} {names : List String}

/-- Do names lead from one place to another? -/
def LeadsTo (tree : FileTree) (place : Place) (names : List String) (last : Place) : Prop :=
  ∃ n, tree.Leads n place names last

namespace LeadsTo

/-- Names lead to one place. -/
theorem unique {last' : Place} (h : tree.LeadsTo place names last)
    (h' : tree.LeadsTo place names last') : last = last' := by
  obtain ⟨n, h⟩ := h
  obtain ⟨n', h'⟩ := h'
  exact (h.unique h').2

theorem nil (place : Place) : tree.LeadsTo place [] place := ⟨0, .nil place⟩

/-- No names lead nowhere else. -/
theorem nil_iff : tree.LeadsTo place [] last ↔ last = place := by
  constructor
  · rintro ⟨n, h⟩
    cases h
    rfl
  · rintro rfl
    exact nil _

/-- A name that stays where one is makes no difference. -/
theorem stay_iff {name : String} (hname : name = "" ∨ name = ".") :
    tree.LeadsTo place (name :: names) last ↔ tree.LeadsTo place names last := by
  constructor
  · rintro ⟨n, h⟩
    cases h with
    | stay n _ _ _ _ _ h => exact ⟨n, h⟩
    | up => exact absurd hname (by decide)
    | enter _ _ _ _ _ _ hholds => exact absurd hname hholds.not_stay
    | link _ _ _ _ _ _ _ _ hholds => exact absurd hname hholds.not_stay
  · rintro ⟨n, h⟩
    exact ⟨n + 1, .stay n place name names last hname h⟩

/-- Two dots lead to the directory above. -/
theorem up_iff : tree.LeadsTo place (".." :: names) last ↔ tree.LeadsTo place.dropLast names last := by
  constructor
  · rintro ⟨n, h⟩
    cases h with
    | stay _ _ _ _ _ hname => exact absurd hname (by decide)
    | up n _ _ _ h => exact ⟨n, h⟩
    | enter _ _ _ _ _ _ hholds => exact absurd rfl hholds.step.notDots
    | link _ _ _ _ _ _ _ _ hholds => exact absurd rfl hholds.step.notDots
  · rintro ⟨n, h⟩
    exact ⟨n + 1, .up n place names last h⟩

/-- What is no link is entered. -/
theorem enter {name : String} {entry : FileEntry} (hholds : tree.Holds place name entry)
    (hno : ∀ target, entry ≠ .link target) (h : tree.LeadsTo (place ++ [name]) names last) :
    tree.LeadsTo place (name :: names) last := by
  obtain ⟨n, h⟩ := h
  exact ⟨n + 1, .enter n place name entry names last hholds hno h⟩

/-- A link is left by where its text leads. -/
theorem link {name target : String} {via : Place} (hholds : tree.Holds place name (.link target))
    (htarget : tree.LeadsTo (linkStart place target) (slashParts target) via)
    (h : tree.LeadsTo via names last) : tree.LeadsTo place (name :: names) last := by
  obtain ⟨m, htarget⟩ := htarget
  obtain ⟨n, h⟩ := h
  exact ⟨m + n + 1, .link m n place name target names via last hholds htarget h⟩

/-- The way over names after names comes by the place that the first ones lead to. -/
theorem exists_via {before after : List String} (h : tree.LeadsTo place (before ++ after) last) :
    ∃ via, tree.LeadsTo place before via ∧ tree.LeadsTo via after last := by
  obtain ⟨n, h⟩ := h
  -- the last place stays; `via` is where the row of names in front ends
  induction before generalizing n place with
  | nil => exact ⟨place, nil place, n, h⟩
  | cons name before ih =>
    cases h with
    | stay n _ _ _ _ hname h =>
      obtain ⟨via, hvia, hlast⟩ := ih n h
      exact ⟨via, (stay_iff hname).mpr hvia, hlast⟩
    | up n _ _ _ h =>
      obtain ⟨via, hvia, hlast⟩ := ih n h
      exact ⟨via, up_iff.mpr hvia, hlast⟩
    | enter n _ _ entry _ _ hholds hno h =>
      obtain ⟨via, hvia, hlast⟩ := ih n h
      exact ⟨via, enter hholds hno hvia, hlast⟩
    | link m n _ _ target _ there _ hholds htarget h =>
      obtain ⟨via, hvia, hlast⟩ := ih n h
      exact ⟨via, link hholds ⟨m, htarget⟩ hvia, hlast⟩

/-- Empty names may be left out. -/
theorem of_filter (h : tree.LeadsTo place (names.filter (· != "")) last) :
    tree.LeadsTo place names last := by
  obtain ⟨n, h⟩ := h
  induction names generalizing n place with
  | nil => exact ⟨n, h⟩
  | cons name names ih =>
    by_cases hname : name = ""
    · rw [List.filter_cons_of_neg (by simp [hname])] at h
      exact (stay_iff (.inl hname)).mpr (ih n h)
    · rw [List.filter_cons_of_pos (by simp [hname])] at h
      cases h with
      | stay n _ _ _ _ hstay h => exact (stay_iff hstay).mpr (ih n h)
      | up n _ _ _ h => exact up_iff.mpr (ih n h)
      | enter n _ _ entry _ _ hholds hno h => exact enter hholds hno (ih n h)
      | link m n _ _ target _ there _ hholds htarget h => exact link hholds ⟨m, htarget⟩ (ih n h)

/-- The steps that the text of a link stands for lead where its parts do. -/
theorem of_linkSteps {target : String} (h : tree.LeadsTo place (linkSteps target) last) :
    tree.LeadsTo place (slashParts target) last := by
  unfold linkSteps at h
  dsimp only at h
  split at h
  · obtain ⟨via, hvia, hlast⟩ := exists_via h
    obtain rfl := nil_iff.mp ((stay_iff (.inr rfl)).mp hlast)
    exact hvia.of_filter
  · exact h.of_filter

end LeadsTo

/-! ## Walks of the system -/

/-- A name in a sound tree is one that a walk steps to. -/
theorem Sound.holds (hsound : tree.Sound) {name : String} {entry : FileEntry}
    (hdirectory : tree.entry? place = some .directory)
    (hentry : tree.entry? (place ++ [name]) = some entry) : tree.Holds place name entry := by
  have hmem := (entry?_eq_some_iff hsound.once (by simp)).mp hentry
  exact ⟨(hsound.proper _ _ hmem name (by simp)).isStep, hdirectory, hentry⟩

/-- **Whatever the system walks to follows from the rules.** Induction on the walk. -/
theorem leadsTo_of_walk (hsound : tree.Sound) {links : Nat}
    (h : tree.walk true links place names = .ok last) : tree.LeadsTo place names last := by
  fun_induction tree.walk true links place names with
  | case1 links place =>
    obtain rfl := Except.ok.inj h
    exact .nil place
  | case2 => cases h
  | case3 links place rest hdirectory ih => exact (LeadsTo.stay_iff (.inr rfl)).mpr (ih h)
  | case4 links place rest hdirectory hdot ih => exact LeadsTo.up_iff.mpr (ih h)
  | case5 => cases h
  | case6 => cases h
  | case7 => simp at *
  | case8 => cases h
  -- the walk has put the names of the link in front of the others; the rules take them apart
  | case9 place step rest hdirectory hdot hdots hshort target hentry _ links start ih =>
    have hholds := hsound.holds (not_not.mp hdirectory) hentry
    obtain ⟨via, hvia, hlast⟩ := (ih h).exists_via
    exact .link hholds hvia.of_linkSteps hlast
  | case10 links place step rest hdirectory hdot hdots hshort entry hno hentry ih =>
    exact .enter (hsound.holds (not_not.mp hdirectory) hentry) hno (ih h)

end FileTree

/-! ## Canonical paths from the root -/

namespace FilePath

/-- The parent of an absolute path is absolute. -/
theorem parent_isAbsolute {p : FilePath} (h : p.isAbsolute = true) : p.parent.isAbsolute = true := by
  unfold parent
  split
  · rw [if_pos h]
    exact h
  · exact h
  · exact h

/-- Where a link begins is absolute, if the path of the link is. -/
theorem isAbsolute_linkStart {p : FilePath} (h : p.isAbsolute = true) (target : String) :
    (if target.startsWith "/" then top else p).isAbsolute = true := by
  split
  · rfl
  · exact h

end FilePath

namespace Host

variable {host other : Host} {p q : FilePath}

/-- A walk from a path that begins at the root comes to one. -/
theorem canonicalFrom_isAbsolute {links : Nat} {within : List FilePath} {names : List String}
    (hp : p.isAbsolute = true) (h : host.canonicalFrom links within p names = .ok q) :
    q.isAbsolute = true := by
  fun_induction host.canonicalFrom links within p names generalizing q with
  | case1 => exact Except.ok.inj h ▸ hp
  | case2 links within p name rest hname ih => exact ih hp h
  | case3 links within p rest hname ih => exact ih (FilePath.parent_isAbsolute hp) h
  | case4 => cases h
  | case5 => cases h
  | case6 => cases h
  | case7 => cases h
  | case8 within p name rest hname hdots target hfind links hnew start via hvia ihtarget =>
    rename_i ihrest
    exact ihrest (ihtarget (FilePath.isAbsolute_linkStart hp target) hvia) h
  | case9 links within p name rest hname hdots entry hno hfind ih => exact ih hp h

/-- Induction on the walk, which goes by paths that begin at the root only. -/
theorem canonicalFrom_eq_of_files (hfiles : host.files = other.files) {links : Nat}
    {within : List FilePath} {names : List String} (hp : p.isAbsolute = true) :
    host.canonicalFrom links within p names = other.canonicalFrom links within p names := by
  have hfind (p : FilePath) (hp : p.isAbsolute = true) (name : String) :
      host.findLast (p.child name) = other.findLast (p.child name) :=
    find_eq_of_files hfiles (show (p.child name).isAbsolute = true from hp) false
  have hloop (p : FilePath) (hp : p.isAbsolute = true) (name : String) :
      host.loopFault (p.child name) = other.loopFault (p.child name) := by
    rw [loopFault, loopFault, find_eq_of_files hfiles (show (p.child name).isAbsolute = true from hp)]
  -- one equation for each branch; a path given from the root is found alike on both hosts
  fun_induction host.canonicalFrom links within p names with
  | case1 => rw [canonicalFrom]
  | case2 links within p name rest hname ih => rw [canonicalFrom, if_pos hname, ih hp]
  | case3 links within p rest hname ih =>
    rw [canonicalFrom, if_neg hname, if_pos rfl, ih (FilePath.parent_isAbsolute hp)]
  | case4 links within p name rest hname hdots fault hfault =>
    rw [canonicalFrom, if_neg hname, if_neg hdots, ← hfind p hp, hfault]
  | case5 within p name rest hname hdots target hlink =>
    rw [canonicalFrom, if_neg hname, if_neg hdots, ← hfind p hp, hlink, hloop p hp]
  | case6 within p name rest hname hdots target hlink links hmet =>
    rw [canonicalFrom, if_neg hname, if_neg hdots, ← hfind p hp, hlink, hloop p hp]
    simp only [hmet, if_true]
  | case7 within p name rest hname hdots target hlink links hnew start fault hfault ih =>
    have hother : other.canonicalFrom links (p.child name :: within)
        (if target.startsWith "/" then .top else p) (slashParts target) = .error fault :=
      (ih (FilePath.isAbsolute_linkStart hp target)).symm.trans hfault
    rw [canonicalFrom, if_neg hname, if_neg hdots, ← hfind p hp, hlink]
    dsimp only
    rw [if_neg hnew, hother]
  | case8 within p name rest hname hdots target hlink links hnew start via hvia ihtarget =>
    rename_i ihrest
    have hstart := FilePath.isAbsolute_linkStart hp target
    have hother : other.canonicalFrom links (p.child name :: within)
        (if target.startsWith "/" then .top else p) (slashParts target) = .ok via :=
      (ihtarget hstart).symm.trans hvia
    rw [ihrest (canonicalFrom_isAbsolute hstart hvia), canonicalFrom, if_neg hname, if_neg hdots,
      ← hfind p hp, hlink]
    dsimp only
    rw [if_neg hnew, hother]
  | case9 links within p name rest hname hdots entry hno hentry ih =>
    rw [ih hp, canonicalFrom, if_neg hname, if_neg hdots, ← hfind p hp, hentry]
    cases entry with
    | link target => exact absurd rfl (hno target)
    | _ => rfl

/-- From the root a canonical form is found by a walk alone. -/
theorem canonical_of_isAbsolute (hp : p.isAbsolute = true) :
    host.canonical p = host.canonicalFrom host.linkRoom [] .top p.parts := by
  unfold canonical
  dsimp only
  rw [if_pos hp]
  cases hfound : host.canonicalFrom host.linkRoom [] .top p.parts with
  | error fault => rfl
  | ok q =>
    dsimp only
    rw [if_pos (canonicalFrom_isAbsolute rfl hfound)]

/-- An absolute path leads to the same, wherever one works. -/
theorem canonical_eq_of_files (hfiles : host.files = other.files) (hp : p.isAbsolute = true) :
    host.canonical p = other.canonical p := by
  have hroom : host.linkRoom = other.linkRoom := by rw [linkRoom, linkRoom, hfiles]
  rw [canonical_of_isAbsolute hp, canonical_of_isAbsolute hp, hroom, canonicalFrom_eq_of_files hfiles rfl]

end Host

/-! ## Where a canonical path leads -/

namespace FilePath

/-- A path without its last name is not longer. -/
theorem utf8ByteSize_intercalate_dropLast_le (names : List String) :
    ("/".intercalate names.dropLast).utf8ByteSize ≤ ("/".intercalate names).utf8ByteSize := by
  induction names with
  | nil => exact Nat.le_refl _
  | cons first rest ih =>
    cases rest with
    | nil => simp
    | cons second rest =>
      rw [List.dropLast_cons_cons]
      cases hrest : (second :: rest).dropLast with
      | nil => simp [String.intercalate_cons_cons]; omega
      | cons next others =>
        rw [hrest] at ih
        simp only [String.intercalate_cons_cons, String.utf8ByteSize_append]
        omega

end FilePath

namespace FileTree.Straight

variable {tree : FileTree} {place : Place}

/-- At the end of a way without links there is something, and no link. -/
theorem exists_entry (h : tree.Straight place) :
    ∃ entry, tree.entry? place = some entry ∧ ∀ target, entry ≠ .link target := by
  cases h with
  | root => exact ⟨.directory, rfl, nofun⟩
  | child place name entry _ hholds hno => exact ⟨entry, hholds.entry, hno⟩

end FileTree.Straight

namespace Host

variable {host : Host} {p q : FilePath} {place : Place}

/-- A path that leads somewhere is short enough. -/
theorem not_isOverlong_of_find {follow : Bool} {entry : FileEntry}
    (h : host.find follow p = .ok entry) : ¬ p.IsOverlong := by
  obtain ⟨place, hlocate, -⟩ := find_eq_ok_iff.mp h
  exact (locate_eq_ok_iff.mp hlocate).2.1

/-- Where a link begins, the path is short enough too. -/
theorem not_isOverlong_linkStart (h : ¬ p.IsOverlong) (target : String) :
    ¬ (if target.startsWith "/" then FilePath.top else p).IsOverlong := by
  split
  · decide
  · exact h

/-- A path from the root that goes through no link does not get longer by going back. -/
theorem Stands.not_isOverlong_parent (h : host.Stands p place) (habsolute : p.isAbsolute = true)
    (hshort : ¬ p.IsOverlong) : ¬ p.parent.IsOverlong := by
  cases h with
  | relative => cases habsolute
  | absolute _ h =>
    cases h with
    | root => exact hshort
    | child place name entry _ hholds =>
      have hparent : (FilePath.mk "/" (place ++ [name])).parent = ⟨"/", place⟩ := by
        simp [FilePath.parent, hholds.step.notDots]
      have hsize (names : List String) : (FilePath.mk "/" names).text.utf8ByteSize
          = "/".utf8ByteSize + ("/".intercalate names).utf8ByteSize :=
        String.utf8ByteSize_append
      -- to leave out the last name makes the text no longer
      have hle := FilePath.utf8ByteSize_intercalate_dropLast_le (place ++ [name])
      rw [List.dropLast_concat] at hle
      rw [hparent]
      unfold FilePath.IsOverlong at hshort ⊢
      rw [hsize] at hshort ⊢
      omega

/-- A canonical walk keeps to paths that are not too long: each is looked at, or goes back from one
that was. -/
theorem not_isOverlong_of_canonicalFrom (hsited : host.Sited) {links : Nat} {within : List FilePath}
    {names : List String} (hp : host.Stands p place) (habsolute : p.isAbsolute = true)
    (hshort : ¬ p.IsOverlong) (h : host.canonicalFrom links within p names = .ok q) :
    ¬ q.IsOverlong := by
  -- only what was looked at last can be new, and a look at an overlong path is refused
  fun_induction host.canonicalFrom links within p names generalizing place q with
  | case1 => exact Except.ok.inj h ▸ hshort
  | case2 links within p name rest hname ih => exact ih hp habsolute hshort h
  | case3 links within p rest hname ih =>
    have hparent := hp.not_isOverlong_parent habsolute hshort
    exact ih hp.parent (FilePath.parent_isAbsolute habsolute) hparent h
  | case4 => cases h
  | case5 => cases h
  | case6 => cases h
  | case7 => cases h
  | case8 within p name rest hname hdots target hfind links hnew start via hvia ihtarget =>
    rename_i ihrest
    have hstart := FilePath.isAbsolute_linkStart habsolute target
    obtain ⟨-, there, -, hthere⟩ := leads_of_canonicalFrom hsited (hp.linkStart target) hvia
    have hvia' := ihtarget (hp.linkStart target) hstart (not_isOverlong_linkStart hshort target) hvia
    exact ihrest hthere (canonicalFrom_isAbsolute hstart hvia) hvia' h
  | case9 links within p name rest hname hdots entry hno hfind ih =>
    have hholds := hp.holds_of_findLast hsited hname hdots hfind
    have hstraight := FileTree.Straight.child place name entry hp.straight hholds hno
    exact ih (hp.child hholds.step hstraight) habsolute (not_isOverlong_of_find hfind) h

/-- The host with the root as its working directory. -/
def atRoot (host : Host) : Host := { host with workingDirectory := [] }

theorem sited_atRoot (host : Host) : host.atRoot.Sited := ⟨.root, rfl⟩

/-- What a straight place holds is found by its path, unless that is too long. -/
theorem find_of_straight {follow : Bool} {entry : FileEntry} (h : host.files.Straight place)
    (hentry : host.files.entry? place = some entry) (hshort : ¬ (FilePath.mk "/" place).IsOverlong) :
    host.find follow ⟨"/", place⟩ = .ok entry := by
  have hnull : '\x00' ∉ (FilePath.mk "/" place).text.toList := by
    rw [FilePath.null_mem_text (show '\x00' ∉ "/".toList by decide)]
    rintro ⟨name, hname, hnull⟩
    exact (h.isStep name hname).noNull hnull
  have hwalk : host.files.walk follow mostLinks [] place = .ok place := by
    have hwalk : host.files.walk follow mostLinks [] (place ++ [])
        = host.files.walk follow mostLinks place [] := h.walk_append []
    rwa [List.append_nil, FileTree.walk] at hwalk
  exact find_eq_ok_iff.mpr ⟨place, locate_eq_ok_iff.mpr ⟨hnull, hshort, hwalk⟩, hentry⟩

/-- Where a canonical path leads: to the place that the names of the path lead to, which is reached
without a link. -/
structure Arrives (host : Host) (p q : FilePath) (place : Place) (entry : FileEntry) : Prop where
  leads : host.files.LeadsTo [] p.parts place
  canonical : q = ⟨"/", place⟩
  straight : host.files.Straight place
  holds : host.files.entry? place = some entry
  noLink : ∀ target, entry ≠ .link target
  found : ∀ follow, host.find follow q = .ok entry

/-- **A canonical path leads somewhere**, and where it leads is where the path does. -/
theorem exists_arrives (hp : p.isAbsolute = true) (h : host.canonical p = .ok q) :
    ∃ place entry, host.Arrives p q place entry := by
  have hsame : host.atRoot.canonical p = host.canonical p := canonical_eq_of_files rfl hp
  have hcanonical := hsame.trans h
  rw [canonical_of_isAbsolute hp] at hcanonical
  have hsited := host.sited_atRoot
  obtain ⟨n, place, hleads, hstands⟩ := leads_of_canonicalFrom hsited (.top _) hcanonical
  have hshort := not_isOverlong_of_canonicalFrom hsited (.top _) rfl (by decide) hcanonical
  have hq := canonicalFrom_isAbsolute rfl hcanonical
  cases hstands with
  | relative => cases hq
  | absolute _ hstraight =>
    obtain ⟨entry, hentry, hno⟩ := hstraight.exists_entry
    exact ⟨place, entry, ⟨n, hleads⟩, rfl, hstraight, hentry, hno,
      fun _ => find_of_straight hstraight hentry hshort⟩

/-- What the system finds is what the canonical path leads to. -/
theorem Arrives.find_eq {place : Place} {entry entry' : FileEntry} (hsound : host.files.Sound)
    (hp : p.isAbsolute = true) (h : host.Arrives p q place entry)
    (hfind : host.find true p = .ok entry') : entry' = entry := by
  obtain ⟨place', hlocate, hentry'⟩ := find_eq_ok_iff.mp hfind
  have hwalk := (locate_eq_ok_iff.mp hlocate).2.2
  rw [startOf, if_pos hp] at hwalk
  obtain rfl := (FileTree.leadsTo_of_walk hsound hwalk).unique h.leads
  exact Option.some.inj (hentry'.symm.trans h.holds)

/-- What the system finds has a canonical path, unless that is too long. -/
theorem canonical_of_find {entry : FileEntry} (hsound : host.files.Sound) (hp : p.isAbsolute = true)
    (hfind : host.find true p = .ok entry) :
    (∃ q, host.canonical p = .ok q)
      ∨ ∃ fault, host.canonical p = .error fault ∧ fault.IsOverlong := by
  obtain ⟨place, hlocate, -⟩ := find_eq_ok_iff.mp hfind
  have hwalk := (locate_eq_ok_iff.mp hlocate).2.2
  rw [startOf, if_pos hp] at hwalk
  obtain ⟨n, hleads⟩ := FileTree.leadsTo_of_walk hsound hwalk
  have hleads' : host.atRoot.files.Leads n (host.atRoot.startOf p) p.parts place := by
    rw [startOf, if_pos hp]
    exact hleads
  have hsame : host.atRoot.canonical p = host.canonical p := canonical_eq_of_files rfl hp
  rw [← hsame]
  exact (canonical_of_leads host.sited_atRoot hleads').imp_left fun h => ⟨_, h⟩

end Host
end BusContract
