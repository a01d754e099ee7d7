import BusContract.Proofs.Files.Places
import Mathlib.Data.List.Perm.Subperm

/-!
# Canonical walks follow the rules

- `leads_of_canonicalFrom`: whatever a canonical walk finds follows from the rules for places.
- `canonicalFrom_of_leads`: whatever follows from the rules is found, unless a path on the way is too
  long. A link cannot be met again inside itself, since following it would then take longer than it
  takes, and so the links that are being followed are fewer than there are links.
-/

namespace BusContract

/-- Different places that hold links are no more than there are links. -/
theorem FileTree.length_le_linkCount {tree : FileTree} {places : List Place}
    (hdistinct : places.Nodup)
    (hlinks : ∀ place ∈ places, ∃ target, tree.entry? place = some (.link target)) :
    places.length ≤ tree.linkCount := by
  unfold linkCount
  rw [← List.length_map Prod.fst]
  refine (List.subperm_of_subset hdistinct fun place hplace => ?_).length_le
  obtain ⟨target, hentry⟩ := hlinks place hplace
  unfold entry? at hentry
  split at hentry
  next => cases hentry
  next =>
    obtain ⟨before, after, hentries, -⟩ := List.lookup_eq_some_iff.mp hentry
    have hmem : (place, FileEntry.link target) ∈ tree.entries := by
      rw [hentries]
      exact List.mem_append_right before List.mem_cons_self
    exact List.mem_map_of_mem (List.mem_filter.mpr ⟨hmem, rfl⟩)

namespace Host

variable {host : Host} {p : FilePath} {place : Place} {name : String}

/-! ## What is found follows from the rules -/

/-- Whatever a canonical walk finds follows from the rules. Induction on the walk. -/
theorem leads_of_canonicalFrom (hsited : host.Sited) {links : Nat} {within : List FilePath}
    {names : List String} {q : FilePath} (hp : host.Stands p place)
    (h : host.canonicalFrom links within p names = .ok q) :
    ∃ n last, host.files.Leads n place names last ∧ host.Stands q last := by
  fun_induction canonicalFrom host links within p names generalizing place q with
  | case1 links within p =>
    obtain rfl := Except.ok.inj h
    exact ⟨0, place, .nil place, hp⟩
  | case2 links within p name rest hname ih =>
    obtain ⟨n, last, hleads, hq⟩ := ih hp h
    exact ⟨n + 1, last, .stay n place name rest last hname hleads, hq⟩
  | case3 links within p rest hname ih =>
    obtain ⟨n, last, hleads, hq⟩ := ih hp.parent h
    exact ⟨n + 1, last, .up n place rest last hleads, hq⟩
  | case4 => cases h
  | case5 => cases h
  | case6 => cases h
  | case7 => cases h
  | case8 within p name rest hname hdots target hfind links hnew start via hvia ihtarget =>
    rename_i ihrest
    have hholds := hp.holds_of_findLast hsited hname hdots hfind
    -- the text of the link first, and the rest from where it ends
    obtain ⟨m, there, htarget, hthere⟩ := ihtarget (hp.linkStart target) hvia
    obtain ⟨n, last, hleads, hq⟩ := ihrest hthere h
    exact ⟨m + n + 1, last, .link m n place name target rest there last hholds htarget hleads, hq⟩
  | case9 links within p name rest hname hdots entry hno hfind ih =>
    have hholds := hp.holds_of_findLast hsited hname hdots hfind
    have hstraight := FileTree.Straight.child place name entry hp.straight hholds hno
    obtain ⟨n, last, hleads, hq⟩ := ih (hp.child hholds.step hstraight) h
    exact ⟨n + 1, last, .enter n place name entry rest last hholds hno hleads, hq⟩

/-! ## Names below a path that stands for a place -/

/-- Two dots lead to the parent. -/
theorem canonicalFrom_up (links : Nat) (within : List FilePath) (p : FilePath) (rest : List String) :
    host.canonicalFrom links within p (".." :: rest)
      = host.canonicalFrom links within p.parent rest := by
  rw [canonicalFrom, if_neg (by decide), if_pos rfl]

section Below

variable {entry : FileEntry} (h : host.Stands p place) (hsited : host.Sited)
  (hshort : ¬ (p.child name).IsOverlong)

include h hsited hshort

/-- What is no link is entered. -/
theorem canonicalFrom_enter (hholds : host.files.Holds place name entry)
    (hno : ∀ target, entry ≠ .link target) {links : Nat} {within : List FilePath}
    {rest : List String} :
    host.canonicalFrom links within p (name :: rest)
      = host.canonicalFrom links within (p.child name) rest := by
  rcases h.findLast_of_holds hsited hholds with hfind | ⟨hlong, -⟩
  · exact canonicalFrom_cons_of_some hholds.step hfind hno
  · exact absurd hlong hshort

/-- What is held is found under its name. -/
theorem find_child_of_holds (hholds : host.files.Holds place name entry)
    (hno : ∀ target, entry ≠ .link target) : host.find true (p.child name) = .ok entry := by
  have hwalk : host.files.walk true mostLinks place [name] = .ok (place ++ [name]) := by
    rw [FileTree.walk_enter hholds hno, FileTree.walk]
  unfold find
  rw [h.locate_child hsited, if_neg hholds.step.noNull, if_neg hshort, hwalk]
  simp only [Except.mapError, hholds.entry]

/-- What is not there is missing. -/
theorem find_child_of_none (hname : IsStep name)
    (hdirectory : host.files.entry? place = some .directory)
    (hentry : host.files.entry? (place ++ [name]) = none) (follow : Bool) :
    host.find follow (p.child name) = .error (.refused .missing (p.child name)) := by
  have hwalk : host.files.walk follow mostLinks place [name] = .error .missing := by
    rw [FileTree.walk_cons hdirectory hname, hentry]
  unfold find
  rw [h.locate_child hsited, if_neg hname.noNull, if_neg hshort, hwalk]
  rfl

end Below

/-! ## What follows from the rules is found -/

/-- The place that a path stands for, if it stands for one. -/
def placeOf (host : Host) (p : FilePath) : Place :=
  FilePath.cancelDots (host.startOf p ++ p.parts)

/-- A path that stands for a place has it for its own. -/
theorem Stands.placeOf_eq (hsited : host.Sited) (h : host.Stands p place) :
    host.placeOf p = place := by
  cases h with
  | absolute _ h =>
    exact FilePath.cancelDots_append [] fun name hname => (h.isStep name hname).notDots
  | relative ups below hbelow h =>
    show FilePath.cancelDots (host.workingDirectory ++ (List.replicate ups ".." ++ below)) = _
    have hhere : FilePath.cancelDots host.workingDirectory = host.workingDirectory :=
      FilePath.cancelDots_append [] fun name hname => (hsited.straight.isStep name hname).notDots
    rw [← List.append_assoc, FilePath.cancelDots_append _ fun name hname => (hbelow name hname).notDots,
      FilePath.cancelDots_ups, hhere]

/-- So does a name below it. -/
theorem Stands.placeOf_child (hsited : host.Sited) (h : host.Stands p place) (hname : name ≠ "..") :
    host.placeOf (p.child name) = place ++ [name] := by
  have hparts : host.placeOf (p.child name)
      = FilePath.cancelDots ((host.startOf p ++ p.parts) ++ [name]) := by
    rw [List.append_assoc]
    rfl
  rw [hparts, FilePath.cancelDots_concat, if_neg hname]
  exact congrArg (· ++ [name]) (h.placeOf_eq hsited)

/-- Can names be walked in `n` steps while links are being followed? These are different links, and
it takes as many steps at least to follow one of them. -/
structure Follows (host : Host) (links : Nat) (within : List FilePath) (n : Nat) : Prop where
  distinct : (within.map host.placeOf).Nodup
  room : links + within.length = host.linkRoom
  longer : ∀ path ∈ within, ∃ place name target, host.placeOf path = place ++ [name]
    ∧ host.files.Holds place name (.link target)
    ∧ ∀ m via, host.files.Leads m (FileTree.linkStart place target) (slashParts target) via → n ≤ m

namespace Follows

variable {links n m : Nat} {within : List FilePath}

/-- At first no link is being followed. -/
theorem nil (host : Host) (n : Nat) : host.Follows host.linkRoom [] n :=
  ⟨List.nodup_nil, rfl, fun _ h => absurd h List.not_mem_nil⟩

/-- Fewer links may still be followed. -/
theorem mono (h : host.Follows links within n) (hle : m ≤ n) : host.Follows links within m where
  distinct := h.distinct
  room := h.room
  longer path hpath := by
    obtain ⟨place, name, target, hplace, hholds, hlonger⟩ := h.longer path hpath
    refine ⟨place, name, target, hplace, hholds, fun m' via hleads => ?_⟩
    exact Nat.le_trans hle (hlonger m' via hleads)

/-- Fewer links are followed than there are, so one more can be. -/
theorem exists_links (h : host.Follows links within n) : ∃ more, links = more + 1 := by
  -- the paths that are followed stand for different places, each with a link
  have hlinks : ∀ place ∈ within.map host.placeOf, ∃ target,
      host.files.entry? place = some (.link target) := by
    intro place hplace
    obtain ⟨path, hpath, rfl⟩ := List.mem_map.mp hplace
    obtain ⟨place, name, target, hplace, hholds, -⟩ := h.longer path hpath
    exact ⟨target, hplace ▸ hholds.entry⟩
  have hfew := FileTree.length_le_linkCount h.distinct hlinks
  have hroom := h.room
  rw [linkRoom] at hroom
  rw [List.length_map] at hfew
  exact ⟨links - 1, by omega⟩

/-- A link that takes more steps than are left is not being followed. -/
theorem not_mem {place : Place} {name target : String} {via : Place} {path : FilePath}
    (h : host.Follows links within n) (hpath : host.placeOf path = place ++ [name])
    (hholds : host.files.Holds place name (.link target))
    (hleads : host.files.Leads m (FileTree.linkStart place target) (slashParts target) via)
    (hlt : m < n) : host.placeOf path ∉ within.map host.placeOf := by
  intro hmem
  -- the link at this place would have to take at least `n` steps, and it takes `m`
  obtain ⟨other, hother, hsame⟩ := List.mem_map.mp hmem
  obtain ⟨place', name', target', hplace', hholds', hlonger⟩ := h.longer other hother
  obtain ⟨rfl, hname⟩ := List.append_inj' (hplace'.symm.trans (hsame.trans hpath)) rfl
  obtain rfl := (List.cons.inj hname).1
  obtain rfl := FileEntry.link.inj (hholds.unique hholds')
  exact absurd (hlonger m via hleads) (Nat.not_le.mpr hlt)

/-- Inside a link as many steps are left as it takes to follow it. -/
theorem cons {place : Place} {name target : String} {via : Place} {path : FilePath}
    (h : host.Follows (links + 1) within n) (hpath : host.placeOf path = place ++ [name])
    (hholds : host.files.Holds place name (.link target))
    (hleads : host.files.Leads m (FileTree.linkStart place target) (slashParts target) via)
    (hlt : m < n) : host.Follows links (path :: within) m where
  distinct := by
    rw [List.map_cons, List.nodup_cons]
    exact ⟨h.not_mem hpath hholds hleads hlt, h.distinct⟩
  room := by
    have hroom := h.room
    rw [List.length_cons]
    omega
  longer := by
    rw [List.forall_mem_cons]
    constructor
    · refine ⟨place, name, target, hpath, hholds, fun m' via' hleads' => ?_⟩
      exact Nat.le_of_eq (hleads.unique hleads').1
    · exact (h.mono (Nat.le_of_lt hlt)).longer

end Follows

/-- Whatever follows from the rules is found, unless a path that is looked at is too long. Induction on
the derivation. -/
theorem canonicalFrom_of_leads (hsited : host.Sited) {n : Nat} {names : List String} {last : Place}
    (h : host.files.Leads n place names last) :
    ∀ {links : Nat} {within : List FilePath} {p : FilePath}, host.Stands p place →
      host.Follows links within n →
      (∃ q, host.canonicalFrom links within p names = .ok q ∧ host.Stands q last)
        ∨ ∃ fault, host.canonicalFrom links within p names = .error fault ∧ fault.IsOverlong := by
  induction h with
  | nil place =>
    intro links within p hp _
    exact .inl ⟨p, by rw [canonicalFrom], hp⟩
  | stay n place name rest last hname h ih =>
    intro links within p hp hfollows
    rw [canonicalFrom, if_pos hname]
    exact ih hp (hfollows.mono (Nat.le_succ n))
  | up n place rest last h ih =>
    intro links within p hp hfollows
    rw [canonicalFrom_up]
    exact ih hp.parent (hfollows.mono (Nat.le_succ n))
  | enter n place name entry rest last hholds hno h ih =>
    intro links within p hp hfollows
    rcases hp.findLast_of_holds hsited hholds with hfind | ⟨hlong, hfind⟩
    · rw [canonicalFrom_cons_of_some hholds.step hfind hno]
      have hstraight := FileTree.Straight.child place name entry hp.straight hholds hno
      exact ih (hp.child hholds.step hstraight) (hfollows.mono (Nat.le_succ n))
    · rw [canonicalFrom_cons_of_missing hholds.step hfind]
      exact .inr ⟨_, rfl, _, hlong, rfl⟩
  | link m n place name target rest via last hholds htarget h ihtarget ih =>
    intro links within p hp hfollows
    rcases hp.findLast_of_holds hsited hholds with hfind | ⟨hlong, hfind⟩
    · -- there is room for one more link, and it is none of those that are being followed
      obtain ⟨links, rfl⟩ := hfollows.exists_links
      have hpath := hp.placeOf_child hsited hholds.step.notDots
      have hlt : m < m + n + 1 := by omega
      have hnew : p.child name ∉ within := fun hmem =>
        hfollows.not_mem hpath hholds htarget hlt (List.mem_map_of_mem hmem)
      rcases ihtarget (hp.linkStart target) (hfollows.cons hpath hholds htarget hlt)
        with ⟨q, hq, hvia⟩ | ⟨fault, hfault, hlong⟩
      · rw [canonicalFrom_cons_of_link hholds.step hfind hnew hq]
        exact ih hvia (hfollows.mono (by omega))
      · rw [canonicalFrom_cons_of_error hholds.step hfind hnew hfault]
        exact .inr ⟨fault, rfl, hlong⟩
    · rw [canonicalFrom_cons_of_missing hholds.step hfind]
      exact .inr ⟨_, rfl, _, hlong, rfl⟩

end Host

end BusContract
