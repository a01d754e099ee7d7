import BusContract.Proofs.Files.Names
import BusContract.Proofs.Outcomes
import Mathlib.Data.List.Induction
import Mathlib.Logic.Function.Iterate

/-!
# Places that no link leads to

A canonical walk keeps a path that goes through no link, and with it a place in the tree. Which paths
it keeps depends on where it began: from the root they give the way down, from the working directory
they may first go up (`Host.Stands`). Where the walk leads does not depend on that: `Leads` gives its
rules for places alone, without a list of the links that are being followed and without a bound on
them.
-/

namespace BusContract

/-! ## Straight places -/

namespace FileTree

/-- Is there an entry of this name in the directory at the place? -/
structure Holds (tree : FileTree) (place : Place) (name : String) (entry : FileEntry) : Prop where
  step : IsStep name
  directory : tree.entry? place = some .directory
  entry : tree.entry? (place ++ [name]) = some entry

/-- Is the place reached from the root without any link? -/
inductive Straight (tree : FileTree) : Place → Prop where
  | root : Straight tree []
  | child (place : Place) (name : String) (entry : FileEntry) (h : Straight tree place)
      (hholds : tree.Holds place name entry) (hno : ∀ target, entry ≠ .link target) :
      Straight tree (place ++ [name])

variable {tree : FileTree} {place : Place} {follow : Bool} {links : Nat}

/-- What is no link is entered. -/
theorem walk_enter {name : String} {entry : FileEntry} (hholds : tree.Holds place name entry)
    (hno : ∀ target, entry ≠ .link target) (rest : List String) :
    tree.walk follow links place (name :: rest) = tree.walk follow links (place ++ [name]) rest := by
  rw [walk_cons hholds.directory hholds.step, hholds.entry]
  cases entry with
  | link target => exact absurd rfl (hno target)
  | _ => rfl

/-- A walk of one step that follows no link goes to the name, whatever there is. -/
theorem Holds.walk_last {name : String} {entry : FileEntry} (hholds : tree.Holds place name entry) :
    tree.walk false links place [name] = .ok (place ++ [name]) := by
  rw [walk_cons hholds.directory hholds.step, hholds.entry]
  cases entry <;> simp [walk]

/-- A name that is not followed leads below the directory it is in. -/
theorem walk_last {name : String} {last : Place} (hdot : name ≠ ".") (hdots : name ≠ "..")
    (h : tree.walk false links place [name] = .ok last) :
    tree.entry? place = some .directory ∧ name.utf8ByteSize ≤ longestName
      ∧ last = place ++ [name] := by
  have hdirectory : tree.entry? place = some .directory := by
    by_contra hno
    rw [walk, if_pos hno] at h
    cases h
  have hshort : name.utf8ByteSize ≤ longestName := by
    by_contra hlong
    rw [walk_cons_of_long hdirectory (Nat.lt_of_not_le hlong)] at h
    cases h
  refine ⟨hdirectory, hshort, ?_⟩
  rw [walk, if_neg (not_not_intro hdirectory), if_neg hdot, if_neg hdots,
    if_neg (Nat.not_lt.mpr hshort)] at h
  cases hentry : tree.entry? (place ++ [name]) with
  | none => simp [hentry] at h
  | some entry => cases entry <;> simpa [hentry, walk, eq_comm] using h

namespace Straight

/-- A walk from the root comes by a straight place. -/
theorem walk_append (h : tree.Straight place) (rest : List String) :
    tree.walk follow links [] (place ++ rest) = tree.walk follow links place rest := by
  induction h generalizing rest with
  | root => rfl
  | child place name entry h hholds hno ih =>
    rw [List.append_assoc, ih, List.singleton_append, walk_enter hholds hno]

/-- A way without links has none above its end. -/
theorem dropLast (h : tree.Straight place) : tree.Straight place.dropLast := by
  cases h with
  | root => exact .root
  | child place name entry h => rwa [List.dropLast_concat]

/-- Above a straight place there is a directory. -/
theorem entry?_dropLast (h : tree.Straight place) :
    tree.entry? place.dropLast = some .directory := by
  cases h with
  | root => rfl
  | child place name entry h hholds => rw [List.dropLast_concat, hholds.directory]

/-- Its names are steps down. -/
theorem isStep (h : tree.Straight place) : ∀ name ∈ place, IsStep name := by
  induction h with
  | root => exact fun _ hmem => absurd hmem List.not_mem_nil
  | child place name entry h hholds hno ih =>
    intro name' hmem
    rcases List.mem_append.mp hmem with hmem | hmem
    · exact ih name' hmem
    · rw [List.mem_singleton.mp hmem]
      exact hholds.step

end Straight

/-! ## The rules of a canonical walk -/

/-- Where the text of a link is walked from. -/
def linkStart (place : Place) (target : String) : Place :=
  if target.startsWith "/" then [] else place

/-- The place that names lead to, with the number of steps that it takes. -/
inductive Leads (tree : FileTree) : Nat → Place → List String → Place → Prop where
  | nil (place : Place) : Leads tree 0 place [] place
  | stay (n : Nat) (place : Place) (name : String) (rest : List String) (last : Place)
      (hname : name = "" ∨ name = ".") (h : Leads tree n place rest last) :
      Leads tree (n + 1) place (name :: rest) last
  | up (n : Nat) (place : Place) (rest : List String) (last : Place)
      (h : Leads tree n place.dropLast rest last) : Leads tree (n + 1) place (".." :: rest) last
  | enter (n : Nat) (place : Place) (name : String) (entry : FileEntry) (rest : List String)
      (last : Place) (hholds : tree.Holds place name entry) (hno : ∀ target, entry ≠ .link target)
      (h : Leads tree n (place ++ [name]) rest last) : Leads tree (n + 1) place (name :: rest) last
  | link (m n : Nat) (place : Place) (name target : String) (rest : List String)
      (via last : Place) (hholds : tree.Holds place name (.link target))
      (htarget : Leads tree m (linkStart place target) (slashParts target) via)
      (h : Leads tree n via rest last) : Leads tree (m + n + 1) place (name :: rest) last

/-- What is held has a name of its own. -/
theorem Holds.not_stay {name : String} {entry : FileEntry} (h : tree.Holds place name entry) :
    ¬ (name = "" ∨ name = ".") := not_or.mpr ⟨h.step.nonempty, h.step.notDot⟩

/-- One thing is held under a name. -/
theorem Holds.unique {name : String} {entry entry' : FileEntry} (h : tree.Holds place name entry)
    (h' : tree.Holds place name entry') : entry = entry' :=
  Option.some.inj (h.entry.symm.trans h'.entry)

/-- Names lead to one place at most, and in one number of steps. Induction on the first derivation:
what there is of a name leaves one rule for the second. -/
theorem Leads.unique {n n' : Nat} {names : List String} {last last' : Place}
    (h : tree.Leads n place names last) (h' : tree.Leads n' place names last') :
    n = n' ∧ last = last' := by
  induction h generalizing n' last' with
  | nil place =>
    cases h' with
    | nil => exact ⟨rfl, rfl⟩
  -- the name and what it holds decide the rule, so the other derivation ends with the same one
  | stay n place name rest last hname h ih =>
    cases h' with
    | stay _ _ _ _ _ _ h' =>
      obtain ⟨rfl, rfl⟩ := ih h'
      exact ⟨rfl, rfl⟩
    | up => exact absurd hname (by decide)
    | enter _ _ _ _ _ _ hholds => exact absurd hname hholds.not_stay
    | link _ _ _ _ _ _ _ _ hholds => exact absurd hname hholds.not_stay
  | up n place rest last h ih =>
    cases h' with
    | stay _ _ _ _ _ hname => exact absurd hname (by decide)
    | up _ _ _ _ h' =>
      obtain ⟨rfl, rfl⟩ := ih h'
      exact ⟨rfl, rfl⟩
    | enter _ _ _ _ _ _ hholds => exact absurd rfl hholds.step.notDots
    | link _ _ _ _ _ _ _ _ hholds => exact absurd rfl hholds.step.notDots
  | enter n place name entry rest last hholds hno h ih =>
    cases h' with
    | stay _ _ _ _ _ hname => exact absurd hname hholds.not_stay
    | up => exact absurd rfl hholds.step.notDots
    | enter _ _ _ _ _ _ _ _ h' =>
      obtain ⟨rfl, rfl⟩ := ih h'
      exact ⟨rfl, rfl⟩
    | link _ _ _ _ target _ _ _ hholds' => exact absurd (hholds.unique hholds') (hno target)
  | link m n place name target rest via last hholds htarget h ihtarget ih =>
    cases h' with
    | stay _ _ _ _ _ hname => exact absurd hname hholds.not_stay
    | up => exact absurd rfl hholds.step.notDots
    | enter _ _ _ _ _ _ hholds' hno => exact absurd (hholds'.unique hholds) (hno target)
    | link _ _ _ _ _ _ _ _ hholds' htarget' h' =>
      obtain rfl := FileEntry.link.inj (hholds.unique hholds')
      obtain ⟨rfl, rfl⟩ := ihtarget htarget'
      obtain ⟨rfl, rfl⟩ := ih h'
      exact ⟨rfl, rfl⟩

/-- The names of a straight place lead to it. -/
theorem Leads.append_iff {names : List String} {last : Place} (h : tree.Straight place) :
    (∃ n, tree.Leads n [] (place ++ names) last) ↔ ∃ n, tree.Leads n place names last := by
  induction h generalizing names with
  | root => rfl
  | child place name entry h hholds hno ih =>
    rw [List.append_assoc, ih, List.singleton_append]
    constructor
    · rintro ⟨n, hleads⟩
      -- of a name that no link has there is only one way to go
      cases hleads with
      | stay _ _ _ _ _ hname => exact absurd hname hholds.not_stay
      | up => exact absurd rfl hholds.step.notDots
      | enter n _ _ _ _ _ _ _ h => exact ⟨n, h⟩
      | link _ _ _ _ target _ _ _ hholds' => exact absurd (hholds.unique hholds') (hno target)
    · rintro ⟨n, hleads⟩
      exact ⟨n + 1, .enter n place name entry names last hholds hno hleads⟩

end FileTree

/-! ## The characters of a path -/

namespace FilePath

/-- A character other than a slash is in a list of names, written with slashes between them, exactly
if it is in one of them. -/
theorem mem_intercalate {c : Char} (hc : c ≠ '/') (names : List String) :
    c ∈ ("/".intercalate names).toList ↔ ∃ name ∈ names, c ∈ name.toList := by
  induction names with
  | nil => simp
  | cons first rest ih =>
    cases rest with
    | nil => simp
    | cons second rest =>
      have hslash : c ∉ "/".toList := by simpa using hc
      rw [String.intercalate_cons_cons, String.toList_append, String.toList_append, List.mem_append,
        List.mem_append, ih, or_iff_left hslash]
      simp only [List.mem_cons, exists_eq_or_imp]

/-- A path holds a null character exactly if a name in it does. -/
theorem null_mem_text {p : FilePath} (hroot : '\x00' ∉ p.root.toList) :
    '\x00' ∈ p.text.toList ↔ ∃ name ∈ p.parts, '\x00' ∈ name.toList := by
  unfold text
  split
  next hempty =>
    have hparts : p.parts = [] := by simpa using (Bool.and_eq_true_iff.mp hempty).2
    simp [hparts]
  next => rw [String.toList_append, List.mem_append, or_iff_right hroot, mem_intercalate (by decide)]

/-- A null character is in the name, if it is not in the path before. -/
theorem null_mem_text_child {p : FilePath} {name : String} (hnull : '\x00' ∉ p.text.toList) :
    '\x00' ∈ (p.child name).text.toList ↔ '\x00' ∈ name.toList := by
  have hroot : '\x00' ∉ p.root.toList := by
    intro hmem
    apply hnull
    unfold text
    split
    next hempty =>
      have hnone : p.root = "" := by simpa using (Bool.and_eq_true_iff.mp hempty).1
      rw [hnone] at hmem
      exact absurd hmem (by decide)
    next =>
      rw [String.toList_append]
      exact List.mem_append_left _ hmem
  rw [null_mem_text hroot] at hnull
  rw [null_mem_text (p := p.child name) hroot]
  constructor
  · rintro ⟨part, hpart, hmem⟩
    rcases List.mem_append.mp hpart with hpart | hpart
    · exact absurd ⟨part, hpart, hmem⟩ hnull
    · rwa [← List.mem_singleton.mp hpart]
  · exact fun hmem => ⟨name, List.mem_append_right _ (List.mem_singleton_self name), hmem⟩

end FilePath

/-! ## Double dots -/

namespace FilePath

/-- Two dots take away the name before them. -/
theorem cancelDots_concat (front : List String) (name : String) :
    cancelDots (front ++ [name])
      = if name = ".." then (cancelDots front).dropLast else cancelDots front ++ [name] := by
  rw [cancelDots, List.foldl_append]
  rfl

/-- Names without dots are left. -/
theorem cancelDots_append (front : List String) {names : List String}
    (hnames : ∀ name ∈ names, name ≠ "..") :
    cancelDots (front ++ names) = cancelDots front ++ names := by
  induction names using List.reverseRecOn with
  | nil => rw [List.append_nil, List.append_nil]
  | append_singleton names name ih =>
    have hname := hnames name (List.mem_append_right names (List.mem_singleton_self name))
    have hothers := ih fun other hother => hnames other (List.mem_append_left [name] hother)
    rw [← List.append_assoc, cancelDots_concat, if_neg hname, hothers, List.append_assoc]

/-- Any number of dots take away as many names. -/
theorem cancelDots_ups (front : List String) (ups : Nat) :
    cancelDots (front ++ List.replicate ups "..") = List.dropLast^[ups] (cancelDots front) := by
  induction ups with
  | zero => rw [List.replicate_zero, List.append_nil, Function.iterate_zero_apply]
  | succ ups ih =>
    rw [List.replicate_succ', ← List.append_assoc, cancelDots_concat, if_pos rfl, ih,
      Function.iterate_succ_apply']

end FilePath

/-! ## Paths that stand for places -/

/-- Does the host work in a directory, which it says without links? -/
structure Host.Sited (host : Host) : Prop where
  straight : host.files.Straight host.workingDirectory
  directory : host.files.entry? host.workingDirectory = some .directory

/-- Where the names of a path are walked from. -/
def Host.startOf (host : Host) (p : FilePath) : Place :=
  if p.isAbsolute then [] else host.workingDirectory

/-- Does a path stand for a straight place? It gives the way from the root, or it goes up from the
working directory and down from there, but not up again. -/
inductive Host.Stands (host : Host) : FilePath → Place → Prop where
  | absolute (place : Place) (h : host.files.Straight place) : Stands host ⟨"/", place⟩ place
  | relative (ups : Nat) (below : List String) (hbelow : ∀ name ∈ below, IsStep name)
      (h : host.files.Straight (List.dropLast^[ups] host.workingDirectory ++ below)) :
      Stands host ⟨"", List.replicate ups ".." ++ below⟩
        (List.dropLast^[ups] host.workingDirectory ++ below)

/-- Is the path itself longer than any path may be? -/
def FilePath.IsOverlong (p : FilePath) : Prop := longestPath < p.text.utf8ByteSize

instance (p : FilePath) : Decidable p.IsOverlong :=
  inferInstanceAs (Decidable (longestPath < p.text.utf8ByteSize))

/-- Is a path refused only because it is longer than any path may be? -/
def FileFault.IsOverlong (fault : FileFault) : Prop :=
  ∃ p : FilePath, p.IsOverlong ∧ fault = .refused .nameTooLong p

namespace Host

variable {host : Host} {p : FilePath} {place : Place} {name : String}

namespace Sited

/-- Going up from the working directory one stays in directories. -/
theorem above (hsited : host.Sited) (ups : Nat) :
    host.files.Straight (List.dropLast^[ups] host.workingDirectory)
      ∧ host.files.entry? (List.dropLast^[ups] host.workingDirectory) = some .directory := by
  induction ups with
  | zero => exact ⟨hsited.straight, hsited.directory⟩
  | succ ups ih =>
    rw [Function.iterate_succ_apply']
    exact ⟨ih.1.dropLast, ih.1.entry?_dropLast⟩

/-- Dots lead up from where one works. -/
theorem walk_ups (hsited : host.Sited) {follow : Bool} {links : Nat} (ups : Nat)
    (rest : List String) :
    host.files.walk follow links host.workingDirectory (List.replicate ups ".." ++ rest)
      = host.files.walk follow links (List.dropLast^[ups] host.workingDirectory) rest := by
  induction ups generalizing rest with
  | zero => rfl
  | succ ups ih =>
    obtain ⟨-, hdirectory⟩ := hsited.above ups
    rw [List.replicate_succ', List.append_assoc, ih, Function.iterate_succ_apply',
      List.singleton_append, FileTree.walk, if_neg (not_not_intro hdirectory), if_neg (by decide),
      if_pos rfl]

end Sited

namespace Stands

theorem top (host : Host) : host.Stands .top [] := .absolute [] .root

/-- The path of no names stands for the working directory. -/
theorem here (hsited : host.Sited) : host.Stands ⟨"", []⟩ host.workingDirectory := by
  have hstraight : host.files.Straight (host.workingDirectory ++ []) := by
    rw [List.append_nil]
    exact hsited.straight
  rw [← List.append_nil host.workingDirectory]
  exact .relative 0 [] (fun _ hmem => absurd hmem List.not_mem_nil) hstraight

/-- A path that stands for a place leads there without links. -/
theorem straight (h : host.Stands p place) : host.files.Straight place := by
  cases h with
  | absolute _ h => exact h
  | relative _ _ _ h => exact h

/-- A name below it stands for the place below. -/
theorem child (h : host.Stands p place) (hstep : IsStep name)
    (hstraight : host.files.Straight (place ++ [name])) :
    host.Stands (p.child name) (place ++ [name]) := by
  cases h with
  | absolute => exact .absolute _ hstraight
  | relative ups below hbelow =>
    unfold FilePath.child
    rw [List.append_assoc] at hstraight ⊢
    rw [List.append_assoc]
    refine .relative ups (below ++ [name]) ?_ hstraight
    rw [List.forall_mem_append, List.forall_mem_singleton]
    exact ⟨hbelow, hstep⟩

/-- And its parent for the place above. -/
theorem parent (h : host.Stands p place) : host.Stands p.parent place.dropLast := by
  cases h with
  | absolute _ h =>
    -- at the root there is nothing to drop
    have hparent : (FilePath.mk "/" place).parent = ⟨"/", place.dropLast⟩ := by
      cases h with
      | root => rfl
      | child place name entry h hholds =>
        have hname := hholds.step.notDots
        simp [FilePath.parent]
    rw [hparent]
    exact .absolute _ h.dropLast
  | relative ups below hbelow h =>
    rcases List.eq_nil_or_concat' below with rfl | ⟨below, name, rfl⟩
    · -- there is nothing to take back, so the path goes up once more
      have hparent : (FilePath.mk "" (List.replicate ups ".." ++ [])).parent
          = ⟨"", List.replicate (ups + 1) ".." ++ []⟩ := by
        cases ups with
        | zero => rfl
        | succ ups => simp [FilePath.parent, FilePath.child, List.replicate_succ']
      have hdrop := h.dropLast
      have hplace : (List.dropLast^[ups] host.workingDirectory ++ []).dropLast
          = List.dropLast^[ups + 1] host.workingDirectory ++ [] := by
        rw [List.append_nil, List.append_nil, Function.iterate_succ_apply']
      rw [hplace] at hdrop ⊢
      rw [hparent]
      exact .relative (ups + 1) [] hbelow hdrop
    · have hname := (hbelow name (by simp)).notDots
      have hparent : (FilePath.mk "" (List.replicate ups ".." ++ (below ++ [name]))).parent
          = ⟨"", List.replicate ups ".." ++ below⟩ := by
        simp [FilePath.parent, ← List.append_assoc]
      have hplace : (List.dropLast^[ups] host.workingDirectory ++ (below ++ [name])).dropLast
          = List.dropLast^[ups] host.workingDirectory ++ below := by
        rw [← List.append_assoc, List.dropLast_concat]
      have hdrop := h.dropLast
      rw [hplace] at hdrop ⊢
      rw [hparent]
      exact .relative ups below (fun n hn => hbelow n (List.mem_append_left _ hn)) hdrop

/-- A walk over the path and beyond comes by the place. -/
theorem walk_append (h : host.Stands p place) (hsited : host.Sited) {follow : Bool} {links : Nat}
    (rest : List String) :
    host.files.walk follow links (host.startOf p) (p.parts ++ rest)
      = host.files.walk follow links place rest := by
  cases h with
  | absolute _ h => exact h.walk_append rest
  | relative ups below _ h =>
    show host.files.walk follow links host.workingDirectory _ = _
    -- up from the working directory, and then the way that is part of the one from the root
    have habove := (hsited.above ups).1
    rw [List.append_assoc, hsited.walk_ups, ← h.walk_append, List.append_assoc, habove.walk_append]

/-- No name on the way to a place holds a null character. -/
theorem null_not_mem_text (h : host.Stands p place) : '\x00' ∉ p.text.toList := by
  have hroot : '\x00' ∉ p.root.toList := by
    cases h with
    | absolute => exact show '\x00' ∉ "/".toList by decide
    | relative => exact show '\x00' ∉ "".toList by decide
  rw [FilePath.null_mem_text hroot]
  rintro ⟨part, hpart, hnull⟩
  cases h with
  | absolute _ h => exact (h.isStep part hpart).noNull hnull
  | relative ups below hbelow h =>
    rcases List.mem_append.mp hpart with hup | hpart
    · rw [(List.mem_replicate.mp hup).2] at hnull
      exact absurd hnull (by decide)
    · exact (hbelow part hpart).noNull hnull

/-- A name is looked for at the place that the path stands for. -/
theorem locate_child (h : host.Stands p place) (hsited : host.Sited) (follow : Bool) :
    host.locate follow (p.child name) =
      if '\x00' ∈ name.toList then .error .nullCharacter
      else if (p.child name).IsOverlong then .error (.refused .nameTooLong (p.child name))
      else (host.files.walk follow mostLinks place [name]).mapError
        fun flaw => .refused flaw (p.child name) := by
  unfold locate
  rw [← h.walk_append hsited]
  simp only [List.contains_iff_mem, FilePath.null_mem_text_child h.null_not_mem_text]
  rfl

/-- What there is of a name below the path is what the directory at the place holds. -/
theorem holds_of_findLast (h : host.Stands p place) (hsited : host.Sited) {entry : FileEntry}
    (hname : ¬ (name = "" ∨ name = ".")) (hdots : name ≠ "..")
    (hfind : host.findLast (p.child name) = .ok entry) : host.files.Holds place name entry := by
  obtain ⟨hempty, hdot⟩ := not_or.mp hname
  unfold findLast find at hfind
  rw [h.locate_child hsited] at hfind
  split at hfind
  next => cases hfind
  next last hlast =>
    -- what the look has passed: no NUL character, not too long, and the place is a directory
    split at hlast
    next => cases hlast
    next hnull =>
      split at hlast
      next => cases hlast
      next =>
        obtain ⟨hdirectory, hshort, rfl⟩ :=
          FileTree.walk_last hdot hdots (mapError_eq_ok_iff.mp hlast)
        split at hfind
        next found hfound =>
          obtain rfl := Except.ok.inj hfind
          exact ⟨⟨hempty, hdot, hdots, hshort, hnull⟩, hdirectory, hfound⟩
        next => cases hfind

/-- What is held is found without following it. -/
theorem findLast_of_holds (h : host.Stands p place) (hsited : host.Sited) {entry : FileEntry}
    (hholds : host.files.Holds place name entry) :
    host.findLast (p.child name) = .ok entry
      ∨ (p.child name).IsOverlong
        ∧ host.findLast (p.child name) = .error (.refused .nameTooLong (p.child name)) := by
  unfold findLast find
  rw [h.locate_child hsited, if_neg hholds.step.noNull, hholds.walk_last]
  by_cases hlong : (p.child name).IsOverlong
  · rw [if_pos hlong]
    exact .inr ⟨hlong, rfl⟩
  · rw [if_neg hlong]
    simp only [Except.mapError, hholds.entry]
    exact .inl trivial

/-- A link begins at the root or at the place it is in. -/
theorem linkStart (h : host.Stands p place) (target : String) :
    host.Stands (if target.startsWith "/" then .top else p) (FileTree.linkStart place target) := by
  unfold FileTree.linkStart
  split
  · exact .top host
  · exact h

end Stands

end Host

end BusContract
