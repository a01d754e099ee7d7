import BusContract.Files.Canonical

/-!
# Names in the root

What a path of a single name leads to can be read off the tree: to nothing if there is none of that
name, and to what there is otherwise, unless that is a link. A link to itself is followed until there
have been too many; the canonical form is not had either, for it is met while it is being followed.
-/

namespace BusContract

/-- A name that a walk steps to, rather than stays where it is or goes back. -/
structure IsStep (name : String) : Prop where
  nonempty : name ≠ ""
  notDot : name ≠ "."
  notDots : name ≠ ".."
  short : name.utf8ByteSize ≤ longestName
  noNull : '\x00' ∉ name.toList

/-- A name that something in a directory can have. -/
structure IsProperName (name : String) : Prop where
  nonempty : name ≠ ""
  notDot : name ≠ "."
  notDots : name ≠ ".."
  short : name.utf8ByteSize ≤ longestName
  noNull : '\x00' ∉ name.toList
  noSlash : '/' ∉ name.toList

instance (name : String) : Decidable (IsProperName name) :=
  decidable_of_iff (name ≠ "" ∧ name ≠ "." ∧ name ≠ ".." ∧ name.utf8ByteSize ≤ longestName
      ∧ '\x00' ∉ name.toList ∧ '/' ∉ name.toList)
    ⟨fun ⟨h1, h2, h3, h4, h5, h6⟩ => ⟨h1, h2, h3, h4, h5, h6⟩,
      fun ⟨h1, h2, h3, h4, h5, h6⟩ => ⟨h1, h2, h3, h4, h5, h6⟩⟩

/-- A proper name is a step down. -/
theorem IsProperName.isStep {name : String} (h : IsProperName name) : IsStep name :=
  ⟨h.nonempty, h.notDot, h.notDots, h.short, h.noNull⟩

/-- The path of a name in the root. -/
def FilePath.ofName (name : String) : FilePath := ⟨"/", [name]⟩

theorem FilePath.text_ofName (name : String) : (FilePath.ofName name).text = "/" ++ name := by
  simp [FilePath.ofName, FilePath.text]

/-! ## Long names -/

/-- A name of `n` letters. -/
def letters : Nat → String
  | 0 => ""
  | n + 1 => (letters n).push 'a'

theorem utf8ByteSize_letters (n : Nat) : (letters n).utf8ByteSize = n := by
  induction n with
  | zero => rfl
  | succ n ih =>
    have ha : 'a'.utf8Size = 1 := by decide
    rw [letters, String.utf8ByteSize_push, ih, ha]

theorem slash_not_mem_letters (n : Nat) : '/' ∉ (letters n).toList := by
  induction n with
  | zero => simp [letters]
  | succ n ih => simp [letters, ih]

/-! ## Links -/

/-- A text without slashes is a single part. -/
theorem slashParts_of_not_mem {text : String} (h : '/' ∉ text.toList) :
    slashParts text = [text] := by
  have hsplit (cs : List Char) (hcs : '/' ∉ cs) : splitSlashes cs = [cs] := by
    induction cs with
    | nil => rfl
    | cons c cs ih =>
      obtain ⟨hc, hrest⟩ := not_or.mp (mt List.mem_cons.mpr hcs)
      rw [splitSlashes, if_neg (Ne.symm hc), ih hrest]
  simp [slashParts, hsplit _ h]

theorem endsWith_slash_of_not_mem {text : String} (h : '/' ∉ text.toList) :
    text.endsWith "/" = false := by
  rw [String.endsWith_eq_endsWith_toSlice, String.Slice.endsWith_string_eq_false_iff]
  intro hsuffix
  have hmem : '/' ∈ text.toSlice.copy.toList := hsuffix.subset (by decide)
  rw [String.copy_toSlice] at hmem
  exact h hmem

/-- A link to a name is followed in a single step. -/
theorem linkSteps_of_not_mem {text : String} (h : '/' ∉ text.toList) (hnonempty : text ≠ "") :
    linkSteps text = [text] := by
  have hsteps : (slashParts text).filter (· != "") = [text] := by
    simp [slashParts_of_not_mem h, hnonempty]
  rw [linkSteps, hsteps, endsWith_slash_of_not_mem h, if_neg Bool.false_ne_true]

/-! ## Walking -/

namespace FileTree

variable {tree : FileTree} {place : Place} {name : String} {rest : List String} {follow : Bool}
  {links : Nat}

/-- A step to a name goes to what there is of that name. -/
theorem walk_cons (hdirectory : tree.entry? place = some .directory) (hname : IsStep name) :
    tree.walk follow links place (name :: rest) =
      match tree.entry? (place ++ [name]) with
      | none => .error .missing
      | some (.link target) =>
        if rest.isEmpty && !follow then .ok (place ++ [name])
        else
          match links with
          | 0 => .error .tooManyLinks
          | links + 1 =>
            tree.walk follow links (if target.startsWith "/" then [] else place)
              (linkSteps target ++ rest)
      | some _ => tree.walk follow links (place ++ [name]) rest := by
  have hshort : ¬ longestName < name.utf8ByteSize := Nat.not_lt.mpr hname.short
  have hnot := hname.notDot
  have hnots := hname.notDots
  cases hentry : tree.entry? (place ++ [name]) with
  | none => simp [walk, hdirectory, hnot, hnots, hshort, hentry]
  | some entry =>
    cases entry with
    -- only a link asks how many links are left
    | link target => cases links <;> simp [walk, hdirectory, hnot, hnots, hshort, hentry]
    | _ => simp [walk, hdirectory, hnot, hnots, hshort, hentry]

/-- No step goes to a name that is too long. -/
theorem walk_cons_of_long (hdirectory : tree.entry? place = some .directory)
    (hlong : longestName < name.utf8ByteSize) :
    tree.walk follow links place (name :: rest) = .error .nameTooLong := by
  have hproper (short : String) (hshort : short.utf8ByteSize ≤ longestName) : name ≠ short := by
    rintro rfl
    omega
  rw [walk, if_neg (by simp [hdirectory]), if_neg (hproper "." (by decide)),
    if_neg (hproper ".." (by decide)), if_pos hlong]

/-- Induction on the links that are left. -/
theorem walk_of_loop (hname : IsProperName name) (hlink : tree.entry? [name] = some (.link name))
    (links : Nat) : tree.walk true links [] [name] = .error .tooManyLinks := by
  have htarget := linkSteps_of_not_mem hname.noSlash hname.nonempty
  induction links with
  | zero =>
    rw [walk_cons rfl hname.isStep, List.nil_append, hlink]
    rfl
  | succ links ih =>
    rw [walk_cons rfl hname.isStep, List.nil_append, hlink]
    simp only [Bool.not_true, Bool.and_false, Bool.false_eq_true, if_false, ite_self, htarget,
      List.append_nil, ih]

/-- A link to a name that is too long leads nowhere. -/
theorem walk_of_long {target : String} (hname : IsProperName name)
    (hlink : tree.entry? [name] = some (.link target)) (hslash : '/' ∉ target.toList)
    (hlong : longestName < target.utf8ByteSize) :
    tree.walk true (links + 1) [] [name] = .error .nameTooLong := by
  have hnonempty : target ≠ "" := by
    rintro rfl
    simp [longestName] at hlong
  have hsteps := linkSteps_of_not_mem hslash hnonempty
  rw [walk_cons rfl hname.isStep, List.nil_append, hlink]
  simp only [Bool.not_true, Bool.and_false, Bool.false_eq_true, if_false, ite_self, hsteps,
    List.append_nil]
  exact walk_cons_of_long rfl hlong

end FileTree

/-! ## Looking -/

namespace Host

variable {host : Host} {name : String}

/-- A path of one name is one step from the root. -/
theorem locate_ofName (host : Host) (follow : Bool) (h : IsProperName name) :
    host.locate follow (.ofName name) =
      (host.files.walk follow mostLinks [] [name]).mapError fun flaw =>
        .refused flaw (.ofName name) := by
  have hnull : ¬ (FilePath.ofName name).text.toList.contains '\x00' := by
    simp [FilePath.text_ofName, h.noNull]
  have hshort : ¬ (FilePath.ofName name).text.utf8ByteSize > longestPath := by
    have hname := h.short
    have hslash : "/".utf8ByteSize = 1 := by decide
    simp only [FilePath.text_ofName, String.utf8ByteSize_append, longestName, longestPath] at hname ⊢
    omega
  rw [locate, if_neg hnull, if_neg hshort]
  rfl

/-- A step that fails finds nothing. -/
theorem find_ofName_of_error {flaw : FileFlaw} {follow : Bool} (hname : IsProperName name)
    (h : host.files.walk follow mostLinks [] [name] = .error flaw) :
    host.find follow (.ofName name) = .error (.refused flaw (.ofName name)) := by
  rw [find, locate_ofName host follow hname, h]
  rfl

/-- What is not there is missing. -/
theorem find_ofName_of_none {follow : Bool} (hname : IsProperName name)
    (h : host.files.entry? [name] = none) :
    host.find follow (.ofName name) = .error (.refused .missing (.ofName name)) := by
  refine find_ofName_of_error hname ?_
  rw [FileTree.walk_cons rfl hname.isStep, List.nil_append, h]

/-- Nothing but a link that is followed leads away from a name. -/
theorem locate_ofName_of_some {follow : Bool} {entry : FileEntry} (hname : IsProperName name)
    (h : host.files.entry? [name] = some entry)
    (hstays : follow = false ∨ ∀ target, entry ≠ .link target) :
    host.locate follow (.ofName name) = .ok [name] := by
  have hwalk : host.files.walk follow mostLinks [] [name] = .ok [name] := by
    rw [FileTree.walk_cons rfl hname.isStep, List.nil_append, h]
    cases entry with
    | link target =>
      have hfollow : follow = false := hstays.resolve_right fun hno => hno target rfl
      simp [hfollow]
    | _ => simp [FileTree.walk]
  rw [locate_ofName host follow hname, hwalk]
  rfl

/-- What is there is found, if it is no link that is followed. -/
theorem find_ofName_of_some {follow : Bool} {entry : FileEntry} (hname : IsProperName name)
    (h : host.files.entry? [name] = some entry)
    (hstays : follow = false ∨ ∀ target, entry ≠ .link target) :
    host.find follow (.ofName name) = .ok entry := by
  rw [find, locate_ofName_of_some hname h hstays]
  simp only [h]

/-- A link to a name leads to what there is of that name. -/
theorem find_ofName_of_link {target : String} {entry : FileEntry} (hname : IsProperName name)
    (hlink : host.files.entry? [name] = some (.link target)) (htarget : IsProperName target)
    (h : host.files.entry? [target] = some entry) (hno : ∀ target, entry ≠ .link target) :
    host.find true (.ofName name) = .ok entry := by
  have hsteps := linkSteps_of_not_mem htarget.noSlash htarget.nonempty
  have hwalk : host.files.walk true mostLinks [] [name] = .ok [target] := by
    rw [FileTree.walk_cons rfl hname.isStep, List.nil_append, hlink]
    simp only [Bool.not_true, Bool.and_false, Bool.false_eq_true, if_false, ite_self, hsteps,
      List.append_nil, mostLinks]
    rw [FileTree.walk_cons rfl htarget.isStep, List.nil_append, h]
    cases entry with
    | link target => exact absurd rfl (hno target)
    | _ => simp [FileTree.walk]
  have hlocate : host.locate true (.ofName name) = .ok [target] := by
    rw [locate_ofName host true hname, hwalk]
    rfl
  rw [find, hlocate]
  simp only [h]

/-- Nothing is there. -/
theorem isPresent_ofName_of_none (hname : IsProperName name)
    (h : host.files.entry? [name] = none) : host.isPresent (.ofName name) = .ok false := by
  rw [isPresent, test, find_ofName_of_none hname h]

/-- A file has its bytes. -/
theorem readBytes_ofName {bytes : List UInt8} (hname : IsProperName name)
    (h : host.files.entry? [name] = some (.file bytes)) : host.readBytes (.ofName name) = .ok bytes := by
  rw [readBytes, find_ofName_of_some hname h (.inr (by simp))]

/-- What is no link is there. -/
theorem isPresent_ofName_of_some {entry : FileEntry} (hname : IsProperName name)
    (h : host.files.entry? [name] = some entry) (hno : ∀ target, entry ≠ .link target) :
    host.isPresent (.ofName name) = .ok true := by
  rw [isPresent, test, find_ofName_of_some hname h (.inr hno)]

/-- A link that leads back to itself counts as nothing. -/
theorem isPresent_ofName_of_loop (hname : IsProperName name)
    (hlink : host.files.entry? [name] = some (.link name)) :
    host.isPresent (.ofName name) = .ok false := by
  rw [isPresent, test, find_ofName_of_error hname (FileTree.walk_of_loop hname hlink _)]

/-- Of a link to a name that is too long it cannot be told. -/
theorem isPresent_ofName_of_long {target : String} (hname : IsProperName name)
    (hlink : host.files.entry? [name] = some (.link target)) (hslash : '/' ∉ target.toList)
    (hlong : longestName < target.utf8ByteSize) :
    host.isPresent (.ofName name) = .error (.refused .nameTooLong (.ofName name)) := by
  have hwalk : host.files.walk true mostLinks [] [name] = .error .nameTooLong :=
    FileTree.walk_of_long hname hlink hslash hlong
  rw [isPresent, test, find_ofName_of_error hname hwalk]

/-! ## Canonical forms -/

section Steps

variable {links : Nat} {within : List FilePath} {p : FilePath} {rest : List String}
  (hname : IsStep name)

include hname

/-- What is no link is entered. -/
theorem canonicalFrom_cons_of_some {entry : FileEntry} (h : host.findLast (p.child name) = .ok entry)
    (hno : ∀ target, entry ≠ .link target) :
    host.canonicalFrom links within p (name :: rest)
      = host.canonicalFrom links within (p.child name) rest := by
  cases entry with
  | link target => exact absurd rfl (hno target)
  | _ => simp [canonicalFrom, hname.nonempty, hname.notDot, hname.notDots, h]

/-- A link that is being followed already is not followed again. -/
theorem canonicalFrom_cons_of_met {target : String}
    (h : host.findLast (p.child name) = .ok (.link target)) (hmet : p.child name ∈ within) :
    host.canonicalFrom links within p (name :: rest) = .error (host.loopFault (p.child name)) := by
  cases links <;>
    simp [canonicalFrom, hname.nonempty, hname.notDot, hname.notDots, h, hmet]

/-- The fault of what a link leads to is that of the link. -/
theorem canonicalFrom_cons_of_error {target : String} {fault : FileFault}
    (h : host.findLast (p.child name) = .ok (.link target)) (hnew : p.child name ∉ within)
    (hfault : host.canonicalFrom links (p.child name :: within)
      (if target.startsWith "/" then .top else p) (slashParts target) = .error fault) :
    host.canonicalFrom (links + 1) within p (name :: rest) = .error fault := by
  have hnew' : within.contains (p.child name) = false := by simpa using hnew
  rw [canonicalFrom]
  simp only [hname.nonempty, hname.notDot, hname.notDots, or_self, if_false, h, hnew',
    Bool.false_eq_true, hfault]

/-- A link is left by where it leads. -/
theorem canonicalFrom_cons_of_link {target : String} {via : FilePath}
    (h : host.findLast (p.child name) = .ok (.link target)) (hnew : p.child name ∉ within)
    (hvia : host.canonicalFrom links (p.child name :: within)
      (if target.startsWith "/" then .top else p) (slashParts target) = .ok via) :
    host.canonicalFrom (links + 1) within p (name :: rest)
      = host.canonicalFrom (links + 1) within via rest := by
  have hnew' : within.contains (p.child name) = false := by simpa using hnew
  rw [canonicalFrom]
  simp only [hname.nonempty, hname.notDot, hname.notDots, or_self, if_false, h, hnew',
    Bool.false_eq_true, hvia]

/-- A name that is not found is not passed by. -/
theorem canonicalFrom_cons_of_missing {fault : FileFault}
    (h : host.findLast (p.child name) = .error fault) :
    host.canonicalFrom links within p (name :: rest) = .error fault := by
  rw [canonicalFrom]
  simp only [hname.nonempty, hname.notDot, hname.notDots, or_self, if_false, h]

end Steps

/-- The name of what is no link stays what it is. -/
theorem canonical_ofName_of_some {entry : FileEntry} (hname : IsProperName name)
    (h : host.files.entry? [name] = some entry) (hno : ∀ target, entry ≠ .link target) :
    host.canonical (.ofName name) = .ok (.ofName name) := by
  have hfind : host.findLast (FilePath.top.child name) = .ok entry :=
    find_ofName_of_some hname h (.inl rfl)
  have hwalk : host.canonicalFrom host.linkRoom [] .top [name]
      = .ok (FilePath.top.child name) := by
    rw [canonicalFrom_cons_of_some hname.isStep hfind hno, canonicalFrom]
  have habsolute : (FilePath.ofName name).isAbsolute = true := rfl
  have hchild : FilePath.top.child name = .ofName name := rfl
  rw [canonical, if_pos habsolute, show (FilePath.ofName name).parts = [name] from rfl, hwalk, hchild]
  simp [habsolute]

/-- The link is met again when its text is walked. -/
theorem canonical_ofName_of_loop (hname : IsProperName name)
    (hlink : host.files.entry? [name] = some (.link name)) :
    host.canonical (.ofName name) = .error (.refused .tooManyLinks (.ofName name)) := by
  have hfind : host.findLast (FilePath.top.child name) = .ok (.link name) :=
    find_ofName_of_some hname hlink (.inl rfl)
  -- for the system following it never ends
  have hfault : host.loopFault (FilePath.top.child name)
      = .refused .tooManyLinks (FilePath.top.child name) := by
    have hloop := find_ofName_of_error hname (FileTree.walk_of_loop hname hlink mostLinks)
    rw [loopFault, show FilePath.top.child name = .ofName name from rfl, hloop]
  -- inside the link the walk comes to its own name, which is being followed by then
  have hagain : host.canonicalFrom (2 * host.files.linkCount) [FilePath.top.child name]
      (if name.startsWith "/" then .top else .top) (slashParts name)
        = .error (.refused .tooManyLinks (FilePath.top.child name)) := by
    rw [ite_self, slashParts_of_not_mem hname.noSlash, ← hfault]
    exact canonicalFrom_cons_of_met hname.isStep hfind List.mem_cons_self
  have hwalk : host.canonicalFrom host.linkRoom [] .top [name]
      = .error (.refused .tooManyLinks (FilePath.top.child name)) :=
    canonicalFrom_cons_of_error hname.isStep hfind List.not_mem_nil hagain
  have habsolute : (FilePath.ofName name).isAbsolute = true := rfl
  have hchild : FilePath.top.child name = .ofName name := rfl
  simp only [canonical, habsolute, if_true]
  rw [show (FilePath.ofName name).parts = [name] from rfl, hwalk, hchild]

end Host

end BusContract
