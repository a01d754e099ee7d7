import BusContract.Proofs.Files.CanonicalWalks
import BusContract.Workspace.Documents

/-!
# Paths from the working directory

A path that does not begin at the root means the same as the path from the root that goes by the
working directory: what it leads to is the same, and so is its canonical form. The one exception is
the length, since no more than a number of bytes may be in a path, and the working directory is not
counted in the one that leaves it out.
-/

namespace BusContract

namespace FilePath

/-- Seen from one directory after the other. -/
theorem join_assoc {p q : FilePath} (hq : q.isAbsolute = false) (path : FilePath) :
    p.join (q.join path) = (p.join q).join path := by
  have hjoin : p.join q = ⟨p.root, p.parts ++ q.parts⟩ := by simp [join, hq]
  by_cases hpath : path.isAbsolute = true
  · simp [join, hpath]
  · have hrelative : (FilePath.mk q.root (q.parts ++ path.parts)).isAbsolute = false := hq
    rw [hjoin]
    simp [join, hpath, hrelative, List.append_assoc]

/-- What is joined to an absolute path is absolute. -/
theorem isAbsolute_join {p : FilePath} (habsolute : p.isAbsolute = true) (q : FilePath) :
    (p.join q).isAbsolute = true := by
  unfold join
  split
  · next h => exact h
  · exact habsolute

theorem join_of_isAbsolute (p : FilePath) {q : FilePath} (hq : q.isAbsolute = true) :
    p.join q = q := if_pos hq

end FilePath

/-- The fault, told of another path. -/
def FileFault.toldOf (p : FilePath) : FileFault → FileFault
  | refused flaw _ => refused flaw p
  | nullCharacter => nullCharacter

namespace Host

variable {host : Host} {p : FilePath}

/-! ## Looking -/

/-- A relative path is one from where one works. -/
theorem here_join (host : Host) (hp : p.isAbsolute = false) :
    host.here.join p = ⟨"/", host.workingDirectory ++ p.parts⟩ := by
  simp [FilePath.join, hp, here]

/-- The directory one works in has no null character. -/
theorem null_mem_text_here_join (hsited : host.Sited) (hp : p.isAbsolute = false) :
    '\x00' ∈ (host.here.join p).text.toList ↔ '\x00' ∈ p.text.toList := by
  have hroot : p.root = "" := by simpa [FilePath.isAbsolute] using hp
  have habove : ∀ name ∈ host.workingDirectory, '\x00' ∉ name.toList := fun name hname =>
    (hsited.straight.isStep name hname).noNull
  have hslash : '\x00' ∉ (FilePath.mk "/" (host.workingDirectory ++ p.parts)).root.toList :=
    show '\x00' ∉ "/".toList by decide
  rw [host.here_join hp, FilePath.null_mem_text hslash, FilePath.null_mem_text (by rw [hroot]; decide)]
  constructor
  · rintro ⟨name, hname, hnull⟩
    rcases List.mem_append.mp hname with hname | hname
    · exact absurd hnull (habove name hname)
    · exact ⟨name, hname, hnull⟩
  · rintro ⟨name, hname, hnull⟩
    exact ⟨name, List.mem_append_right _ hname, hnull⟩

/-- What a path leads to does not depend on whether the working directory is said, unless that makes
one of the two too long. -/
theorem find_here_join (hsited : host.Sited) (hp : p.isAbsolute = false) (follow : Bool) :
    (p.IsOverlong ∧ host.find follow p = .error (.refused .nameTooLong p))
      ∨ ((host.here.join p).IsOverlong
        ∧ host.find follow (host.here.join p) = .error (.refused .nameTooLong (host.here.join p)))
      ∨ host.find follow (host.here.join p)
          = (host.find follow p).mapError (.toldOf (host.here.join p)) := by
  have hnull := null_mem_text_here_join hsited hp
  have habsolute : (host.here.join p).isAbsolute = true := by rw [host.here_join hp]; rfl
  have hwalk : host.files.walk follow mostLinks [] (host.here.join p).parts
      = host.files.walk follow mostLinks host.workingDirectory p.parts := by
    rw [host.here_join hp]
    exact hsited.straight.walk_append p.parts
  -- the two walks are the same, so only the tests on the text of the path can differ
  unfold find locate
  simp only [List.contains_iff_mem, hnull, habsolute, hp, if_true, Bool.false_eq_true, if_false, hwalk]
  by_cases hcontains : '\x00' ∈ p.text.toList
  · simp only [if_pos hcontains]
    exact .inr (.inr rfl)
  · simp only [if_neg hcontains]
    by_cases hshort : longestPath < p.text.utf8ByteSize
    · exact .inl ⟨hshort, by rw [if_pos hshort]⟩
    by_cases hlong : longestPath < (host.here.join p).text.utf8ByteSize
    · exact .inr (.inl ⟨hlong, by rw [if_pos hlong]⟩)
    simp only [gt_iff_lt, if_neg hshort, if_neg hlong]
    refine .inr (.inr ?_)
    cases host.files.walk follow mostLinks host.workingDirectory p.parts with
    | error flaw => rfl
    | ok place =>
      simp only [Except.mapError]
      cases host.files.entry? place <;> rfl

/-- Is there anything where the path leads? -/
theorem isPresent_here_join (hsited : host.Sited) (p : FilePath) :
    AgreeUnless FileFault.IsOverlong (host.isPresent p) (host.isPresent (host.here.join p)) := by
  by_cases hp : p.isAbsolute = true
  · rw [FilePath.join_of_isAbsolute host.here hp]
    exact .refl _
  · unfold isPresent test
    rcases find_here_join hsited (Bool.eq_false_iff.mpr hp) true with
      ⟨hlong, hfind⟩ | ⟨hlong, hfind⟩ | hfind
    · rw [hfind]
      exact .inl ⟨_, rfl, p, hlong, rfl⟩
    · rw [hfind]
      exact .inr (.inl ⟨_, rfl, _, hlong, rfl⟩)
    · rw [hfind]
      refine .inr (.inr ?_)
      rcases host.find true p with (⟨flaw, refused⟩ | _) | entry
      · cases flaw <;> rfl
      · rfl
      · rfl

/-! ## Canonical forms -/

/-- The place that a path stands for, from the root. -/
theorem Stands.from_root (hsited : host.Sited) {place : Place} (h : host.Stands p place) :
    (if p.isAbsolute then p else ⟨"/", FilePath.cancelDots (host.workingDirectory ++ p.parts)⟩)
      = ⟨"/", place⟩ := by
  have hplace := h.placeOf_eq hsited
  cases h with
  | absolute => rfl
  | relative => exact congrArg (FilePath.mk "/") hplace

/-- The walk of a canonical form begins at a path that goes through no link. -/
theorem stands_start (hsited : host.Sited) (p : FilePath) :
    host.Stands (if p.isAbsolute then .top else ⟨"", []⟩) (host.startOf p) := by
  unfold startOf
  split
  · exact .top host
  · exact .here hsited

/-- The canonical form of a path that exists gives the place that its names lead to. -/
theorem leads_of_canonical (hsited : host.Sited) {q : FilePath} (h : host.canonical p = .ok q) :
    ∃ n place, host.files.Leads n (host.startOf p) p.parts place ∧ q = ⟨"/", place⟩ := by
  unfold canonical at h
  dsimp only at h
  split at h
  next => cases h
  next found hfound =>
    obtain ⟨n, place, hleads, hstands⟩ :=
      leads_of_canonicalFrom hsited (stands_start hsited p) hfound
    refine ⟨n, place, hleads, ?_⟩
    rw [← hstands.from_root hsited]
    split at h
    next habsolute => rw [if_pos habsolute, Except.ok.inj h]
    next habsolute => rw [if_neg habsolute, Except.ok.inj h]

/-- A path whose names lead to a place is followed to it, unless it gets too long. -/
theorem canonical_of_leads (hsited : host.Sited) {n : Nat} {place : Place}
    (h : host.files.Leads n (host.startOf p) p.parts place) :
    host.canonical p = .ok ⟨"/", place⟩
      ∨ ∃ fault, host.canonical p = .error fault ∧ fault.IsOverlong := by
  unfold canonical
  dsimp only
  rcases canonicalFrom_of_leads hsited h (stands_start hsited p) (.nil host n) with
    ⟨found, hfound, hstands⟩ | ⟨fault, hfault, hlong⟩
  · rw [hfound, ← hstands.from_root hsited]
    left
    dsimp only
    split <;> rfl
  · rw [hfault]
    exact .inr ⟨fault, rfl, hlong⟩

/-- The canonical form does not depend on whether the working directory is said. -/
theorem canonical_here_join (hsited : host.Sited) (p : FilePath) :
    AgreeUnless FileFault.IsOverlong (host.canonical p) (host.canonical (host.here.join p)) := by
  by_cases hp : p.isAbsolute = true
  · rw [FilePath.join_of_isAbsolute host.here hp]
    exact .refl _
  -- both lead to the same place, if anywhere
  have hleads (place : Place) : (∃ n, host.files.Leads n (host.startOf p) p.parts place)
      ↔ ∃ n, host.files.Leads n (host.startOf (host.here.join p)) (host.here.join p).parts place := by
    rw [host.here_join (Bool.eq_false_iff.mpr hp), startOf, if_neg hp]
    exact (FileTree.Leads.append_iff hsited.straight).symm
  cases hcanonical : host.canonical p with
  | ok q =>
    obtain ⟨n, place, h, rfl⟩ := leads_of_canonical hsited hcanonical
    obtain ⟨n', h'⟩ := (hleads place).mp ⟨n, h⟩
    rcases canonical_of_leads hsited h' with hsame | hlong
    · rw [hsame]
      exact .refl _
    · exact .inr (.inl hlong)
  | error fault =>
    cases hrooted : host.canonical (host.here.join p) with
    | error fault' => exact .inr (.inr rfl)
    | ok q =>
      obtain ⟨n, place, h, rfl⟩ := leads_of_canonical hsited hrooted
      obtain ⟨n', h'⟩ := (hleads place).mpr ⟨n, h⟩
      rcases canonical_of_leads hsited h' with hsame | hlong
      · exact absurd (hcanonical.symm.trans hsame) nofun
      · rw [← hcanonical]
        exact .inl hlong

end Host

end BusContract
