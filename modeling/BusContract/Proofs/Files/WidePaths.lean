import BusContract.Files.Canonical
import BusContract.Files.Selection
import BusContract.Proofs.Outcomes
import BusContract.Proofs.Text.Wide

/-!
# Paths that are said and paths that there are

A path of characters alone is spelled by itself. Whatever is said, it is seen from a path of characters as
what it spells is, and where it comes out at all it comes out where that does: a name that spells nothing
leads nowhere.
-/

namespace BusContract

namespace WidePath

variable {p q : WidePath} {path : FilePath}

/-! ## Paths seen from a path -/

@[simp]
theorem isAbsolute_wide (path : FilePath) : path.wide.isAbsolute = path.isAbsolute := rfl

/-- What is seen from a path that begins at the root stays where it is. -/
theorem join_join (habsolute : path.isAbsolute = true) (q : WidePath) :
    path.wide.join (path.wide.join q) = path.wide.join q := by
  have hjoin : (path.wide.join q).isAbsolute = true := by
    unfold join
    split
    · next h => exact h
    · exact habsolute
  rw [join, if_pos hjoin]

/-- An empty text names the directory one is in. -/
theorem join_ofText_empty (p : WidePath) : p.join (.ofText "") = p := by
  have hempty : ofText "" = ⟨"", []⟩ := by decide
  simp [hempty, join, isAbsolute]

/-- Paths of characters are joined as others are. -/
theorem wide_join (path other : FilePath) : (path.join other).wide = path.wide.join other.wide := by
  unfold FilePath.join join
  rw [isAbsolute_wide]
  split
  · rfl
  · simp [FilePath.wide]

/-- A name is joined as a path of one name. -/
theorem wide_child (path : FilePath) (name : String) :
    (path.child name).wide = path.wide.join ⟨"", [name]⟩ := by
  simp [FilePath.wide, FilePath.child, join, isAbsolute]

/-- A name in an absolute path is joined to it once. -/
theorem join_child (habsolute : path.isAbsolute = true) (name : String) :
    path.wide.join (path.child name) = path.wide.join ⟨"", [name]⟩ := by
  rw [wide_child, join_join habsolute]

/-! ## Spelling -/

/-- A path of characters is spelled as it is. -/
@[simp]
theorem spelled?_wide (path : FilePath) : path.wide.spelled? = some path := by
  simp [spelled?, FilePath.wide,
    mapM_eq_some_self (f := WideText.spelled? ∘ WideText.ofText) WideText.spelled?_ofText]

/-- A path is absolute if it is spelled as one. -/
theorem isAbsolute_of_spelled? (h : p.spelled? = some path) : path.isAbsolute = p.isAbsolute := by
  obtain ⟨names, -, rfl⟩ := Option.map_eq_some_iff.mp h
  rfl

/-- What is said is seen from a path as what it spells is. -/
theorem spelled?_join (path : FilePath) (q : WidePath) :
    (path.wide.join q).spelled? = q.spelled?.map path.join := by
  -- plain names are spelled as they are, so only the names behind can fail
  have hparts (names : List String) :
      (names.map WideText.ofText ++ q.parts).mapM WideText.spelled?
        = (q.parts.mapM WideText.spelled?).map (names ++ ·) := by
    induction names with
    | nil => simp
    | cons name names ih =>
      simp only [List.map_cons, List.cons_append, List.mapM_cons, WideText.spelled?_ofText, ih]
      cases q.parts.mapM WideText.spelled? <;> rfl
  by_cases habsolute : q.isAbsolute = true
  · rw [join, if_pos habsolute]
    cases hq : q.spelled? with
    | none => rfl
    | some spelled =>
      have hspelled := (isAbsolute_of_spelled? hq).trans habsolute
      rw [Option.map_some, FilePath.join, if_pos hspelled]
  · rw [join, if_neg habsolute]
    have hspelled (names : List String) : (FilePath.mk q.root names).isAbsolute = false :=
      Bool.eq_false_iff.mpr habsolute
    simp only [spelled?, FilePath.wide, hparts, Option.map_map]
    congr 1
    funext names
    simp [FilePath.join, hspelled]

end WidePath

/-! ## Canonical forms -/

namespace Host

variable {host : Host} {p : WidePath} {path canonical : FilePath}

/-- A path that is spelled leads where its spelling does. -/
theorem canonicalSaid_of_spelled? (h : p.spelled? = some path) :
    host.canonicalSaid p = (host.canonical path).mapError FileFault.said := by
  simp only [canonicalSaid, h]

/-- A path of characters leads where it does. -/
@[simp]
theorem canonicalSaid_wide (path : FilePath) :
    host.canonicalSaid path.wide = (host.canonical path).mapError FileFault.said :=
  canonicalSaid_of_spelled? (WidePath.spelled?_wide path)

/-- A path of characters is seen from another one and walked as ever. -/
theorem canonicalSaid_join_wide (path other : FilePath) :
    host.canonicalSaid (path.wide.join other) = (host.canonical (path.join other)).mapError FileFault.said := by
  rw [← WidePath.wide_join, canonicalSaid_wide]

/-- A name that spells nothing leads nowhere. -/
theorem canonicalSaid_of_not_spelled (host : Host) (h : p.spelled? = none) :
    ∃ fault, host.canonicalSaid p = .error fault := by
  simp only [canonicalSaid, h]
  split
  · exact ⟨_, rfl⟩
  · exact ⟨_, rfl⟩

/-- A path leads somewhere only if it is spelled, and if its spelling does. -/
theorem toOption_canonicalSaid :
    (host.canonicalSaid p).toOption = p.spelled?.bind fun path => (host.canonical path).toOption := by
  cases hspelled : p.spelled? with
  | none =>
    obtain ⟨fault, hfault⟩ := canonicalSaid_of_not_spelled host hspelled
    rw [hfault]
    rfl
  | some path => rw [canonicalSaid_of_spelled? hspelled, toOption_mapError, Option.bind_some]

/-- A path comes out where what it spells does. -/
theorem canonicalSaid_eq_ok_iff :
    host.canonicalSaid p = .ok canonical ↔
      ∃ path, p.spelled? = some path ∧ host.canonical path = .ok canonical := by
  rw [← toOption_eq_some_iff, toOption_canonicalSaid, Option.bind_eq_some_iff]
  simp only [toOption_eq_some_iff]

end Host

/-! ## Selections -/

/-- A pattern of characters is read as one. -/
@[simp]
theorem Selection.ofWide_ofText (text : String) : ofWide text = ofText text := by
  rw [ofWide, WideText.text?_ofText]

end BusContract
