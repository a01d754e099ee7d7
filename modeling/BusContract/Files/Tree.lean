import BusContract.Files.Path

/-!
# File trees

A file tree says for every place what there is. A place is the list of names that leads to it from
the root, without links, dots or double dots. The root is always a directory.
-/

namespace BusContract

/-- The names that lead from the root to a place. -/
abbrev Place := List String

/-- What there is at a place. -/
inductive FileEntry where
  | directory
  | file (bytes : List UInt8)
  /-- A symbolic link with the text it holds. -/
  | link (target : String)
  deriving Repr, DecidableEq, Inhabited

/-- The entries of a tree below the root, in the order in which they came to be. -/
structure FileTree where
  entries : List (Place × FileEntry)
  deriving Inhabited

namespace FileTree

/-- The tree of nothing but the root. -/
def empty : FileTree := ⟨[]⟩

/-- What there is at a place. -/
def entry? (tree : FileTree) (place : Place) : Option FileEntry :=
  if place.isEmpty then some .directory else tree.entries.lookup place

/-- The entries in a directory, each with its name. -/
def listing (tree : FileTree) (place : Place) : List (String × FileEntry) :=
  tree.entries.filterMap fun (p, entry) =>
    match p.getLast? with
    | some name => if p.dropLast = place then some (name, entry) else none
    | none => none

/-- The number of links. -/
def linkCount (tree : FileTree) : Nat :=
  (tree.entries.filter fun (_, entry) => entry matches .link _).length

/-- The tree without the place and all that is below it. -/
def remove (tree : FileTree) (place : Place) : FileTree :=
  ⟨tree.entries.filter fun (p, _) => !place.isPrefixOf p⟩

/-- The tree with an entry put at a place, in the stead of what was there. -/
def put (tree : FileTree) (place : Place) (entry : FileEntry) : FileTree :=
  if place.isEmpty then tree else ⟨(tree.remove place).entries ++ [(place, entry)]⟩

/-- The tree with a directory at the place, where there is none yet. -/
def putDirectory (tree : FileTree) (place : Place) : FileTree :=
  if tree.entry? place = some .directory then tree else tree.put place .directory

end FileTree

end BusContract
