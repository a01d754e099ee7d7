/-!
# Paths

A path is a root, which may be empty, and names below it. Reading a path drops empty names and
single dots, so that a path has one written form; double dots stay, since what they mean depends
on links.
-/

namespace BusContract

/-- The parts of a text between slashes. There is one more of them than slashes. -/
def splitSlashes : List Char → List (List Char)
  | [] => [[]]
  | c :: rest =>
    if c = '/' then [] :: splitSlashes rest
    else
      match splitSlashes rest with
      | [] => [[c]]
      | part :: parts => (c :: part) :: parts

/-- The parts of a text between slashes, as texts. -/
def slashParts (text : String) : List String := (splitSlashes text.toList).map String.ofList

/-- A path to a file or directory. -/
structure FilePath where
  /-- The slashes in front: none, one, or two, which some systems tell from one. -/
  root : String
  parts : List String
  deriving Repr, DecidableEq, Inhabited

namespace FilePath

/-- The root that a text begins with. Three slashes or more are as good as one. -/
def rootOf (text : List Char) : String :=
  match (text.takeWhile (· == '/')).length with
  | 0 => ""
  | 2 => "//"
  | _ => "/"

/-- Names that count for something in a path. -/
def properNames (text : String) : List String :=
  (slashParts text).filter fun name => name != "" && name != "."

/-- Reads a path. -/
def ofText (text : String) : FilePath := ⟨rootOf text.toList, properNames text⟩

/-- The written form of a path. The path of no names is that of the directory one is in. -/
def text (p : FilePath) : String :=
  if p.root.isEmpty && p.parts.isEmpty then "." else p.root ++ "/".intercalate p.parts

/-- Does the path begin at the root? -/
def isAbsolute (p : FilePath) : Bool := !p.root.isEmpty

/-- The root of the file system. -/
def top : FilePath := ⟨"/", []⟩

/-- The path of a name below the path. -/
def child (p : FilePath) (name : String) : FilePath := ⟨p.root, p.parts ++ [name]⟩

/-- The path of a name as a listing of the directory at the path has it: the dot of the directory one
is in stays in front. -/
def listed (p : FilePath) (name : String) : FilePath :=
  if p.root.isEmpty && p.parts.isEmpty then ⟨"", [".", name]⟩ else p.child name

/-- The path `q` as seen from `p`. -/
def join (p q : FilePath) : FilePath := if q.isAbsolute then q else ⟨p.root, p.parts ++ q.parts⟩

/-- The last name, if there is one. -/
def name (p : FilePath) : String := p.parts.getLastD ""

/-- The path without its last name. Where there is no name left to drop, one more step upwards is
kept, except at the root. -/
def parent (p : FilePath) : FilePath :=
  match p.parts.getLast? with
  | none => if p.isAbsolute then p else ⟨p.root, [".."]⟩
  | some ".." => p.child ".."
  | some _ => ⟨p.root, p.parts.dropLast⟩

/-- Takes double dots with the names before them out of a path that begins at the root. -/
def cancelDots (parts : List String) : List String :=
  parts.foldl (fun kept name => if name = ".." then kept.dropLast else kept ++ [name]) []

end FilePath

end BusContract
