import BusContract.Files.Tree
import BusContract.Text.Wide

/-!
# Finding files

A host is what a program finds around it: a file tree, a working directory and variables.
Following a path leads through links, at most forty of them, to a place in the tree. What can go
wrong on the way is told with the path that was to be followed.
-/

namespace BusContract

/-- Why a path leads nowhere. -/
inductive FileFlaw where
  | missing
  | notDirectory
  | isDirectory
  | nameTooLong
  | tooManyLinks
  deriving Repr, DecidableEq

/-- The number and the wording of a flaw. -/
def FileFlaw.number : FileFlaw → Nat
  | missing => 2
  | notDirectory => 20
  | isDirectory => 21
  | nameTooLong => 36
  | tooManyLinks => 40

/-- The wording of a flaw. -/
def FileFlaw.reason : FileFlaw → String
  | missing => "No such file or directory"
  | notDirectory => "Not a directory"
  | isDirectory => "Is a directory"
  | nameTooLong => "File name too long"
  | tooManyLinks => "Too many levels of symbolic links"

/-- Why a path cannot be used. -/
inductive FileFault where
  /-- The system refuses the path. -/
  | refused (flaw : FileFlaw) (path : FilePath)
  /-- The path holds a character that no path may hold. -/
  | nullCharacter
  deriving Repr, DecidableEq

/-- What is said about the fault. -/
def FileFault.message : FileFault → String
  | refused flaw path => s!"[Errno {flaw.number}] {flaw.reason}: {quoted path.text}"
  | nullCharacter => "embedded null byte"

/-- What a program finds around it. -/
structure Host where
  files : FileTree
  workingDirectory : Place
  environment : List (String × WideText)
  deriving Inhabited

/-! ## Following links -/

/-- The most bytes in one name. -/
def longestName : Nat := 255

/-- The most bytes in a path. -/
def longestPath : Nat := 4095

/-- The most links on one way. -/
def mostLinks : Nat := 40

/-- The steps that the text of a link stands for. A slash at the end is a step that stays in place
and needs a directory to do so. -/
def linkSteps (target : String) : List String :=
  let steps := (slashParts target).filter (· != "")
  if target.endsWith "/" then steps ++ ["."] else steps

/-- Follows steps from a place. A link at the last step is followed only if `follow` is set. -/
def FileTree.walk (tree : FileTree) (follow : Bool) :
    (links : Nat) → Place → List String → Except FileFlaw Place
  | _, place, [] => .ok place
  | links, place, step :: rest =>
    if tree.entry? place ≠ some .directory then .error .notDirectory
    else if step = "." then tree.walk follow links place rest
    else if step = ".." then tree.walk follow links place.dropLast rest
    else if step.utf8ByteSize > longestName then .error .nameTooLong
    else
      match tree.entry? (place ++ [step]) with
      | none => .error .missing
      | some (.link target) =>
        if rest.isEmpty && !follow then .ok (place ++ [step])
        else
          match links with
          | 0 => .error .tooManyLinks
          | links + 1 =>
            let start := if target.startsWith "/" then [] else place
            tree.walk follow links start (linkSteps target ++ rest)
      | some _ => tree.walk follow links (place ++ [step]) rest
termination_by links _ steps => (links, steps.length)

namespace Host

/-- The working directory as a path. -/
def here (host : Host) : FilePath := ⟨"/", host.workingDirectory⟩

/-- The place that a path leads to. -/
def locate (host : Host) (follow : Bool) (p : FilePath) : Except FileFault Place :=
  if p.text.toList.contains '\x00' then .error .nullCharacter
  else if p.text.utf8ByteSize > longestPath then .error (.refused .nameTooLong p)
  else
    let start := if p.isAbsolute then [] else host.workingDirectory
    (host.files.walk follow mostLinks start p.parts).mapError fun flaw => .refused flaw p

/-- What a path leads to. -/
def find (host : Host) (follow : Bool) (p : FilePath) : Except FileFault FileEntry :=
  match host.locate follow p with
  | .error fault => .error fault
  | .ok place =>
    match host.files.entry? place with
    | some entry => .ok entry
    | none => .error (.refused .missing p)

/-- Does what a path leads to pass the test? A path that leads nowhere passes no test, but a path or
name that is too long is not let pass as such. -/
def test (host : Host) (accept : FileEntry → Bool) (p : FilePath) : Except FileFault Bool :=
  match host.find true p with
  | .ok entry => .ok (accept entry)
  | .error (.refused .nameTooLong p) => .error (.refused .nameTooLong p)
  | .error _ => .ok false

/-- Does the path lead anywhere? -/
def isPresent (host : Host) (p : FilePath) : Except FileFault Bool := host.test (fun _ => true) p

/-- Does the path lead to a directory? -/
def isDirectory (host : Host) (p : FilePath) : Except FileFault Bool :=
  host.test (· matches .directory) p

/-- Does the path lead to a file? -/
def isFile (host : Host) (p : FilePath) : Except FileFault Bool :=
  host.test (· matches .file _) p

/-- The bytes of the file that a path leads to. -/
def readBytes (host : Host) (p : FilePath) : Except FileFault (List UInt8) :=
  match host.find true p with
  | .ok (.file bytes) => .ok bytes
  | .ok .directory => .error (.refused .isDirectory p)
  | .ok (.link _) => .error (.refused .tooManyLinks p)
  | .error fault => .error fault

end Host

end BusContract
