import BusContract.Files.Host
import BusContract.Files.Pattern
import BusContract.Files.WidePath

/-!
# Selecting files

A selection says which files below a directory are meant, name by name: a given name, the names that
fit a pattern, or any number of directories. Links are followed except on the way through any number
of directories.

A path is looked at only when the search comes to it, and the first look that the system refuses ends
the search.
-/

namespace BusContract

/-- One step of a selection. -/
inductive SelectionStep where
  | name (name : String)
  | fitting (pattern : NamePattern)
  /-- Any number of directories, none included. -/
  | anyDepth
  deriving Repr, DecidableEq

/-- Why a text is no selection. -/
inductive SelectionFault where
  | empty
  | absolute
  /-- Two stars in a row that are not a step of their own. -/
  | brokenDepth
  /-- Nothing but dots. -/
  | noSteps
  /-- Nothing but dots and a slash at the end. -/
  | onlyDirectory
  deriving Repr, DecidableEq

/-- What is said about the fault. -/
def SelectionFault.message : SelectionFault → String
  | empty => "Unacceptable pattern: ''"
  | absolute => "Non-relative patterns are unsupported"
  | brokenDepth => "Invalid pattern: '**' can only be an entire path component"
  | noSteps => "tuple index out of range"
  | onlyDirectory => "'_TerminatingSelector' object has no attribute 'select_from'"

/-- Steps, and whether only directories are wanted at the end. -/
structure Selection where
  steps : List SelectionStep
  onlyDirectories : Bool
  deriving Repr, DecidableEq

namespace Selection

/-- Are there two stars in a row? -/
def hasDoubleStar : List Char → Bool
  | '*' :: '*' :: _ => true
  | _ :: rest => hasDoubleStar rest
  | [] => false

/-- Reads a step. -/
def stepOfText (text : String) : Except SelectionFault SelectionStep :=
  if text = "**" then .ok .anyDepth
  else if hasDoubleStar text.toList then .error .brokenDepth
  else if NamePattern.isPattern text then .ok (.fitting (.ofText text))
  else .ok (.name text)

/-- Reads a selection. -/
def ofText (text : String) : Except SelectionFault Selection :=
  let p := FilePath.ofText text
  let onlyDirectories := text.endsWith "/"
  if text.isEmpty then .error .empty
  else if p.isAbsolute then .error .absolute
  else if p.parts.isEmpty then .error (if onlyDirectories then .onlyDirectory else .noSteps)
  else (p.parts.mapM stepOfText).map fun steps => ⟨steps, onlyDirectories⟩

/-- The step of the same kind for a name that may hold halves of surrogate pairs. -/
def stepFor (name : WideText) : SelectionStep → SelectionStep
  | .name _ => .name name.systemName
  | .fitting _ => .fitting (.ofWide name)
  | .anyDepth => .anyDepth

/-- Reads a selection from a text that may hold halves of surrogate pairs. They do not count for what is
a step and of what kind it is. -/
def ofWide (text : WideText) : Except SelectionFault Selection :=
  match text.text? with
  | some text => ofText text
  | none =>
    (ofText (String.ofList text.standIns)).map fun s =>
      { s with steps := List.zipWith stepFor (WidePath.properNames text) s.steps }

end Selection

namespace Host

/-- The entries of the directory that a path leads to. -/
def list (host : Host) (p : FilePath) : Except FileFault (List (String × FileEntry)) :=
  match host.locate true p with
  | .error fault => .error fault
  | .ok place =>
    if host.files.entry? place = some .directory then .ok (host.files.listing place)
    else .error (.refused .notDirectory p)

/-- Visits a path and the directories below it, each before those below it, and gathers what is found.
Links are not followed. At most `depth` levels are gone down. -/
def descend (host : Host) (visit : FilePath → Except FileFault (List FilePath)) :
    (depth : Nat) → FilePath → Except FileFault (List FilePath)
  | 0, p => visit p
  | depth + 1, p => do
    let found ← visit p
    let below ← (← host.list p).mapM fun (name, entry) =>
      match entry with
      | .directory => host.descend visit depth (p.child name)
      | _ => .ok []
    return found ++ below.flatten

/-- Can a selection go on below a path, or does it end there? -/
def isOpen (host : Host) (needsDirectory : Bool) (p : FilePath) : Except FileFault Bool :=
  if needsDirectory then host.isDirectory p else host.isPresent p

/-- Can a selection go on below an entry of the directory at a path, or does it end there? Only a link
has to be followed to see that. -/
def isOpenEntry (host : Host) (needsDirectory : Bool) (p : FilePath) (name : String) :
    FileEntry → Except FileFault Bool
  | .directory => .ok true
  | .file _ => .ok !needsDirectory
  | .link _ => if needsDirectory then host.isDirectory (p.listed name) else .ok true

/-- The files that the steps of a selection lead to from a path. Behind any number of directories each
is given once. -/
def follow (host : Host) (onlyDirectories : Bool) :
    List SelectionStep → FilePath → Except FileFault (List FilePath)
  | [], p => do return if ← host.isFile p then [p] else []
  | .name name :: rest, p => do
    if ← host.isOpen (onlyDirectories || !rest.isEmpty) (p.child name) then
      host.follow onlyDirectories rest (p.child name)
    else return []
  | .fitting pattern :: rest, p => do
    let found ← (← host.list p).mapM fun (name, entry) => do
      let isOpen ← host.isOpenEntry (onlyDirectories || !rest.isEmpty) p name entry
      if isOpen && pattern.fits name.toList then host.follow onlyDirectories rest (p.child name)
      else return []
    return found.flatten
  | .anyDepth :: rest, p => do
    let found ← host.descend (host.follow onlyDirectories rest) (host.files.entries.length + 1) p
    return found.eraseDups

/-- The files below a directory that a selection means. -/
def select (host : Host) (selection : Selection) (p : FilePath) :
    Except FileFault (List FilePath) := do
  if ← host.isDirectory p then host.follow selection.onlyDirectories selection.steps p
  else return []

end Host

end BusContract
