import BusContract.Files.Host
import BusContract.Files.WidePath

/-!
# Canonical paths

The canonical form of a path begins at the root and goes through no link. It is found by walking the
names from the left: a link is replaced by what it leads to, and double dots take back one name of
what was found so far, whatever that is. Every name on the way has to exist.

A link that is met while it is being followed itself leads nowhere, and it is for the system to say
why: either following it never ends, or something on the way that double dots take back here cannot
be passed there. As long as that does not happen the links that are being followed are all different,
so their number bounds the walk. From a relative path a link may be met under two paths before one of them
is met again. Where the texts of links lead above the root each time round, such paths go on for ever. How
far depends on how many calls may be in each other and is left out: here it counts as meeting a link again.

A path that is said may hold halves of surrogate pairs. Where they spell a name byte by byte the path is
taken for the one with that name.
-/

namespace BusContract

namespace Host

/-- What the last name of a path is, a link not being followed. -/
def findLast (host : Host) (p : FilePath) : Except FileFault FileEntry := host.find false p

/-- What is wrong with a link that is met while it is being followed. -/
def loopFault (host : Host) (p : FilePath) : FileFault :=
  match host.find true p with
  | .error fault => fault
  | .ok _ => .refused .tooManyLinks p

/-- Walks names from a path that goes through no link. The links in `within` are being followed, and
`links` more can be. -/
def canonicalFrom (host : Host) :
    (links : Nat) → (within : List FilePath) → FilePath → List String → Except FileFault FilePath
  | _, _, p, [] => .ok p
  | links, within, p, name :: rest =>
    if name = "" ∨ name = "." then host.canonicalFrom links within p rest
    else if name = ".." then host.canonicalFrom links within p.parent rest
    else
      match host.findLast (p.child name) with
      | .error fault => .error fault
      | .ok (.link target) =>
        match links with
        | 0 => .error (host.loopFault (p.child name))
        | links + 1 =>
          if within.contains (p.child name) then .error (host.loopFault (p.child name))
          else
            let start := if target.startsWith "/" then .top else p
            match host.canonicalFrom links (p.child name :: within) start (slashParts target) with
            | .error fault => .error fault
            | .ok q => host.canonicalFrom (links + 1) within q rest
      | .ok _ => host.canonicalFrom links within (p.child name) rest
termination_by links _ _ names => (links, names.length)

/-- How many links can be followed inside each other, and one more. -/
def linkRoom (host : Host) : Nat := 2 * host.files.linkCount + 1

/-- The canonical form of a path that exists. A relative path is taken from the working
directory. -/
def canonical (host : Host) (p : FilePath) : Except FileFault FilePath :=
  let start := if p.isAbsolute then FilePath.top else ⟨"", []⟩
  match host.canonicalFrom host.linkRoom [] start p.parts with
  | .error fault => .error fault
  | .ok q =>
    if q.isAbsolute then .ok q
    else .ok ⟨"/", FilePath.cancelDots (host.workingDirectory ++ q.parts)⟩

end Host

/-! ## Paths that are said -/

/-- Why a path that is said cannot be used. -/
inductive PathFault where
  /-- The system refuses the path. -/
  | refused (flaw : FileFlaw) (path : WidePath)
  /-- The path holds a character that no path may hold. -/
  | nullCharacter
  /-- The path holds half of a surrogate pair that the system cannot be given. -/
  | unencodable (path : WidePath)
  deriving Repr, DecidableEq

/-- What is said about the fault. -/
def PathFault.message : PathFault → String
  | refused flaw path => s!"[Errno {flaw.number}] {flaw.reason}: {quotedWide path.text}"
  | nullCharacter => "embedded null byte"
  | unencodable path => path.text.complaint

/-- The fault as one of a path that is said. -/
def FileFault.said : FileFault → PathFault
  | refused flaw path => .refused flaw path
  | nullCharacter => .nullCharacter

namespace Host

/-- What is wrong with a name that no file has, since it cannot be spelled, below a path that goes
through no link. -/
def nameFault (host : Host) (p : FilePath) (name : WideText) : PathFault :=
  let path := p.wide.child name
  match name.bytes? with
  | none => .unencodable path
  | some bytes =>
    if name.points.contains (.char '\x00') then .nullCharacter
    else if (p.child "").text.utf8ByteSize + bytes.length > longestPath then
      .refused .nameTooLong path
    else
      match host.findLast p with
      | .error (.refused flaw _) => .refused flaw path
      | .error .nullCharacter => .nullCharacter
      | .ok .directory => .refused (if bytes.length > longestName then .nameTooLong else .missing) path
      | .ok _ => .refused .notDirectory path

/-- The canonical form of a path that is said. The names of files are texts of characters, so a name
that is no spelling of one leads nowhere, but those in front of it are walked before. -/
def canonicalSaid (host : Host) (p : WidePath) : Except PathFault FilePath :=
  match p.spelled? with
  | some q => (host.canonical q).mapError FileFault.said
  | none =>
    let start := if p.isAbsolute then FilePath.top else ⟨"", []⟩
    match host.canonicalFrom host.linkRoom [] start p.front with
    | .error fault => .error fault.said
    | .ok q => .error (host.nameFault q p.oddName)

end Host

end BusContract
