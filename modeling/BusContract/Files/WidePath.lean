import BusContract.Files.Path
import BusContract.Text.Wide

/-!
# Paths as they are said

A path that a user or a file says is a text, and may hold halves of surrogate pairs as any text may.
Those that the system gives are paths of characters.
-/

namespace BusContract

/-- A path of names that may hold halves of surrogate pairs. -/
structure WidePath where
  root : String
  parts : List WideText
  deriving Repr, DecidableEq, Inhabited

/-- A path as one that is said. -/
def FilePath.wide (p : FilePath) : WidePath := ⟨p.root, p.parts.map WideText.ofText⟩

instance : Coe FilePath WidePath := ⟨FilePath.wide⟩

namespace WidePath

/-- The parts of a text between slashes that count for something in a path. -/
def properNames (text : WideText) : List WideText :=
  ((text.points.splitOn (.char '/')).map WideText.mk).filter fun name => name != "" && name != "."

/-- Reads a path. -/
def ofText (text : WideText) : WidePath := ⟨FilePath.rootOf text.standIns, properNames text⟩

/-- The written form of a path. -/
def text (p : WidePath) : WideText :=
  if p.root.isEmpty && p.parts.isEmpty then "."
  else ⟨(WideText.ofText p.root).points ++ [.char '/'].intercalate (p.parts.map WideText.points)⟩

/-- Does the path begin at the root? -/
def isAbsolute (p : WidePath) : Bool := !p.root.isEmpty

/-- The path of a name below the path. -/
def child (p : WidePath) (name : WideText) : WidePath := ⟨p.root, p.parts ++ [name]⟩

/-- The path `q` as seen from `p`. -/
def join (p q : WidePath) : WidePath := if q.isAbsolute then q else ⟨p.root, p.parts ++ q.parts⟩

/-- The path as the system has it, if it can be spelled. -/
def spelled? (p : WidePath) : Option FilePath := (p.parts.mapM WideText.spelled?).map (⟨p.root, ·⟩)

/-- The names in front of the first that cannot be spelled. -/
def front (p : WidePath) : List String :=
  ((p.parts.map WideText.spelled?).takeWhile Option.isSome).reduceOption

/-- The first name that cannot be spelled, if there is one. -/
def oddName (p : WidePath) : WideText := (p.parts.find? (·.spelled?.isNone)).getD ""

end WidePath

end BusContract
