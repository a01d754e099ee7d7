import BusContract.Files.Canonical
import BusContract.Workspace.ConfigFile

/-!
# Configuration

The directory of the documents is said by a variable, by an argument, or by the configuration file
of the directory one works in, and the first of these that says something counts, whatever it
says. If none does, it is a directory of a usual name. Relative paths are taken from the directory
one works in.
-/

namespace BusContract

/-- A configuration: the directory of the documents and the pattern that selects their files. -/
structure Config where
  xmlPath : FilePath
  filePattern : WideText
  deriving Repr, DecidableEq

/-- The usual names of the directory of the documents, the later ones first choice. -/
def usualXmlNames : List String := ["xml", "XML"]

namespace Host

/-- The usual directories of documents that exist, in their order. -/
def usualXmlPaths (host : Host) (directory : FilePath) : Except FileFault (List FilePath) :=
  (usualXmlNames.map directory.child).filterM host.isPresent

/-- The path that is to be taken, before it is known whether it exists. -/
def xmlPathCandidate (host : Host) (argument : Option WidePath) (directory : FilePath)
    (environment : List (String × WideText)) : Except FileFault (Option WidePath) := do
  let usual ← if argument.isSome then pure [] else host.usualXmlPaths directory
  let said := (environment.lookup xmlPathVariable).map WidePath.ofText
  return (said.or argument).or (usual.getLast?.map FilePath.wide)

/-- The directory of the documents, given the argument, the directory one works in, and the
variables. -/
def resolveXmlPath (host : Host) (argument : Option WidePath) (directory : FilePath)
    (environment : List (String × WideText)) : Except ConfigFault FilePath :=
  match host.xmlPathCandidate argument directory environment with
  | .error fault => .error (.file fault)
  | .ok none => .error (.noXmlPath directory)
  | .ok (some candidate) =>
    let path := directory.wide.join candidate
    match host.canonicalSaid path with
    | .ok canonical => .ok canonical
    | .error (.refused .tooManyLinks refused) => .error (.linkLoop refused)
    | .error (.refused flaw refused) => .error (.noSuchXmlPath path flaw refused)
    | .error .nullCharacter => .error (.file .nullCharacter)
    | .error (.unencodable refused) => .error (.unencodable refused)

/-- What the configuration file of a directory says, if there is one. -/
def configFileOf (host : Host) (directory : FilePath) : Except ConfigFault ConfigFile :=
  let path := directory.child ConfigFile.fileName
  match host.isPresent path with
  | .error fault => .error (.file fault)
  | .ok false => .ok .default
  | .ok true => host.loadConfigFile path

/-- The configuration, given the argument, the directory one works in, and the variables. -/
def loadConfig (host : Host) (argument : Option WidePath) (directory : FilePath)
    (environment : List (String × WideText)) : Except ConfigFault Config := do
  let file ← host.configFileOf directory
  let argument := argument.or ((file.xmlPath.map WidePath.ofText).map directory.wide.join)
  let xmlPath ← host.resolveXmlPath argument directory environment
  return ⟨xmlPath, file.filePattern⟩

end Host

end BusContract
