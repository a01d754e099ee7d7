import BusContract.Files.Selection
import BusContract.Files.TextFile
import BusContract.Interface.Introspection

/-!
# Loading documents

The documents of a directory are read from the files that a pattern selects, in the order of their
names, so that the order of the documents does not depend on the file system. The first file that
cannot be read, or does not hold a document, decides.

Most faults are told as faults of the documents. The others come from below: a text that is not in
UTF-8, a pattern that selects nothing whatever the files are, a path that no system takes.
-/

namespace BusContract

/-- Why documents cannot be loaded. -/
inductive LoadFault where
  | noDirectory (directory : FilePath)
  | unreadable (path : FilePath) (flaw : FileFlaw) (refused : FilePath)
  | unfit (fault : DocumentFault)
  | undecodable (fault : Utf8.Fault)
  | selection (fault : SelectionFault)
  | file (fault : FileFault)

/-- Is the fault told as one of the documents? -/
def LoadFault.isOfDocuments : LoadFault → Bool
  | noDirectory _ => true
  | unreadable _ _ _ => true
  | unfit _ => true
  | _ => false

/-- What is said about the fault. -/
def LoadFault.message : LoadFault → String
  | noDirectory directory => s!"Introspection directory not found: {directory.text}"
  | unreadable path flaw refused =>
    let cause := FileFault.refused flaw refused
    s!"Cannot read introspection file '{path.text}': {cause.message}"
  | unfit fault => fault.message
  | undecodable fault => fault.message
  | selection fault => fault.message
  | file fault => fault.message

namespace Host

/-- The document in a file. Its source is the path. -/
def loadDocument (host : Host) (p : FilePath) : Except LoadFault InterfaceDocument :=
  match host.readText p with
  | .error (.file (.refused flaw refused)) => .error (.unreadable p flaw refused)
  | .error (.file fault) => .error (.file fault)
  | .error (.undecodable fault) => .error (.undecodable fault)
  | .ok text => (Introspection.parse p.text (String.ofList text)).mapError .unfit

/-- The files that a pattern selects in a directory, in the order of their names. -/
def documentFiles (host : Host) (directory : FilePath) (pattern : WideText) :
    Except LoadFault (List FilePath) := do
  let selection ← (Selection.ofWide pattern).mapError .selection
  let files ← (host.select selection directory).mapError .file
  return files.mergeSort fun a b => !(b.name < a.name)

/-- All documents of a directory whose files a pattern selects. -/
def loadDocuments (host : Host) (directory : FilePath) (pattern : WideText) :
    Except LoadFault (List InterfaceDocument) := do
  if ← (host.isDirectory directory).mapError .file then
    (← host.documentFiles directory pattern).mapM host.loadDocument
  else .error (.noDirectory directory)

end Host

/-- The pattern that selects the files unless another one is given. -/
def defaultFilePattern : String := "*.xml"

end BusContract
