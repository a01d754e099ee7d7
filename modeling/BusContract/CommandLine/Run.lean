import BusContract.CommandLine.Commands
import BusContract.Signature.Basic
import BusContract.Workspace.Config

/-!
# Carrying commands out

A command ends with a number that is zero if all went well, one if it did not, and two if it was
not understood. Results go to the one output and complaints to the other, which also gets what is
told on the way.
-/

namespace BusContract

/-- How a command ended. -/
structure Ending where
  code : Nat
  output : String
  complaints : String
  deriving Repr, DecidableEq

/-- What ends a command without its having a say in it. -/
inductive Breakdown where
  | config (fault : ConfigFault)
  | loading (fault : LoadFault)

/-- What is said about a breakdown. -/
def Breakdown.message : Breakdown → String
  | config fault => fault.message
  | loading fault => fault.message

/-! ## Listing -/

/-- A member as it is listed. -/
inductive ListedMember where
  | method (name ins outs : String)
  | signal (name body : String)
  | property (name signature access : String)
  deriving Repr, DecidableEq

/-- The line of a member. -/
def ListedMember.line : ListedMember → String
  | method name ins outs => s!"    method   {name}({ins}) -> ({outs})"
  | signal name body => s!"    signal   {name}({body})"
  | property name signature access => s!"    property {name}: {signature} [{access}]"

/-- A method as it is listed. -/
def Method.listed (m : Method) : ListedMember :=
  .method m.name (joinSignatures m.inArgs) (joinSignatures m.outArgs)

/-- A signal as it is listed. -/
def Signal.listed (s : Signal) : ListedMember := .signal s.name (joinSignatures s.args)

/-- A property as it is listed. -/
def Property.listed (p : Property) : ListedMember := .property p.name p.signature p.access.word

/-- The members of an interface as they are listed: methods, signals, properties. -/
def Interface.listed (i : Interface) : List ListedMember :=
  i.methods.map Method.listed ++ i.signals.map Signal.listed ++ i.properties.map Property.listed

/-- The lines of an interface. -/
def Interface.lines (i : Interface) : List String :=
  ("  " ++ i.name) :: i.listed.map ListedMember.line

/-- The lines of a document. -/
def InterfaceDocument.lines (d : InterfaceDocument) : List String :=
  d.source :: d.interfaces.flatMap Interface.lines

/-- The listing of all that documents declare. -/
def listing (documents : List InterfaceDocument) : String :=
  if documents.isEmpty then lines ["No introspection documents found."]
  else lines (documents.flatMap InterfaceDocument.lines)

/-! ## Log -/

/-- The line that tells how many documents were loaded. -/
def loadedLine (directory : FilePath) (documents : List InterfaceDocument) : String :=
  s!"INFO busstep.introspection.loader: Loaded {documents.length} introspection document(s) " ++
    s!"from {directory.text}"

/-- The line that tells of an occurrence. -/
def foundLine (query : MemberQuery) (r : Resolution) : String :=
  "DEBUG busstep.resolution.locator: " ++ r.note query

/-- What is told on the way, if it is to be told. -/
def told (isVerbose : Bool) (texts : List String) : String :=
  if isVerbose then lines texts else ""

/-! ## Tasks -/

/-- The ending with a complaint, after what was told on the way. -/
def Ending.failed (log message : String) : Ending := ⟨1, "", log ++ lines [s!"Error: {message}"]⟩

/-- A path that the command line says. -/
def saidPath (text : String) : WidePath := .ofText text

/-- The directory of the documents and the documents in it, or the ending if there are none to be
had. -/
def Host.openDocuments (host : Host) (xmlPath : Option String) :
    Except Breakdown (Except Ending (FilePath × List InterfaceDocument)) :=
  match host.loadConfig (xmlPath.map saidPath) host.here host.environment with
  | .error fault =>
    if fault.isOfConfig then .ok (.error (.failed "" fault.message)) else .error (.config fault)
  | .ok config =>
    match host.loadDocuments config.xmlPath config.filePattern with
    | .error fault =>
      if fault.isOfDocuments then .ok (.error (.failed "" fault.message))
      else .error (.loading fault)
    | .ok documents => .ok (.ok (config.xmlPath, documents))

/-- Looks up a signature in documents. -/
def signatureEnding (isVerbose : Bool) (directory : FilePath) (documents : List InterfaceDocument)
    (role : SignatureRole) (member : String) (interface : Option String) : Ending :=
  let query := role.query member interface
  let log := told isVerbose
    (loadedLine directory documents :: (occurrences documents query).map (foundLine query))
  match resolveSignature documents role member interface with
  | .ok s => ⟨0, lines [s], log⟩
  | .error fault => .failed log fault.message

/-- Lists documents. -/
def membersEnding (isVerbose : Bool) (directory : FilePath) (documents : List InterfaceDocument) :
    Ending :=
  ⟨0, listing documents, told isVerbose [loadedLine directory documents]⟩

/-- Compares signatures. -/
def compareEnding (lhs rhs : String) : Ending :=
  let isEqual := (Signature.text lhs).equivalent (.text rhs)
  let sentence := lines [comparisonSentence isEqual lhs rhs]
  if isEqual then ⟨0, sentence, ""⟩ else ⟨1, "", sentence⟩

/-- The usage of a command: its help up to the first empty line. -/
def Command.usage (c : Command) : String :=
  lines ((c.help.splitOn "\n").takeWhile (· != ""))

/-- The ending of a command that is not carried out. -/
def Halt.ending : Halt → Ending
  | help c => ⟨0, c.help, ""⟩
  | misuse c message => ⟨2, "", c.usage ++ lines [s!"{c.program}: error: {message}"]⟩

namespace Host

/-- Carries an invocation out. -/
def carryOut (host : Host) (invocation : Invocation) : Except Breakdown Ending :=
  match invocation.task with
  | .compare lhs rhs => .ok (compareEnding lhs rhs)
  | .members xmlPath =>
    (host.openDocuments xmlPath).map fun opened =>
      match opened with
      | .error ending => ending
      | .ok (directory, documents) => membersEnding invocation.isVerbose directory documents
  | .signature role member interface xmlPath =>
    (host.openDocuments xmlPath).map fun opened =>
      match opened with
      | .error ending => ending
      | .ok (directory, documents) =>
        signatureEnding invocation.isVerbose directory documents role member interface

/-- Carries a command line out. -/
def run (host : Host) (arguments : List String) : Except Breakdown Ending :=
  match Invocation.ofArguments arguments with
  | .error halt => .ok halt.ending
  | .ok invocation => host.carryOut invocation

end Host

end BusContract
