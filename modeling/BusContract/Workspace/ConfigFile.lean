import BusContract.Data.Reading
import BusContract.Files.Canonical
import BusContract.Files.TextFile
import BusContract.Workspace.Documents
import BusContract.Yaml.Content

/-!
# Configuration files

A configuration file is a YAML mapping. It can say where the documents are and which files hold
them, each under a name with a dash or one with an underscore; nothing else may be in it. If both
names are given the one with the dash counts and the other one is in the way.
-/

namespace BusContract

/-- What a configuration file says. -/
structure ConfigFile where
  xmlPath : Option WideText
  filePattern : WideText
  deriving Repr, DecidableEq

namespace ConfigFile

/-- The configuration of a file that says nothing. -/
def default : ConfigFile := ⟨none, defaultFilePattern⟩

/-- The name of the file in its directory. -/
def fileName : String := ".busstep.yaml"

/-! ## Entries -/

/-- A key as a step of a path. -/
def keyText : Yaml.Value → String
  | .null => "None"
  | .bool b => if b then "1" else "0"
  | .int n => toString n
  | .real r => r.render
  | .text s => s.shown
  | .bytes b => quotedBytes b
  | .timestamp t => t.render
  | .collection => ""

/-- The entries of a file. -/
abbrev Entries := List (Yaml.Value × Yaml.Value)

/-- The names of a field, the one with a dash first. -/
structure FieldNames where
  dashed : String
  underscored : String

/-- The names of the field that says where the documents are. -/
def xmlPathNames : FieldNames := ⟨"xml-path", "xml_path"⟩

/-- The names of the field that says which files hold documents. -/
def filePatternNames : FieldNames := ⟨"file-pattern", "file_pattern"⟩

/-- The value under a name. -/
def valueOf? (entries : Entries) (name : String) : Option Yaml.Value :=
  entries.lookup (.text name)

/-- The name under which a field is given, with its value. -/
def FieldNames.find? (names : FieldNames) (entries : Entries) : Option (String × Yaml.Value) :=
  match valueOf? entries names.dashed with
  | some value => some (names.dashed, value)
  | none => (valueOf? entries names.underscored).map fun value => (names.underscored, value)

/-- Reads a text, which may hold halves of surrogate pairs. Bytes are taken for text if they are one in
UTF-8. -/
def readText : Yaml.Value → Reading WideText
  | .text s => .ok s
  | .bytes b =>
    match Utf8.decode b with
    | .ok text => .ok (.ofChars text)
    | .error _ => Reading.complain .undecodableText
  | _ => Reading.complain .wantedText

/-- Reads a text or nothing. -/
def readOptionalText : Yaml.Value → Reading (Option WideText)
  | .null => .ok none
  | value => (readText value).map some

/-- Reads a field, which stands for `absent` if it is not given. -/
def readField {α : Type} (names : FieldNames) (absent : α) (read : Yaml.Value → Reading α)
    (entries : Entries) : Reading α :=
  match names.find? entries with
  | some (name, value) => Reading.under name (read value)
  | none => .ok absent

/-- The complaint about a key that gives no field. -/
def keyComplaint? (used : List String) : Yaml.Value → Option Complaint
  | .text name =>
    if (used.map WideText.ofText).contains name then none
    else some ⟨[name.shown], .unknownField⟩
  | key => some ⟨[keyText key], .keyNotText⟩

/-- Keys that give no field are complained about, in their order. -/
def readRest (entries : Entries) : Reading Unit :=
  let used := [xmlPathNames, filePatternNames].filterMap fun names =>
    (names.find? entries).map Prod.fst
  match entries.filterMap fun (key, _) => keyComplaint? used key with
  | [] => .ok ()
  | complaints => .error complaints

/-- Reads the entries of a file. -/
def ofEntries (entries : Entries) : Reading ConfigFile :=
  let xmlPath := readField xmlPathNames default.xmlPath readOptionalText entries
  let filePattern := readField filePatternNames default.filePattern readText entries
  Reading.apply (Reading.apply (Reading.apply (.ok fun path pattern _ => ⟨path, pattern⟩) xmlPath)
    filePattern) (readRest entries)

end ConfigFile

/-! ## Files -/

/-- Why a configuration cannot be had. -/
inductive ConfigFault where
  | unreadable (path : FilePath) (flaw : FileFlaw) (refused : FilePath)
  | notYaml (path : FilePath)
  | notMapping (path : FilePath)
  | unfit (path : FilePath) (complaints : List Complaint)
  /-- There is no directory to take the documents from. -/
  | noXmlPath (directory : FilePath)
  | noSuchXmlPath (path : WidePath) (flaw : FileFlaw) (refused : WidePath)
  /-- The directory of the documents is reached through links that lead back to themselves. -/
  | linkLoop (path : WidePath)
  /-- The path of the documents holds half of a surrogate pair that the system cannot be given. -/
  | unencodable (path : WidePath)
  | undecodable (fault : Utf8.Fault)
  /-- A value that is written as one of its kind and is none. -/
  | badValue (fault : Yaml.Fault)
  | file (fault : FileFault)
  deriving Repr, DecidableEq

/-- Is the fault told as one of the configuration? -/
def ConfigFault.isOfConfig : ConfigFault → Bool
  | linkLoop _ => false
  | unencodable _ => false
  | undecodable _ => false
  | badValue _ => false
  | file _ => false
  | _ => true

/-- The name of the variable that says where the documents are. -/
def xmlPathVariable : String := "BUSSTEP_XML_PATH"

/-- What is said about the fault. -/
def ConfigFault.message : ConfigFault → String
  | unreadable path flaw refused =>
    let cause := FileFault.refused flaw refused
    s!"Cannot read config file '{path.text}': {cause.message}"
  | notYaml path => s!"Invalid YAML in config file '{path.text}'"
  | notMapping path => s!"{path.text}: config must be a YAML mapping"
  | unfit path _ => s!"Invalid config file '{path.text}'"
  | noXmlPath directory =>
    "No XML path provided and no default 'xml' or 'XML' directory found in " ++
      s!"'{directory.text}'. Set {xmlPathVariable} or pass a path."
  | noSuchXmlPath path flaw refused =>
    let cause := PathFault.refused flaw refused
    s!"XML path '{path.text.shown}' does not exist: {cause.message}"
  | linkLoop path => s!"Symlink loop from {quotedWide path.text}"
  | unencodable path => path.text.complaint
  | undecodable fault => fault.message
  | badValue fault => fault.message
  | file fault => fault.message

/-- The configuration in a file. -/
def Host.loadConfigFile (host : Host) (path : FilePath) : Except ConfigFault ConfigFile :=
  match host.readText path with
  | .error (.file (.refused flaw refused)) => .error (.unreadable path flaw refused)
  | .error (.file fault) => .error (.file fault)
  | .error (.undecodable fault) => .error (.undecodable fault)
  | .ok text =>
    match Yaml.read text with
    | .error .malformed => .error (.notYaml path)
    | .error fault => .error (.badValue fault)
    | .ok .nothing => .ok .default
    | .ok .other => .error (.notMapping path)
    | .ok (.mapping entries) => (ConfigFile.ofEntries entries).mapError (.unfit path)

end BusContract
