import BusContract.CommandLine.Run

/-!
# The program

Before a command is carried out, the program takes down what the command may ask about: the file
with the configuration, and the directories that may hold documents with everything in them. The
command is then carried out on what was taken down, and what it gives is printed.

A place that the system gives no account of counts as one where there is nothing.
-/

namespace BusContract

/-- What has been taken down, and the directories that were gone through for it. -/
structure Survey where
  tree : FileTree
  gone : List Place

namespace Survey

/-- What is at a place. A link is taken down with the place that it leads to in the end. -/
def entryAt (place : Place) : IO (Option FileEntry) := do
  try
    let path := (← IO.FS.realPath "/") / "/".intercalate place
    match (← path.symlinkMetadata).type with
    | .dir => return some .directory
    | .symlink =>
      let target ← try pure (← IO.FS.realPath path).toString catch _ => pure path.toString
      return some (.link target)
    | .file => return some (.file (← IO.FS.readBinFile path).toList)
    | .other => return none
  catch _ => return none

/-- The names in a directory. -/
def namesAt (place : Place) : IO (List String) := do
  try
    let path := (← IO.FS.realPath "/") / "/".intercalate place
    return ((← path.readDir).map (·.fileName)).toList
  catch _ => return []

/-- Takes down what is at a place, unless that was done before. -/
def note (survey : Survey) (place : Place) : IO (Survey × Option FileEntry) := do
  match survey.tree.entry? place with
  | some entry => return (survey, some entry)
  | none =>
    match ← entryAt place with
    | some entry => return ({ survey with tree := survey.tree.put place entry }, some entry)
    | none => return (survey, none)

mutual

/-- Takes down what is met on a way of names from a place, and all that is below its end. -/
partial def follow (survey : Survey) (place : Place) : List String → IO Survey
  | [] => goThrough survey place
  | ".." :: rest => follow survey place.dropLast rest
  | name :: rest => do
    let (survey, entry) ← survey.note (place ++ [name])
    match entry with
    | some .directory => follow survey (place ++ [name]) rest
    | some (.link target) =>
      if FilePath.properNames target = place ++ [name] then return survey
      else follow survey [] (FilePath.properNames target ++ rest)
    | _ => return survey

/-- Takes down all that is below a place. -/
partial def goThrough (survey : Survey) (place : Place) : IO Survey := do
  if survey.gone.contains place then return survey
  let mut survey := { survey with gone := place :: survey.gone }
  for name in ← namesAt place do
    survey ← follow survey place [name]
  return survey

end

/-- Takes down what a path leads to from a place, as far as its names can be spelled. -/
def path (survey : Survey) (place : Place) (p : WidePath) : IO Survey :=
  follow survey (if p.isAbsolute then [] else place) p.front

end Survey

/-- The directory that a command line names for the documents. -/
def namedDirectory (arguments : List String) : Option String :=
  match Invocation.ofArguments arguments with
  | .ok ⟨_, .signature _ _ _ xmlPath⟩ => xmlPath
  | .ok ⟨_, .members xmlPath⟩ => xmlPath
  | _ => none

/-- Takes down what a command line may ask about. -/
def surroundings (arguments : List String) : IO Host := do
  let here := FilePath.properNames (← IO.currentDir).toString
  let setting := ((← IO.getEnv xmlPathVariable).map WideText.ofText).toList
  let above := (List.range here.length).foldl
    (fun tree n => tree.putDirectory (here.take (n + 1))) FileTree.empty
  let survey ← Survey.path ⟨above, []⟩ here ⟨"", [ConfigFile.fileName]⟩
  let host : Host := ⟨survey.tree, here, setting.map (xmlPathVariable, ·)⟩
  let configured := match host.configFileOf host.here with
    | .ok file => file.xmlPath.toList
    | .error _ => []
  let named := (namedDirectory arguments).toList ++ usualXmlNames
  let survey ← (setting ++ configured ++ named.map WideText.ofText).foldlM
    (fun survey text => survey.path here (.ofText text)) survey
  return { host with files := survey.tree }

end BusContract

open BusContract in
/-- Carries out the command line it is given. -/
def main (arguments : List String) : IO UInt32 := do
  match (← surroundings arguments).run arguments with
  | .ok ending =>
    IO.print ending.output
    IO.eprint ending.complaints
    return ending.code.toUInt32
  | .error breakdown =>
    IO.eprintln breakdown.message
    return 1
