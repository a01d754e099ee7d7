import BusContract.Proofs.Files.WidePaths
import BusContract.Workspace.Config

/-!
# How a configuration comes out

The variable goes before the argument, the argument before the configuration file, and that before
the directories of a usual name, of which the one in capitals goes first. The first of these that
says something decides alone: where it leads is all that counts, and if it leads nowhere no other is
asked. The pattern always comes from the configuration file.

`Configures` has a rule for each way a configuration can come out. Besides what reading the file may
come to, five of them tell of a fault that is none of the configuration.

* Two are reached without anybody's having said anything about the path that fails: it cannot be
  told whether the configuration file is there, or whether a directory of a usual name is, although
  the variable decides and nothing will come of that directory.
* Three are about the path that was decided on: its links lead back to themselves, or it holds a
  character that no path may hold, or half of a surrogate pair that the system cannot be given.

Main statements:

* `candidate_of_decides`: the path that is taken is the one that decides.
* **`outcome_eq_iff_configures`**: the configuration is the one that the rules give.
-/

namespace BusContract

/-! ## Rules -/

/-- What a configuration is asked for with. -/
structure ConfigRequest where
  host : Host
  argument : Option WidePath
  /-- The directory one works in. -/
  directory : FilePath
  environment : List (String × WideText)
  absolute : directory.isAbsolute = true

/-- The names of the directories of documents if nothing is said. -/
def upperName : String := "XML"
def lowerName : String := "xml"

/-! ### Looking for a path -/

namespace Host

variable {host : Host} {directory : FilePath} {environment : List (String × WideText)}

/-- Both names are looked for, and the one in capitals comes last. -/
theorem usualXmlPaths_of_isPresent {upper lower : Bool}
    (hlower : host.isPresent (directory.child lowerName) = .ok lower)
    (hupper : host.isPresent (directory.child upperName) = .ok upper) :
    host.usualXmlPaths directory =
      .ok ((if lower then [directory.child lowerName] else [])
        ++ if upper then [directory.child upperName] else []) := by
  rw [lowerName] at hlower
  rw [upperName] at hupper
  simp only [usualXmlPaths, usualXmlNames, List.map_cons, List.map_nil, List.filterM,
    filterAuxM_cons, hlower, hupper, bind, Except.bind]
  cases lower <;> cases upper <;> rfl

/-- The name in small letters is looked for first. -/
theorem usualXmlPaths_of_lowerFault {fault : FileFault}
    (h : host.isPresent (directory.child lowerName) = .error fault) :
    host.usualXmlPaths directory = .error fault := by
  rw [lowerName] at h
  simp only [usualXmlPaths, usualXmlNames, List.map_cons, List.filterM, filterAuxM_cons, h, bind,
    Except.bind]

/-- The other one is looked for whether the first is there or not. -/
theorem usualXmlPaths_of_upperFault {fault : FileFault} {lower : Bool}
    (hlower : host.isPresent (directory.child lowerName) = .ok lower)
    (h : host.isPresent (directory.child upperName) = .error fault) :
    host.usualXmlPaths directory = .error fault := by
  rw [lowerName] at hlower
  rw [upperName] at h
  simp only [usualXmlPaths, usualXmlNames, List.map_cons, List.filterM, filterAuxM_cons, hlower, h,
    bind, Except.bind]

/-- With an argument the usual directories are not looked for. -/
theorem xmlPathCandidate_some (given : WidePath) :
    host.xmlPathCandidate (some given) directory environment
      = .ok (some (((environment.lookup xmlPathVariable).map WidePath.ofText).getD given)) := by
  cases hlookup : environment.lookup xmlPathVariable <;>
    simp [xmlPathCandidate, hlookup, pure, Except.pure, bind, Except.bind]

/-- Without an argument the variable comes before what is there. -/
theorem xmlPathCandidate_none :
    host.xmlPathCandidate none directory environment
      = (host.usualXmlPaths directory).map fun usual =>
        ((environment.lookup xmlPathVariable).map WidePath.ofText).or
          (usual.getLast?.map FilePath.wide) := by
  simp only [xmlPathCandidate]
  cases host.usualXmlPaths directory <;>
    simp [pure, Except.pure, bind, Except.bind, Except.map]

end Host

namespace ConfigRequest

/-- What comes of it. -/
def outcome (r : ConfigRequest) : Except ConfigFault Config :=
  r.host.loadConfig r.argument r.directory r.environment

/-- Does a name lead anywhere in the directory one works in? -/
def holds (r : ConfigRequest) (name : String) : Except FileFault Bool :=
  r.host.isPresent (r.directory.child name)

/-- Where a path leads, seen from the directory one works in. -/
def target (r : ConfigRequest) (path : WidePath) : Except PathFault FilePath :=
  r.host.canonicalSaid (r.directory.wide.join path)

/-- The value of the variable, if it is set. -/
def setting (r : ConfigRequest) : Option WideText := r.environment.lookup xmlPathVariable

/-- The configuration file that counts: the one in the directory, or one that says nothing if there
is none. -/
inductive CountsAsFile (r : ConfigRequest) : ConfigFile → Prop where
  | absent (h : r.holds ConfigFile.fileName = .ok false) : CountsAsFile r .default
  | present (file : ConfigFile) (h : r.holds ConfigFile.fileName = .ok true)
      (hload : r.host.loadConfigFile (r.directory.child ConfigFile.fileName) = .ok file) :
      CountsAsFile r file

/-- Are the directories of a usual name looked for? They are, whatever the variable says. -/
structure LooksForUsual (r : ConfigRequest) (file : ConfigFile) : Prop where
  argument : r.argument = none
  file : file.xmlPath = none

/-- The fault of looking for them. -/
inductive UsualFault (r : ConfigRequest) : FileFault → Prop where
  | lower (fault : FileFault) (h : r.holds lowerName = .error fault) : UsualFault r fault
  | upper (fault : FileFault) (there : Bool) (hlower : r.holds lowerName = .ok there)
      (h : r.holds upperName = .error fault) : UsualFault r fault

/-- Nothing stands in the way of finding out which path decides. -/
def Sees (r : ConfigRequest) (file : ConfigFile) : Prop :=
  r.LooksForUsual file → ∀ fault, ¬ r.UsualFault fault

/-- The path that decides: the first that is given, in the order of the rules. -/
inductive Decides (r : ConfigRequest) (file : ConfigFile) : WidePath → Prop where
  /-- A variable that is set to nothing says something as well. -/
  | setting (text : WideText) (h : r.setting = some text) : Decides r file (.ofText text)
  | argument (path : WidePath) (hunset : r.setting = none) (h : r.argument = some path) :
      Decides r file path
  | file (text : WideText) (hunset : r.setting = none) (hnone : r.argument = none)
      (h : file.xmlPath = some text) : Decides r file (.ofText text)
  | upper (hunset : r.setting = none) (hlooks : r.LooksForUsual file)
      (h : r.holds upperName = .ok true) : Decides r file ⟨"", [upperName]⟩
  | lower (hunset : r.setting = none) (hlooks : r.LooksForUsual file)
      (hupper : r.holds upperName = .ok false) (h : r.holds lowerName = .ok true) :
      Decides r file ⟨"", [lowerName]⟩

/-- Nothing is said, and there is no directory of a usual name. -/
structure NothingDecides (r : ConfigRequest) (file : ConfigFile) : Prop where
  unset : r.setting = none
  looks : r.LooksForUsual file
  upper : r.holds upperName = .ok false
  lower : r.holds lowerName = .ok false

/-- What comes out, by a rule for each way it can. -/
inductive Configures (r : ConfigRequest) : Except ConfigFault Config → Prop where
  | unseenFile (fault : FileFault) (h : r.holds ConfigFile.fileName = .error fault) :
      Configures r (.error (.file fault))
  | badFile (fault : ConfigFault) (h : r.holds ConfigFile.fileName = .ok true)
      (hload : r.host.loadConfigFile (r.directory.child ConfigFile.fileName) = .error fault) :
      Configures r (.error fault)
  | unseenUsual (file : ConfigFile) (fault : FileFault) (hfile : r.CountsAsFile file)
      (hlooks : r.LooksForUsual file) (h : r.UsualFault fault) :
      Configures r (.error (.file fault))
  | nowhere (file : ConfigFile) (hfile : r.CountsAsFile file) (h : r.NothingDecides file) :
      Configures r (.error (.noXmlPath r.directory))
  | found (file : ConfigFile) (path : WidePath) (canonical : FilePath) (hfile : r.CountsAsFile file)
      (hsees : r.Sees file) (hpath : r.Decides file path) (h : r.target path = .ok canonical) :
      Configures r (.ok ⟨canonical, file.filePattern⟩)
  | missing (file : ConfigFile) (path : WidePath) (flaw : FileFlaw) (refused : WidePath)
      (hfile : r.CountsAsFile file) (hsees : r.Sees file) (hpath : r.Decides file path)
      (h : r.target path = .error (.refused flaw refused)) (hloop : flaw ≠ .tooManyLinks) :
      Configures r (.error (.noSuchXmlPath (r.directory.wide.join path) flaw refused))
  | loop (file : ConfigFile) (path refused : WidePath) (hfile : r.CountsAsFile file)
      (hsees : r.Sees file) (hpath : r.Decides file path)
      (h : r.target path = .error (.refused .tooManyLinks refused)) :
      Configures r (.error (.linkLoop refused))
  | unusable (file : ConfigFile) (path : WidePath) (hfile : r.CountsAsFile file)
      (hsees : r.Sees file) (hpath : r.Decides file path)
      (h : r.target path = .error .nullCharacter) : Configures r (.error (.file .nullCharacter))
  | unencodable (file : ConfigFile) (path refused : WidePath) (hfile : r.CountsAsFile file)
      (hsees : r.Sees file) (hpath : r.Decides file path)
      (h : r.target path = .error (.unencodable refused)) :
      Configures r (.error (.unencodable refused))

/-! ## The file -/

variable {r : ConfigRequest} {file : ConfigFile} {path : WidePath}

/-- The file that counts is the one that is read. -/
theorem configFileOf_of_countsAsFile (h : r.CountsAsFile file) :
    r.host.configFileOf r.directory = .ok file := by
  cases h with
  | absent h =>
    rw [holds] at h
    simp only [Host.configFileOf, h]
  | present _ h hload =>
    rw [holds] at h
    simp only [Host.configFileOf, h, hload]

/-- The file that is read is the one that counts. -/
theorem countsAsFile_of_configFileOf (h : r.host.configFileOf r.directory = .ok file) :
    r.CountsAsFile file := by
  unfold Host.configFileOf at h
  dsimp only at h
  split at h
  next => cases h
  next hthere =>
    obtain rfl := Except.ok.inj h
    exact .absent hthere
  next hthere => exact .present file hthere h

/-- It may be refused to tell whether there is a file. -/
theorem outcome_of_unseenFile {fault : FileFault} (h : r.holds ConfigFile.fileName = .error fault) :
    r.outcome = .error (.file fault) := by
  rw [holds] at h
  simp only [outcome, Host.loadConfig, Host.configFileOf, h, bind, Except.bind]

/-- A file with a fault ends it. -/
theorem outcome_of_badFile {fault : ConfigFault} (h : r.holds ConfigFile.fileName = .ok true)
    (hload : r.host.loadConfigFile (r.directory.child ConfigFile.fileName) = .error fault) :
    r.outcome = .error fault := by
  rw [holds] at h
  simp only [outcome, Host.loadConfig, Host.configFileOf, h, hload, bind, Except.bind]

/-! ## The path -/

/-- The argument together with what the file says: what the path is looked for with. -/
def argumentWith (r : ConfigRequest) (file : ConfigFile) : Option WidePath :=
  r.argument.or ((file.xmlPath.map WidePath.ofText).map r.directory.wide.join)

/-- The path that is to be taken, before it is known where it leads. -/
def candidate (r : ConfigRequest) (file : ConfigFile) : Except FileFault (Option WidePath) :=
  r.host.xmlPathCandidate (r.argumentWith file) r.directory r.environment

/-- The path is taken from where it leads. -/
def settle (r : ConfigRequest) (path : WidePath) : Except ConfigFault FilePath :=
  match r.target path with
  | .ok canonical => .ok canonical
  | .error (.refused .tooManyLinks refused) => .error (.linkLoop refused)
  | .error (.refused flaw refused) =>
    .error (.noSuchXmlPath (r.directory.wide.join path) flaw refused)
  | .error .nullCharacter => .error (.file .nullCharacter)
  | .error (.unencodable refused) => .error (.unencodable refused)

/-- All that comes after the file. -/
theorem outcome_of_file (h : r.CountsAsFile file) :
    r.outcome =
      match r.candidate file with
      | .error fault => .error (.file fault)
      | .ok none => .error (.noXmlPath r.directory)
      | .ok (some path) => (r.settle path).map (⟨·, file.filePattern⟩) := by
  simp only [outcome, Host.loadConfig, configFileOf_of_countsAsFile h, bind, Except.bind,
    Host.resolveXmlPath, candidate, argumentWith, settle, target]
  -- what is left are the same cases on both sides
  cases r.host.xmlPathCandidate (r.argument.or _) r.directory r.environment with
  | error fault => rfl
  | ok candidate =>
    cases candidate with
    | none => rfl
    | some path =>
      dsimp only
      generalize r.host.canonicalSaid (r.directory.wide.join path) = led
      rcases led with (⟨flaw, refused⟩ | _ | refused) | canonical
      · cases flaw <;> rfl
      · rfl
      · rfl
      · rfl

/-! ### Who is asked -/

/-- Usual names are looked for exactly if neither an argument nor the file says anything. -/
theorem argumentWith_eq_none_iff : r.argumentWith file = none ↔ r.LooksForUsual file := by
  constructor
  · intro h
    rw [argumentWith, Option.or_eq_none_iff] at h
    exact ⟨h.1, by simpa using h.2⟩
  · rintro ⟨hargument, hfile⟩
    simp [argumentWith, hargument, hfile]

/-- The directories of usual names, as the request sees them. -/
theorem usualXmlPaths_of_holds {upper lower : Bool} (hlower : r.holds lowerName = .ok lower)
    (hupper : r.holds upperName = .ok upper) :
    r.host.usualXmlPaths r.directory =
      .ok ((if lower then [r.directory.child lowerName] else [])
        ++ if upper then [r.directory.child upperName] else []) :=
  Host.usualXmlPaths_of_isPresent hlower hupper

/-- A fault of looking for them, in the order in which they are looked for. -/
theorem usualXmlPaths_of_usualFault {fault : FileFault} (h : r.UsualFault fault) :
    r.host.usualXmlPaths r.directory = .error fault := by
  cases h with
  | lower h => exact Host.usualXmlPaths_of_lowerFault h
  | upper there hlower h => exact Host.usualXmlPaths_of_upperFault hlower h

/-- There is no other way for the look to fail. -/
theorem holds_of_sees (hsees : r.Sees file) (hlooks : r.LooksForUsual file) :
    ∃ lower upper, r.holds lowerName = .ok lower ∧ r.holds upperName = .ok upper := by
  cases hlower : r.holds lowerName with
  | error fault => exact absurd (.lower fault hlower) (hsees hlooks fault)
  | ok lower =>
    cases hupper : r.holds upperName with
    | error fault => exact absurd (.upper fault lower hlower hupper) (hsees hlooks fault)
    | ok upper => exact ⟨lower, upper, rfl, rfl⟩

/-- What is given counts unless the variable is set. -/
theorem candidate_of_argumentWith {given : WidePath} (h : r.argumentWith file = some given) :
    r.candidate file = .ok (some ((r.setting.map WidePath.ofText).getD given)) := by
  rw [candidate, h, Host.xmlPathCandidate_some]
  rfl

/-- What is there counts unless the variable is set. -/
theorem candidate_of_looksForUsual (hlooks : r.LooksForUsual file) :
    r.candidate file =
      (r.host.usualXmlPaths r.directory).map fun usual =>
        (r.setting.map WidePath.ofText).or (usual.getLast?.map FilePath.wide) := by
  rw [candidate, argumentWith_eq_none_iff.mpr hlooks, Host.xmlPathCandidate_none]
  rfl

/-- A fault of looking counts also if the variable is set. -/
theorem candidate_of_usualFault {fault : FileFault} (hlooks : r.LooksForUsual file)
    (h : r.UsualFault fault) : r.candidate file = .error fault := by
  rw [candidate_of_looksForUsual hlooks, usualXmlPaths_of_usualFault h]
  rfl

/-- Nothing said and nothing there. -/
theorem candidate_of_nothingDecides (h : r.NothingDecides file) : r.candidate file = .ok none := by
  rw [candidate_of_looksForUsual h.looks, usualXmlPaths_of_holds h.lower h.upper, h.unset]
  rfl

/-- The variable is asked first. -/
theorem candidate_of_setting {text : WideText} (hsees : r.Sees file) (h : r.setting = some text) :
    r.candidate file = .ok (some (.ofText text)) := by
  cases hgiven : r.argumentWith file with
  | some given => simp [candidate_of_argumentWith hgiven, h]
  | none =>
    have hlooks := argumentWith_eq_none_iff.mp hgiven
    obtain ⟨lower, upper, hlower, hupper⟩ := holds_of_sees hsees hlooks
    simp [candidate_of_looksForUsual hlooks, usualXmlPaths_of_holds hlower hupper, h, Except.map]

/-- **The path that decides is the one that is taken**, seen from the directory one works in. -/
theorem candidate_of_decides (hsees : r.Sees file) (h : r.Decides file path) :
    ∃ taken, r.candidate file = .ok (some taken)
      ∧ r.directory.wide.join taken = r.directory.wide.join path := by
  cases h with
  | setting text h => exact ⟨_, candidate_of_setting hsees h, rfl⟩
  | argument _ hunset h =>
    have hgiven : r.argumentWith file = some path := by simp [argumentWith, h]
    refine ⟨path, ?_, rfl⟩
    simp [candidate_of_argumentWith hgiven, hunset]
  | file text hunset hnone h =>
    -- the path of the file is taken from the directory twice, which is as good as once
    have hgiven : r.argumentWith file = some (r.directory.wide.join (.ofText text)) := by
      simp [argumentWith, hnone, h]
    refine ⟨_, ?_, WidePath.join_join r.absolute _⟩
    simp [candidate_of_argumentWith hgiven, hunset]
  | upper hunset hlooks h =>
    -- the other name is looked for before, so that look must not fail
    obtain ⟨lower, upper, hlower, hupper⟩ := holds_of_sees hsees hlooks
    refine ⟨r.directory.child upperName, ?_, WidePath.join_child r.absolute _⟩
    simp [candidate_of_looksForUsual hlooks, usualXmlPaths_of_holds hlower h, hunset, Except.map]
  | lower hunset hlooks hupper h =>
    refine ⟨r.directory.child lowerName, ?_, WidePath.join_child r.absolute _⟩
    simp [candidate_of_looksForUsual hlooks, usualXmlPaths_of_holds h hupper, hunset, Except.map]

/-- Where the path leads is all that counts. -/
theorem outcome_of_decides (hfile : r.CountsAsFile file) (hsees : r.Sees file)
    (hpath : r.Decides file path) :
    r.outcome = (r.settle path).map (⟨·, file.filePattern⟩) := by
  obtain ⟨taken, hcandidate, htaken⟩ := candidate_of_decides hsees hpath
  have hsettle : r.settle taken = r.settle path := by
    simp only [settle, target, htaken]
  rw [outcome_of_file hfile, hcandidate, ← hsettle]

/-! ## The rules are those of the configuration -/

/-- Whatever the rules give is the outcome. One case for each rule. -/
theorem outcome_of_configures {o : Except ConfigFault Config} (h : r.Configures o) :
    r.outcome = o := by
  cases h with
  | unseenFile _ h => exact outcome_of_unseenFile h
  | badFile _ h hload => exact outcome_of_badFile h hload
  | unseenUsual _ _ hfile hlooks h =>
    rw [outcome_of_file hfile, candidate_of_usualFault hlooks h]
  | nowhere _ hfile h => rw [outcome_of_file hfile, candidate_of_nothingDecides h]
  | found _ _ _ hfile hsees hpath h =>
    rw [outcome_of_decides hfile hsees hpath, settle, h]
    rfl
  | missing _ _ flaw _ hfile hsees hpath h hloop =>
    rw [outcome_of_decides hfile hsees hpath, settle, h]
    cases flaw <;> first | rfl | exact absurd rfl hloop
  | loop _ _ _ hfile hsees hpath h =>
    rw [outcome_of_decides hfile hsees hpath, settle, h]
    rfl
  | unusable _ _ hfile hsees hpath h =>
    rw [outcome_of_decides hfile hsees hpath, settle, h]
    rfl
  | unencodable _ _ _ hfile hsees hpath h =>
    rw [outcome_of_decides hfile hsees hpath, settle, h]
    rfl

/-- The look for a path fails, or nothing says anything, or something decides. -/
theorem decision (r : ConfigRequest) (file : ConfigFile) :
    (r.LooksForUsual file ∧ ∃ fault, r.UsualFault fault) ∨ r.NothingDecides file
      ∨ r.Sees file ∧ ∃ path, r.Decides file path := by
  by_cases hunseen : r.LooksForUsual file ∧ ∃ fault, r.UsualFault fault
  · exact .inl hunseen
  · have hsees : r.Sees file := fun hlooks fault h => hunseen ⟨hlooks, fault, h⟩
    refine .inr ?_
    cases hsetting : r.setting with
    | some text => exact .inr ⟨hsees, _, .setting text hsetting⟩
    | none =>
      cases hargument : r.argument with
      | some path => exact .inr ⟨hsees, _, .argument path hsetting hargument⟩
      | none =>
        cases hsaid : file.xmlPath with
        | some text => exact .inr ⟨hsees, _, .file text hsetting hargument hsaid⟩
        | none =>
          have hlooks : r.LooksForUsual file := ⟨hargument, hsaid⟩
          obtain ⟨lower, upper, hlower, hupper⟩ := holds_of_sees hsees hlooks
          match upper, lower with
          | true, _ => exact .inr ⟨hsees, _, .upper hsetting hlooks hupper⟩
          | false, true => exact .inr ⟨hsees, _, .lower hsetting hlooks hupper hlower⟩
          | false, false => exact .inl ⟨hsetting, hlooks, hupper, hlower⟩

/-- Some rule always applies. -/
theorem exists_configures (r : ConfigRequest) : ∃ o, r.Configures o := by
  have hcounted (file : ConfigFile) (hfile : r.CountsAsFile file) : ∃ o, r.Configures o := by
    rcases r.decision file with ⟨hlooks, fault, h⟩ | h | ⟨hsees, path, hpath⟩
    · exact ⟨_, .unseenUsual file fault hfile hlooks h⟩
    · exact ⟨_, .nowhere file hfile h⟩
    · cases h : r.target path with
      | ok canonical => exact ⟨_, .found file path canonical hfile hsees hpath h⟩
      | error fault =>
        cases fault with
        | nullCharacter => exact ⟨_, .unusable file path hfile hsees hpath h⟩
        | unencodable refused => exact ⟨_, .unencodable file path refused hfile hsees hpath h⟩
        | refused flaw refused =>
          by_cases hloop : flaw = .tooManyLinks
          · rw [hloop] at h
            exact ⟨_, .loop file path refused hfile hsees hpath h⟩
          · exact ⟨_, .missing file path flaw refused hfile hsees hpath h hloop⟩
  cases hthere : r.holds ConfigFile.fileName with
  | error fault => exact ⟨_, .unseenFile fault hthere⟩
  | ok there =>
    cases there with
    | false => exact hcounted .default (.absent hthere)
    | true =>
      cases hload : r.host.loadConfigFile (r.directory.child ConfigFile.fileName) with
      | error fault => exact ⟨_, .badFile fault hthere hload⟩
      | ok file => exact hcounted file (.present file hthere hload)

/-- The rules give the outcome, and no other. -/
theorem outcome_eq_iff_configures {o : Except ConfigFault Config} :
    r.outcome = o ↔ r.Configures o := by
  constructor
  · intro h
    obtain ⟨o', ho'⟩ := r.exists_configures
    rwa [← h, outcome_of_configures ho']
  · exact outcome_of_configures

end ConfigRequest

end BusContract
