import BusContract.Proofs.Files.WorkingDirectory
import BusContract.Proofs.Workspace.XmlPath

/-!
# A directory given from the working directory

The directory one works in may be given by a path that does not begin at the root. What the variable
or the argument says is seen from that directory once, so it means the same as if the directory had
been given in full. A path that the configuration file says is seen from the directory before it is
handed on, and so is a directory of a usual name, and both are seen from it once more in the end. For
a directory given in full the second time is as good as none, but otherwise the path is looked for
below the directory of the same name inside the directory.

* **`relative_directory_iff`**: exactly when the directory given from the working directory comes to
  the same as the directory in full.
* `usual_directory_twice`: a directory of a usual name that is not found.
-/

namespace BusContract

/-- What a configuration is asked for with, where the directory one works in is given from the
working directory. -/
structure RelativeRequest where
  host : Host
  argument : Option WidePath
  directory : FilePath
  environment : List (String × WideText)
  relative : directory.isAbsolute = false
  sited : host.Sited

/-- Is a path refused only because it is longer than any path may be? -/
inductive ConfigFault.IsOverlong : ConfigFault → Prop where
  | unreadable (path refused : FilePath) (h : refused.IsOverlong) :
      IsOverlong (.unreadable path .nameTooLong refused)
  | noSuchXmlPath (path : WidePath) (refused : FilePath) (h : refused.IsOverlong) :
      IsOverlong (.noSuchXmlPath path .nameTooLong refused)
  | file (fault : FileFault) (h : fault.IsOverlong) : IsOverlong (.file fault)

/-! ## Faults for the length of a path -/

/-- Is a path that is said refused only because it is longer than any path may be? -/
def PathFault.IsOverlong (fault : PathFault) : Prop :=
  ∃ cause : FileFault, cause.IsOverlong ∧ fault = cause.said

namespace Host

variable {host : Host} {argument : Option WidePath} {directory : FilePath}
  {environment : List (String × WideText)}

/-- A path that is too long is told as one, in either way. -/
theorem resolveXmlPath_of_overlong {path : WidePath} {fault : PathFault}
    (h : host.xmlPathCandidate argument directory environment = .ok (some path))
    (hfault : host.canonicalSaid (directory.wide.join path) = .error fault) (hlong : fault.IsOverlong) :
    ∃ fault', host.resolveXmlPath argument directory environment = .error fault'
      ∧ fault'.IsOverlong := by
  obtain ⟨_, ⟨refused, hrefused, rfl⟩, rfl⟩ := hlong
  refine ⟨_, ?_, .noSuchXmlPath (directory.wide.join path) refused hrefused⟩
  simp only [resolveXmlPath, h, hfault, FileFault.said]

/-- The canonical form does not depend on whether the working directory is said, whatever is seen from the
directory. -/
theorem canonicalSaid_here_join (hsited : host.Sited) (hdirectory : directory.isAbsolute = false)
    (path : WidePath) :
    AgreeUnless PathFault.IsOverlong (host.canonicalSaid (directory.wide.join path))
      (host.canonicalSaid ((host.here.join directory).wide.join path)) := by
  have hspelled := WidePath.spelled?_join directory path
  have hspelled' := WidePath.spelled?_join (host.here.join directory) path
  cases hpath : path.spelled? with
  | none =>
    -- a name that spells nothing leads nowhere from either directory
    rw [hpath] at hspelled hspelled'
    obtain ⟨fault, hfault⟩ := canonicalSaid_of_not_spelled host hspelled
    obtain ⟨fault', hfault'⟩ := canonicalSaid_of_not_spelled host hspelled'
    rw [hfault, hfault']
    exact .inr (.inr rfl)
  | some spelled =>
    rw [hpath] at hspelled hspelled'
    rw [canonicalSaid_of_spelled? hspelled, canonicalSaid_of_spelled? hspelled',
      ← FilePath.join_assoc hdirectory]
    rcases canonical_here_join hsited (directory.join spelled) with
      ⟨fault, hfault, hlong⟩ | ⟨fault, hfault, hlong⟩ | hsame
    · exact .inl ⟨fault.said, by rw [hfault]; rfl, fault, hlong, rfl⟩
    · exact .inr (.inl ⟨fault.said, by rw [hfault]; rfl, fault, hlong, rfl⟩)
    · refine .inr (.inr ?_)
      rw [toOption_mapError, toOption_mapError, hsame]

/-- What a configuration file says does not depend on its path. -/
theorem toOption_loadConfigFile {p q : FilePath} {entry : FileEntry}
    (hp : host.find true p = .ok entry) (hq : host.find true q = .ok entry) :
    (host.loadConfigFile p).toOption = (host.loadConfigFile q).toOption := by
  unfold loadConfigFile readText readBytes
  rw [hp, hq]
  cases entry with
  | directory => rfl
  | link target => rfl
  | file bytes =>
    dsimp only
    cases Utf8.decode bytes with
    | error fault => rfl
    | ok text =>
      dsimp only
      -- the path is only told in the faults
      cases Yaml.read (foldLineEnds text) with
      | error fault => cases fault <;> rfl
      | ok content =>
        cases content with
        | nothing => rfl
        | other => rfl
        | mapping entries => rw [toOption_mapError, toOption_mapError]

end Host

namespace RelativeRequest

/-- The request with the directory in full. -/
def rooted (r : RelativeRequest) : ConfigRequest where
  host := r.host
  argument := r.argument
  directory := r.host.here.join r.directory
  environment := r.environment
  absolute := FilePath.isAbsolute_join rfl r.directory

@[simp] theorem rooted_host (r : RelativeRequest) : r.rooted.host = r.host := rfl

/-- The configuration that comes of it. -/
def outcome (r : RelativeRequest) : Except ConfigFault Config :=
  r.host.loadConfig r.argument r.directory r.environment

/-- The directory of the documents that comes of it if no configuration file is read. -/
def xmlPath (r : RelativeRequest) : Except ConfigFault FilePath :=
  r.host.resolveXmlPath r.argument r.directory r.environment

/-- The same with the directory in full. -/
def rootedXmlPath (r : RelativeRequest) : Except ConfigFault FilePath :=
  r.host.resolveXmlPath r.argument r.rooted.directory r.environment

/-- If neither the variable nor the argument says anything, does the path that decides lead to the
same when it is seen from the directory twice? -/
def TwiceIsOnce (r : RelativeRequest) (file : ConfigFile) : Prop :=
  ∀ path, r.rooted.setting = none → r.argument = none → r.rooted.Sees file →
    r.rooted.Decides file path →
    (r.host.canonicalSaid (r.directory.wide.join (r.directory.wide.join path))).toOption
      = (r.rooted.target path).toOption

variable {r : RelativeRequest} {file : ConfigFile}

/-- The directory of the documents, once the file is known, from either directory. -/
def pathWith (r : RelativeRequest) (file : ConfigFile) : Except ConfigFault FilePath :=
  r.host.xmlPathWith file r.argument r.directory r.environment

def rootedPathWith (r : RelativeRequest) (file : ConfigFile) : Except ConfigFault FilePath :=
  r.host.xmlPathWith file r.argument r.rooted.directory r.environment

/-! ## Paths from the root -/

/-- Names in the directory are names in the same directory from the root. -/
theorem here_join_child (r : RelativeRequest) (name : String) :
    r.host.here.join (r.directory.child name) = r.rooted.directory.child name := by
  show _ = (r.host.here.join r.directory).child name
  have hchild : (r.directory.child name).isAbsolute = false := r.relative
  rw [r.host.here_join r.relative, r.host.here_join hchild, FilePath.child, FilePath.child,
    List.append_assoc]

/-- Whether a name is there is told alike, but for paths that are too long. -/
theorem isPresent_child (r : RelativeRequest) (name : String) :
    AgreeUnless FileFault.IsOverlong (r.host.isPresent (r.directory.child name))
      (r.rooted.holds name) := by
  rw [ConfigRequest.holds, ← r.here_join_child]
  exact Host.isPresent_here_join r.sited (r.directory.child name)

/-- A path that is joined once leads to the same place from the root. -/
theorem canonicalSaid_join (r : RelativeRequest) (path : WidePath) :
    AgreeUnless PathFault.IsOverlong (r.host.canonicalSaid (r.directory.wide.join path))
      (r.rooted.target path) :=
  Host.canonicalSaid_here_join r.sited r.relative path

/-! ## Looking for a directory of a usual name -/

section Looking

variable (hlooks : r.rooted.LooksForUsual file)

include hlooks

/-- Where nothing is given the file changes nothing. -/
theorem pathWith_eq_of_looks :
    r.pathWith file = r.host.resolveXmlPath none r.directory r.environment := by
  have hargument : r.argument = none := hlooks.argument
  rw [pathWith, Host.xmlPathWith, hargument, hlooks.file]
  rfl

/-- The same from the root. -/
theorem rootedPathWith_eq_of_looks :
    r.rootedPathWith file = r.host.resolveXmlPath none r.rooted.directory r.environment := by
  have hargument : r.argument = none := hlooks.argument
  rw [rootedPathWith, Host.xmlPathWith, hargument, hlooks.file]
  rfl

/-- A fault of looking for usual names ends it. -/
theorem pathWith_of_fault {fault : FileFault}
    (h : r.host.usualXmlPaths r.directory = .error fault) :
    r.pathWith file = .error (.file fault) := by
  rw [pathWith_eq_of_looks hlooks]
  apply Host.resolveXmlPath_of_error
  rw [Host.xmlPathCandidate_none, h]
  rfl

/-- The same from the root. -/
theorem rootedPathWith_of_fault {fault : FileFault} (h : r.rooted.UsualFault fault) :
    r.rootedPathWith file = .error (.file fault) := by
  rw [rootedPathWith_eq_of_looks hlooks]
  have husual := ConfigRequest.usualXmlPaths_of_usualFault h
  rw [rooted_host] at husual
  apply Host.resolveXmlPath_of_error
  rw [Host.xmlPathCandidate_none, husual]
  rfl

end Looking

/-! ## The path that is taken -/

/-- Neither of the two fails for the length of a path alone. -/
structure Comparable (r : RelativeRequest) (file : ConfigFile) : Prop where
  short : ∀ fault, r.pathWith file = .error fault → ¬ fault.IsOverlong
  rooted : ∀ fault, r.rootedPathWith file = .error fault → ¬ fault.IsOverlong

namespace Comparable

/-- The name in lower case is looked for first, with the same outcome from either directory. -/
theorem lower_eq (h : r.Comparable file) (hlooks : r.rooted.LooksForUsual file) :
    (r.host.isPresent (r.directory.child lowerName)).toOption
      = (r.rooted.holds lowerName).toOption := by
  rcases r.isPresent_child lowerName with ⟨fault, hfault, hlong⟩ | ⟨fault, hfault, hlong⟩ | hsame
  · have hpath := pathWith_of_fault hlooks (Host.usualXmlPaths_of_lowerFault hfault)
    exact absurd (.file fault hlong) (h.short _ hpath)
  · have hpath := rootedPathWith_of_fault hlooks (.lower fault hfault)
    exact absurd (.file fault hlong) (h.rooted _ hpath)
  · exact hsame

/-- The name in small letters is there or not, from both sides. -/
theorem lower_of_ok (h : r.Comparable file) (hlooks : r.rooted.LooksForUsual file) {there : Bool}
    (hlower : r.rooted.holds lowerName = .ok there) :
    r.host.isPresent (r.directory.child lowerName) = .ok there := by
  rw [← toOption_eq_some_iff, h.lower_eq hlooks, hlower]
  rfl

/-- The other one is too, once the first could be told. -/
theorem upper_eq (h : r.Comparable file) (hlooks : r.rooted.LooksForUsual file) {there : Bool}
    (hlower : r.rooted.holds lowerName = .ok there) :
    (r.host.isPresent (r.directory.child upperName)).toOption
      = (r.rooted.holds upperName).toOption := by
  rcases r.isPresent_child upperName with ⟨fault, hfault, hlong⟩ | ⟨fault, hfault, hlong⟩ | hsame
  · have husual := Host.usualXmlPaths_of_upperFault (h.lower_of_ok hlooks hlower) hfault
    exact absurd (.file fault hlong) (h.short _ (pathWith_of_fault hlooks husual))
  · have hpath := rootedPathWith_of_fault hlooks (.upper fault there hlower hfault)
    exact absurd (.file fault hlong) (h.rooted _ hpath)
  · exact hsame

/-- So the same directories of usual names are found. -/
theorem usualXmlPaths_eq (h : r.Comparable file) (hlooks : r.rooted.LooksForUsual file)
    {lower upper : Bool} (hlower : r.rooted.holds lowerName = .ok lower)
    (hupper : r.rooted.holds upperName = .ok upper) :
    r.host.usualXmlPaths r.directory =
      .ok ((if lower then [r.directory.child lowerName] else [])
        ++ if upper then [r.directory.child upperName] else []) := by
  refine Host.usualXmlPaths_of_isPresent (h.lower_of_ok hlooks hlower) ?_
  rw [← toOption_eq_some_iff, h.upper_eq hlooks hlower, hupper]
  rfl

/-- A fault on the one side is one on the other. -/
theorem exists_fault (h : r.Comparable file) (hlooks : r.rooted.LooksForUsual file)
    {fault : FileFault} (husual : r.rooted.UsualFault fault) :
    ∃ fault', r.pathWith file = .error fault' := by
  cases husual with
  | lower hlower =>
    have hnone := h.lower_eq hlooks
    rw [hlower] at hnone
    obtain ⟨fault', hfault'⟩ := toOption_eq_none_iff.mp hnone
    exact ⟨_, pathWith_of_fault hlooks (Host.usualXmlPaths_of_lowerFault hfault')⟩
  | upper there hlower hupper =>
    have hnone := h.upper_eq hlooks hlower
    rw [hupper] at hnone
    obtain ⟨fault', hfault'⟩ := toOption_eq_none_iff.mp hnone
    have hthere := h.lower_of_ok hlooks hlower
    exact ⟨_, pathWith_of_fault hlooks (Host.usualXmlPaths_of_upperFault hthere hfault')⟩

end Comparable

/-- What the path is looked for with. -/
def given (r : RelativeRequest) (file : ConfigFile) : Option WidePath :=
  r.argument.or ((file.xmlPath.map WidePath.ofText).map r.directory.wide.join)

/-- Nothing is given exactly if usual names are looked for. -/
theorem given_eq_none_iff : r.given file = none ↔ r.rooted.LooksForUsual file := by
  constructor
  · intro h
    rw [given, Option.or_eq_none_iff] at h
    exact ⟨h.1, by simpa using h.2⟩
  · rintro ⟨hargument, hfile⟩
    have hargument : r.argument = none := hargument
    rw [given, hargument, hfile]
    rfl

/-- The path that decides is the one that is taken. Seen from the directory it is what the variable
or the argument said, but the file and the usual names have it seen from there before. -/
theorem exists_candidate (h : r.Comparable file) {path : WidePath} (hsees : r.rooted.Sees file)
    (hpath : r.rooted.Decides file path) :
    ∃ taken, r.host.xmlPathCandidate (r.given file) r.directory r.environment = .ok (some taken)
      ∧ (((r.rooted.setting ≠ none ∨ r.argument ≠ none)
            ∧ r.directory.wide.join taken = r.directory.wide.join path)
          ∨ r.rooted.setting = none ∧ r.argument = none
            ∧ r.directory.wide.join taken = r.directory.wide.join (r.directory.wide.join path)) := by
  cases hpath with
  | setting text hset =>
    have hlookup : r.environment.lookup xmlPathVariable = some text := hset
    refine ⟨.ofText text, ?_, .inl ⟨.inl (by rw [hset]; exact nofun), rfl⟩⟩
    -- the variable is taken whatever else is given, once the look for the usual names is over
    cases hgiven : r.given file with
    | some path => rw [Host.xmlPathCandidate_some, hlookup]; rfl
    | none =>
      have hlooks := given_eq_none_iff.mp hgiven
      obtain ⟨lower, upper, hlower, hupper⟩ := ConfigRequest.holds_of_sees hsees hlooks
      rw [Host.xmlPathCandidate_none, h.usualXmlPaths_eq hlooks hlower hupper, hlookup]
      rfl
  | argument path hunset hargument =>
    have hlookup : r.environment.lookup xmlPathVariable = none := hunset
    have hargument : r.argument = some path := hargument
    refine ⟨path, ?_, .inl ⟨.inr (by rw [hargument]; exact nofun), rfl⟩⟩
    rw [given, hargument, Option.some_or, Host.xmlPathCandidate_some, hlookup]
    rfl
  | file text hunset hargument htext =>
    have hlookup : r.environment.lookup xmlPathVariable = none := hunset
    have hargument : r.argument = none := hargument
    refine ⟨r.directory.wide.join (.ofText text), ?_, .inr ⟨hunset, hargument, rfl⟩⟩
    rw [given, hargument, htext, Option.none_or, Option.map_some, Option.map_some,
      Host.xmlPathCandidate_some, hlookup]
    rfl
  | upper hunset hlooks hupper =>
    have hlookup : r.environment.lookup xmlPathVariable = none := hunset
    obtain ⟨lower, upper, hlower, hupper'⟩ := ConfigRequest.holds_of_sees hsees hlooks
    have htaken := congrArg r.directory.wide.join (WidePath.wide_child r.directory upperName)
    refine ⟨r.directory.child upperName, ?_, .inr ⟨hunset, hlooks.argument, htaken⟩⟩
    rw [given_eq_none_iff.mpr hlooks, Host.xmlPathCandidate_none,
      h.usualXmlPaths_eq hlooks hlower hupper, hlookup]
    cases lower <;> rfl
  | lower hunset hlooks hupper hlower =>
    have hlookup : r.environment.lookup xmlPathVariable = none := hunset
    have htaken := congrArg r.directory.wide.join (WidePath.wide_child r.directory lowerName)
    refine ⟨r.directory.child lowerName, ?_, .inr ⟨hunset, hlooks.argument, htaken⟩⟩
    rw [given_eq_none_iff.mpr hlooks, Host.xmlPathCandidate_none,
      h.usualXmlPaths_eq hlooks hlower hupper, hlookup]
    rfl

/-- Seen once, the path that decides leads to the same from either directory. -/
theorem canonicalSaid_join_eq (h : r.Comparable file) {path taken taken' : WidePath}
    (hcandidate : r.host.xmlPathCandidate (r.given file) r.directory r.environment = .ok (some taken))
    (htaken : r.directory.wide.join taken = r.directory.wide.join path)
    (hcandidate' : r.rooted.candidate file = .ok (some taken'))
    (htaken' : r.rooted.directory.wide.join taken' = r.rooted.directory.wide.join path) :
    (r.host.canonicalSaid (r.directory.wide.join path)).toOption = (r.rooted.target path).toOption := by
  rcases r.canonicalSaid_join path with ⟨fault, hfault, hlong⟩ | ⟨fault, hfault, hlong⟩ | hsame
  · rw [← htaken] at hfault
    obtain ⟨fault', hpath, hlong'⟩ := Host.resolveXmlPath_of_overlong hcandidate hfault hlong
    exact absurd hlong' (h.short fault' hpath)
  · rw [ConfigRequest.target, ← htaken'] at hfault
    obtain ⟨fault', hpath, hlong'⟩ := Host.resolveXmlPath_of_overlong hcandidate' hfault hlong
    exact absurd hlong' (h.rooted fault' hpath)
  · exact hsame

/-- Once the file is known, the directory and the directory in full come to the same exactly if seeing
the path twice is as good as once. -/
theorem pathWith_eq_iff (h : r.Comparable file) :
    (r.pathWith file).toOption = (r.rootedPathWith file).toOption ↔ r.TwiceIsOnce file := by
  rcases r.rooted.decision file with ⟨hlooks, fault, husual⟩ | hnothing | ⟨hsees, path, hpath⟩
  · -- the look fails
    obtain ⟨fault', hfault'⟩ := h.exists_fault hlooks husual
    refine iff_of_true ?_ fun path _ _ hsees _ => absurd husual (hsees hlooks fault)
    rw [hfault', rootedPathWith_of_fault hlooks husual]
    rfl
  · -- nothing says anything
    have hlookup : r.environment.lookup xmlPathVariable = none := hnothing.unset
    have hcandidate : r.host.xmlPathCandidate none r.directory r.environment = .ok none := by
      rw [Host.xmlPathCandidate_none, h.usualXmlPaths_eq hnothing.looks hnothing.lower hnothing.upper,
        hlookup]
      rfl
    have hrooted : r.host.xmlPathCandidate none r.rooted.directory r.environment = .ok none := by
      have husual := ConfigRequest.usualXmlPaths_of_holds hnothing.lower hnothing.upper
      rw [rooted_host] at husual
      rw [Host.xmlPathCandidate_none, husual, hlookup]
      rfl
    refine iff_of_true ?_ fun path _ _ _ hpath => absurd hpath hnothing.not_decides
    rw [pathWith_eq_of_looks hnothing.looks, rootedPathWith_eq_of_looks hnothing.looks,
      Host.resolveXmlPath_of_none hcandidate, Host.resolveXmlPath_of_none hrooted]
    rfl
  · -- the path that decides is taken, and it is a matter of where it leads
    obtain ⟨taken, hcandidate, htaken⟩ := exists_candidate h hsees hpath
    obtain ⟨taken', hcandidate', htaken'⟩ := ConfigRequest.candidate_of_decides hsees hpath
    have hled : (r.pathWith file).toOption
        = (r.host.canonicalSaid (r.directory.wide.join taken)).toOption :=
      Host.toOption_resolveXmlPath hcandidate
    have hled' : (r.rootedPathWith file).toOption = (r.rooted.target path).toOption := by
      rw [ConfigRequest.target, ← htaken']
      exact Host.toOption_resolveXmlPath hcandidate'
    rw [hled, hled']
    rcases htaken with ⟨hsaid, htaken⟩ | ⟨hunset, hargument, htaken⟩
    · -- the variable or the argument says it, and so it is seen once
      have honce := canonicalSaid_join_eq h hcandidate htaken hcandidate' htaken'
      rw [htaken]
      refine iff_of_true honce fun path hunset hargument => ?_
      exact absurd hsaid (not_or.mpr ⟨not_not_intro hunset, not_not_intro hargument⟩)
    · rw [htaken]
      constructor
      · intro hsame path' _ _ _ hpath'
        rw [← hpath.unique hpath']
        exact hsame
      · exact fun htwice => htwice path hunset hargument hsees hpath

/-! ## The configuration file -/

/-- The same configuration file counts, but for paths that are too long. -/
theorem configFileOf_eq (r : RelativeRequest) :
    AgreeUnless ConfigFault.IsOverlong (r.host.configFileOf r.directory)
      (r.host.configFileOf r.rooted.directory) := by
  have hrelative : (r.directory.child ConfigFile.fileName).isAbsolute = false := r.relative
  unfold Host.configFileOf Host.isPresent Host.test
  dsimp only
  rw [← r.here_join_child]
  rcases Host.find_here_join r.sited hrelative true with
    ⟨hlong, hfind⟩ | ⟨hlong, hfind⟩ | hfind
  · rw [hfind]
    exact .inl ⟨_, rfl, .file _ ⟨_, hlong, rfl⟩⟩
  · rw [hfind]
    exact .inr (.inl ⟨_, rfl, .file _ ⟨_, hlong, rfl⟩⟩)
  · right; right
    rw [hfind]
    cases hentry : r.host.find true (r.directory.child ConfigFile.fileName) with
    | error fault =>
      rcases fault with ⟨flaw, refused⟩ | _
      · cases flaw <;> rfl
      · rfl
    | ok entry =>
      rw [hentry] at hfind
      exact Host.toOption_loadConfigFile hentry hfind

/-! ## The whole of it -/

/-- The outcomes are the same exactly if the path that decides leads to the same place when it is joined
twice. -/
theorem outcome_eq_iff (hshort : ∀ fault, r.outcome = .error fault → ¬ fault.IsOverlong)
    (hrooted : ∀ fault, r.rooted.outcome = .error fault → ¬ fault.IsOverlong) :
    r.outcome.toOption = r.rooted.outcome.toOption
      ↔ ∀ file, r.rooted.CountsAsFile file → r.TwiceIsOnce file := by
  rcases r.configFileOf_eq with ⟨fault, hfault, hlong⟩ | ⟨fault, hfault, hlong⟩ | hsame
  · exact absurd hlong (hshort fault (Host.loadConfig_of_error hfault))
  · exact absurd hlong (hrooted fault (Host.loadConfig_of_error hfault))
  cases hfile' : r.host.configFileOf r.rooted.directory with
  | error fault' =>
    rw [hfile'] at hsame
    obtain ⟨fault, hfile⟩ := toOption_eq_none_iff.mp hsame
    have houtcome : r.outcome = .error fault := Host.loadConfig_of_error hfile
    have houtcome' : r.rooted.outcome = .error fault' := Host.loadConfig_of_error hfile'
    refine iff_of_true (by rw [houtcome, houtcome']; rfl) fun file hcounts => ?_
    have hloaded := ConfigRequest.configFileOf_of_countsAsFile hcounts
    exact absurd (hfile'.symm.trans hloaded) nofun
  | ok file =>
    rw [hfile'] at hsame
    have hfile := toOption_eq_some_iff.mp hsame
    have houtcome : r.outcome = (r.pathWith file).map (⟨·, file.filePattern⟩) :=
      Host.loadConfig_of_file hfile
    have houtcome' : r.rooted.outcome = (r.rootedPathWith file).map (⟨·, file.filePattern⟩) :=
      Host.loadConfig_of_file hfile'
    have hcomparable : r.Comparable file := by
      constructor
      · intro fault hfault
        exact hshort fault (by rw [houtcome, hfault]; rfl)
      · intro fault hfault
        exact hrooted fault (by rw [houtcome', hfault]; rfl)
    have hinjective : Function.Injective (Config.mk · file.filePattern) := fun _ _ h =>
      (Config.mk.inj h).1
    rw [houtcome, houtcome', toOption_map, toOption_map, (Option.map_injective hinjective).eq_iff,
      pathWith_eq_iff hcomparable]
    constructor
    · intro htwice file' hcounts
      have hloaded := ConfigRequest.configFileOf_of_countsAsFile hcounts
      obtain rfl := Except.ok.inj (hfile'.symm.trans hloaded)
      exact htwice
    · exact fun htwice => htwice file (ConfigRequest.countsAsFile_of_configFileOf hfile')

/-- **A directory given from the working directory** comes to the same as the directory in full
exactly if a path that comes from the configuration file or is of a usual name leads to the same when
it is seen from the directory twice. What the variable or the argument says always means the same. Only
the length of a path can make another difference. -/
theorem relative_directory_iff (r : RelativeRequest) :
    ((∀ fault, r.xmlPath = .error fault → ¬ fault.IsOverlong) →
      (∀ fault, r.rootedXmlPath = .error fault → ¬ fault.IsOverlong) →
      (r.xmlPath.toOption = r.rootedXmlPath.toOption ↔ r.TwiceIsOnce .default))
    ∧ ((∀ fault, r.outcome = .error fault → ¬ fault.IsOverlong) →
      (∀ fault, r.rooted.outcome = .error fault → ¬ fault.IsOverlong) →
      (r.outcome.toOption = r.rooted.outcome.toOption
        ↔ ∀ file, r.rooted.CountsAsFile file → r.TwiceIsOnce file)) := by
  refine ⟨fun hshort hrooted => ?_, outcome_eq_iff⟩
  -- without a file it is as if there were one that says nothing
  have hpath : r.pathWith .default = r.xmlPath := Host.xmlPathWith_default
  have hpath' : r.rootedPathWith .default = r.rootedXmlPath := Host.xmlPathWith_default
  rw [← hpath, ← hpath']
  refine pathWith_eq_iff ⟨?_, ?_⟩
  · rw [hpath]
    exact hshort
  · rw [hpath']
    exact hrooted

end RelativeRequest

/-! ### A directory below the working directory -/

/-- In the working directory there are documents, and in a directory below it there are others, under
a usual name. -/
def homeHost : Host where
  files := ⟨[(["home"], .directory), (["home", "docs"], .directory), (["home", "sub"], .directory),
    (["home", "sub", "xml"], .directory)]⟩
  workingDirectory := ["home"]
  environment := []

theorem directory_ne_link (target : String) : FileEntry.directory ≠ .link target := nofun

theorem holds_home : homeHost.files.Holds [] "home" .directory :=
  ⟨(by decide : IsProperName "home").isStep, rfl, rfl⟩

/-- The directory one works in is really there. -/
theorem sited_homeHost : homeHost.Sited where
  straight := .child [] "home" .directory .root holds_home directory_ne_link
  directory := rfl

/-- One works in the directory below and asks for the documents next to it. -/
def docsRequest : RelativeRequest :=
  ⟨homeHost, some ⟨"", ["..", "docs"]⟩, ⟨"", ["sub"]⟩, [], rfl, sited_homeHost⟩

/-- One works in the directory below and asks for nothing. -/
def usualRequest : RelativeRequest := ⟨homeHost, none, ⟨"", ["sub"]⟩, [], rfl, sited_homeHost⟩

theorem holds_sub : homeHost.files.Holds ["home"] "sub" .directory :=
  ⟨(by decide : IsProperName "sub").isStep, rfl, rfl⟩

theorem holds_docs : homeHost.files.Holds ["home"] "docs" .directory :=
  ⟨(by decide : IsProperName "docs").isStep, rfl, rfl⟩

theorem holds_xml : homeHost.files.Holds ["home", "sub"] "xml" .directory :=
  ⟨(by decide : IsProperName "xml").isStep, rfl, rfl⟩

/-- No links lead to the directory below. -/
theorem straight_sub : homeHost.files.Straight ["home", "sub"] :=
  .child ["home"] "sub" .directory sited_homeHost.straight holds_sub directory_ne_link

/-- The path that is given leads there. -/
theorem stands_sub : homeHost.Stands ⟨"", ["sub"]⟩ ["home", "sub"] :=
  .relative 0 ["sub"] (by simpa using holds_sub.step) straight_sub

/-- So does the one from the root. -/
theorem stands_home_sub : homeHost.Stands ⟨"/", ["home", "sub"]⟩ ["home", "sub"] :=
  .absolute _ straight_sub

namespace RelativeRequest

/-- A name that is not in the directory below is not found from either path. -/
theorem isPresent_sub_of_none {name : String} (hname : IsStep name)
    (hshort : ¬ (FilePath.child ⟨"", ["sub"]⟩ name).IsOverlong)
    (hlong : ¬ (FilePath.child ⟨"/", ["home", "sub"]⟩ name).IsOverlong)
    (hnone : homeHost.files.entry? (["home", "sub"] ++ [name]) = none) :
    homeHost.isPresent (FilePath.child ⟨"", ["sub"]⟩ name) = .ok false
      ∧ homeHost.isPresent (FilePath.child ⟨"/", ["home", "sub"]⟩ name) = .ok false := by
  unfold Host.isPresent Host.test
  rw [Host.find_child_of_none stands_sub sited_homeHost hshort hname rfl hnone,
    Host.find_child_of_none stands_home_sub sited_homeHost hlong hname rfl hnone]
  exact ⟨rfl, rfl⟩

/-- The directory of a usual name is there, seen from both sides. -/
theorem isPresent_xml :
    homeHost.isPresent (FilePath.child ⟨"", ["sub"]⟩ "xml") = .ok true
      ∧ homeHost.isPresent (FilePath.child ⟨"/", ["home", "sub"]⟩ "xml") = .ok true := by
  unfold Host.isPresent Host.test
  rw [Host.find_child_of_holds stands_sub sited_homeHost (by decide) holds_xml directory_ne_link,
    Host.find_child_of_holds stands_home_sub sited_homeHost (by decide) holds_xml directory_ne_link]
  exact ⟨rfl, rfl⟩

/-- In this tree each name is entered. -/
theorem canonicalFrom_homeHost {p : FilePath} {place : Place} {name : String}
    (h : homeHost.Stands p place) (hholds : homeHost.files.Holds place name .directory)
    (hshort : ¬ (p.child name).IsOverlong) {links : Nat} {within : List FilePath}
    {rest : List String} :
    homeHost.canonicalFrom links within p (name :: rest)
      = homeHost.canonicalFrom links within (p.child name) rest :=
  Host.canonicalFrom_enter h sited_homeHost hshort hholds directory_ne_link

theorem stands_here : homeHost.Stands ⟨"", []⟩ ["home"] := .here sited_homeHost

theorem stands_home : homeHost.Stands (FilePath.top.child "home") ["home"] :=
  .absolute _ sited_homeHost.straight

/-- A path out of the directory leads to the same place from both sides. -/
theorem canonical_docs :
    homeHost.canonical ⟨"", ["sub", "..", "docs"]⟩ = .ok ⟨"/", ["home", "docs"]⟩
      ∧ homeHost.canonical ⟨"/", ["home", "sub", "..", "docs"]⟩ = .ok ⟨"/", ["home", "docs"]⟩ := by
  constructor
  · have hwalk : homeHost.canonicalFrom homeHost.linkRoom [] ⟨"", []⟩
        ["sub", "..", "docs"] = .ok ⟨"", ["docs"]⟩ := by
      rw [canonicalFrom_homeHost stands_here holds_sub (by decide),
        Host.canonicalFrom_up]
      show homeHost.canonicalFrom _ _ ⟨"", []⟩ ["docs"] = _
      rw [canonicalFrom_homeHost stands_here holds_docs (by decide),
        Host.canonicalFrom]
      rfl
    rw [Host.canonical, if_neg (by decide), hwalk]
    rfl
  · have hwalk : homeHost.canonicalFrom homeHost.linkRoom [] .top
        ["home", "sub", "..", "docs"] = .ok ⟨"/", ["home", "docs"]⟩ := by
      rw [canonicalFrom_homeHost (.top homeHost) holds_home (by decide),
        canonicalFrom_homeHost stands_home holds_sub (by decide),
        Host.canonicalFrom_up]
      show homeHost.canonicalFrom _ _ (FilePath.top.child "home") ["docs"] = _
      rw [canonicalFrom_homeHost stands_home holds_docs (by decide),
        Host.canonicalFrom]
      rfl
    rw [Host.canonical, if_pos (by decide), hwalk]
    rfl

/-- The usual directory is in the directory, and not below one of the same name in it. -/
theorem canonical_xml :
    homeHost.canonical ⟨"", ["sub", "sub", "xml"]⟩ = .error (.refused .missing ⟨"", ["sub", "sub"]⟩)
      ∧ homeHost.canonical ⟨"/", ["home", "sub", "xml"]⟩ = .ok ⟨"/", ["home", "sub", "xml"]⟩ := by
  have hstep := holds_sub.step
  constructor
  · have hfind : homeHost.findLast (FilePath.child ⟨"", ["sub"]⟩ "sub")
        = .error (.refused .missing ⟨"", ["sub", "sub"]⟩) :=
      Host.find_child_of_none stands_sub sited_homeHost (by decide) hstep rfl rfl false
    have hwalk : homeHost.canonicalFrom homeHost.linkRoom [] ⟨"", []⟩
        ["sub", "sub", "xml"] = .error (.refused .missing ⟨"", ["sub", "sub"]⟩) := by
      rw [canonicalFrom_homeHost stands_here holds_sub (by decide)]
      exact Host.canonicalFrom_cons_of_missing hstep hfind
    rw [Host.canonical, if_neg (by decide), hwalk]
  · have hwalk : homeHost.canonicalFrom homeHost.linkRoom [] .top
        ["home", "sub", "xml"] = .ok ⟨"/", ["home", "sub", "xml"]⟩ := by
      rw [canonicalFrom_homeHost (.top homeHost) holds_home (by decide),
        canonicalFrom_homeHost stands_home holds_sub (by decide)]
      show homeHost.canonicalFrom _ _ ⟨"/", ["home", "sub"]⟩ ["xml"] = _
      rw [canonicalFrom_homeHost stands_home_sub holds_xml (by decide),
        Host.canonicalFrom]
      rfl
    rw [Host.canonical, if_pos (by decide), hwalk]
    rfl

/-- With the argument the documents next to the directory are taken. -/
theorem xmlPath_docs :
    docsRequest.xmlPath = .ok ⟨"/", ["home", "docs"]⟩
      ∧ docsRequest.rootedXmlPath = .ok ⟨"/", ["home", "docs"]⟩ := by
  obtain ⟨hcanonical, hcanonical'⟩ := canonical_docs
  have hcandidate (directory : FilePath) :
      homeHost.xmlPathCandidate docsRequest.argument directory []
        = .ok (some (FilePath.wide ⟨"", ["..", "docs"]⟩)) :=
    Host.xmlPathCandidate_some _
  constructor
  · exact Host.resolveXmlPath_of_canonical (hcandidate _) hcanonical
  · exact Host.resolveXmlPath_of_canonical (hcandidate _) hcanonical'

/-- So both come to the same configuration. -/
theorem outcome_docs :
    docsRequest.outcome = .ok ⟨⟨"/", ["home", "docs"]⟩, defaultFilePattern⟩
      ∧ docsRequest.rooted.outcome = .ok ⟨⟨"/", ["home", "docs"]⟩, defaultFilePattern⟩ := by
  have hname : IsStep ConfigFile.fileName := (by decide : IsProperName ".busstep.yaml").isStep
  obtain ⟨habsent, habsent'⟩ := isPresent_sub_of_none hname (by decide) (by decide) rfl
  obtain ⟨hpath, hpath'⟩ := xmlPath_docs
  constructor
  · exact Host.loadConfig_of_path (Host.configFileOf_of_absent habsent) hpath
  · exact Host.loadConfig_of_path (Host.configFileOf_of_absent habsent') hpath'

/-- The argument means the same from the directory as from the directory in full. -/
theorem outcome_docs_eq :
    docsRequest.xmlPath.toOption = docsRequest.rootedXmlPath.toOption
      ∧ docsRequest.outcome.toOption = docsRequest.rooted.outcome.toOption
      ∧ docsRequest.outcome = .ok ⟨⟨"/", ["home", "docs"]⟩, defaultFilePattern⟩ := by
  obtain ⟨hpath, hpath'⟩ := xmlPath_docs
  obtain ⟨houtcome, houtcome'⟩ := outcome_docs
  have htwice (file : ConfigFile) : docsRequest.TwiceIsOnce file := fun _ _ hargument =>
    absurd hargument nofun
  obtain ⟨hpaths, houtcomes⟩ := relative_directory_iff docsRequest
  refine ⟨(hpaths ?_ ?_).mpr (htwice _), (houtcomes ?_ ?_).mpr fun file _ => htwice file, houtcome⟩
  · exact fun fault hfault => absurd (hpath.symm.trans hfault) nofun
  · exact fun fault hfault => absurd (hpath'.symm.trans hfault) nofun
  · exact fun fault hfault => absurd (houtcome.symm.trans hfault) nofun
  · exact fun fault hfault => absurd (houtcome'.symm.trans hfault) nofun

/-- The directory holds the documents that are looked for, but they are looked for in a directory of
the same name inside it, and there is none. -/
theorem usual_directory_twice :
    homeHost.isDirectory usualRequest.directory = .ok true
      ∧ usualRequest.xmlPath
        = .error (.noSuchXmlPath ⟨"", ["sub", "sub", "xml"]⟩ .missing ⟨"", ["sub", "sub"]⟩)
      ∧ usualRequest.rootedXmlPath = .ok ⟨"/", ["home", "sub", "xml"]⟩ := by
  have hname : IsStep "XML" := (by decide : IsProperName "XML").isStep
  obtain ⟨hupper, hupper'⟩ := isPresent_sub_of_none hname (by decide) (by decide) rfl
  obtain ⟨hlower, hlower'⟩ := isPresent_xml
  obtain ⟨hcanonical, hcanonical'⟩ := canonical_xml
  refine ⟨?_, ?_, ?_⟩
  · show homeHost.isDirectory (FilePath.child ⟨"", []⟩ "sub") = .ok true
    rw [Host.isDirectory, Host.test,
      Host.find_child_of_holds stands_here sited_homeHost (by decide) holds_sub directory_ne_link]
  · have hcandidate : homeHost.xmlPathCandidate none ⟨"", ["sub"]⟩ []
        = .ok (some (FilePath.child ⟨"", ["sub"]⟩ "xml")) := by
      rw [Host.xmlPathCandidate_none, Host.usualXmlPaths_of_isPresent hlower hupper]
      rfl
    exact Host.resolveXmlPath_of_missing hcandidate hcanonical
  · have hcandidate : homeHost.xmlPathCandidate none ⟨"/", ["home", "sub"]⟩ []
        = .ok (some (FilePath.child ⟨"/", ["home", "sub"]⟩ "xml")) := by
      rw [Host.xmlPathCandidate_none, Host.usualXmlPaths_of_isPresent hlower' hupper']
      rfl
    exact Host.resolveXmlPath_of_canonical hcandidate hcanonical'

end RelativeRequest

end BusContract
