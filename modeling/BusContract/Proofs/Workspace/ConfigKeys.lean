import BusContract.Proofs.Workspace.ConfigFaults

/-!
# Keys of configuration files

No entry of a configuration file goes unnoticed: a file is only accepted if each of its entries is the one
that a field of the configuration was read from, and every other one is told as a fault of the configuration.
A field goes by two names, so there are two ways for a setting to get lost: under a key that is no name, and
under the second name of a field that is given under the first one. Neither is let pass.

A mapping has each key once (`Yaml.nodup_keys_of_read`), so the entry under a key is the only one.

* `ConfigFile.ofEntries_eq_ok_iff`: which entries are accepted, and as what.
* **`Host.config_keys_exact`**: which configuration files are.
-/

namespace BusContract

/-! ## Mappings -/

namespace Yaml

/-- Each key of an entry is there once. -/
theorem nodup_keys_putEntry {key value : Value} {entries : List (Value × Value)}
    (h : (entries.map Prod.fst).Nodup) : ((putEntry key value entries).map Prod.fst).Nodup := by
  have hmem (k : Value) (entries : List (Value × Value)) :
      k ∈ (putEntry key value entries).map Prod.fst → k = key ∨ k ∈ entries.map Prod.fst := by
    induction entries with
    | nil => simp [putEntry]
    | cons entry rest ih =>
      obtain ⟨k', v⟩ := entry
      rw [putEntry]
      split
      · exact .inr
      · simp only [List.map_cons, List.mem_cons]
        rintro (rfl | hk)
        · exact .inr (.inl rfl)
        · exact (ih hk).imp_right .inr
  induction entries with
  | nil => exact List.nodup_singleton key
  | cons entry rest ih =>
    obtain ⟨k, v⟩ := entry
    rw [List.map_cons, List.nodup_cons] at h
    rw [putEntry]
    split
    · exact List.nodup_cons.mpr h
    next hother =>
      refine List.nodup_cons.mpr ⟨fun hk => ?_, ih h.2⟩
      rcases hmem k rest hk with rfl | hk
      · -- a key counts as the same as itself
        simp [Value.sameKey] at hother
      · exact h.1 hk

/-- However often a key is given, it is there once. -/
theorem nodup_keys_putEntries (values : List (Value × Value)) :
    ((putEntries values).map Prod.fst).Nodup := by
  have hput (put : List (Value × Value)) (h : (put.map Prod.fst).Nodup) :
      ((values.foldl (fun put entry => putEntry entry.1 entry.2 put) put).map Prod.fst).Nodup := by
    induction values generalizing put with
    | nil => exact h
    | cons entry values ih => exact ih _ (nodup_keys_putEntry h)
  exact hput [] List.nodup_nil

/-- **A mapping has each key once.** -/
theorem nodup_keys_of_read {text : List Char} {entries : List (Value × Value)}
    (h : read text = .ok (.mapping entries)) : (entries.map Prod.fst).Nodup := by
  obtain ⟨root, -, h⟩ := bind_eq_ok_iff.mp h
  cases root with
  | none => cases h
  | some root =>
    obtain ⟨⟨content, m⟩, hrun, h⟩ := bind_eq_ok_iff.mp h
    obtain rfl : content = .mapping entries := Except.ok.inj h
    unfold Maker.content at hrun
    -- only where the outermost node is a mapping are there entries
    split at hrun
    · simp only [StateT.run_bind, bind_eq_ok_iff] at hrun
      obtain ⟨_, -, ⟨values, _⟩, -, _, -, hlast⟩ := hrun
      obtain rfl := Content.mapping.inj (Prod.mk.inj (Except.ok.inj hlast)).1
      exact nodup_keys_putEntries values
    · simp only [StateT.run_bind, bind_eq_ok_iff] at hrun
      obtain ⟨⟨value, _⟩, -, _, -, hlast⟩ := hrun
      have hcontent := (Prod.mk.inj (Except.ok.inj hlast)).1
      split at hcontent <;> cases hcontent

end Yaml

/-! ## What is accepted -/

namespace ConfigFile

/-- Is the value this text? A text may hold halves of surrogate pairs. Bytes are the text that they are in
UTF-8. -/
inductive IsText : Yaml.Value → WideText → Prop where
  | text (s : WideText) : IsText (.text s) s
  | bytes (b : List UInt8) (chars : List Char) (h : Utf8.decode b = .ok chars) :
      IsText (.bytes b) (.ofChars chars)

/-- Is the value this text, or nothing? -/
inductive IsOptionalText : Yaml.Value → Option WideText → Prop where
  | nothing : IsOptionalText .null none
  | text (value : Yaml.Value) (s : WideText) (h : IsText value s) : IsOptionalText value (some s)

/-- The names of a field. -/
def FieldNames.all (names : FieldNames) : List String := [names.dashed, names.underscored]

/-- Is there an entry under a name? -/
def Names (entries : Entries) (name : String) : Prop := .text name ∈ entries.map Prod.fst

/-- Entries that are accepted as a configuration. Each of them is the one that a field is read from, and a
field without an entry is what it is in a file that says nothing. -/
structure Accepts (entries : Entries) (file : ConfigFile) : Prop where
  supplies : ∀ key value, (key, value) ∈ entries →
    (∃ name ∈ xmlPathNames.all, key = .text name ∧ IsOptionalText value file.xmlPath)
      ∨ ∃ name ∈ filePatternNames.all, key = .text name ∧ IsText value file.filePattern
  once : ∀ names ∈ [xmlPathNames, filePatternNames],
    ¬ (Names entries names.dashed ∧ Names entries names.underscored)
  noXmlPath : (∀ name ∈ xmlPathNames.all, ¬ Names entries name) → file.xmlPath = default.xmlPath
  noFilePattern : (∀ name ∈ filePatternNames.all, ¬ Names entries name) →
    file.filePattern = default.filePattern

/-! ## Readers -/

/-- A text is read from a text, or from bytes that are one. -/
theorem readText_eq_ok_iff {value : Yaml.Value} {s : WideText} : readText value = .ok s ↔ IsText value s := by
  constructor
  · intro h
    unfold readText at h
    split at h
    · obtain rfl := Except.ok.inj h
      exact .text _
    next bytes =>
      split at h
      next chars hdecode =>
        obtain rfl := Except.ok.inj h
        exact .bytes bytes chars hdecode
      next => cases h
    · cases h
  · intro h
    cases h with
    | text => rfl
    | bytes bytes chars hdecode => rw [readText, hdecode]

/-- Nothing is read as nothing. -/
theorem readOptionalText_eq_ok_iff {value : Yaml.Value} {s : Option WideText} :
    readOptionalText value = .ok s ↔ IsOptionalText value s := by
  constructor
  · intro h
    unfold readOptionalText at h
    split at h
    · obtain rfl := Except.ok.inj h
      exact .nothing
    · obtain ⟨s, hs, rfl⟩ := map_eq_ok_iff.mp h
      exact .text _ s (readText_eq_ok_iff.mp hs)
  · intro h
    cases h with
    | nothing => rfl
    | text _ s hs =>
      have hread := readText_eq_ok_iff.mpr hs
      unfold readOptionalText
      split
      · cases hread
      · rw [hread]
        rfl

section Entries

variable {entries : Entries} {names : FieldNames} {name : String} {value : Yaml.Value} {file : ConfigFile}

/-- The value under a name is that of the entry. -/
theorem valueOf?_eq_some_iff (honce : (entries.map Prod.fst).Nodup) :
    valueOf? entries name = some value ↔ (.text name, value) ∈ entries :=
  FileTree.lookup_eq_some_iff honce

/-- There is none if the name is no key. -/
theorem valueOf?_eq_none_iff : valueOf? entries name = none ↔ ¬ Names entries name := by
  rw [valueOf?, List.lookup_eq_none_iff, Names, List.mem_map, not_exists]
  refine forall_congr' fun entry => ?_
  rw [not_and, bne_iff_ne, ne_comm]

/-- A field is read from the entry under its first name, and from that under the second one only if there is
none. -/
theorem find?_eq_some_iff (honce : (entries.map Prod.fst).Nodup) :
    names.find? entries = some (name, value) ↔
      (.text name, value) ∈ entries
        ∧ (name = names.dashed ∨ name = names.underscored ∧ ¬ Names entries names.dashed) := by
  unfold FieldNames.find?
  -- the dashed name is asked for first
  cases hdashed : valueOf? entries names.dashed with
  | some found =>
    have hmem := (valueOf?_eq_some_iff honce).mp hdashed
    constructor
    · intro h
      obtain ⟨rfl, rfl⟩ := Prod.mk.inj (Option.some.inj h)
      exact ⟨hmem, .inl rfl⟩
    · rintro ⟨hvalue, rfl | ⟨-, hnone⟩⟩
      · rw [← valueOf?_eq_some_iff honce, hdashed] at hvalue
        rw [Option.some.inj hvalue]
      · exact absurd (List.mem_map_of_mem hmem) hnone
  | none =>
    have hnone := valueOf?_eq_none_iff.mp hdashed
    constructor
    · intro h
      obtain ⟨found, hfound, heq⟩ := Option.map_eq_some_iff.mp h
      obtain ⟨rfl, rfl⟩ := Prod.mk.inj heq
      exact ⟨(valueOf?_eq_some_iff honce).mp hfound, .inr ⟨rfl, hnone⟩⟩
    · rintro ⟨hvalue, rfl | ⟨rfl, -⟩⟩
      · exact absurd (List.mem_map_of_mem hvalue) hnone
      · rw [(valueOf?_eq_some_iff honce).mpr hvalue]
        rfl

/-- A field is found under one of its names. -/
theorem mem_all_of_find? (honce : (entries.map Prod.fst).Nodup)
    (h : names.find? entries = some (name, value)) : name ∈ names.all := by
  obtain ⟨-, rfl | ⟨rfl, -⟩⟩ := (find?_eq_some_iff honce).mp h
  · exact List.mem_cons_self
  · exact List.mem_cons_of_mem _ List.mem_cons_self

/-- A field that is given once is read from its entry. -/
theorem find?_of_mem (honce : (entries.map Prod.fst).Nodup) (hname : name ∈ names.all)
    (hmem : (.text name, value) ∈ entries)
    (honly : ¬ (Names entries names.dashed ∧ Names entries names.underscored)) :
    names.find? entries = some (name, value) := by
  refine (find?_eq_some_iff honce).mpr ⟨hmem, ?_⟩
  simp only [FieldNames.all, List.mem_cons, List.not_mem_nil, or_false] at hname
  obtain rfl | rfl := hname
  · exact .inl rfl
  · exact .inr ⟨rfl, fun hdashed => honly ⟨hdashed, List.mem_map_of_mem hmem⟩⟩

/-- It is not found if neither is a key. -/
theorem find?_eq_none_iff :
    names.find? entries = none ↔ ∀ name ∈ names.all, ¬ Names entries name := by
  rw [FieldNames.all, List.forall_mem_cons, List.forall_mem_singleton, ← valueOf?_eq_none_iff,
    ← valueOf?_eq_none_iff, FieldNames.find?]
  cases valueOf? entries names.dashed <;> simp

/-- A field is read from its entry, or is what it is without one. -/
theorem readField_eq_ok_iff {α : Type} {absent a : α} {read : Yaml.Value → Reading α} :
    readField names absent read entries = .ok a ↔
      (∀ name value, names.find? entries = some (name, value) → read value = .ok a)
        ∧ (names.find? entries = none → a = absent) := by
  unfold readField
  cases hfind : names.find? entries with
  | none => simp [eq_comm]
  | some found =>
    obtain ⟨name, value⟩ := found
    simp [Reading.under, mapError_eq_ok_iff]

/-- A key is not complained about if a field was read from it. -/
theorem keyComplaint?_eq_none_iff {used : List String} {key : Yaml.Value} :
    keyComplaint? used key = none ↔ ∃ name ∈ used, key = .text name := by
  cases key <;> simp [keyComplaint?, eq_comm]

/-- Nothing is left over if each key is the name that a field is read under. -/
theorem readRest_eq_ok_iff :
    readRest entries = .ok () ↔
      ∀ key value, (key, value) ∈ entries → ∃ names ∈ [xmlPathNames, filePatternNames],
        ∃ name value, names.find? entries = some (name, value) ∧ key = .text name := by
  -- no complaint means that each key supplied a field, and the names that did are the ones found
  have hnone {used : List String} :
      entries.filterMap (fun entry => keyComplaint? used entry.1) = [] ↔
        ∀ key value, (key, value) ∈ entries → ∃ name ∈ used, key = .text name := by
    rw [List.filterMap_eq_nil_iff, Prod.forall]
    simp only [keyComplaint?_eq_none_iff]
  have hused {key : Yaml.Value} :
      (∃ name : String, name ∈ ([xmlPathNames, filePatternNames].filterMap fun names =>
          (names.find? entries).map Prod.fst) ∧ key = .text name) ↔
        ∃ names ∈ [xmlPathNames, filePatternNames], ∃ name value,
          names.find? entries = some (name, value) ∧ key = .text name := by
    simp only [List.mem_filterMap, Option.map_eq_some_iff, Prod.exists]
    constructor
    · rintro ⟨name, ⟨names, hnames, _, value, hfind, rfl⟩, rfl⟩
      exact ⟨names, hnames, _, value, hfind, rfl⟩
    · rintro ⟨names, hnames, name, value, hfind, rfl⟩
      exact ⟨name, ⟨names, hnames, name, value, hfind, rfl⟩, rfl⟩
  simp only [← hused, ← hnone]
  unfold readRest
  dsimp only
  split
  next hleft => exact iff_of_true rfl hleft
  next hleft => exact iff_of_false nofun hleft

/-- The entries are accepted if both fields can be read and nothing is left over. -/
theorem ofEntries_eq_ok_iff_read :
    ofEntries entries = .ok file ↔
      readField xmlPathNames default.xmlPath readOptionalText entries = .ok file.xmlPath
        ∧ readField filePatternNames default.filePattern readText entries = .ok file.filePattern
        ∧ readRest entries = .ok () := by
  obtain ⟨xmlPath, filePattern⟩ := file
  unfold ofEntries
  cases readField xmlPathNames default.xmlPath readOptionalText entries <;>
    cases readField filePatternNames default.filePattern readText entries <;>
      cases readRest entries <;> simp [Reading.apply]

/-- The names of both fields are different. -/
theorem not_mem_all_of_mem_all : ∀ name ∈ xmlPathNames.all, name ∉ filePatternNames.all := by decide

/-- Entries that can be read supply a field each, and no field twice. -/
theorem accepts_of_ofEntries (honce : (entries.map Prod.fst).Nodup) (h : ofEntries entries = .ok file) :
    Accepts entries file := by
  have hdashed : ∀ names ∈ [xmlPathNames, filePatternNames],
      ∀ other ∈ [xmlPathNames, filePatternNames], names.underscored ≠ other.dashed := by decide
  have hunderscored : ∀ names ∈ [xmlPathNames, filePatternNames],
      ∀ other ∈ [xmlPathNames, filePatternNames],
        names.underscored = other.underscored → names.dashed = other.dashed := by decide
  rw [ofEntries_eq_ok_iff_read, readField_eq_ok_iff, readField_eq_ok_iff, readRest_eq_ok_iff] at h
  simp only [readOptionalText_eq_ok_iff, readText_eq_ok_iff, find?_eq_none_iff] at h
  obtain ⟨⟨hpath, hnoPath⟩, ⟨hpattern, hnoPattern⟩, hrest⟩ := h
  refine ⟨fun key value hmem => ?_, ?_, hnoPath, hnoPattern⟩
  · obtain ⟨names, hnames, name, found, hfind, rfl⟩ := hrest key value hmem
    have hname := mem_all_of_find? honce hfind
    -- there is only one entry under the key
    have hfound := (valueOf?_eq_some_iff honce).mpr ((find?_eq_some_iff honce).mp hfind).1
    obtain rfl := Option.some.inj (hfound.symm.trans ((valueOf?_eq_some_iff honce).mpr hmem))
    simp only [List.mem_cons, List.not_mem_nil, or_false] at hnames
    obtain rfl | rfl := hnames
    · exact .inl ⟨name, hname, rfl, hpath name found hfind⟩
    · exact .inr ⟨name, hname, rfl, hpattern name found hfind⟩
  · rintro names hnames ⟨hfirst, hsecond⟩
    -- the entry under the second name would be left over
    obtain ⟨⟨_, value⟩, hmem, rfl⟩ := List.mem_map.mp hsecond
    obtain ⟨other, hother, name, found, hfind, heq⟩ := hrest _ value hmem
    obtain rfl := WideText.ofText_injective (Yaml.Value.text.inj heq)
    obtain ⟨-, h | ⟨h, hnone⟩⟩ := (find?_eq_some_iff honce).mp hfind
    · exact hdashed names hnames other hother h
    · exact hnone (hunderscored names hnames other hother h ▸ hfirst)

/-- Entries that are accepted can be read. -/
theorem Accepts.ofEntries_eq_ok (honce : (entries.map Prod.fst).Nodup) (h : Accepts entries file) :
    ofEntries entries = .ok file := by
  rw [ofEntries_eq_ok_iff_read, readField_eq_ok_iff, readField_eq_ok_iff, readRest_eq_ok_iff]
  simp only [readOptionalText_eq_ok_iff, readText_eq_ok_iff, find?_eq_none_iff]
  refine ⟨⟨fun name value hfind => ?_, h.noXmlPath⟩, ⟨fun name value hfind => ?_, h.noFilePattern⟩,
    fun key value hmem => ?_⟩
  · -- the key that was found is the one that supplies the field, as no name belongs to both
    rcases h.supplies _ _ ((find?_eq_some_iff honce).mp hfind).1 with
      ⟨_, -, -, hvalue⟩ | ⟨other, hother, heq, -⟩
    · exact hvalue
    · obtain rfl := WideText.ofText_injective (Yaml.Value.text.inj heq)
      exact absurd hother (not_mem_all_of_mem_all name (mem_all_of_find? honce hfind))
  · rcases h.supplies _ _ ((find?_eq_some_iff honce).mp hfind).1 with
      ⟨other, hother, heq, -⟩ | ⟨_, -, -, hvalue⟩
    · obtain rfl := WideText.ofText_injective (Yaml.Value.text.inj heq)
      exact absurd (mem_all_of_find? honce hfind) (not_mem_all_of_mem_all name hother)
    · exact hvalue
  · rcases h.supplies key value hmem with ⟨name, hname, rfl, -⟩ | ⟨name, hname, rfl, -⟩
    · exact ⟨xmlPathNames, by simp, name, value,
        find?_of_mem honce hname hmem (h.once _ (by simp)), rfl⟩
    · exact ⟨filePatternNames, by simp, name, value,
        find?_of_mem honce hname hmem (h.once _ (by simp)), rfl⟩

/-- **Which entries are accepted, and as what.** -/
theorem ofEntries_eq_ok_iff (honce : (entries.map Prod.fst).Nodup) :
    ofEntries entries = .ok file ↔ Accepts entries file :=
  ⟨accepts_of_ofEntries honce, fun h => h.ofEntries_eq_ok honce⟩

end Entries

end ConfigFile

/-! ## Files -/

namespace Host

variable {host : Host} {path : FilePath}

/-- Is this what the YAML in a file says? -/
def HasContent (host : Host) (path : FilePath) (content : Yaml.Content) : Prop :=
  ∃ bytes text, host.readBytes path = .ok bytes ∧ Utf8.decode bytes = .ok text
    ∧ Yaml.read (foldLineEnds text) = .ok content

/-- A file is what it says. -/
theorem loadConfigFile_of_hasContent {content : Yaml.Content} (h : host.HasContent path content) :
    host.loadConfigFile path = ConfigFile.ofContent path content := by
  obtain ⟨bytes, text, hbytes, hdecode, hread⟩ := h
  exact loadConfigFile_of_content hbytes hdecode hread

/-- **No entry goes unnoticed.** A mapping is accepted exactly if every entry supplies a field, and any other
one is told as a fault of the configuration; a file that says nothing gives the configuration of one. -/
theorem config_keys_exact (host : Host) (path : FilePath) :
    (∀ entries, host.HasContent path (.mapping entries) →
        (∀ file, host.loadConfigFile path = .ok file ↔ ConfigFile.Accepts entries file)
          ∧ ((∀ file, ¬ ConfigFile.Accepts entries file) →
            ∃ complaints, host.loadConfigFile path = .error (.unfit path complaints)))
      ∧ (host.HasContent path .nothing → host.loadConfigFile path = .ok .default) := by
  refine ⟨fun entries hcontent => ?_, loadConfigFile_of_hasContent⟩
  obtain ⟨bytes, text, -, -, hread⟩ := id hcontent
  have honce := Yaml.nodup_keys_of_read hread
  rw [loadConfigFile_of_hasContent hcontent, ConfigFile.ofContent]
  refine ⟨fun file => mapError_eq_ok_iff.trans (ConfigFile.ofEntries_eq_ok_iff honce), fun hnone => ?_⟩
  cases hentries : ConfigFile.ofEntries entries with
  | ok file => exact absurd ((ConfigFile.ofEntries_eq_ok_iff honce).mp hentries) (hnone file)
  | error complaints => exact ⟨complaints, rfl⟩

/-! ### Names and bytes -/

/-- A configuration file with this text. -/
def configText (text : String) : Host :=
  .flat [(ConfigFile.fileName, .file (Utf8.encode text.toList))]

theorem hasContent_configText {text : String} {content : Yaml.Content}
    (hdecode : Utf8.decode (Utf8.encode text.toList) = .ok text.toList)
    (hread : Yaml.read (foldLineEnds text.toList) = .ok content) :
    (configText text).HasContent (.ofName ConfigFile.fileName) content :=
  ⟨_, _, readBytes_ofName (by decide) (entry?_flat List.lookup_cons_self), hdecode, hread⟩

/-- A field can go by its name with an underscore. -/
theorem config_keys_underscore :
    (configText "file_pattern: a").loadConfigFile (.ofName ConfigFile.fileName) = .ok ⟨none, "a"⟩ := by
  have hcontent : (configText "file_pattern: a").HasContent (.ofName ConfigFile.fileName)
      (.mapping [(.text "file_pattern", .text "a")]) :=
    hasContent_configText (by decide +kernel) (by decide +kernel)
  obtain ⟨hmapping, -⟩ := config_keys_exact (configText "file_pattern: a") (.ofName ConfigFile.fileName)
  refine ((hmapping _ hcontent).1 ⟨none, "a"⟩).mpr ?_
  exact (ConfigFile.ofEntries_eq_ok_iff (by decide)).mp (by decide)

/-- Bytes are taken for the path, although they are no string. -/
theorem config_keys_bytes :
    (configText "xml-path: !!binary eG1s").HasContent (.ofName ConfigFile.fileName)
        (.mapping [(.text "xml-path", .bytes [0x78, 0x6d, 0x6c])])
      ∧ (configText "xml-path: !!binary eG1s").loadConfigFile (.ofName ConfigFile.fileName)
          = .ok ⟨some "xml", "*.xml"⟩ := by
  have hcontent : (configText "xml-path: !!binary eG1s").HasContent (.ofName ConfigFile.fileName)
      (.mapping [(.text "xml-path", .bytes [0x78, 0x6d, 0x6c])]) :=
    hasContent_configText (by decide +kernel) (by decide +kernel)
  refine ⟨hcontent, ?_⟩
  rw [loadConfigFile_of_hasContent hcontent]
  decide +kernel

end Host

end BusContract
