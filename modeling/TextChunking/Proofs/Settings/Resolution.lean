import Mathlib
import TextChunking.Ingest.Service
import TextChunking.Proofs.Files.Contents
import TextChunking.Settings.Loading
/-!
# Where settings come from

Settings are read from one origin, and nothing else is read (`Settings.IsOrigin`). A setting that a variable may
override is then decided by that variable and by what was read, and every other setting by what was read alone
(`Settings.IsOverlaid`). **Theorem** (`Settings.loadFrom_spec`): there is always one origin, and loading gives what
it gives, overlaid, if this passes the check. A fault of the origin is a fault of loading, and so is one of the check;
there are no others. Hence a variable can mend what was read, and break it.

A variable counts only if it holds a text, and a file is at its place if there is anything: one that is named by other
bytes is passed over, and a directory is not (`Settings.loadFrom_undecodable`).
-/

namespace TextChunking

/-- Variables that hold texts give them. -/
theorem Environment.get?_ofTexts (texts : List (String × String)) (home? : Option Path) (name : String) :
    (ofTexts texts home?).get? name = (texts.find? fun binding => binding.1 == name).map (·.2) := by
  rw [get?, bytes?, ofTexts, List.find?_map, Option.map_map]
  change ((texts.find? fun binding => binding.1 == name).map fun binding => binding.2.toUTF8).bind _ = _
  cases texts.find? fun binding => binding.1 == name with
  | none => rfl
  | some binding => exact Tree.fromUTF8?_toUTF8 binding.2

namespace Settings

variable {tree other : Tree} {environment changed : Environment} {directory path : Path}
  {written settings : Settings} {outcome : Except Fault Settings} {fault : Fault}

/-! ### Origins -/

/-- What settings are read from. -/
inductive Origin where
  | file (path : Path)
  | defaults

/-- The origin of the settings. A file that a text in the environment names is the origin also if there is no such
file. Otherwise a place for a file is taken if there is anything. -/
inductive IsOrigin (tree : Tree) (environment : Environment) (directory : Path) : Origin → Prop
  | named {path : Path} (h : environment.get? "SEMSPLIT_CONFIG" = some path) :
      IsOrigin tree environment directory (.file path)
  | inDirectory (hunnamed : environment.get? "SEMSPLIT_CONFIG" = none)
      (h : tree.has (environment.settingsFile directory) = true) :
      IsOrigin tree environment directory (.file (environment.settingsFile directory))
  | inWorking (hunnamed : environment.get? "SEMSPLIT_CONFIG" = none)
      (hdirectory : tree.has (environment.settingsFile directory) = false) (h : tree.has localFile = true) :
      IsOrigin tree environment directory (.file localFile)
  | defaults (hunnamed : environment.get? "SEMSPLIT_CONFIG" = none)
      (hdirectory : tree.has (environment.settingsFile directory) = false) (h : tree.has localFile = false) :
      IsOrigin tree environment directory .defaults

/-- What reading an origin comes to. -/
inductive Origin.Gives (tree : Tree) : Origin → Except Fault Settings → Prop
  | settings {path : Path} {text : String} {settings : Settings} (htext : tree.readText path = .ok text)
      (h : ofToml? text = some settings) : Gives tree (.file path) (.ok settings)
  | malformed {path : Path} {text : String} (htext : tree.readText path = .ok text) (h : ofToml? text = none) :
      Gives tree (.file path) (.error .malformedToml)
  | unreadable {path : Path} {cause : FileFault} (h : tree.readText path = .error cause) :
      Gives tree (.file path) (.error (.unreadableSettings cause))
  | defaults : Gives tree .defaults (.ok {})

/-- A file gives what reading it comes to, be it settings or a fault. -/
theorem gives_file_iff : (Origin.file path).Gives tree outcome ↔ ofFile tree path = outcome := by
  constructor
  · intro h
    cases h with
    | settings htext h => simp only [ofFile, htext, h]
    | malformed htext h => simp only [ofFile, htext, h]
    | unreadable h => simp only [ofFile, h]
  · rintro rfl
    rw [ofFile]
    split
    · rename_i htext
      exact .unreadable htext
    · rename_i text htext
      cases h : ofToml? text with
      | none => exact .malformed htext h
      | some settings => exact .settings htext h

/-- The defaults always give settings. -/
theorem gives_defaults_iff : Origin.defaults.Gives tree outcome ↔ .ok {} = outcome := by
  constructor
  · rintro ⟨⟩
    rfl
  · rintro rfl
    exact .defaults

/-- There is an origin for the settings in every tree and environment: the defaults, if nothing else. -/
theorem exists_isOrigin (tree : Tree) (environment : Environment) (directory : Path) :
    ∃ origin, IsOrigin tree environment directory origin := by
  cases hnamed : environment.get? "SEMSPLIT_CONFIG" with
  | some path => exact ⟨_, .named hnamed⟩
  | none =>
    cases hdirectory : tree.has (environment.settingsFile directory) with
    | true => exact ⟨_, .inDirectory hnamed hdirectory⟩
    | false =>
      cases hlocal : tree.has localFile with
      | true => exact ⟨_, .inWorking hnamed hdirectory hlocal⟩
      | false => exact ⟨_, .defaults hnamed hdirectory hlocal⟩

/-- There is only one, for each origin excludes those behind it. -/
theorem IsOrigin.unique {first second : Origin} (hfirst : IsOrigin tree environment directory first)
    (hsecond : IsOrigin tree environment directory second) : first = second := by
  cases hfirst <;> cases hsecond <;> simp_all

/-- Settings are read from their origin. -/
theorem IsOrigin.gives_iff {origin : Origin} (h : IsOrigin tree environment directory origin) :
    origin.Gives tree outcome ↔ readSource tree environment directory = outcome := by
  cases h with
  | named h => simp only [gives_file_iff, readSource, h]
  | inDirectory hunnamed h => simp [gives_file_iff, readSource, hunnamed, h]
  | inWorking hunnamed hdirectory h => simp [gives_file_iff, readSource, hunnamed, hdirectory, h]
  | defaults hunnamed hdirectory h => simp [gives_defaults_iff, readSource, hunnamed, hdirectory, h]

/-- An origin gives the same in trees where it can be read in the same way. -/
theorem Origin.Gives.of_readText_eq {origin : Origin} (h : origin.Gives tree outcome)
    (hsame : ∀ path, origin = .file path → other.readText path = tree.readText path) :
    origin.Gives other outcome := by
  cases h with
  | settings htext h => exact .settings ((hsame _ rfl).trans htext) h
  | malformed htext h => exact .malformed ((hsame _ rfl).trans htext) h
  | unreadable h => exact .unreadable ((hsame _ rfl).trans h)
  | defaults => exact .defaults

/-! ### Overrides -/

/-- A setting that a variable may override. -/
structure Override (α : Type) where
  name : String
  parse : String → Except String α
  get : Settings → α

namespace Override

variable {α : Type}

/-- A size that a variable may override. -/
def size (name : String) (get : Settings → Nat) : Override Nat := { name, parse := parseSize, get }

/-- The sizes that must not be zero, in the order in which they are checked. -/
def nonZero : List (Override Nat) :=
  [size "SEMSPLIT_MAX_CHUNK_SIZE" (·.splitter.maxChunkSize),
    size "SEMSPLIT_MAX_FILE_SIZE_MB" (·.input.maxFileSizeMb),
    size "SEMSPLIT_MAX_LAYOUT_ELEMENTS" (·.limits.maxLayoutElements),
    size "SEMSPLIT_MAX_CONCURRENT_FILES" (·.limits.maxConcurrentFiles)]

/-- All sizes. -/
def sizes : List (Override Nat) := size "SEMSPLIT_OVERLAP" (·.splitter.overlap) :: nonZero

/-- The input mode. -/
def mode : Override InputMode := { name := "SEMSPLIT_INPUT_MODE", parse := InputMode.parse, get := (·.input.mode) }

/-- What the variable gives, if it is set and holds what the setting needs. -/
def given? (override : Override α) (environment : Environment) : Option α :=
  (environment.get? override.name).bind fun text => (override.parse text).toOption

/-- What the variable gives, or else what was read. -/
def effective (override : Override α) (environment : Environment) (written : Settings) : α :=
  (override.given? environment).getD (override.get written)

/-- An override is a variable that stands above what is there. -/
theorem orVariable_eq (override : Override α) (environment : Environment) (written : Settings) :
    orVariable environment override.name override.parse (override.get written) =
      override.effective environment written := by
  rw [orVariable, effective, given?]
  split
  · rename_i hunset
    rw [hunset]
    rfl
  · rename_i text hset
    rw [hset, Option.bind_some]
    split
    · rename_i value hvalue
      rw [hvalue]
      rfl
    · rename_i herror
      rw [herror]
      rfl

/-- A setting is in effect as something other than zero if the variable gives such a number, or gives none where
such a number was read. -/
theorem effective_ne_zero_iff {override : Override Nat} : override.effective environment written ≠ 0 ↔
    override.given? environment ≠ some 0 ∧ (override.given? environment = none → override.get written ≠ 0) := by
  rw [effective]
  cases override.given? environment <;> simp

end Override

/-- Settings with the variables of the environment laid over what was read. -/
structure IsOverlaid (environment : Environment) (written settings : Settings) : Prop where
  size_eq : ∀ override ∈ Override.sizes, override.get settings = override.effective environment written
  mode_eq : settings.input.mode = Override.mode.effective environment written
  includePatterns_eq : settings.input.includePatterns = written.input.includePatterns
  excludePatterns_eq : settings.input.excludePatterns = written.input.excludePatterns
  baseMetadata_eq : settings.output.baseMetadata = written.output.baseMetadata

/-- The variables are laid over the settings one by one, and change no others. -/
theorem isOverlaid_overlay (environment : Environment) (written : Settings) :
    IsOverlaid environment written (written.overlay environment) where
  size_eq := by
    simp only [Override.sizes, Override.nonZero, List.forall_mem_cons, ← Override.orVariable_eq]
    exact ⟨rfl, rfl, rfl, rfl, rfl, List.forall_mem_nil _⟩
  mode_eq := by
    simp only [← Override.orVariable_eq, Override.mode]
    rfl
  includePatterns_eq := rfl
  excludePatterns_eq := rfl
  baseMetadata_eq := rfl

/-- The overlay decides all settings. -/
theorem isOverlaid_iff : IsOverlaid environment written settings ↔ settings = written.overlay environment := by
  refine ⟨fun h => ?_, fun h => h ▸ isOverlaid_overlay environment written⟩
  have hoverlay := isOverlaid_overlay environment written
  have hsizes : ∀ override ∈ Override.sizes, override.get settings = override.get (written.overlay environment) :=
    fun override hmem => (h.size_eq override hmem).trans (hoverlay.size_eq override hmem).symm
  have hmode := h.mode_eq.trans hoverlay.mode_eq.symm
  have hincluded := h.includePatterns_eq.trans hoverlay.includePatterns_eq.symm
  have hexcluded := h.excludePatterns_eq.trans hoverlay.excludePatterns_eq.symm
  have hmetadata := h.baseMetadata_eq.trans hoverlay.baseMetadata_eq.symm
  obtain ⟨⟨chunk, overlap⟩, ⟨mode, included, excluded, size⟩, ⟨metadata⟩, elements, files⟩ := settings
  simp only [Override.sizes, Override.nonZero, Override.size, List.forall_mem_cons] at hsizes
  obtain ⟨rfl, rfl, rfl, rfl, rfl, -⟩ := hsizes
  obtain rfl := hmode
  obtain rfl := hincluded
  obtain rfl := hexcluded
  obtain rfl := hmetadata
  rfl

/-- A setting that one variable may override is the same for every value of the others. -/
theorem Override.effective_congr {α : Type} {override : Override α}
    (h : changed.get? override.name = environment.get? override.name) :
    override.effective changed written = override.effective environment written := by
  rw [effective, effective, given?, given?, h]

/-! ### The check -/

/-- Settings pass the check exactly if none of the sizes that must not be zero is. -/
theorem check_eq_ok_iff : settings.check.result = .ok () ↔
    ∀ override ∈ Override.nonZero, override.get settings ≠ 0 := by
  have hfault : settings.check.result = .ok () ↔ settings.fault? = none := by
    rw [check]
    cases settings.fault? <;> simp
  simp [hfault, fault?, nonZero, Override.nonZero, Override.size]

/-- Settings that pass the check have a splitter. -/
theorem exists_service (h : settings.check.result = .ok ()) :
    ∃ service, Service.ofSettings settings = .ok service ∧ service.result.settings = settings := by
  have hpos : 0 < settings.splitter.maxChunkSize :=
    Nat.pos_of_ne_zero (check_eq_ok_iff.mp h (.size "SEMSPLIT_MAX_CHUNK_SIZE" (·.splitter.maxChunkSize)) (.head _))
  have hsplitter : Splitter.ofSizes? settings.splitter.maxChunkSize settings.splitter.overlap =
      some ⟨settings.splitter.maxChunkSize, settings.splitter.overlap, hpos⟩ := dif_pos hpos
  rw [Service.ofSettings, Pipeline.splitterOf, hsplitter]
  exact ⟨_, rfl, rfl⟩

/-- Overlaid settings pass the check unless a variable gives zero, or what was read is zero and no variable gives
anything. -/
theorem IsOverlaid.check_eq_ok_iff (h : IsOverlaid environment written settings) :
    settings.check.result = .ok () ↔ ∀ override ∈ Override.nonZero, override.given? environment ≠ some 0 ∧
      (override.given? environment = none → override.get written ≠ 0) := by
  rw [Settings.check_eq_ok_iff]
  refine forall₂_congr fun override hmem => ?_
  rw [h.size_eq override (.tail _ hmem), Override.effective_ne_zero_iff]

/-! ### Loading -/

/-- A source that cannot be read is the outcome, whatever the variables say. -/
theorem loadFrom_of_error (h : readSource tree environment directory = .error fault) :
    loadFrom tree environment directory = .error fault := by
  rw [loadFrom, h]
  rfl

/-- What was read is overlaid and checked. -/
theorem loadFrom_of_ok (h : readSource tree environment directory = .ok written) :
    loadFrom tree environment directory =
      (written.overlay environment).check.result.map fun _ => written.overlay environment := by
  simp only [loadFrom, h, check, bind, Except.bind]
  cases (written.overlay environment).fault? <;> rfl

/-- Settings are loaded exactly if they pass the check as they are with the variables laid over what was read. -/
theorem loadFrom_eq_ok_iff : loadFrom tree environment directory = .ok settings ↔
    ∃ written, readSource tree environment directory = .ok written ∧ IsOverlaid environment written settings ∧
      settings.check.result = .ok () := by
  cases hread : readSource tree environment directory with
  | error fault => simp [loadFrom_of_error hread]
  | ok written =>
    simp only [loadFrom_of_ok hread, isOverlaid_iff, Except.ok.injEq, exists_eq_left']
    cases hcheck : (written.overlay environment).check.result with
    | error fault =>
      refine ⟨nofun, ?_⟩
      rintro ⟨rfl, h⟩
      cases hcheck.symm.trans h
    | ok _ =>
      refine ⟨fun h => ?_, fun h => congrArg Except.ok h.1.symm⟩
      cases h
      exact ⟨rfl, hcheck⟩

/-- Loading fails exactly if the source cannot be read, or what comes of it does not pass the check. -/
theorem loadFrom_eq_error_iff : loadFrom tree environment directory = .error fault ↔
    readSource tree environment directory = .error fault ∨
      ∃ written settings, readSource tree environment directory = .ok written ∧
        IsOverlaid environment written settings ∧ settings.check.result = .error fault := by
  cases hread : readSource tree environment directory with
  | error other => simp [loadFrom_of_error hread]
  | ok written =>
    simp only [loadFrom_of_ok hread, isOverlaid_iff, Except.ok.injEq, reduceCtorEq, false_or, exists_and_left,
      exists_eq_left', exists_eq_left]
    cases (written.overlay environment).check.result <;> simp [Except.map]

/-- Once the settings are read, loading succeeds unless a variable gives zero for a setting that must not be zero, or
what was read is zero there and the variable gives nothing. -/
theorem exists_loadFrom_eq_ok_iff (h : readSource tree environment directory = .ok written) :
    (∃ settings, loadFrom tree environment directory = .ok settings) ↔
      ∀ override ∈ Override.nonZero, override.given? environment ≠ some 0 ∧
        (override.given? environment = none → override.get written ≠ 0) := by
  rw [← (isOverlaid_overlay environment written).check_eq_ok_iff, loadFrom_of_ok h]
  cases (written.overlay environment).check.result <;> simp [Except.map]

/-- **Loading settings.** There is one origin, and from other trees with this origin and this file the same is loaded.
What is loaded is what the origin gives, overlaid, if it passes the check, and the faults are those of the origin and
of the check. -/
theorem loadFrom_spec (tree : Tree) (environment : Environment) (directory : Path) :
    (∃ origin, (∀ other, IsOrigin tree environment directory other ↔ other = origin) ∧
      (∀ settings, loadFrom tree environment directory = .ok settings ↔
        ∃ written, origin.Gives tree (.ok written) ∧ IsOverlaid environment written settings ∧
          settings.check.result = .ok ()) ∧
      (∀ fault, loadFrom tree environment directory = .error fault ↔ origin.Gives tree (.error fault) ∨
        ∃ written settings, origin.Gives tree (.ok written) ∧ IsOverlaid environment written settings ∧
          settings.check.result = .error fault) ∧
      (∀ written, origin.Gives tree (.ok written) →
        ((∃ settings, loadFrom tree environment directory = .ok settings) ↔
          ∀ override ∈ Override.nonZero, override.given? environment ≠ some 0 ∧
            (override.given? environment = none → override.get written ≠ 0))) ∧
      ∀ other, IsOrigin other environment directory origin →
        (∀ path, origin = .file path → other.readText path = tree.readText path) →
        loadFrom other environment directory = loadFrom tree environment directory) ∧
    (∀ settings, loadFrom tree environment directory = .ok settings →
      ∃ service, Service.ofSettings settings = .ok service ∧ service.result.settings = settings) ∧
    ∀ changed written first second, IsOverlaid environment written first → IsOverlaid changed written second →
      (∀ override ∈ Override.sizes, changed.get? override.name = environment.get? override.name →
        override.get second = override.get first) ∧
      (changed.get? Override.mode.name = environment.get? Override.mode.name →
        second.input.mode = first.input.mode) := by
  refine ⟨?_, ?_, ?_⟩
  · obtain ⟨origin, horigin⟩ := exists_isOrigin tree environment directory
    refine ⟨origin, fun other => ⟨fun h => h.unique horigin, fun h => h ▸ horigin⟩, ?_, ?_, ?_, ?_⟩
    · simp only [horigin.gives_iff]
      exact fun settings => loadFrom_eq_ok_iff
    · simp only [horigin.gives_iff]
      exact fun fault => loadFrom_eq_error_iff
    · simp only [horigin.gives_iff]
      exact fun written => exists_loadFrom_eq_ok_iff
    · intro other hother hsame
      have hread : readSource other environment directory = readSource tree environment directory :=
        hother.gives_iff.mp ((horigin.gives_iff.mpr rfl).of_readText_eq hsame)
      rw [loadFrom, loadFrom, hread]
  · intro settings h
    obtain ⟨-, -, -, hcheck⟩ := loadFrom_eq_ok_iff.mp h
    exact exists_service hcheck
  · intro changed written first second hfirst hsecond
    refine ⟨fun override hmem hsame => ?_, fun hsame => ?_⟩
    · rw [hfirst.size_eq override hmem, hsecond.size_eq override hmem, Override.effective_congr hsame]
    · rw [hfirst.mode_eq, hsecond.mode_eq, Override.effective_congr hsame]

/-- A chunk size that is zero in the file and mended by its variable, next to a variable that holds no size. A zero for
another setting breaks it again, and without the variables the file is not accepted either. -/
theorem loadFrom_spec_mended :
    let tree : Tree := { root := [("c", .file 0)], contents := #["splitter=[0,7]".toUTF8] }
    let named := [("SEMSPLIT_CONFIG_FILE", "c")]
    let sized := named ++ [("SEMSPLIT_MAX_CHUNK_SIZE", "5"), ("SEMSPLIT_OVERLAP", "")]
    let plain : Environment := .ofTexts named none
    let mended : Environment := .ofTexts sized none
    let broken : Environment := .ofTexts (sized ++ [("SEMSPLIT_MAX_CONCURRENT_FILES", "0")]) none
    loadFrom tree plain "d" = .error (.zeroSetting .maxChunkSize) ∧
      loadFrom tree mended "d" = .ok { splitter := { maxChunkSize := 5, overlap := 7 } } ∧
      ¬ ∃ settings, loadFrom tree broken "d" = .ok settings := by
  intro tree named sized plain mended broken
  have hfile : tree.has "c" = true := by cbv
  have horigin : ∀ environment : Environment, environment.get? "SEMSPLIT_CONFIG" = none →
      environment.settingsFile "d" = "c" → IsOrigin tree environment "d" (.file "c") :=
    fun environment hunnamed hsettings => hsettings ▸ .inDirectory hunnamed (hsettings ▸ hfile)
  have hplain := horigin plain (by simp [Environment.get?_ofTexts, plain, named])
    (by simp [Environment.settingsFile, Environment.get?_ofTexts, plain, named])
  have hmended := horigin mended (by simp [Environment.get?_ofTexts, mended, sized, named])
    (by simp [Environment.settingsFile, Environment.get?_ofTexts, mended, sized, named])
  have hbroken := horigin broken (by simp [Environment.get?_ofTexts, broken, sized, named])
    (by simp [Environment.settingsFile, Environment.get?_ofTexts, broken, sized, named])
  have htext : tree.readText "c" = .ok "splitter=[0,7]" := by cbv
  have htoml : ofToml? "splitter=[0,7]" = some { splitter := { maxChunkSize := 0, overlap := 7 } } := by
    have hlist : "splitter=[0,7]".toList =
        ['s', 'p', 'l', 'i', 't', 't', 'e', 'r', '=', '[', '0', ',', '7', ']'] := by decide
    rw [ofToml?, Toml.Value.readDocument?, hlist]
    rfl
  have hgives := Origin.Gives.settings htext htoml
  have hempty : parseSize "" = .error IntegerFault.empty.message := by cbv
  have hfive : parseSize "5" = .ok 5 := by
    rw [parseSize, show "5".toList = ['5'] by decide]
    rfl
  have hzero : parseSize "0" = .ok 0 := by
    rw [parseSize, show "0".toList = ['0'] by decide]
    rfl
  refine ⟨?_, ?_, ?_⟩
  · obtain ⟨⟨origin, horigin, -, herror, -⟩, -⟩ := loadFrom_spec tree plain "d"
    obtain rfl := (horigin _).mp hplain
    refine (herror _).mpr (.inr ⟨_, _, hgives, isOverlaid_iff.mpr (Eq.refl _), ?_⟩)
    simp [check, fault?, nonZero, overlay, orVariable, Environment.get?_ofTexts, plain, named]
  · obtain ⟨⟨origin, horigin, hok, -⟩, -⟩ := loadFrom_spec tree mended "d"
    obtain rfl := (horigin _).mp hmended
    refine (hok _).mpr ⟨_, hgives, isOverlaid_iff.mpr ?_, rfl⟩
    simp [overlay, orVariable, Environment.get?_ofTexts, mended, sized, named, hfive, hempty]
  · obtain ⟨⟨origin, horigin, -, -, hiff, -⟩, -⟩ := loadFrom_spec tree broken "d"
    obtain rfl := (horigin _).mp hbroken
    intro h
    have hgiven := ((hiff _ hgives).mp h (.size "SEMSPLIT_MAX_CONCURRENT_FILES" (·.limits.maxConcurrentFiles))
      (by simp [Override.nonZero])).1
    refine hgiven ?_
    simp [Override.given?, Override.size, Environment.get?_ofTexts, broken, sized, named, hzero, Except.toOption]

/-- The file of settings in the working directory is followed by its name. -/
theorem follow_localFile (tree : Tree) : tree.follow .use localFile =
    tree.followFrom .use Tree.maxLinks false tree.working.reverse ["semsplit.toml"] := by
  have hnames : Path.names localFile = ["semsplit.toml"] := by cbv
  rw [Tree.follow, Tree.pathFault?_eq_none (by decide) (by decide) (by decide), hnames]
  rfl

/-- The file of the settings in a directory is followed by the two names. -/
theorem follow_settingsFile (tree : Tree) : tree.follow .use "d/config.toml" =
    tree.followFrom .use Tree.maxLinks false tree.working.reverse ["d", "config.toml"] := by
  have hnames : Path.names "d/config.toml" = ["d", "config.toml"] := by cbv
  rw [Tree.follow, Tree.pathFault?_eq_none (by decide) (by decide) (by decide), hnames]
  rfl

/-- The settings are named by bytes that are no text, and come from the working directory. The file of the settings does
not exist, since there is a directory in its place, and nothing is read from the working directory. -/
theorem loadFrom_undecodable :
    let contents := #["splitter=[7,1]".toUTF8]
    let plain : Tree := { root := [("semsplit.toml", .file 0)], contents }
    let occupied : Tree :=
      { root := [("semsplit.toml", .file 0), ("d", .directory [("config.toml", .directory [])])], contents }
    let named : Environment := { bindings := [("SEMSPLIT_CONFIG", ⟨#[0x2f, 0x63, 0x66, 0xe9]⟩)] }
    (named.bytes? "SEMSPLIT_CONFIG").isSome ∧
      loadFrom plain named "d" = .ok { splitter := { maxChunkSize := 7, overlap := 1 } } ∧
      occupied.isFile "d/config.toml" = false ∧ occupied.isFile localFile = true ∧
      loadFrom occupied {} "d" = .error (.unreadableSettings .isDirectory) := by
  intro contents plain occupied named
  have hsizes : ¬ Tree.maxNameBytes < "semsplit.toml".utf8ByteSize ∧ ¬ Tree.maxNameBytes < "d".utf8ByteSize ∧
      ¬ Tree.maxNameBytes < "config.toml".utf8ByteSize := by decide
  have hthere : plain.follow .use localFile = .ok (.node [] "semsplit.toml" (.file 0)) := by
    simp [follow_localFile, plain, Tree.followFrom, Entries.at?, Entries.get?, hsizes]
  have hnothing : plain.follow .use "d/config.toml" = .error .notFound := by
    simp [follow_settingsFile, plain, Tree.followFrom, Entries.at?, Entries.get?, hsizes]
  have hbeside : occupied.follow .use localFile = .ok (.node [] "semsplit.toml" (.file 0)) := by
    simp [follow_localFile, occupied, Tree.followFrom, Entries.at?, Entries.get?, hsizes]
  have hdirectory : occupied.follow .use "d/config.toml" = .ok (.inside ["d", "config.toml"]) := by
    simp [follow_settingsFile, occupied, Tree.followFrom, Entries.at?, Entries.get?, hsizes]
  have hsettings : ∀ environment : Environment, environment.get? "SEMSPLIT_CONFIG_FILE" = none →
      environment.settingsFile "d" = "d/config.toml" := by
    intro environment hunset
    rw [Environment.settingsFile, hunset]
    decide
  -- what each of the four paths is used for
  have hhas : plain.has localFile = true := by
    rw [Tree.has, Tree.reach_eq_ok_iff.mpr ⟨rfl, hthere⟩]
  have hlacks : plain.has "d/config.toml" = false := by
    rw [Tree.has, Tree.reach, show plain.refusal? .look "d/config.toml" = none from rfl]
    simp only [Tree.purposeOf, hnothing]
  have hlook : occupied.reach .look "d/config.toml" = .ok (.inside ["d", "config.toml"]) :=
    Tree.reach_eq_ok_iff.mpr ⟨rfl, hdirectory⟩
  have hread : occupied.reach .read "d/config.toml" = .ok (.inside ["d", "config.toml"]) :=
    Tree.reach_eq_ok_iff.mpr ⟨rfl, hdirectory⟩
  refine ⟨rfl, ?_, ?_, ?_, ?_⟩
  · have horigin : IsOrigin plain named "d" (.file localFile) :=
      .inWorking (by cbv) (hsettings named (by cbv) ▸ hlacks) hhas
    have htext : plain.readText localFile = .ok "splitter=[7,1]" :=
      Tree.Holds.readText ⟨0, ⟨_, _, hthere⟩, rfl⟩ rfl
    have htoml : ofToml? "splitter=[7,1]" = some { splitter := { maxChunkSize := 7, overlap := 1 } } := by
      have hlist : "splitter=[7,1]".toList =
          ['s', 'p', 'l', 'i', 't', 't', 'e', 'r', '=', '[', '7', ',', '1', ']'] := by decide
      rw [ofToml?, Toml.Value.readDocument?, hlist]
      rfl
    refine loadFrom_eq_ok_iff.mpr ⟨_, horigin.gives_iff.mp (.settings htext htoml), isOverlaid_iff.mpr ?_, rfl⟩
    simp [overlay, orVariable, Environment.get?, Environment.bytes?, named]
  · rw [Tree.isFile, hlook]
  · rw [Tree.isFile, Tree.reach_eq_ok_iff.mpr ⟨rfl, hbeside⟩]
  · have hoccupied : IsOrigin occupied {} "d" (.file (Environment.settingsFile {} "d")) := by
      refine .inDirectory rfl ?_
      rw [hsettings {} rfl, Tree.has, hlook]
    have hunreadable : occupied.readText "d/config.toml" = .error .isDirectory := by
      rw [Tree.readText, Tree.readBytes, hread]
      rfl
    exact loadFrom_of_error (hoccupied.gives_iff.mp (.unreadable (hsettings {} rfl ▸ hunreadable)))

end Settings

end TextChunking
