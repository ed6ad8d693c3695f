import TestHistory.Proofs.BrokenRuns
import TestHistory.Proofs.MachineOutput
import TestHistory.Proofs.Precedence
import TestHistory.Proofs.SettingsFiles

/-!
# What a call changes

A call opens the report of its runs or leaves all files as they are (`act_cases`); a report that was
opened holds the front of its page, whatever stops the rest. A report that lies outside the run
directories and is no file of settings is not seen by the next call: it loads the same settings as
far as these are settled, scans the same runs and writes the same page (`run_frame`).
-/

namespace TestHistory

variable {fs changed : FileSystem} {root : Path}

/-! ### Runs -/

/-- A write outside the run directories leaves the runs as they are. -/
theorem FileSystem.Writes.sameRuns {content : ByteArray} {modified : Time.Instant}
    {address : List String} {options : ScanOptions} (regular : fs.Regular)
    (regular' : changed.Regular) (writes : Writes content modified address fs changed)
    (outside : ∀ dir ∈ scannedDirectories fs root options, ∀ directory,
      fs.address? dir = some directory → ¬ directory <+: address) :
    SameRuns fs changed root options := by
  have isDirectory (path : Path) : changed.isDirectory path = fs.isDirectory path := by
    rw [Bool.eq_iff_iff, isDirectory_iff, isDirectory_iff, writes.entryOf?_directory]
  -- A run directory keeps its tree, since the file does not lie in it.
  have tree (name : String) (top : fs.isDirectory root = true) (isName : Path.IsName name)
      (starts : options.runPrefix.toList <+: name.toList)
      (directory : fs.isDirectory (root.join name) = true) :
      fs.subtree? (root.join name) = changed.subtree? (root.join name) := by
    have scanned := mem_scannedDirectories top isName starts directory
    rw [isDirectory_iff, entryOf?_eq] at directory
    obtain ⟨place, leads, -⟩ := Option.bind_eq_some_iff.mp directory
    exact (writes.subtree? (walkFrom?_of_address? leads) (outside _ scanned place leads)).symm
  constructor
  · intro name
    rw [mem_runNames regular.named, mem_runNames regular'.named, isDirectory, isDirectory]
    constructor
    · rintro ⟨top, isName, starts, directory, read⟩
      rw [readRun_congr regular.named (tree name top isName starts directory)] at read
      exact ⟨top, isName, starts, directory, read⟩
    · rintro ⟨top, isName, starts, directory, read⟩
      rw [← readRun_congr regular.named (tree name top isName starts directory)] at read
      exact ⟨top, isName, starts, directory, read⟩
  · intro name member
    obtain ⟨top, isName, starts, directory, -⟩ := (mem_runNames regular.named).mp member
    exact tree name top isName starts directory

/-! ### Reports and what they must not touch -/

namespace FileSystem

/-- Two paths at which a write would set the same file. -/
def SamePlace (fs : FileSystem) (path other : Path) : Prop :=
  ∃ address, fs.location? path = some address ∧ fs.location? other = some address

/-- A write at the path would set a file in the directory, or further below it. -/
def LiesIn (fs : FileSystem) (path dir : Path) : Prop :=
  ∃ directory address, fs.address? dir = some directory ∧ fs.location? path = some address ∧
    directory <+: address

/-- No file can be opened for writing at the path. -/
def Refuses (fs : FileSystem) (path : Path) : Prop :=
  ∀ content modified, ∃ e, fs.setFile path content modified = .error e

end FileSystem

namespace CommandLine

/-- The report lies outside the run directories and is no file of settings. -/
structure ReportApart (o : Occasion) (a : Arguments) (config : Config) : Prop where
  runs : ∀ dir ∈ scannedDirectories o.files a.path config.scan,
    ¬ o.files.LiesIn (config.outputPath a.path) dir
  settings : ∀ file ∈ settingsFiles o.environment a,
    ¬ o.files.SamePlace file (config.outputPath a.path)

/-- A call that leaves all files as they are. -/
def Unchanged (o : Occasion) (ending : Ending) : Prop :=
  ending.files = o.files ∧ ending.written = none

/-- The settings that a load finds in these files, when it lists them in these orders. -/
def settingsOf (o : Occasion) (a : Arguments) (files : FileSystem) (orders : Config.Orders) :
    Except Failure Config :=
  (Config.load files a.path o.environment a.overrides orders).value

def pageBytes (o : Occasion) (config : Config) (runs : List Run) : ByteArray :=
  (pageOf o config (Report.ofRuns runs)).toUTF8

/-- A call that finds what the one before it found, and writes the same page. -/
structure Repeats (o : Occasion) (args : List String) (a : Arguments) (config : Config) :
    Prop where
  /-- The settings are the same for each order, so one value if they are settled. -/
  settings : ∀ orders, settingsOf o a (run o args).files orders = settingsOf o a o.files orders
  settled : (∀ file ∈ settingsFiles o.environment a, Config.Settled o.files file) →
    ∀ orders, settingsOf o a (run o args).files orders = .ok config
  runs : (scan (run o args).files a.path config.scan).value =
    (scan o.files a.path config.scan).value
  page : ∀ (o' : Occasion) (path : Path), o'.files = (run o args).files →
    o'.environment = o.environment → o'.clock.shortText = o.clock.shortText →
    o'.fault = none → settingsOf o a (run o args).files o'.orders = .ok config →
      (run o args).exitCode = 0 → (run o args).written = some path →
        (run o' args).exitCode = 0 ∧ (run o' args).written = some path ∧
          ∃ page, (run o args).files.readBytes path = .ok page ∧
            (run o' args).files.readBytes path = .ok page

/-- What a call with these arguments does to the files. -/
structure Framed (o : Occasion) (args : List String) (a : Arguments) : Prop where
  readOnly : a.command ≠ .generate → Unchanged o (run o args)
  /-- Without settings and a scan, nothing is opened. -/
  failed : ∀ e, (loadRuns o a).value = .error e → Unchanged o (run o args)
  noRuns : FindsNoRuns o a → Unchanged o (run o args)
  refused : ∀ config, settingsOf o a o.files o.orders = .ok config →
    o.files.Refuses (config.outputPath a.path) → Unchanged o (run o args)
  /-- Nothing but the report is opened, and what stands at any other address stays. -/
  oneFile : ∀ config, settingsOf o a o.files o.orders = .ok config →
    (∀ path, (run o args).written = some path → path = config.outputPath a.path) ∧
    (run o args).files.working = o.files.working ∧
    ∀ address, o.files.location? (config.outputPath a.path) ≠ some address →
      (run o args).files.root.entryAt? address = o.files.root.entryAt? address
  /-- A file that was opened holds the front of the page, and all of it after a success. -/
  stored : ∀ path, (run o args).written = some path → ∃ config runs content rest,
    (loadRuns o a).value = .ok (config, runs) ∧
    (run o args).files.readBytes path = .ok content ∧
    pageBytes o config runs = content ++ rest ∧
    ((run o args).exitCode = 0 → content = pageBytes o config runs)
  repeated : o.files.Regular → ∀ config, settingsOf o a o.files o.orders = .ok config →
    ReportApart o a config → Repeats o args a config

/-! ### How a command ends -/

variable {o : Occasion} {a : Arguments}

def Untouched (o : Occasion) (outcome : Outcome) : Prop :=
  outcome.files = o.files ∧ outcome.written = none

/-- A command that opened the report of the runs it found, and wrote what it could. -/
structure Reported (o : Occasion) (a : Arguments) (config : Config) (runs : List Run)
    (outcome : Outcome) : Prop where
  settings : settingsOf o a o.files o.orders = .ok config
  scanned : (scan o.files a.path config.scan).value = .ok runs
  nonempty : runs ≠ []
  files : o.files.setFile (config.outputPath a.path)
    (Fault.cut o.fault (pageBytes o config runs)).1 o.clock.instant = .ok outcome.files
  written : outcome.written = some (config.outputPath a.path)
  failure : outcome.failure = (Fault.cut o.fault (pageBytes o config runs)).2.map fun e =>
    .writeReport (config.outputPath a.path).text e.message

theorem loadRuns_eq_ok_iff {config : Config} {runs : List Run} :
    (loadRuns o a).value = .ok (config, runs) ↔
      settingsOf o a o.files o.orders = .ok config ∧
        (scan o.files a.path config.scan).value = .ok runs := by
  rw [loadRuns_value, settingsOf]
  cases (Config.load o.files a.path o.environment a.overrides o.orders).value with
  | error e => exact iff_of_false nofun nofun
  | ok loaded =>
    rw [Except.map, Except.ok.injEq, Except.ok.injEq, Prod.mk.injEq]
    refine and_congr_right fun same => ?_
    rw [same, scan_value, Except.ok.injEq]

theorem compare_untouched : Untouched o (compare o a).value := by
  unfold compare
  rw [Logged.value_bind]
  split
  · exact ⟨rfl, rfl⟩
  · split
    · exact ⟨rfl, rfl⟩
    · split
      · exact ⟨rfl, rfl⟩
      · rw [Logged.value_bind]
        split
        · exact ⟨rfl, rfl⟩
        · exact ⟨rfl, rfl⟩

theorem flaky_untouched : Untouched o (flaky o a).value := by
  unfold flaky
  rw [Logged.value_bind]
  split
  · exact ⟨rfl, rfl⟩
  · rw [Logged.value_bind]
    split
    · exact ⟨rfl, rfl⟩
    · split
      · exact ⟨rfl, rfl⟩
      · exact ⟨rfl, rfl⟩

theorem generate_value {config : Config} {runs : List Run}
    (loaded : (loadRuns o a).value = .ok (config, runs)) (nonempty : runs ≠ []) :
    (generate o a).value = (writeReport o a config (Report.ofRuns runs)).value := by
  unfold generate
  rw [Logged.value_bind, loaded]
  dsimp only
  rw [Logged.value_bind, if_neg (mt List.isEmpty_iff.mp nonempty)]
  rfl

section WriteReport

variable {config : Config} {runs : List Run}

theorem writeReport_of_refused {e : FileError}
    (refused : o.files.setFile (config.outputPath a.path)
      (Fault.cut o.fault (pageBytes o config runs)).1 o.clock.instant = .error e) :
    Untouched o (writeReport o a config (Report.ofRuns runs)).value := by
  unfold writeReport
  dsimp only
  rw [← pageBytes, FileSystem.write_eq_error_iff.mpr refused]
  exact ⟨rfl, rfl⟩

theorem writeReport_of_opened (loaded : (loadRuns o a).value = .ok (config, runs))
    (nonempty : runs ≠ []) {files : FileSystem}
    (opened : o.files.setFile (config.outputPath a.path)
      (Fault.cut o.fault (pageBytes o config runs)).1 o.clock.instant = .ok files) :
    Reported o a config runs (writeReport o a config (Report.ofRuns runs)).value := by
  obtain ⟨settings, scanned⟩ := loadRuns_eq_ok_iff.mp loaded
  have written := FileSystem.write_eq_ok_iff.mpr ⟨opened, rfl⟩
  unfold writeReport
  dsimp only
  rw [← pageBytes, written]
  cases told : (Fault.cut o.fault (pageBytes o config runs)).2 with
  | none => exact ⟨settings, scanned, nonempty, opened, rfl, by rw [told]; rfl⟩
  | some e => exact ⟨settings, scanned, nonempty, opened, rfl, by rw [told]; rfl⟩

/-- A report whose place is free for a file is opened. -/
theorem generate_reported (loaded : (loadRuns o a).value = .ok (config, runs)) (nonempty : runs ≠ [])
    {address : List String} (placed : o.files.location? (config.outputPath a.path) = some address)
    (free : o.files.root.entryAt? address ≠ some .directory) :
    Reported o a config runs (generate o a).value := by
  obtain ⟨files, opened⟩ := FileSystem.setFile_of_location placed free
    (Fault.cut o.fault (pageBytes o config runs)).1 o.clock.instant
  rw [generate_value loaded nonempty]
  exact writeReport_of_opened loaded nonempty opened

end WriteReport

theorem generate_cases : Untouched o (generate o a).value ∨
    ∃ config runs, Reported o a config runs (generate o a).value := by
  cases loaded : (loadRuns o a).value with
  | error e =>
    unfold generate
    rw [Logged.value_bind, loaded]
    exact Or.inl ⟨rfl, rfl⟩
  | ok found =>
    obtain ⟨config, runs⟩ := found
    by_cases empty : runs = []
    · unfold generate
      rw [Logged.value_bind, loaded, empty]
      exact Or.inl ⟨rfl, rfl⟩
    · rw [generate_value loaded empty]
      cases opened : o.files.setFile (config.outputPath a.path)
          (Fault.cut o.fault (pageBytes o config runs)).1 o.clock.instant with
      | error e => exact Or.inl (writeReport_of_refused opened)
      | ok files => exact Or.inr ⟨config, runs, writeReport_of_opened loaded empty opened⟩

theorem act_cases : Untouched o (act o a).value ∨
    a.command = .generate ∧ ∃ config runs, Reported o a config runs (act o a).value := by
  unfold act
  split
  · rename_i command
    exact generate_cases.imp_right fun reported => ⟨command, reported⟩
  · exact Or.inl compare_untouched
  · exact Or.inl flaky_untouched

/-! ### Whole calls -/

theorem run_of_parse {args : List String} (parsed : Arguments.parse args o.environment = .ok a) :
    run o args = conclude o a (act o a) := by
  rw [run, parsed]

theorem exitCode_of_success {outcome : Logged Outcome} (success : outcome.value.failure = none) :
    (conclude o a outcome).exitCode = 0 := by
  rw [conclude, success]
  rfl

namespace Reported

variable {config : Config} {runs : List Run} {outcome : Outcome}

theorem loaded (reported : Reported o a config runs outcome) :
    (loadRuns o a).value = .ok (config, runs) :=
  loadRuns_eq_ok_iff.mpr ⟨reported.settings, reported.scanned⟩

theorem not_findsNoRuns (reported : Reported o a config runs outcome) : ¬ FindsNoRuns o a := by
  intro none
  obtain ⟨config', loaded⟩ := findsNoRuns_iff.mp none
  cases loaded.symm.trans reported.loaded
  exact reported.nonempty rfl

/-- Where the report stands, nothing else has changed. -/
theorem writes (reported : Reported o a config runs outcome) :
    ∃ address, o.files.location? (config.outputPath a.path) = some address ∧
      FileSystem.Writes (Fault.cut o.fault (pageBytes o config runs)).1 o.clock.instant address
        o.files outcome.files :=
  FileSystem.writes_of_setFile reported.files

theorem success (reported : Reported o a config runs outcome) (sound : o.fault = none) :
    outcome.failure = none := by
  rw [reported.failure, sound, Fault.cut_none, Option.map_none]

theorem complete (reported : Reported o a config runs outcome) (success : outcome.failure = none) :
    (Fault.cut o.fault (pageBytes o config runs)).1 = pageBytes o config runs := by
  rw [reported.failure, Option.map_eq_none_iff] at success
  exact (Fault.cut_eq_none_iff _ _).mp success

theorem settings_again (reported : Reported o a config runs outcome)
    (apart : ReportApart o a config) (orders : Config.Orders) :
    settingsOf o a outcome.files orders = settingsOf o a o.files orders := by
  obtain ⟨address, placed, writes⟩ := reported.writes
  have same : ∀ file ∈ settingsFiles o.environment a,
      outcome.files.entryOf? file = o.files.entryOf? file := by
    intro file member
    rw [writes.entryOf? file,
      if_neg fun here => apart.settings file member ⟨address, here, placed⟩]
  rw [settingsOf, settingsOf, Config.load_congr same]

/-- The report is no run, and it lies in none. -/
theorem scanned_again (reported : Reported o a config runs outcome) (regular : o.files.Regular)
    (apart : ReportApart o a config) : (scan outcome.files a.path config.scan).value = .ok runs := by
  obtain ⟨address, placed, writes⟩ := reported.writes
  have outside : ∀ dir ∈ scannedDirectories o.files a.path config.scan, ∀ directory,
      o.files.address? dir = some directory → ¬ directory <+: address :=
    fun dir member directory leads inside =>
      apart.runs dir member ⟨directory, address, leads, placed, inside⟩
  have regular' := regular.setFile reported.files
  rw [scan_value, ← foundRuns_congr regular regular' (writes.sameRuns regular regular' outside),
    ← scan_value]
  exact reported.scanned

/-- A second report with the same stamp is written as the first one was, as soon as nothing stops
it and its settings are those of the first. -/
theorem repeated (reported : Reported o a config runs outcome) (regular : o.files.Regular)
    (apart : ReportApart o a config) (success : outcome.failure = none) {o' : Occasion}
    (files : o'.files = outcome.files) (environment : o'.environment = o.environment)
    (stamp : o'.clock.shortText = o.clock.shortText) (sound : o'.fault = none)
    (settings : settingsOf o a outcome.files o'.orders = .ok config) :
    (generate o' a).value.failure = none ∧
      (generate o' a).value.written = some (config.outputPath a.path) ∧
      (generate o' a).value.files.readBytes (config.outputPath a.path) =
        outcome.files.readBytes (config.outputPath a.path) := by
  obtain ⟨address, placed, writes⟩ := reported.writes
  have loaded : (loadRuns o' a).value = .ok (config, runs) := by
    rw [loadRuns_eq_ok_iff, settingsOf, files, environment]
    exact ⟨settings, reported.scanned_again regular apart⟩
  have page : pageBytes o' config runs = pageBytes o config runs := by
    rw [pageBytes, pageBytes, pageOf, pageOf, stamp]
  -- The report of the first call is a file, so it can be opened again.
  have placed' : o'.files.location? (config.outputPath a.path) = some address := by
    rw [files, writes.location?, placed]
  have free : o'.files.root.entryAt? address ≠ some .directory := by
    rw [files]
    exact writes.sets.file_not_directory
  have reported' := generate_reported loaded reported.nonempty placed' free
  refine ⟨reported'.success sound, reported'.written, ?_⟩
  rw [FileSystem.readBytes_of_setFile reported'.files,
    FileSystem.readBytes_of_setFile reported.files, reported.complete success, sound,
    Fault.cut_none, page]

end Reported

/-! ### The frame of a call -/

variable {args : List String}

theorem repeats_of_unchanged {config : Config} (unchanged : Unchanged o (run o args))
    (settings : settingsOf o a o.files o.orders = .ok config) : Repeats o args a config where
  settings orders := by rw [unchanged.1]
  settled files orders := by
    rw [unchanged.1, ← settings, settingsOf, settingsOf, Config.load_settled files]
  runs := by rw [unchanged.1]
  -- Nothing was written, so there is no page to repeat.
  page o' path _ _ _ _ _ _ written := nomatch unchanged.2.symm.trans written

theorem repeats_of_reported {config : Config} {runs : List Run}
    (parsed : Arguments.parse args o.environment = .ok a) (command : a.command = .generate)
    (reported : Reported o a config runs (act o a).value) (regular : o.files.Regular)
    (apart : ReportApart o a config) : Repeats o args a config := by
  have called := run_of_parse parsed
  have files : (run o args).files = (act o a).value.files := by
    rw [called]
    rfl
  constructor
  case settings =>
    intro orders
    rw [files, reported.settings_again apart]
  case settled =>
    intro settled orders
    rw [files, reported.settings_again apart, ← reported.settings, settingsOf, settingsOf,
      Config.load_settled settled]
  case runs =>
    rw [files, reported.scanned_again regular apart, reported.scanned]
  case page =>
    intro o' path files' environment stamp sound settings success written
    rw [called] at written success
    obtain rfl := Option.some.inj (reported.written.symm.trans written)
    obtain ⟨success', written', page⟩ := reported.repeated regular apart
      (failure_of_exitCode success) (files'.trans files) environment stamp sound (files ▸ settings)
    have called' : run o' args = conclude o' a (generate o' a) := by
      rw [run_of_parse (environment ▸ parsed), act, command]
    have first := FileSystem.readBytes_of_setFile reported.files
    rw [called', files]
    exact ⟨exitCode_of_success success', written', _, first, page.trans first⟩

theorem framed_of_unchanged (unchanged : Unchanged o (run o args)) : Framed o args a where
  readOnly _ := unchanged
  failed _ _ := unchanged
  noRuns _ := unchanged
  refused _ _ _ := unchanged
  oneFile config _ := by
    refine ⟨fun path written => ?_, by rw [unchanged.1], fun address _ => by rw [unchanged.1]⟩
    exact nomatch unchanged.2.symm.trans written
  stored path written := nomatch unchanged.2.symm.trans written
  repeated _ config settings _ := repeats_of_unchanged unchanged settings

theorem framed_of_reported {config : Config} {runs : List Run}
    (parsed : Arguments.parse args o.environment = .ok a) (command : a.command = .generate)
    (reported : Reported o a config runs (act o a).value) : Framed o args a := by
  have called := run_of_parse parsed
  have only (config' : Config) (settings : settingsOf o a o.files o.orders = .ok config') :
      config' = config :=
    Except.ok.inj (settings.symm.trans reported.settings)
  obtain ⟨address, placed, writes⟩ := reported.writes
  constructor
  case readOnly => exact fun other => absurd command other
  case failed => exact fun e failed => nomatch failed.symm.trans reported.loaded
  case noRuns => exact fun none => absurd none reported.not_findsNoRuns
  case refused =>
    intro config' settings refuses
    obtain rfl := only config' settings
    obtain ⟨e, refused⟩ := refuses (Fault.cut o.fault (pageBytes o config' runs)).1 o.clock.instant
    exact nomatch refused.symm.trans reported.files
  case oneFile =>
    intro config' settings
    obtain rfl := only config' settings
    rw [called]
    refine ⟨fun path written => ?_, writes.working, fun other elsewhere => ?_⟩
    · exact Option.some.inj (written.symm.trans reported.written)
    · refine writes.sets.entryAt? fun same => elsewhere ?_
      rw [placed, same]
  case stored =>
    intro path written
    rw [called] at written ⊢
    obtain rfl := Option.some.inj (reported.written.symm.trans written)
    obtain ⟨rest, whole⟩ := Fault.exists_eq_append o.fault (pageBytes o config runs)
    exact ⟨config, runs, _, rest, reported.loaded, FileSystem.readBytes_of_setFile reported.files,
      whole, fun success => reported.complete (failure_of_exitCode success)⟩
  case repeated =>
    intro regular config' settings apart
    obtain rfl := only config' settings
    exact repeats_of_reported parsed command reported regular apart

theorem framed (parsed : Arguments.parse args o.environment = .ok a) : Framed o args a := by
  rcases act_cases (o := o) (a := a) with untouched | ⟨command, config, runs, reported⟩
  · refine framed_of_unchanged ?_
    rw [run_of_parse parsed]
    exact untouched
  · exact framed_of_reported parsed command reported

/-- No call changes more than one file, and one that opens no report changes none. -/
theorem run_frame (o : Occasion) (args : List String) :
    match Arguments.parse args o.environment with
    | .error _ => Unchanged o (run o args)
    | .ok a => Framed o args a := by
  cases parsed : Arguments.parse args o.environment with
  | error e =>
    rw [run, parsed]
    change Unchanged o (refuse o.files e)
    unfold refuse
    split
    · exact ⟨rfl, rfl⟩
    · exact ⟨rfl, rfl⟩
    · exact ⟨rfl, rfl⟩
  | ok a => exact framed parsed

/-! ### A report beside its run -/

/-- One run, and a file of settings beside it. -/
def resultsWith (settings : String) : Surroundings :=
  placeWith [(".e2e-report.yaml", .file settings.toUTF8 ⟨0, 0⟩), ("run-1", emptyRun)]

def titled (title : String) : Config :=
  { Config.default with title := title }

theorem filled_title {title : String} (plain : Text.trim title = title) (nonempty : title ≠ "") :
    Config.filled ⟨[("title", title)]⟩ "title" = some title := by
  rw [Config.filled, Layer.get?, Config.normalizeKey_keys _ (by decide), List.lookup_cons_self,
    Option.map_some, plain]
  simp [nonempty]

theorem filled_of_ne (title : String) {key : String} (member : key ∈ Config.keys)
    (other : key ≠ "title") : Config.filled ⟨[("title", title)]⟩ key = none := by
  rw [Config.filled, Layer.get?, Config.normalizeKey_keys _ member, Keyed.lookup_cons_other other]
  rfl

theorem ofLayer_title {title : String} (plain : Text.trim title = title) (nonempty : title ≠ "") :
    Config.ofLayer ⟨[("title", title)]⟩ = .ok (titled title) := by
  have number {key : String} (member : key ∈ Config.keys) (other : key ≠ "title") (n : Nat) :
      Config.numberSetting ⟨[("title", title)]⟩ key n = .ok n := by
    rw [Config.numberSetting, filled_of_ne title member other]
  have text {key : String} (member : key ∈ Config.keys) (other : key ≠ "title") (default : String) :
      Config.textSetting ⟨[("title", title)]⟩ key default = default := by
    rw [Config.textSetting, filled_of_ne title member other, Option.getD_none]
  have titleText : Config.textSetting ⟨[("title", title)]⟩ "title" Config.default.title = title := by
    rw [Config.textSetting, filled_title plain nonempty, Option.getD_some]
  rw [Config.ofLayer, number (by decide) (by decide), number (by decide) (by decide),
    number (by decide) (by decide), number (by decide) (by decide), titleText,
    text (by decide) (by decide), text (by decide) (by decide), text (by decide) (by decide)]
  rfl

/-- With nothing but a title in its file, the settings are the usual ones under that title. -/
theorem settingsOf_title {settings title : String} {orders : Config.Orders}
    (plain : Text.trim title = title) (nonempty : title ≠ "")
    (read : (Config.readLayer (resultsWith settings).files ⟨"./.e2e-report.yaml"⟩
      orders.project).value = .ok ⟨[("title", title)]⟩) :
    settingsOf (resultsWith settings) (jsonArguments .generate) (resultsWith settings).files orders =
      .ok (titled title) := by
  have file : (Path.mk ".").join Config.projectFile = ⟨"./.e2e-report.yaml"⟩ := by decide +kernel
  have project : (Config.readProjectLayer (resultsWith settings).files
      (jsonArguments .generate).path (jsonArguments .generate).overrides.config
      orders.project).value = .ok ⟨[("title", title)]⟩ := by
    rw [← file] at read
    exact read
  have user : (Config.readUserLayer (resultsWith settings).files
      ((resultsWith settings).environment.lookup "HOME") orders.user).value = .ok Layer.empty := rfl
  unfold settingsOf Config.load
  rw [Logged.value_bind, user]
  dsimp only
  rw [Logged.value_bind, project]
  dsimp only
  have merged : Layer.mergeAll [Layer.empty, ⟨[("title", title)]⟩,
      Layer.ofVariables (resultsWith settings).environment,
      (jsonArguments .generate).overrides.toLayer] = ⟨[("title", title)]⟩ := rfl
  rw [Logged.value_pure, merged]
  exact ofLayer_title plain nonempty

theorem outputPath_titled (title : String) :
    (titled title).outputPath (jsonArguments .generate).path = ⟨"./test_results_report.html"⟩ := by
  have default : Config.default.outputPath ⟨"."⟩ = ⟨"./test_results_report.html"⟩ := by
    decide +kernel
  exact default

/-- The report stands at an address of its own, beside the run and the settings. -/
theorem reportApart_of_places {o : Occasion} {title : String} (home : o.environment = [])
    (scanned : scannedDirectories o.files ⟨"."⟩ ScanOptions.default = [⟨"./run-1"⟩])
    (run : o.files.address? ⟨"./run-1"⟩ = some ["run-1"])
    (settings : o.files.location? ⟨"./.e2e-report.yaml"⟩ = some [".e2e-report.yaml"])
    (report : o.files.location? ⟨"./test_results_report.html"⟩ =
      some ["test_results_report.html"]) :
    ReportApart o (jsonArguments .generate) (titled title) where
  runs dir member := by
    rintro ⟨directory, address, leads, placed, inside⟩
    rw [outputPath_titled] at placed
    obtain rfl := List.mem_singleton.mp (scanned ▸ member)
    obtain rfl := Option.some.inj (run.symm.trans leads)
    obtain rfl := Option.some.inj (report.symm.trans placed)
    exact absurd inside (by decide)
  settings file member := by
    rintro ⟨address, placed, placed'⟩
    rw [outputPath_titled] at placed'
    rw [home] at member
    obtain rfl := List.mem_singleton.mp (show file ∈ [Path.mk "./.e2e-report.yaml"] from member)
    obtain rfl := Option.some.inj (settings.symm.trans placed)
    exact absurd (report.symm.trans placed') (by decide)

def oneTitle : Occasion :=
  resultsWith "title: A\n"

theorem reportApart_oneTitle : ReportApart oneTitle (jsonArguments .generate) (titled "A") :=
  reportApart_of_places rfl (by decide +kernel) (by decide +kernel) (by decide +kernel)
    (by decide +kernel)

theorem settled_oneTitle : ∀ file ∈ settingsFiles oneTitle.environment (jsonArguments .generate),
    Config.Settled oneTitle.files file := by
  have here : oneTitle.files.readText ⟨"./.e2e-report.yaml"⟩ = .ok "title: A\n" := by
    decide +kernel
  have listed : (Yaml.Value.parse? "title: A\n").map Layer.dictionary = some [("title", "A")] := by
    decide +kernel
  intro file member text value read parsed
  obtain rfl := List.mem_singleton.mp (show file ∈ [Path.mk "./.e2e-report.yaml"] from member)
  obtain rfl := Except.ok.inj (here.symm.trans read)
  rw [parsed] at listed
  refine Layer.orderFree_of_single ?_
  rw [Option.some.inj listed]
  exact Keyed.single_of_nodup (List.nodup_singleton _)

theorem settingsOf_oneTitle :
    settingsOf oneTitle (jsonArguments .generate) oneTitle.files .document = .ok (titled "A") :=
  settingsOf_title (by decide +kernel) (by decide) (by decide +kernel)

/-- In these results a report is opened, with all that was found. -/
theorem reported_results {o : Occasion} {title : String}
    (settings : settingsOf o (jsonArguments .generate) o.files o.orders = .ok (titled title))
    (scanned : (scan o.files ⟨"."⟩ ScanOptions.default).value.toOption.map List.length = some 1)
    (report : o.files.location? ⟨"./test_results_report.html"⟩ = some ["test_results_report.html"])
    (free : o.files.root.entryAt? ["test_results_report.html"] ≠ some .directory) :
    ∃ runs, Reported o (jsonArguments .generate) (titled title) runs
      (generate o (jsonArguments .generate)).value := by
  obtain ⟨runs, found, one⟩ := Option.map_eq_some_iff.mp scanned
  have nonempty : runs ≠ [] := by
    rintro rfl
    exact absurd one (by decide)
  have loaded : (loadRuns o (jsonArguments .generate)).value = .ok (titled title, runs) :=
    loadRuns_eq_ok_iff.mpr ⟨settings, toOption_eq_some_iff.mp found⟩
  exact ⟨runs, generate_reported loaded nonempty ((outputPath_titled title).symm ▸ report) free⟩

theorem run_generate {o : Occasion} (home : o.environment = []) :
    (run o ["--json"]).files = (generate o (jsonArguments .generate)).value.files ∧
    (run o ["--json"]).written = (generate o (jsonArguments .generate)).value.written ∧
    (run o ["--json"]).exitCode =
      ((generate o (jsonArguments .generate)).value.failure.map fun f => f.code.exitCode).getD 0 := by
  have parsed : Arguments.parse ["--json"] o.environment = .ok (jsonArguments .generate) := by
    rw [home]
    rfl
  rw [run_of_parse parsed]
  exact ⟨rfl, rfl, rfl⟩

theorem run_reported {o : Occasion} {title : String} {runs : List Run} (home : o.environment = [])
    (sound : o.fault = none)
    (reported : Reported o (jsonArguments .generate) (titled title) runs
      (generate o (jsonArguments .generate)).value) :
    (run o ["--json"]).exitCode = 0 ∧
      (run o ["--json"]).written = some ⟨"./test_results_report.html"⟩ := by
  obtain ⟨-, written, exitCode⟩ := run_generate home
  rw [exitCode, written, reported.success sound, reported.written, outputPath_titled]
  exact ⟨rfl, rfl⟩

theorem framed_oneTitle : oneTitle.files.Regular ∧
    settingsOf oneTitle (jsonArguments .generate) oneTitle.files .document = .ok (titled "A") ∧
    ReportApart oneTitle (jsonArguments .generate) (titled "A") ∧
    (run oneTitle ["--json"]).exitCode = 0 ∧
    (run oneTitle ["--json"]).written = some ⟨"./test_results_report.html"⟩ ∧
    Repeats oneTitle ["--json"] (jsonArguments .generate) (titled "A") ∧
    ∀ orders, settingsOf oneTitle (jsonArguments .generate) (run oneTitle ["--json"]).files orders =
      .ok (titled "A") := by
  have regular : oneTitle.files.Regular := FileSystem.regular_of_isRegular (by decide +kernel)
  have free : oneTitle.files.root.entryAt? ["test_results_report.html"] = none := by
    decide +kernel
  obtain ⟨runs, reported⟩ := reported_results (o := oneTitle) settingsOf_oneTitle
    (by decide +kernel) (by decide +kernel) (free ▸ nofun)
  obtain ⟨success, written⟩ := run_reported rfl rfl reported
  have framed : Framed oneTitle ["--json"] (jsonArguments .generate) :=
    run_frame oneTitle ["--json"]
  have repeats := framed.repeated regular (titled "A") settingsOf_oneTitle reportApart_oneTitle
  exact ⟨regular, settingsOf_oneTitle, reportApart_oneTitle, success, written, repeats,
    repeats.settled settled_oneTitle⟩

/-! ### Two titles, and a full device -/

/-- Two spellings of one setting, the second with another text. -/
def twoTitles : Occasion :=
  resultsWith "title: A\nTitle: B\n"

def backwards : Layer.HashOrder :=
  ⟨List.reverse, List.reverse_perm⟩

theorem reportApart_twoTitles : ReportApart twoTitles (jsonArguments .generate) (titled "B") :=
  reportApart_of_places rfl (by decide +kernel) (by decide +kernel) (by decide +kernel)
    (by decide +kernel)

theorem settingsOf_twoTitles :
    settingsOf twoTitles (jsonArguments .generate) twoTitles.files .document = .ok (titled "B") ∧
      settingsOf twoTitles (jsonArguments .generate) twoTitles.files ⟨.document, backwards⟩ =
        .ok (titled "A") :=
  ⟨settingsOf_title (by decide +kernel) (by decide) (by decide +kernel),
    settingsOf_title (by decide +kernel) (by decide) (by decide +kernel)⟩

/-- An old report, and no space for a new one. -/
def fullDevice : Occasion :=
  { placeWith [("run-1", emptyRun), ("test_results_report.html", .file "old".toUTF8 ⟨0, 0⟩)] with
    fault := some ⟨0, .noSpace⟩ }

theorem pageBytes_size_pos (o : Occasion) (config : Config) (runs : List Run) :
    0 < (pageBytes o config runs).size := by
  rw [pageBytes, String.toUTF8, String.size_toByteArray, Nat.pos_iff_ne_zero, Ne,
    String.utf8ByteSize_eq_zero_iff]
  intro empty
  have first : (pageOf o config (Report.ofRuns runs)).toList.head? = some '<' := by
    rw [pageOf, Page.render, Page.Html.render, String.toList_ofList]
    rfl
  rw [empty] at first
  exact Option.some_ne_none '<' first.symm

/-- A device without space takes the old report and gives nothing for it. -/
theorem Reported.torn {config : Config} {runs : List Run} {outcome : Outcome} {e : FileError}
    (reported : Reported o a config runs outcome) (full : o.fault = some ⟨0, e⟩) :
    outcome.failure = some (.writeReport (config.outputPath a.path).text e.message) ∧
      outcome.files.readBytes (config.outputPath a.path) = .ok .empty := by
  have nothing : (pageBytes o config runs).extract 0 0 = .empty :=
    ByteArray.extract_eq_empty_iff.mpr (Nat.zero_min _).le
  have cut : Fault.cut o.fault (pageBytes o config runs) = (.empty, some e) := by
    rw [full, Fault.cut, if_pos (pageBytes_size_pos o config runs), nothing]
  refine ⟨by rw [reported.failure, cut, Option.map_some], ?_⟩
  rw [FileSystem.readBytes_of_setFile reported.files, cut]

/-- The next load lists the two titles in the other order and takes the other one. A report that
cannot be written takes the old one with it. -/
theorem loads_differ_and_report_torn :
    (twoTitles.files.Regular ∧ ReportApart twoTitles (jsonArguments .generate) (titled "B") ∧
      (run twoTitles ["--json"]).exitCode = 0 ∧
      settingsOf twoTitles (jsonArguments .generate) twoTitles.files twoTitles.orders =
        .ok (titled "B") ∧
      settingsOf twoTitles (jsonArguments .generate) (run twoTitles ["--json"]).files
        ⟨.document, backwards⟩ = .ok (titled "A") ∧ titled "A" ≠ titled "B") ∧
    (run fullDevice ["--json"]).exitCode = 8 ∧
    fullDevice.files.readBytes ⟨"./test_results_report.html"⟩ = .ok "old".toUTF8 ∧
    (run fullDevice ["--json"]).files.readBytes ⟨"./test_results_report.html"⟩ = .ok .empty := by
  constructor
  · have regular : twoTitles.files.Regular := FileSystem.regular_of_isRegular (by decide +kernel)
    have free : twoTitles.files.root.entryAt? ["test_results_report.html"] = none := by
      decide +kernel
    obtain ⟨first, second⟩ := settingsOf_twoTitles
    obtain ⟨runs, reported⟩ := reported_results (o := twoTitles) first (by decide +kernel)
      (by decide +kernel) (free ▸ nofun)
    have called : Framed twoTitles ["--json"] (jsonArguments .generate) := framed rfl
    have repeats := called.repeated regular (titled "B") first reportApart_twoTitles
    exact ⟨regular, reportApart_twoTitles, (run_reported rfl rfl reported).1, first,
      (repeats.settings _).trans second, by decide⟩
  · have settings : settingsOf fullDevice (jsonArguments .generate) fullDevice.files .document =
        .ok (titled Config.default.title) := rfl
    have old : fullDevice.files.root.entryAt? ["test_results_report.html"] =
        some (.file "old".toUTF8 ⟨0, 0⟩) := rfl
    obtain ⟨runs, reported⟩ := reported_results (o := fullDevice) settings (by decide +kernel)
      (by decide +kernel) (old ▸ nofun)
    obtain ⟨failure, torn⟩ := reported.torn rfl
    obtain ⟨files, -, exitCode⟩ := run_generate (o := fullDevice) rfl
    rw [outputPath_titled] at torn
    rw [exitCode, files, failure]
    exact ⟨rfl, rfl, torn⟩

end CommandLine

end TestHistory
