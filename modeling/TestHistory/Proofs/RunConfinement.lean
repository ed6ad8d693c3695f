import TestHistory.Proofs.Addresses
import TestHistory.Proofs.Confinement
import TestHistory.Proofs.RunReading

/-!
# Run directories are confined

A run is read from its directory alone: `readRun_congr` says that two file systems with the same
tree below the directory give the same run, or the same error. The lemmas on the way say which file
each part of a run comes from.
-/

namespace TestHistory

variable {fs fs₁ fs₂ : FileSystem} {path dir : Path}

/-! ### What stands at a path -/

/-- What a file says, or why it says nothing. -/
def Entry.text : Entry → Except FileError String
  | .file content _ => (String.fromUTF8? content).elim (.error .notText) .ok
  | .directory => .error .isDirectory

theorem Entry.text_eq_ok_iff {entry : Entry} {text : String} : entry.text = .ok text ↔
    ∃ content modified, entry = .file content modified ∧
      String.fromUTF8? content = some text := by
  cases entry with
  | directory => exact iff_of_false nofun nofun
  | file content modified =>
    have decodes : (file content modified).text = .ok text ↔
        String.fromUTF8? content = some text := by
      rw [Entry.text]
      cases String.fromUTF8? content with
      | none => exact iff_of_false nofun nofun
      | some other => rw [Option.elim_some, Except.ok.injEq, Option.some.injEq]
    rw [decodes]
    constructor
    · intro decoded
      exact ⟨content, modified, rfl, decoded⟩
    · rintro ⟨content, modified, same, decoded⟩
      cases same
      exact decoded

theorem LooksAlike.entryOf? (alike : LooksAlike fs₁ fs₂ path) :
    fs₁.entryOf? path = fs₂.entryOf? path := by
  unfold FileSystem.entryOf?
  rcases alike.cases with ⟨node, first, second⟩ | ⟨e₁, e₂, first, second⟩
  · rw [first, second]
  · rw [first, second]
    rfl

theorem LooksAlike.of_subtree? (same : fs₁.subtree? path = fs₂.subtree? path) :
    LooksAlike fs₁ fs₂ path := by
  change (fs₁.node path).toOption = (fs₂.node path).toOption
  rw [FileSystem.toOption_node, FileSystem.toOption_node]
  exact if_congr Iff.rfl rfl same

namespace FileSystem

theorem isDirectory_iff : fs.isDirectory path = true ↔ fs.entryOf? path = some .directory := by
  unfold isDirectory entryOf?
  cases fs.node path with
  | error e => exact iff_of_false nofun nofun
  | ok node =>
    cases node with
    | file content modified => exact iff_of_false nofun nofun
    | directory entries => exact iff_of_true rfl rfl

theorem isDirectory_congr (same : fs₁.entryOf? path = fs₂.entryOf? path) :
    fs₁.isDirectory path = fs₂.isDirectory path := by
  rw [Bool.eq_iff_iff, isDirectory_iff, isDirectory_iff, same]

theorem contains_eq (fs : FileSystem) (path : Path) :
    fs.contains path = (fs.entryOf? path).isSome := by
  rw [contains, entryOf?, Option.isSome_map]

theorem readText_eq (fs : FileSystem) (path : Path) :
    fs.readText path = (fs.node path).bind fun node => node.entry.text := by
  unfold readText readBytes
  cases fs.node path with
  | error e => rfl
  | ok node =>
    cases node with
    | directory entries => rfl
    | file content modified =>
      change _ = (String.fromUTF8? content).elim _ _
      dsimp only
      cases String.fromUTF8? content with
      | none => rfl
      | some text => rfl

theorem readText_of_entryOf? {entry : Entry} (here : fs.entryOf? path = some entry) :
    fs.readText path = entry.text := by
  obtain ⟨node, found, rfl⟩ := Option.map_eq_some_iff.mp here
  rw [toOption_eq_some_iff] at found
  rw [readText_eq, found]
  rfl

theorem readText_eq_ok_iff {text : String} : fs.readText path = .ok text ↔
    ∃ content modified, fs.entryOf? path = some (.file content modified) ∧
      String.fromUTF8? content = some text := by
  constructor
  · intro read
    rw [readText_eq] at read
    cases found : fs.node path with
    | error e =>
      rw [found] at read
      exact nomatch read
    | ok node =>
      have here : node.entry.text = .ok text := by rwa [found] at read
      obtain ⟨content, modified, same, decoded⟩ := Entry.text_eq_ok_iff.mp here
      exact ⟨content, modified, by rw [entryOf?, found, ← same]; rfl, decoded⟩
  · rintro ⟨content, modified, here, decoded⟩
    rw [readText_of_entryOf? here]
    exact Entry.text_eq_ok_iff.mpr ⟨content, modified, rfl, decoded⟩

/-- Two file systems have the same file at a path, or neither has one. -/
def SameFile (fs₁ fs₂ : FileSystem) (path : Path) : Prop :=
  ∀ content modified, fs₁.entryOf? path = some (.file content modified) ↔
    fs₂.entryOf? path = some (.file content modified)

theorem SameFile.of_entryOf? (same : fs₁.entryOf? path = fs₂.entryOf? path) : SameFile fs₁ fs₂ path :=
  fun content modified => by rw [same]

/-- Errors of reading are not told apart, so a match on them depends on the file alone. -/
theorem readText_cases (same : SameFile fs₁ fs₂ path) :
    (∃ text, fs₁.readText path = .ok text ∧ fs₂.readText path = .ok text) ∨
      ∃ e₁ e₂, fs₁.readText path = .error e₁ ∧ fs₂.readText path = .error e₂ := by
  have texts (text : String) : fs₁.readText path = .ok text ↔ fs₂.readText path = .ok text := by
    rw [readText_eq_ok_iff, readText_eq_ok_iff]
    exact exists_congr fun content => exists_congr fun modified =>
      and_congr_left fun _ => same content modified
  cases first : fs₁.readText path with
  | ok text => exact Or.inl ⟨text, rfl, (texts text).mp first⟩
  | error e₁ =>
    cases second : fs₂.readText path with
    | ok text => exact nomatch first.symm.trans ((texts text).mpr second)
    | error e₂ => exact Or.inr ⟨e₁, e₂, rfl, rfl⟩

theorem modified?_eq_some_iff {modified : Time.Instant} : fs.modified? path = some modified ↔
    ∃ content, fs.entryOf? path = some (.file content modified) := by
  unfold modified? entryOf?
  cases fs.node path with
  | error e => exact iff_of_false nofun nofun
  | ok node =>
    cases node with
    | directory entries => exact iff_of_false nofun nofun
    | file content written => simp [Except.toOption, Node.entry]

theorem modified?_congr (same : SameFile fs₁ fs₂ path) :
    fs₁.modified? path = fs₂.modified? path := by
  ext modified
  rw [modified?_eq_some_iff, modified?_eq_some_iff]
  exact exists_congr fun content => same content modified

end FileSystem

/-! ### The metadata, the report and the log -/

theorem readMetadata_congr
    (same : FileSystem.SameFile fs₁ fs₂ (runMetadataPath dir)) :
    readMetadata fs₁ dir = readMetadata fs₂ dir := by
  unfold readMetadata
  rcases FileSystem.readText_cases same with ⟨text, first, second⟩ | ⟨e₁, e₂, first, second⟩
  · rw [first, second]
  · rw [first, second]

theorem readReport_congr (same : FileSystem.SameFile fs₁ fs₂ (reportPath dir)) :
    readReport fs₁ dir = readReport fs₂ dir := by
  unfold readReport
  rcases FileSystem.readText_cases same with ⟨text, first, second⟩ | ⟨e₁, e₂, first, second⟩
  · rw [first, second]
  · rw [first, second]

theorem startTimeOf_congr
    (same : FileSystem.SameFile fs₁ fs₂ (runMetadataPath dir))
    (metadata : Metadata) : startTimeOf fs₁ dir metadata = startTimeOf fs₂ dir metadata := by
  rw [startTimeOf, startTimeOf, FileSystem.modified?_congr same]

theorem readConsoleLog_congr (same : fs₁.entryOf? path = fs₂.entryOf? path) (maxLines : Nat) :
    readConsoleLog fs₁ path maxLines = readConsoleLog fs₂ path maxLines := by
  have shown (fs : FileSystem) : readConsoleLog fs path maxLines = match fs.entryOf? path with
      | none => return ""
      | some (.file bytes _) => return consoleText maxLines (Text.decodeLossy bytes)
      | some .directory => do
        Logged.warn "Could not read console log"
        return "Error reading log file: " ++ FileError.isDirectory.message := by
    unfold readConsoleLog FileSystem.entryOf?
    cases fs.node path with
    | error e => rfl
    | ok node => cases node <;> rfl
  rw [shown, shown, same]

/-! ### The artifacts -/

theorem subtree?_join_congr (same : fs₁.subtree? dir = fs₂.subtree? dir) {name : String}
    (inside : NamesInside name) : fs₁.subtree? (dir.join name) = fs₂.subtree? (dir.join name) := by
  rw [fs₁.subtree?_join dir inside, fs₂.subtree?_join dir inside, same]

theorem Logged.foldlM_congr {α β : Type} {f g : β → α → Logged β} {l : List α}
    (same : ∀ a ∈ l, ∀ b, f b a = g b a) (b : β) : l.foldlM f b = l.foldlM g b := by
  induction l generalizing b with
  | nil => rfl
  | cons a l ih =>
    rw [List.foldlM_cons, List.foldlM_cons, same a List.mem_cons_self]
    congr 1
    funext next
    exact ih (fun c member => same c (List.mem_cons_of_mem a member)) next

theorem loadArtifact_of_subtree (same : fs₁.subtree? dir = fs₂.subtree? dir) (root : Path)
    (options : ScanOptions) : loadArtifact fs₁ dir root options = loadArtifact fs₂ dir root options :=
  loadArtifact_congr fun path opens => by
    obtain ⟨name, inside, rfl⟩ := opens.exists_name
    exact looksAlike_join same inside

theorem readDeclaredName_congr (same : fs₁.subtree? dir = fs₂.subtree? dir) :
    readDeclaredName fs₁ dir = readDeclaredName fs₂ dir := by
  unfold readDeclaredName
  have alike := (looksAlike_join same namesInside_metadataFile).entryOf?
  rcases FileSystem.readText_cases (.of_entryOf? alike) with
    ⟨text, first, second⟩ | ⟨e₁, e₂, first, second⟩
  · rw [first, second]
  · rw [first, second]

namespace ArtifactIndex

theorem mem_directories {parent : Path} :
    dir ∈ directories fs parent ↔ ∃ names, fs.names parent = .ok names ∧
      ∃ name ∈ names, parent.join name = dir ∧ fs.isDirectory dir = true := by
  unfold directories
  cases fs.names parent with
  | error e => simp
  | ok names =>
    simp only [List.mem_filter, List.mem_map, Except.ok.injEq, exists_eq_left']
    constructor
    · rintro ⟨⟨name, member, rfl⟩, directory⟩
      exact ⟨name, member, rfl, directory⟩
    · rintro ⟨name, member, rfl, directory⟩
      exact ⟨⟨name, member, rfl⟩, directory⟩

/-- In a tree whose entries are named, the directories lie in the tree below the parent. -/
theorem subtree?_of_mem_directories {parent : Path} (named : fs₁.root.Named)
    (same : fs₁.subtree? parent = fs₂.subtree? parent) (member : dir ∈ directories fs₁ parent) :
    fs₁.subtree? dir = fs₂.subtree? dir := by
  obtain ⟨names, listed, name, inside, rfl, -⟩ := mem_directories.mp member
  have entry := (FileSystem.names_named named listed name inside).namesInside
  exact subtree?_join_congr same entry

theorem directories_congr {parent : Path} (named : fs₁.root.Named)
    (same : fs₁.subtree? parent = fs₂.subtree? parent) :
    directories fs₁ parent = directories fs₂ parent := by
  have filtered {names : List String} (listed : fs₁.names parent = .ok names) :
      (names.map parent.join).filter fs₁.isDirectory =
        (names.map parent.join).filter fs₂.isDirectory := by
    refine List.filter_congr fun dir member => ?_
    obtain ⟨name, inside, rfl⟩ := List.mem_map.mp member
    have entry := (FileSystem.names_named named listed name inside).namesInside
    exact FileSystem.isDirectory_congr (looksAlike_join same entry).entryOf?
  unfold directories
  unfold FileSystem.names at filtered ⊢
  rcases (LooksAlike.of_subtree? same).cases with ⟨node, first, second⟩ | ⟨e₁, e₂, first, second⟩
  · rw [first, second]
    rw [first] at filtered
    cases node with
    | file content modified => rfl
    | directory entries => exact filtered rfl
  · rw [first, second]

theorem add_value (fs : FileSystem) (index : ArtifactIndex) (dir : Path) :
    (add fs index dir).value = match (readDeclaredName fs dir).value with
      | none => index
      | some name => ⟨Keyed.put name dir index.entries⟩ := by
  unfold add
  rw [Logged.value_bind]
  cases (readDeclaredName fs dir).value with
  | none => rfl
  | some name =>
    dsimp only
    split <;> rfl

theorem mem_entries_add {index : ArtifactIndex} {entry : String × Path}
    (member : entry ∈ (add fs index dir).value.entries) :
    entry ∈ index.entries ∨ entry.2 = dir := by
  rw [add_value] at member
  split at member
  · exact Or.inl member
  · rcases Keyed.mem_of_mem_put member with rfl | old
    · exact Or.inr rfl
    · exact Or.inl old

theorem mem_entries_foldl_add {dirs : List Path} {index : ArtifactIndex} {entry : String × Path}
    (member : entry ∈ (dirs.foldl (fun index dir => (add fs index dir).value) index).entries) :
    entry ∈ index.entries ∨ entry.2 ∈ dirs := by
  induction dirs generalizing index with
  | nil => exact Or.inl member
  | cons dir dirs ih =>
    rcases ih member with added | later
    · rcases mem_entries_add added with old | same
      · exact Or.inl old
      · exact Or.inr (same ▸ List.mem_cons_self)
    · exact Or.inr (List.mem_cons_of_mem dir later)

/-- Every directory that the index knows is one of those it was built from. -/
theorem mem_directories_of_lookup {parent : Path} {testName : String}
    (found : (build fs parent).value.lookup testName = some dir) : dir ∈ directories fs parent := by
  obtain ⟨front, back, split, -⟩ := List.lookup_eq_some_iff.mp found
  have member : (Text.trim testName, dir) ∈ (build fs parent).value.entries :=
    split ▸ List.mem_append_cons_self
  rw [build, Logged.value_foldlM] at member
  rcases mem_entries_foldl_add member with none | inside
  · exact absurd none List.not_mem_nil
  · exact inside

variable {parent : Path}

theorem build_congr (named : fs₁.root.Named)
    (same : fs₁.subtree? parent = fs₂.subtree? parent) : build fs₁ parent = build fs₂ parent := by
  rw [build, build, ← directories_congr named same]
  refine Logged.foldlM_congr (fun dir member index => ?_) _
  rw [add, add, readDeclaredName_congr (subtree?_of_mem_directories named same member)]

theorem load_congr (named : fs₁.root.Named) (same : fs₁.subtree? parent = fs₂.subtree? parent)
    (testName : String) (root : Path) (options : ScanOptions) :
    (build fs₁ parent).value.load fs₁ testName root options =
      (build fs₁ parent).value.load fs₂ testName root options := by
  unfold load
  cases found : (build fs₁ parent).value.lookup testName with
  | none => rfl
  | some dir =>
    have inside := mem_directories_of_lookup found
    exact loadArtifact_of_subtree (subtree?_of_mem_directories named same inside) root options

end ArtifactIndex

/-! ### The whole run -/

theorem namesInside_artifacts : NamesInside "artifacts" :=
  isSafeName_iff.mp (by decide +kernel)

theorem namesInside_reports : NamesInside "reports" :=
  isSafeName_iff.mp (by decide +kernel)

theorem namesInside_reportFile : NamesInside "report.json" :=
  isSafeName_iff.mp (by decide +kernel)

theorem namesInside_logFile : NamesInside "test-output.log" :=
  isSafeName_iff.mp (by decide +kernel)

theorem Logged.bind_congr {α β : Type} {m : Logged α} {f g : α → Logged β}
    (same : f m.value = g m.value) : m >>= f = m >>= g := by
  change Logged.mk (f m.value).value _ = Logged.mk (g m.value).value _
  rw [same]

theorem readTests_congr (named : fs₁.root.Named)
    (same : fs₁.subtree? (artifactsDir dir) = fs₂.subtree? (artifactsDir dir)) (root : Path)
    (options : ScanOptions) (report : ReportShape) :
    readTests fs₁ dir root options report = readTests fs₂ dir root options report := by
  unfold readTests
  rw [← ArtifactIndex.build_congr named same]
  congr 1
  funext suites
  refine Logged.bind_congr ?_
  congr 1
  funext _
  refine Logged.foldlM_congr (fun spec _ tests => ?_) []
  rw [addSpec, addSpec, ArtifactIndex.load_congr named same]

/-- Only the tree below the directory counts for its run. -/
theorem readRun_congr (named : fs₁.root.Named) (same : fs₁.subtree? dir = fs₂.subtree? dir)
    (root : Path) (options : ScanOptions) :
    readRun fs₁ dir root options = readRun fs₂ dir root options := by
  have artifacts : fs₁.subtree? (artifactsDir dir) = fs₂.subtree? (artifactsDir dir) :=
    subtree?_join_congr same namesInside_artifacts
  have reports : fs₁.subtree? (dir.join "reports") = fs₂.subtree? (dir.join "reports") :=
    subtree?_join_congr same namesInside_reports
  have metadata := FileSystem.SameFile.of_entryOf?
    (looksAlike_join artifacts namesInside_metadataFile).entryOf?
  have report := FileSystem.SameFile.of_entryOf?
    (looksAlike_join reports namesInside_reportFile).entryOf?
  have log := (looksAlike_join reports namesInside_logFile).entryOf?
  have start := startTimeOf_congr metadata
  have tests := readTests_congr named artifacts root options
  unfold readRun assembleRun
  rw [readMetadata_congr metadata, readReport_congr report, consoleLogPath,
    readConsoleLog_congr log]
  simp only [start, tests]

end TestHistory
