import TestHistory.Proofs.ByteLimits
import TestHistory.Proofs.Confinement
import TestHistory.Proofs.TextLimits

/-!
# The files of an artifact

Metadata lists files in three lists, which may overlap. `loadArtifact_embeds` says which names get a
content, and that the list of events counts before the resources and these before the logs.
-/

namespace TestHistory

/-- A name inside the directory under which nothing stands. -/
structure IsMissing (fs : FileSystem) (dir : Path) (name : String) : Prop where
  inside : NamesInside name
  absent : fs.contains (dir.join name) = false

/-- The content for a name in a list of some kind. -/
inductive Shows (fs : FileSystem) (options : ScanOptions) (dir : Path) (name : String) :
    FileKind → FileContent → Prop where
  | refused (kind : FileKind) (outside : ¬ NamesInside name) :
      Shows fs options dir name kind ⟨"Refusing to read '" ++ name ++
        "': path escapes the artifact directory", .error, none, none⟩
  | unreadable (kind : FileKind) {entries : List (String × Node)} (inside : NamesInside name)
      (here : fs.node (dir.join name) = .ok (.directory entries)) :
      Shows fs options dir name kind ⟨"Is a directory (os error 21)", .error, none, none⟩
  | log {bytes : ByteArray} {modified : Time.Instant} {lines : List (List Char)}
      (inside : NamesInside name) (here : fs.node (dir.join name) = .ok (.file bytes modified))
      (whole : Text.IsLines (Text.decodeLossy bytes).toList lines) :
      Shows fs options dir name .log
        ⟨String.ofList (lines.drop (lines.length - options.artifactLogTailLines)).flatten, .log,
          some (decide (options.artifactLogTailLines < lines.length)), some lines.length⟩
  | resource {bytes : ByteArray} {modified : Time.Instant} (inside : NamesInside name)
      (here : fs.node (dir.join name) = .ok (.file bytes modified))
      (fits : (Text.decodeLossy bytes).utf8ByteSize ≤ options.resourceMaxBytes) :
      Shows fs options dir name .resource ⟨Text.decodeLossy bytes, .resource, none, none⟩
  | cutResource {bytes : ByteArray} {modified : Time.Instant} {front : String}
      (inside : NamesInside name) (here : fs.node (dir.join name) = .ok (.file bytes modified))
      (larger : options.resourceMaxBytes < (Text.decodeLossy bytes).utf8ByteSize)
      (cut : Text.IsLongestFit options.resourceMaxBytes (Text.decodeLossy bytes) front) :
      Shows fs options dir name .resource
        ⟨front ++ "\n... (truncated)", .resource, none, none⟩
  | events {bytes : ByteArray} {modified : Time.Instant} (inside : NamesInside name)
      (here : fs.node (dir.join name) = .ok (.file bytes modified)) :
      Shows fs options dir name .events ⟨Text.decodeLossy bytes, .events, none, none⟩

/-- What becomes of metadata when the files that it lists are read. -/
structure Embeds (fs : FileSystem) (dir root : Path) (options : ScanOptions) (m a : Artifact) :
    Prop where
  /-- All other fields stay; what stands in these two does not count. -/
  record : a = { m with
    relativePath := ((dir.relativeTo? root).getD dir).text
    contents := a.contents }
  keys : ∀ name, name ∈ a.contents.map Prod.fst ↔
    (name ∈ m.files.logFiles ∨ name ∈ m.files.resourceFiles.take options.resourceMaxFiles ∨
      name ∈ m.files.eventFiles) ∧ ¬ IsMissing fs dir name
  distinct : (a.contents.map Prod.fst).Nodup
  event : ∀ name content, (name, content) ∈ a.contents → name ∈ m.files.eventFiles →
    Shows fs options dir name .events content
  resource : ∀ name content, (name, content) ∈ a.contents → name ∉ m.files.eventFiles →
    name ∈ m.files.resourceFiles.take options.resourceMaxFiles →
      Shows fs options dir name .resource content
  log : ∀ name content, (name, content) ∈ a.contents → name ∉ m.files.eventFiles →
    name ∉ m.files.resourceFiles.take options.resourceMaxFiles →
      Shows fs options dir name .log content

variable {fs : FileSystem} {options : ScanOptions} {dir : Path} {name : String}

/-! ### One name -/

/-- The content that a name gets, if it gets one. -/
def answer (fs : FileSystem) (options : ScanOptions) (dir : Path) (kind : FileKind)
    (name : String) : Option FileContent :=
  (readListed fs options dir kind name).value

theorem shows_fileContent {kind : FileKind} (listed : kind ≠ .error) {bytes : ByteArray}
    {modified : Time.Instant} (inside : NamesInside name)
    (here : fs.node (dir.join name) = .ok (.file bytes modified)) :
    Shows fs options dir name kind (fileContent options kind (Text.decodeLossy bytes)) := by
  cases kind with
  | log =>
    rw [fileContent, logContent, Text.tailLines_eq]
    exact .log inside here (Text.isLines_pieces _)
  | resource =>
    rw [fileContent, resourceText]
    cases cut : Text.cutBytes (Text.decodeLossy bytes) options.resourceMaxBytes with
    | none => exact .resource inside here (Text.cutBytes_eq_none_iff.mp cut)
    | some front =>
      have cuts := Text.cutBytes_eq_some_iff.mp cut
      exact .cutResource inside here cuts.larger cuts.toIsLongestFit
  | events => exact .events inside here
  | error => exact absurd rfl listed

/-- Whether a name gets a content does not depend on the list that it stands in. -/
theorem answer_cases (fs : FileSystem) (options : ScanOptions) (dir : Path) (name : String)
    {kind : FileKind} (listed : kind ≠ .error) :
    (IsMissing fs dir name ∧ answer fs options dir kind name = none) ∨
      ¬ IsMissing fs dir name ∧ ∃ content, answer fs options dir kind name = some content ∧
        Shows fs options dir name kind content := by
  by_cases inside : NamesInside name
  · have safe := isSafeName_iff.mpr inside
    cases here : fs.node (dir.join name) with
    | error e =>
      refine Or.inl ⟨⟨inside, ?_⟩, ?_⟩
      · rw [FileSystem.contains, here]
        rfl
      · rw [answer, readListed, if_pos safe, here]
        rfl
    | ok node =>
      refine Or.inr ⟨fun missing => ?_, ?_⟩
      · have absent := missing.absent
        rw [FileSystem.contains, here] at absent
        cases absent
      · rw [answer, readListed, if_pos safe, here]
        cases node with
        | directory entries => exact ⟨_, rfl, .unreadable kind inside here⟩
        | file bytes modified => exact ⟨_, rfl, shows_fileContent listed inside here⟩
  · refine Or.inr ⟨fun missing => inside missing.inside, refusedContent name, ?_, ?_⟩
    · rw [answer, readListed_refused fs options dir kind inside]
      rfl
    · exact .refused kind inside

theorem isSome_answer {kind : FileKind} (listed : kind ≠ .error) :
    (answer fs options dir kind name).isSome = true ↔ ¬ IsMissing fs dir name := by
  rcases answer_cases fs options dir name listed with
    ⟨missing, unanswered⟩ | ⟨present, content, answered, -⟩
  · rw [unanswered]
    exact iff_of_false nofun (not_not_intro missing)
  · rw [answered]
    exact iff_of_true rfl present

theorem shows_answer {kind : FileKind} (listed : kind ≠ .error) {content : FileContent}
    (answered : answer fs options dir kind name = some content) :
    Shows fs options dir name kind content := by
  rcases answer_cases fs options dir name listed with ⟨-, unanswered⟩ | ⟨-, given, read, shows⟩
  · exact nomatch answered.symm.trans unanswered
  · exact Option.some.inj (answered.symm.trans read) ▸ shows

/-! ### The three lists -/

theorem Keyed.lookup_filterMap {α : Type} (f : String → Option α) (names : List String)
    (key : String) : (names.filterMap fun name => (f name).map (name, ·)).lookup key =
      if key ∈ names then f key else none := by
  induction names with
  | nil => rfl
  | cons name names ih =>
    by_cases same : key = name
    · subst same
      rw [if_pos List.mem_cons_self, List.filterMap_cons]
      cases image : f key with
      | none =>
        rw [Option.map_none, ih, image, ite_self]
      | some a => rw [Option.map_some, List.lookup_cons_self]
    · have members : key ∈ name :: names ↔ key ∈ names := by simp [same]
      rw [if_congr members rfl rfl, ← ih, List.filterMap_cons]
      cases f name with
      | none => rfl
      | some a => exact lookup_cons_other same a _

/-- What the names of a list get. -/
def answered (fs : FileSystem) (options : ScanOptions) (dir : Path) (kind : FileKind)
    (names : List String) : List (String × FileContent) :=
  names.filterMap fun name => (answer fs options dir kind name).map (name, ·)

theorem answers_eq (fs : FileSystem) (options : ScanOptions) (dir : Path) (files : Inventory) :
    answers fs options dir files =
      answered fs options dir .log files.logFiles ++
        answered fs options dir .resource (files.resourceFiles.take options.resourceMaxFiles) ++
        answered fs options dir .events files.eventFiles := by
  rw [answers, listedFiles, List.filterMap_append, List.filterMap_append, List.filterMap_map,
    List.filterMap_map, List.filterMap_map]
  rfl

/-- The later list counts, if the name gets a content from it. -/
theorem lookup_readContents (fs : FileSystem) (options : ScanOptions) (dir : Path)
    (files : Inventory) (name : String) :
    (readContents fs options dir files).value.lookup name =
      (if name ∈ files.eventFiles then answer fs options dir .events name else none).or
        ((if name ∈ files.resourceFiles.take options.resourceMaxFiles then
            answer fs options dir .resource name else none).or
          (if name ∈ files.logFiles then answer fs options dir .log name else none)) := by
  have part (kind : FileKind) (names : List String) :
      (answered fs options dir kind names).reverse.lookup name =
        if name ∈ names then answer fs options dir kind name else none := by
    rw [answered, ← List.filterMap_reverse, Keyed.lookup_filterMap]
    exact if_congr List.mem_reverse rfl rfl
  rw [readContents_value, Keyed.lookup_ofList, answers_eq, List.reverse_append,
    List.reverse_append, List.lookup_append, List.lookup_append, part, part, part]

theorem mem_keys_readContents {files : Inventory} :
    name ∈ (readContents fs options dir files).value.map Prod.fst ↔
      (name ∈ files.logFiles ∨ name ∈ files.resourceFiles.take options.resourceMaxFiles ∨
        name ∈ files.eventFiles) ∧ ¬ IsMissing fs dir name := by
  have part (kind : FileKind) (listed : kind ≠ .error) (names : List String) :
      (if name ∈ names then answer fs options dir kind name else none).isSome = true ↔
        name ∈ names ∧ ¬ IsMissing fs dir name := by
    split
    · rename_i inside
      rw [isSome_answer listed]
      exact (and_iff_right inside).symm
    · rename_i outside
      exact iff_of_false nofun fun h => outside h.1
  rw [← Keyed.isSome_lookup, lookup_readContents, Option.isSome_or, Option.isSome_or,
    Bool.or_eq_true, Bool.or_eq_true, part .events nofun, part .resource nofun, part .log nofun,
    ← or_and_right, ← or_and_right]
  exact and_congr_left fun _ => or_comm.trans ((or_congr_left or_comm).trans or_assoc)

section

variable {files : Inventory} {content : FileContent}
  (found : (readContents fs options dir files).value.lookup name = some content)

include found

/-- A name that gets a content from one list would get one from any other. -/
theorem exists_answer_of_lookup (kind : FileKind) (listed : kind ≠ .error) :
    ∃ given, answer fs options dir kind name = some given := by
  have member := Keyed.isSome_lookup.mp (Option.isSome_iff_exists.mpr ⟨content, found⟩)
  exact Option.isSome_iff_exists.mp ((isSome_answer listed).mpr (mem_keys_readContents.mp member).2)

theorem shows_event (event : name ∈ files.eventFiles) :
    Shows fs options dir name .events content := by
  obtain ⟨given, read⟩ := exists_answer_of_lookup found .events nofun
  rw [lookup_readContents, if_pos event, read, Option.some_or] at found
  exact shows_answer (by decide) (read.trans found)

theorem shows_resource (noEvent : name ∉ files.eventFiles)
    (resource : name ∈ files.resourceFiles.take options.resourceMaxFiles) :
    Shows fs options dir name .resource content := by
  obtain ⟨given, read⟩ := exists_answer_of_lookup found .resource nofun
  rw [lookup_readContents, if_neg noEvent, if_pos resource, Option.none_or, read,
    Option.some_or] at found
  exact shows_answer (by decide) (read.trans found)

theorem shows_log (noEvent : name ∉ files.eventFiles)
    (noResource : name ∉ files.resourceFiles.take options.resourceMaxFiles) :
    Shows fs options dir name .log content := by
  rw [lookup_readContents, if_neg noEvent, if_neg noResource, Option.none_or,
    Option.none_or] at found
  split at found
  · exact shows_answer (by decide) found
  · exact nomatch found

end

/-- Metadata that can be read gives an artifact, with the files that it lists. -/
theorem loadArtifact_embeds (root : Path) (options : ScanOptions) {text : String} {m : Artifact}
    (read : fs.readText (dir.join metadataFile) = .ok text)
    (decoded : (Json.Tree.parse? text).bind Artifact.decode = some m) :
    ∃ a, (loadArtifact fs dir root options).value = some a ∧
      Embeds fs dir root options m a := by
  have sorted : Keyed.Sorted (readContents fs options dir m.files).value := by
    rw [readContents_value]
    exact Keyed.sorted_ofList _
  have lookup {name : String} {content : FileContent} :
      (name, content) ∈ (readContents fs options dir m.files).value →
        (readContents fs options dir m.files).value.lookup name = some content :=
    (Keyed.mem_iff_lookup sorted).mp
  exact ⟨_, loadArtifact_value read decoded, {
    record := rfl
    keys := fun name => mem_keys_readContents
    distinct := sorted.nodup
    event := fun name content member => shows_event (lookup member)
    resource := fun name content member => shows_resource (lookup member)
    log := fun name content member => shows_log (lookup member) }⟩

def overlappingText : String :=
  "\x7b\"relative_path\":\"old\",\"file_contents\":" ++
    "\x7b\"old\":\x7b\"content\":\"\",\"type\":\"log\"\x7d\x7d,\"artifacts\":" ++
    "\x7b\"log_files\":[\"a.log\",\"both\",\"../up\"],\"event_files\":[\"both\",\"sub\"]," ++
    "\"resource_files\":[\"gone\",\"both\",\"r\",\"late\"]\x7d\x7d"

/-- The name `both` stands in all three lists; `late` is one resource too many. -/
def overlappingTree : FileSystem where
  root := .directory [
    ("dir", .directory [
      ("a.log", .file "1\n2\n".toUTF8 ⟨0, 0⟩),
      ("both", .file "both".toUTF8 ⟨0, 0⟩),
      ("late", .file "late".toUTF8 ⟨0, 0⟩),
      ("metadata.json", .file overlappingText.toUTF8 ⟨0, 0⟩),
      ("r", .file "resource".toUTF8 ⟨0, 0⟩),
      ("sub", .directory [])])]
  working := []

def overlappingContents : List (String × FileContent) :=
  [("../up", refusedContent "../up"),
    ("a.log", ⟨"2\n", .log, some true, some 2⟩),
    ("both", ⟨"both", .events, none, none⟩),
    ("r", ⟨"res\n... (truncated)", .resource, none, none⟩),
    ("sub", ⟨"Is a directory (os error 21)", .error, none, none⟩)]

theorem embeds_overlappingTree : ∃ text m a,
    overlappingTree.readText ((Path.mk "/dir").join metadataFile) = .ok text ∧
    (Json.Tree.parse? text).bind Artifact.decode = some m ∧
    Embeds overlappingTree ⟨"/dir"⟩ ⟨"/"⟩ ⟨"run-", 1, 1, 3, 3⟩ m a ∧
    a.relativePath = "dir" ∧ a.contents = overlappingContents := by
  have shown : (loadArtifact overlappingTree ⟨"/dir"⟩ ⟨"/"⟩ ⟨"run-", 1, 1, 3, 3⟩).value.map
      (fun a => (a.relativePath, a.contents)) = some ("dir", overlappingContents) := by
    decide +kernel
  obtain ⟨a, loaded, same⟩ := Option.map_eq_some_iff.mp shown
  obtain ⟨path, contents⟩ := Prod.mk.inj same
  obtain ⟨text, m, read, decoded⟩ := exists_metadata_of_loadArtifact loaded
  obtain ⟨b, loaded', embeds⟩ := loadArtifact_embeds ⟨"/"⟩ ⟨"run-", 1, 1, 3, 3⟩ read decoded
  obtain rfl := Option.some.inj (loaded.symm.trans loaded')
  exact ⟨text, m, a, read, decoded, embeds, path, contents⟩

end TestHistory
