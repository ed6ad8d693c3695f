import TestHistory.Proofs.Keyed
import TestHistory.Proofs.Paths
import TestHistory.Scan.Artifacts

/-!
# Artifact directories are confined

Metadata may list any names. `loadArtifact_confined` says that a load reads nothing outside the
directory all the same: what it gives depends on the tree below the directory alone.
-/

namespace TestHistory

/-- The answer in place of a file outside the directory. -/
def refusedContent (name : String) : FileContent where
  content := "Refusing to read '" ++ name ++ "': path escapes the artifact directory"
  kind := .error
  truncated := none
  totalLines := none

/-- What a load looks at: the metadata, and the processed names inside the directory. -/
inductive Opens (fs : FileSystem) (dir root : Path) (options : ScanOptions) : Path → Prop where
  | metadata : Opens fs dir root options (dir.join metadataFile)
  | listed {a : Artifact} {file : FileKind × String}
      (loaded : (loadArtifact fs dir root options).value = some a)
      (processed : file ∈ listedFiles options a.files) (inside : NamesInside file.2) :
      Opens fs dir root options (dir.join file.2)

/-- Two file systems have the same node under a path, or both have none. -/
def LooksAlike (fs₁ fs₂ : FileSystem) (path : Path) : Prop :=
  (fs₁.node path).toOption = (fs₂.node path).toOption

/-- Loading the artifacts of a directory stays inside the directory. -/
structure ConfinedTo (dir root : Path) (options : ScanOptions) : Prop where
  /-- What lies outside makes no difference. -/
  confined : ∀ fs₁ fs₂ : FileSystem, fs₁.subtree? dir = fs₂.subtree? dir →
    loadArtifact fs₁ dir root options = loadArtifact fs₂ dir root options
  /-- Nothing is looked at but the metadata and the processed names inside the directory. -/
  opened : ∀ fs₁ fs₂ : FileSystem,
    (∀ path, Opens fs₁ dir root options path → LooksAlike fs₁ fs₂ path) →
      loadArtifact fs₁ dir root options = loadArtifact fs₂ dir root options
  /-- Such a name leads to the directory or to a node below it. -/
  resolves : ∀ (fs : FileSystem) (name : String) (node : Node), NamesInside name →
    fs.node (dir.join name) = .ok node → ∃ top, fs.subtree? dir = some top ∧ top.Within node
  /-- Any other name is answered with an error. -/
  refused : ∀ (fs : FileSystem) (a : Artifact), (loadArtifact fs dir root options).value = some a →
    ∀ file ∈ listedFiles options a.files, ¬ NamesInside file.2 →
      a.contents.lookup file.2 = some (refusedContent file.2)
  /-- A name that is not processed is not answered. -/
  processed : ∀ (fs : FileSystem) (a : Artifact),
    (loadArtifact fs dir root options).value = some a →
      ∀ name ∈ a.contents.map Prod.fst, name ∈ (listedFiles options a.files).map Prod.snd

theorem isSafeName_iff {name : String} : isSafeName name = true ↔ NamesInside name := by
  rw [isSafeName, Bool.and_eq_true, decide_eq_true_eq, Path.staysBelow_iff]
  constructor
  · rintro ⟨nonempty, relative, noWayUp⟩
    exact ⟨nonempty, of_decide_eq_false relative, noWayUp⟩
  · intro h
    exact ⟨h.nonempty, h.isAbsolute, h.noWayUp⟩

theorem namesInside_metadataFile : NamesInside metadataFile :=
  isSafeName_iff.mp (by decide +kernel)

/-! ### One file -/

/-- Errors are not told apart, so a match on them depends on the node alone. -/
theorem LooksAlike.cases {fs₁ fs₂ : FileSystem} {path : Path} (alike : LooksAlike fs₁ fs₂ path) :
    (∃ node, fs₁.node path = .ok node ∧ fs₂.node path = .ok node) ∨
      ∃ e₁ e₂, fs₁.node path = .error e₁ ∧ fs₂.node path = .error e₂ := by
  unfold LooksAlike at alike
  cases first : fs₁.node path with
  | error e₁ =>
    cases second : fs₂.node path with
    | error e₂ => exact Or.inr ⟨e₁, e₂, rfl, rfl⟩
    | ok node => simp [first, second, Except.toOption] at alike
  | ok node =>
    cases second : fs₂.node path with
    | error e₂ => simp [first, second, Except.toOption] at alike
    | ok other =>
      rw [first, second] at alike
      obtain rfl := Option.some.inj alike
      exact Or.inl ⟨node, rfl, rfl⟩

theorem LooksAlike.readText {fs₁ fs₂ : FileSystem} {path : Path}
    (alike : LooksAlike fs₁ fs₂ path) :
    (fs₁.readText path).toOption = (fs₂.readText path).toOption := by
  unfold FileSystem.readText FileSystem.readBytes
  rcases alike.cases with ⟨node, first, second⟩ | ⟨e₁, e₂, first, second⟩
  · rw [first, second]
  · rw [first, second]
    rfl

theorem readListed_refused (fs : FileSystem) (options : ScanOptions) (dir : Path) (kind : FileKind)
    {name : String} (outside : ¬ NamesInside name) :
    readListed fs options dir kind name = (do
      Logged.warn "Refusing artifact path outside its directory"
      return some (refusedContent name)) := by
  rw [readListed, if_neg (mt isSafeName_iff.mp outside)]
  rfl

theorem readListed_congr {fs₁ fs₂ : FileSystem} {dir : Path} {name : String}
    (alike : NamesInside name → LooksAlike fs₁ fs₂ (dir.join name)) (options : ScanOptions)
    (kind : FileKind) :
    readListed fs₁ options dir kind name = readListed fs₂ options dir kind name := by
  by_cases inside : NamesInside name
  · have safe := isSafeName_iff.mpr inside
    rw [readListed, readListed, if_pos safe, if_pos safe]
    rcases (alike inside).cases with ⟨node, first, second⟩ | ⟨e₁, e₂, first, second⟩
    · rw [first, second]
    · rw [first, second]
  · rw [readListed_refused fs₁ options dir kind inside,
      readListed_refused fs₂ options dir kind inside]

/-! ### All listed files -/

theorem Logged.mapM_congr {α β : Type} {f g : α → Logged β} {l : List α}
    (same : ∀ a ∈ l, f a = g a) : l.mapM f = l.mapM g := by
  induction l with
  | nil => rfl
  | cons a l ih =>
    rw [List.mapM_cons, List.mapM_cons, same a List.mem_cons_self,
      ih fun b member => same b (List.mem_cons_of_mem a member)]

theorem readContents_congr {fs₁ fs₂ : FileSystem} {dir : Path} {options : ScanOptions}
    {files : Inventory}
    (alike : ∀ file ∈ listedFiles options files, NamesInside file.2 →
      LooksAlike fs₁ fs₂ (dir.join file.2)) :
    readContents fs₁ options dir files = readContents fs₂ options dir files := by
  unfold readContents
  rw [Logged.mapM_congr]
  intro file member
  rw [readEntry, readEntry, readListed_congr (alike file member)]

/-- The answers to listed names, in the order of reading. -/
def answers (fs : FileSystem) (options : ScanOptions) (dir : Path) (files : Inventory) :
    List (String × FileContent) :=
  (listedFiles options files).filterMap fun file =>
    (readListed fs options dir file.1 file.2).value.map fun content => (file.2, content)

theorem readContents_value (fs : FileSystem) (options : ScanOptions) (dir : Path)
    (files : Inventory) :
    (readContents fs options dir files).value = Keyed.ofList (answers fs options dir files) := by
  rw [readContents, Logged.value_bind, Logged.value_pure, Logged.value_mapM, List.filterMap_map]
  rfl

theorem mem_answers {fs : FileSystem} {options : ScanOptions} {dir : Path} {files : Inventory}
    {name : String} {content : FileContent} :
    (name, content) ∈ answers fs options dir files ↔ ∃ file ∈ listedFiles options files,
      file.2 = name ∧ (readListed fs options dir file.1 name).value = some content := by
  rw [answers, List.mem_filterMap]
  refine exists_congr fun file => and_congr_right fun _ => ?_
  rw [Option.map_eq_some_iff]
  constructor
  · rintro ⟨content, read, same⟩
    obtain ⟨rfl, rfl⟩ := Prod.mk.inj same
    exact ⟨rfl, read⟩
  · rintro ⟨rfl, read⟩
    exact ⟨content, read, rfl⟩

/-- However often a name outside the directory is listed, its answer is the same. -/
theorem lookup_refused {fs : FileSystem} {options : ScanOptions} {dir : Path} {files : Inventory}
    {file : FileKind × String} (processed : file ∈ listedFiles options files)
    (outside : ¬ NamesInside file.2) :
    (readContents fs options dir files).value.lookup file.2 = some (refusedContent file.2) := by
  have answer (kind : FileKind) :
      (readListed fs options dir kind file.2).value = some (refusedContent file.2) := by
    rw [readListed_refused fs options dir kind outside]
    rfl
  rw [readContents_value, Keyed.lookup_ofList]
  refine Keyed.lookup_eq_some_of_unique ?_ ?_
  · exact List.mem_reverse.mpr (mem_answers.mpr ⟨file, processed, rfl, answer file.1⟩)
  · intro content member
    obtain ⟨other, -, -, read⟩ := mem_answers.mp (List.mem_reverse.mp member)
    rw [answer] at read
    exact (Option.some.inj read).symm

theorem keys_readContents {fs : FileSystem} {options : ScanOptions} {dir : Path}
    {files : Inventory} {name : String}
    (h : name ∈ (readContents fs options dir files).value.map Prod.fst) :
    name ∈ (listedFiles options files).map Prod.snd := by
  rw [readContents_value, Keyed.mem_keys_ofList, List.mem_map] at h
  obtain ⟨⟨_, content⟩, member, rfl⟩ := h
  obtain ⟨file, processed, same, -⟩ := mem_answers.mp member
  exact List.mem_map.mpr ⟨file, processed, same⟩

/-! ### The whole load -/

theorem loadArtifact_value {fs : FileSystem} {dir root : Path} {options : ScanOptions}
    {text : String} {artifact : Artifact} (read : fs.readText (dir.join metadataFile) = .ok text)
    (decoded : (Json.Tree.parse? text).bind Artifact.decode = some artifact) :
    (loadArtifact fs dir root options).value = some { artifact with
      relativePath := ((dir.relativeTo? root).getD dir).text
      contents := (readContents fs options dir artifact.files).value } := by
  rw [loadArtifact, read]
  dsimp only
  rw [decoded]
  rfl

theorem exists_metadata_of_loadArtifact {fs : FileSystem} {dir root : Path} {options : ScanOptions}
    {a : Artifact} (loaded : (loadArtifact fs dir root options).value = some a) :
    ∃ text m, fs.readText (dir.join metadataFile) = .ok text ∧
      (Json.Tree.parse? text).bind Artifact.decode = some m := by
  unfold loadArtifact at loaded
  split at loaded
  · exact nomatch (show none = some a from loaded)
  · rename_i text read
    split at loaded
    · exact nomatch (show none = some a from loaded)
    · rename_i m decoded
      exact ⟨text, m, read, decoded⟩

theorem contents_of_loadArtifact {fs : FileSystem} {dir root : Path} {options : ScanOptions}
    {a : Artifact} (loaded : (loadArtifact fs dir root options).value = some a) :
    a.contents = (readContents fs options dir a.files).value := by
  obtain ⟨text, m, read, decoded⟩ := exists_metadata_of_loadArtifact loaded
  rw [loadArtifact_value read decoded] at loaded
  obtain rfl := Option.some.inj loaded
  rfl

theorem loadArtifact_congr {fs₁ fs₂ : FileSystem} {dir root : Path} {options : ScanOptions}
    (alike : ∀ path, Opens fs₁ dir root options path → LooksAlike fs₁ fs₂ path) :
    loadArtifact fs₁ dir root options = loadArtifact fs₂ dir root options := by
  have metadata := (alike _ .metadata).readText
  cases first : fs₁.readText (dir.join metadataFile) with
  | error e₁ =>
    cases second : fs₂.readText (dir.join metadataFile) with
    | error e₂ => rw [loadArtifact, loadArtifact, first, second]
    | ok text => simp [first, second, Except.toOption] at metadata
  | ok text =>
    cases second : fs₂.readText (dir.join metadataFile) with
    | error e₂ => simp [first, second, Except.toOption] at metadata
    | ok other =>
      rw [first, second] at metadata
      obtain rfl := Option.some.inj metadata
      rw [loadArtifact, loadArtifact, first, second]
      dsimp only
      cases decoded : (Json.Tree.parse? text).bind Artifact.decode with
      | none => rfl
      | some artifact =>
        dsimp only
        rw [readContents_congr]
        intro file processed inside
        exact alike _ (.listed (loadArtifact_value first decoded) processed inside)

theorem Opens.exists_name {fs : FileSystem} {dir root : Path} {options : ScanOptions} {path : Path}
    (h : Opens fs dir root options path) : ∃ name, NamesInside name ∧ path = dir.join name := by
  cases h with
  | metadata => exact ⟨metadataFile, namesInside_metadataFile, rfl⟩
  | listed loaded processed inside => exact ⟨_, inside, rfl⟩

theorem looksAlike_join {fs₁ fs₂ : FileSystem} {dir : Path} (same : fs₁.subtree? dir = fs₂.subtree? dir)
    {name : String} (inside : NamesInside name) : LooksAlike fs₁ fs₂ (dir.join name) := by
  unfold LooksAlike
  rw [fs₁.node_join dir inside, fs₂.node_join dir inside, same]

theorem resolves_within {fs : FileSystem} {dir : Path} {name : String} {node : Node}
    (inside : NamesInside name) (found : fs.node (dir.join name) = .ok node) :
    ∃ top, fs.subtree? dir = some top ∧ top.Within node := by
  have resolved := fs.node_join dir inside
  rw [found] at resolved
  split at resolved
  · simp [Except.toOption] at resolved
  · obtain ⟨top, holds, below⟩ := Option.bind_eq_some_iff.mp resolved.symm
    exact ⟨top, holds, Node.within_of_descend? .self below⟩

/-- Whatever names the metadata lists, a load stays inside its directory. -/
theorem loadArtifact_confined (dir root : Path) (options : ScanOptions) :
    ConfinedTo dir root options where
  confined fs₁ fs₂ same := loadArtifact_congr fun path opens => by
    obtain ⟨name, inside, rfl⟩ := opens.exists_name
    exact looksAlike_join same inside
  opened _ _ := loadArtifact_congr
  resolves _ _ _ := resolves_within
  refused fs a loaded file processed outside := by
    rw [contents_of_loadArtifact loaded]
    exact lookup_refused processed outside
  processed fs a loaded name key := by
    rw [contents_of_loadArtifact loaded] at key
    exact keys_readContents key

/-! ### A directory that lists names outside -/

/-- The metadata lists names inside and outside its directory. A file beside the listed one is not
listed, and a secret lies outside. -/
def listingTree (beside secret : String) : FileSystem where
  root := .directory [
    ("dir", .directory [
      ("a.log", .file "inside".toUTF8 ⟨0, 0⟩),
      ("b.log", .file beside.toUTF8 ⟨0, 0⟩),
      ("metadata.json", .file
        "\x7b\"artifacts\":\x7b\"event_files\":[\"./a.log\",\"../secret\",\"x/../a.log\",\"/secret\"]\x7d\x7d".toUTF8
        ⟨0, 0⟩)]),
    ("secret", .file secret.toUTF8 ⟨0, 0⟩)]
  working := []

example : ((loadArtifact (listingTree "" "outside") ⟨"dir"⟩ ⟨"."⟩ .default).value.map fun a =>
    a.contents.map fun entry => (entry.1, decide (entry.2.kind = .error))) =
    some [("../secret", true), ("./a.log", false), ("/secret", true), ("x/../a.log", true)] := by
  decide +kernel

theorem exists_artifact_listingTree : ∃ a,
    (loadArtifact (listingTree "" "outside") ⟨"dir"⟩ ⟨"."⟩ .default).value = some a ∧
      (listedFiles .default a.files).map Prod.snd =
        ["./a.log", "../secret", "x/../a.log", "/secret"] := by
  have listed : (loadArtifact (listingTree "" "outside") ⟨"dir"⟩ ⟨"."⟩ .default).value.map
      (fun a => (listedFiles .default a.files).map Prod.snd) =
        some ["./a.log", "../secret", "x/../a.log", "/secret"] := by
    decide +kernel
  exact Option.map_eq_some_iff.mp listed

theorem not_namesInside_outside : ∀ name ∈ ["../secret", "x/../a.log", "/secret"],
    ¬ NamesInside name := by
  have escapes : ∀ name ∈ ["../secret", "x/../a.log", "/secret"], isSafeName name = false := by
    decide +kernel
  intro name member inside
  exact nomatch (escapes name member).symm.trans (isSafeName_iff.mpr inside)

/-- A load looks at two files of the directory only. -/
theorem opens_listingTree {path : Path}
    (h : Opens (listingTree "" "outside") ⟨"dir"⟩ ⟨"."⟩ .default path) :
    path = (Path.mk "dir").join metadataFile ∨ path = (Path.mk "dir").join "./a.log" := by
  obtain ⟨a, loaded, names⟩ := exists_artifact_listingTree
  cases h with
  | metadata => exact Or.inl rfl
  | @listed a' file loaded' processed inside =>
    obtain rfl := Option.some.inj (loaded'.symm.trans loaded)
    have named : file.2 ∈ ["./a.log", "../secret", "x/../a.log", "/secret"] :=
      names ▸ List.mem_map_of_mem processed
    rcases List.mem_cons.mp named with here | outside
    · exact Or.inr (by rw [here])
    · exact absurd inside (not_namesInside_outside _ outside)

/-- A secret or an unlisted file that changes is not seen, and the names outside are refused. -/
theorem confined_listingTree :
    loadArtifact (listingTree "" "outside") ⟨"dir"⟩ ⟨"."⟩ .default =
        loadArtifact (listingTree "" "changed") ⟨"dir"⟩ ⟨"."⟩ .default ∧
      loadArtifact (listingTree "" "outside") ⟨"dir"⟩ ⟨"."⟩ .default =
        loadArtifact (listingTree "changed" "outside") ⟨"dir"⟩ ⟨"."⟩ .default ∧
      (∃ top, (listingTree "" "outside").subtree? ⟨"dir"⟩ = some top ∧
        top.Within (.file "inside".toUTF8 ⟨0, 0⟩)) ∧
      ∃ a, (loadArtifact (listingTree "" "outside") ⟨"dir"⟩ ⟨"."⟩ .default).value = some a ∧
        (∀ name ∈ ["../secret", "x/../a.log", "/secret"],
          a.contents.lookup name = some (refusedContent name)) ∧
        "b.log" ∉ a.contents.map Prod.fst := by
  have confined := loadArtifact_confined ⟨"dir"⟩ ⟨"."⟩ .default
  obtain ⟨a, loaded, names⟩ := exists_artifact_listingTree
  refine ⟨confined.confined _ _ rfl, confined.opened _ _ fun path opens => ?_,
    confined.resolves (listingTree "" "outside") "./a.log" _ ?_ rfl, a, loaded, ?_, ?_⟩
  · rcases opens_listingTree opens with rfl | rfl
    · rfl
    · rfl
  · exact isSafeName_iff.mp (by decide +kernel)
  · intro name outside
    have listed : name ∈ (listedFiles .default a.files).map Prod.snd := by
      rw [names]
      exact List.mem_cons_of_mem _ outside
    obtain ⟨file, processed, rfl⟩ := List.mem_map.mp listed
    exact confined.refused _ a loaded file processed (not_namesInside_outside _ outside)
  · intro answered
    have listed := confined.processed _ a loaded _ answered
    rw [names] at listed
    exact absurd listed (by decide)

end TestHistory
