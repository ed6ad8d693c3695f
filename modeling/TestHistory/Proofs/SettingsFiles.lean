import TestHistory.Main
import TestHistory.Proofs.RunConfinement
import TestHistory.Proofs.SettingsOrder

/-!
# What goes into the settings

A load reads the files of settings and nothing else of the tree (`load_congr`). It lists each
document in some order, which makes no difference to files that are settled (`load_settled`).
-/

namespace TestHistory

variable {fs fs₁ fs₂ : FileSystem} {path : Path}

namespace Config

theorem readLayer_congr (same : fs₁.entryOf? path = fs₂.entryOf? path) (order : Layer.HashOrder) :
    readLayer fs₁ path order = readLayer fs₂ path order := by
  have contained : fs₁.contains path = fs₂.contains path := by
    rw [FileSystem.contains_eq, FileSystem.contains_eq, same]
  unfold readLayer
  by_cases there : fs₁.contains path = true
  · rw [if_pos there, if_pos (contained ▸ there)]
    rw [FileSystem.contains_eq] at there
    obtain ⟨entry, here⟩ := Option.isSome_iff_exists.mp there
    rw [FileSystem.readText_of_entryOf? here, FileSystem.readText_of_entryOf? (same ▸ here)]
  · rw [if_neg there, if_neg (contained ▸ there)]

variable {environment : List (String × String)} {a : CommandLine.Arguments}

/-- Two loads that read the same layers give the same settings. -/
theorem load_eq {orders₁ orders₂ : Orders}
    (contained : ∀ file ∈ settingsFiles environment a, fs₁.contains file = fs₂.contains file)
    (user : ∀ file ∈ settingsFiles environment a,
      readLayer fs₁ file orders₁.user = readLayer fs₂ file orders₂.user)
    (project : ∀ file ∈ settingsFiles environment a,
      readLayer fs₁ file orders₁.project = readLayer fs₂ file orders₂.project) :
    load fs₁ a.path environment a.overrides orders₁ =
      load fs₂ a.path environment a.overrides orders₂ := by
  have user' : readUserLayer fs₁ (environment.lookup "HOME") orders₁.user =
      readUserLayer fs₂ (environment.lookup "HOME") orders₂.user := by
    unfold readUserLayer
    cases home : environment.lookup "HOME" with
    | none => rfl
    | some home' => exact user _ (by simp [settingsFiles, home])
  have project' : readProjectLayer fs₁ a.path a.config orders₁.project =
      readProjectLayer fs₂ a.path a.config orders₂.project := by
    unfold readProjectLayer
    cases named : a.config with
    | none => exact project _ (by simp [settingsFiles, named])
    | some file =>
      have member : file ∈ settingsFiles environment a := by simp [settingsFiles, named]
      dsimp only
      rw [contained file member, project file member]
  unfold load CommandLine.Arguments.overrides
  rw [user', project']

/-- Nothing but the files of settings goes into the settings, and the order in which they are
listed. -/
theorem load_congr
    (same : ∀ file ∈ settingsFiles environment a, fs₁.entryOf? file = fs₂.entryOf? file)
    (orders : Orders) :
    load fs₁ a.path environment a.overrides orders =
      load fs₂ a.path environment a.overrides orders := by
  refine load_eq (fun file member => ?_) (fun file member => readLayer_congr (same file member) _)
    fun file member => readLayer_congr (same file member) _
  rw [FileSystem.contains_eq, FileSystem.contains_eq, same file member]

/-- A file whose settings make one layer, in whatever order they are listed. -/
def Settled (fs : FileSystem) (path : Path) : Prop :=
  ∀ text value, fs.readText path = .ok text → Yaml.Value.parse? text = some value →
    Layer.OrderFree value

theorem Settled.readLayer_eq (settled : Settled fs path) (order order' : Layer.HashOrder) :
    readLayer fs path order = readLayer fs path order' := by
  have parsed (text : String) (read : fs.readText path = .ok text) :
      parseLayer path text order = parseLayer path text order' := by
    unfold parseLayer
    split
    · rename_i value parsed
      rw [(settled text value read parsed).ofYaml_eq order order']
    · rfl
  unfold readLayer
  split
  · cases read : fs.readText path with
    | error e => rfl
    | ok text =>
      dsimp only
      rw [parsed text read]
  · rfl

theorem load_settled (settled : ∀ file ∈ settingsFiles environment a, Settled fs file)
    (orders orders' : Orders) :
    load fs a.path environment a.overrides orders =
      load fs a.path environment a.overrides orders' :=
  load_eq (fun _ _ => rfl) (fun file member => (settled file member).readLayer_eq _ _)
    fun file member => (settled file member).readLayer_eq _ _

end Config

end TestHistory
