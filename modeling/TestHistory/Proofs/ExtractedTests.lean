import TestHistory.Proofs.RunReading

/-!
# The tests of a report

A report may repeat names. `extractTests_keepsLast` says what is kept: one record for each name, in
the order of the first specs, made from the last spec of the name.
-/

namespace TestHistory

/-- What a record says of the spec that it is made from. -/
structure ArtifactSource.Records (source : ArtifactSource) (spec : Spec) (t : TestRecord) :
    Prop where
  fullName : t.fullName = " ".intercalate (spec.containers ++ [spec.leafText])
  leafText : t.leafText = spec.leafText
  state : t.state = spec.state
  runtime : t.runtime = spec.nanoseconds / 1e9
  ownMessage : ∀ message, spec.failureMessage = some message → message ≠ "" →
    t.failureMessage = message
  nestedMessage : (∀ message, spec.failureMessage = some message → message = "") →
    t.failureMessage = spec.nestedMessage.getD ""
  labels : t.labels = spec.containerLabels.flatMap (·.getD []) ++ spec.leafLabels
  containers : t.containers = spec.containers
  startTime : t.startTime = spec.startTime.getD ""
  endTime : t.endTime = spec.endTime.getD ""
  artifact : t.artifact =
    (source.index.load source.files t.fullName source.root source.options).value

/-- Of the specs with a name the last one is kept, at the place of the first. -/
structure KeepsLast (source : ArtifactSource) (specs : List Spec) (tests : List TestRecord) :
    Prop where
  /-- As the order is strict, no name stands twice. -/
  ordered : (tests.map TestRecord.fullName).Pairwise fun a b =>
    (specs.map Spec.fullName).idxOf a < (specs.map Spec.fullName).idxOf b
  names : ∀ name, name ∈ tests.map TestRecord.fullName ↔ name ∈ specs.map Spec.fullName
  last : ∀ t ∈ tests, ∃ earlier spec later, specs = earlier ++ spec :: later ∧
    source.Records spec t ∧ ∀ other ∈ later, other.fullName ≠ t.fullName

variable {source : ArtifactSource} {specs : List Spec} {tests : List TestRecord}

theorem KeepsLast.nodup (keeps : KeepsLast source specs tests) :
    (tests.map TestRecord.fullName).Nodup := by
  refine keeps.ordered.imp fun {a b} before same => ?_
  rw [same] at before
  exact lt_irrefl _ before

theorem Spec.failureText_own {spec : Spec} {message : String}
    (stated : spec.failureMessage = some message) (notEmpty : message ≠ "") :
    spec.failureText = message := by
  unfold failureText
  rw [stated, Option.filter_some_pos (by simpa using notEmpty)]

theorem Spec.failureText_nested {spec : Spec}
    (unstated : ∀ message, spec.failureMessage = some message → message = "") :
    spec.failureText = spec.nestedMessage.getD "" := by
  have none : spec.failureMessage.filter (· ≠ "") = none := by
    rw [Option.filter_eq_none_iff]
    intro message stated
    simpa using unstated message stated
  unfold failureText
  rw [none]

theorem records_toRecord (source : ArtifactSource) (spec : Spec) : source.Records spec
    (spec.toRecord (source.index.load source.files spec.fullName source.root source.options).value)
    where
  fullName := rfl
  leafText := rfl
  state := rfl
  runtime := rfl
  ownMessage _ := Spec.failureText_own
  nestedMessage := Spec.failureText_nested
  labels := rfl
  containers := rfl
  startTime := rfl
  endTime := rfl
  artifact := rfl

/-! ### One more spec -/

theorem TestRecord.mem_place {new t : TestRecord} (distinct : (tests.map fullName).Nodup)
    (member : t ∈ new.place tests) : t = new ∨ t ∈ tests ∧ t.fullName ≠ new.fullName := by
  induction tests with
  | nil => exact Or.inl (List.mem_singleton.mp member)
  | cons first tests ih =>
    obtain ⟨absent, rest⟩ := List.nodup_cons.mp distinct
    unfold place at member
    split at member
    · rename_i same
      rcases List.mem_cons.mp member with rfl | later
      · exact Or.inl rfl
      · refine Or.inr ⟨List.mem_cons_of_mem first later, fun named => absent ?_⟩
        rw [same, ← named]
        exact List.mem_map_of_mem later
    · rename_i different
      rcases List.mem_cons.mp member with rfl | later
      · exact Or.inr ⟨List.mem_cons_self, different⟩
      · rcases ih rest later with isNew | ⟨old, named⟩
        · exact Or.inl isNew
        · exact Or.inr ⟨List.mem_cons_of_mem first old, named⟩

theorem ordered_place {names specNames : List String} {name : String}
    (ordered : names.Pairwise fun a b => specNames.idxOf a < specNames.idxOf b)
    (same : ∀ n, n ∈ names ↔ n ∈ specNames) :
    (if name ∈ names then names else names ++ [name]).Pairwise fun a b =>
      (specNames ++ [name]).idxOf a < (specNames ++ [name]).idxOf b := by
  -- A name that has a place keeps it when a spec is added.
  have kept : names.Pairwise fun a b =>
      (specNames ++ [name]).idxOf a < (specNames ++ [name]).idxOf b := by
    refine ordered.imp_of_mem fun {a b} memA memB before => ?_
    rwa [List.idxOf_append_of_mem ((same a).mp memA), List.idxOf_append_of_mem ((same b).mp memB)]
  split
  · exact kept
  · rename_i absent
    refine List.pairwise_append.mpr ⟨kept, List.pairwise_singleton _ _, ?_⟩
    intro a memA b memB
    obtain rfl := List.mem_singleton.mp memB
    have inside := (same a).mp memA
    have isNew : b ∉ specNames := fun old => absent ((same b).mpr old)
    rw [List.idxOf_append_of_mem inside, List.idxOf_append_of_notMem isNew]
    have before := List.idxOf_lt_length_of_mem inside
    omega

theorem KeepsLast.place (keeps : KeepsLast source specs tests) {spec : Spec} {new : TestRecord}
    (records : source.Records spec new) : KeepsLast source (specs ++ [spec]) (new.place tests) := by
  have name : new.fullName = spec.fullName := records.fullName
  have placed := TestRecord.map_fullName_place new tests
  constructor
  case ordered =>
    rw [placed, List.map_append, List.map_singleton, ← name]
    exact ordered_place keeps.ordered keeps.names
  case names =>
    intro other
    rw [placed, List.map_append, List.map_singleton, List.mem_append, List.mem_singleton, ← name,
      ← keeps.names]
    split
    · rename_i old
      constructor
      · exact Or.inl
      · rintro (member | rfl)
        · exact member
        · exact old
    · rw [List.mem_append, List.mem_singleton]
  case last =>
    intro t member
    rcases TestRecord.mem_place keeps.nodup member with rfl | ⟨old, different⟩
    · exact ⟨specs, spec, [], rfl, records, by simp⟩
    · obtain ⟨earlier, first, later, rfl, recorded, others⟩ := keeps.last t old
      refine ⟨earlier, first, later ++ [spec], by simp, recorded, ?_⟩
      intro other among
      rcases List.mem_append.mp among with before | isNew
      · exact others other before
      · obtain rfl := List.mem_singleton.mp isNew
        exact name ▸ different.symm

/-! ### The whole report -/

theorem keepsLast_recordsOf (source : ArtifactSource) (specs : List Spec) :
    KeepsLast source specs (recordsOf
      (fun spec => (source.index.load source.files spec.fullName source.root source.options).value)
      specs) := by
  induction specs using List.reverseRecOn with
  | nil => exact ⟨List.Pairwise.nil, fun _ => Iff.rfl, fun _ member => nomatch member⟩
  | append_singleton specs spec ih =>
    rw [recordsOf, List.foldl_concat]
    exact ih.place (records_toRecord source spec)

/-- The first suite gives the tests: one for each name of a spec with a text of its own. -/
theorem extractTests_keepsLast (source : ArtifactSource) :
    (extractTests source []).value = [] ∧ ∀ suite rest,
      extractTests source (suite :: rest) = extractTests source [suite] ∧
      KeepsLast source (suite.specs.filter fun spec => spec.leafText ≠ "")
        (extractTests source (suite :: rest)).value := by
  refine ⟨rfl, fun suite rest => ⟨rfl, ?_⟩⟩
  rw [extractTests_value]
  exact keepsLast_recordsOf source _

end TestHistory
