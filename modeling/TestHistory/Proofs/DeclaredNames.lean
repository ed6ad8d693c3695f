import TestHistory.Proofs.ArtifactReading
import TestHistory.Proofs.BrokenRuns
import TestHistory.Proofs.ByteOrder
import TestHistory.Proofs.Precedence

/-!
# Directories by the tests that they declare

Several directories may declare one test. `build_indexesDeclared` says that the index has the last
of them, and that the artifact which is then read has the name that the index went by.
-/

namespace TestHistory

open Json (Value Tree)
open Json.Decode (Fields Distinct known named)

/-- A directory in the parent that declares a test. -/
structure Declares (fs : FileSystem) (parent : Path) (test name : String) : Prop where
  listed : ∃ names, fs.names parent = .ok names ∧ name ∈ names
  directory : fs.isDirectory (parent.join name) = true
  metadata : ∃ text fields declared,
    fs.readText ((parent.join name).join metadataFile) = .ok text ∧
    Value.parse? text = some (.object fields) ∧
    fields.lookup "name" = some (.string declared) ∧
    Text.trim declared ≠ "" ∧ Text.trim declared = Text.trim test

/-- What an index of a directory gives for a test. -/
structure IndexesDeclared (fs : FileSystem) (parent : Path) (index : ArtifactIndex) : Prop where
  /-- The last directory, by the bytes of the names. -/
  last : ∀ test dir, index.lookup test = some dir ↔ ∃ name, dir = parent.join name ∧
    Declares fs parent test name ∧
    ∀ other, Declares fs parent test other → Text.bytes other ≤ Text.bytes name
  absent : ∀ test, index.lookup test = none ↔ ∀ name, ¬ Declares fs parent test name
  blank : ∀ test, Text.isBlankText test = true → index.lookup test = none
  loaded : ∀ test root options a, (index.load fs test root options).value = some a →
    Text.trim a.name = Text.trim test

/-! ### One name for both readers -/

theorem Keyed.Alike.lookup_image {α β : Type} {related : α → β → Prop} {entries : List (String × α)}
    {images : List (String × β)} (alike : Alike related entries images) {key : String} {b : β}
    (found : images.lookup key = some b) : ∃ a, entries.lookup key = some a ∧ related a b := by
  have flipped : Alike (fun b a => related a b) images entries :=
    List.Forall₂.flip (alike.imp fun _ _ h => ⟨h.1.symm, h.2⟩)
  exact flipped.lookup found

namespace Json

variable {fields : Fields} {key : String} {v : Value}

theorem Tree.alike_of_fields? {depth : Nat} {values : List (String × Value)}
    (read : Tree.fields? depth (named fields) = some values) :
    Keyed.Alike (fun tree value => tree.value? depth = some value) fields values := by
  induction fields generalizing values with
  | nil =>
    obtain rfl := Option.some.inj read
    exact .nil
  | cons field fields ih =>
    obtain ⟨key, tree⟩ := field
    change Tree.fields? depth ((some key, tree) :: named fields) = some values at read
    unfold Tree.fields? at read
    split at read
    · rename_i first rest same here below
      obtain rfl := Option.some.inj same
      obtain rfl := Option.some.inj read
      exact .cons ⟨rfl, here⟩ (ih below)
    · cases read

/-- Of equal keys the last one has its value in the object. -/
theorem Tree.lookup_of_value? {depth : Nat} {values : List (String × Value)}
    (read : (Tree.object (named fields)).value? depth = some (.object values))
    (found : values.lookup key = some v) :
    ∃ tree inner, fields.reverse.lookup key = some tree ∧ tree.value? inner = some v := by
  cases depth with
  | zero => exact nomatch read
  | succ depth =>
    obtain ⟨listed, each, same⟩ := Option.map_eq_some_iff.mp read
    obtain rfl := Value.object.inj same
    rw [Keyed.lookup_ofList] at found
    obtain ⟨tree, last, value⟩ := (Tree.alike_of_fields? each).reverse.lookup_image found
    exact ⟨tree, depth, last, value⟩

theorem Decode.lookup_reverse_of_distinct {names : List String} (once : Distinct names fields)
    (inside : key ∈ names) : fields.reverse.lookup key = fields.lookup key := by
  have kept (fields : Fields) : (known names fields).lookup key = fields.lookup key :=
    Keyed.lookup_filter (names.contains ·) (List.contains_iff_mem.mpr inside) fields
  have single := Keyed.single_of_nodup once
  rw [← kept, ← kept fields, known, List.filter_reverse]
  exact single.lookup_eq (fun _ => List.mem_reverse) key

end Json

/-- A record that can be read has its name where any reader of the object finds it. -/
theorem Artifact.name_of_decode {text declared : String} {fields : List (String × Value)}
    {a : Artifact} (parsed : Value.parse? text = some (.object fields))
    (found : fields.lookup "name" = some (.string declared))
    (decoded : (Tree.parse? text).bind decode = some a) : a.name = declared := by
  obtain ⟨tree, structured, read⟩ := Option.bind_eq_some_iff.mp decoded
  obtain ⟨_, same, value⟩ := Option.bind_eq_some_iff.mp parsed
  obtain rfl := Option.some.inj (structured.symm.trans same)
  obtain ⟨listed, rfl, once, reads, -⟩ := decode_eq_some_iff.mp read
  obtain ⟨leaf, _, last, leafValue⟩ := Tree.lookup_of_value? value found
  have first : (known fieldNames listed).lookup "name" = some leaf := by
    rw [known, Keyed.lookup_filter (fieldNames.contains ·) (by decide),
      ← Json.Decode.lookup_reverse_of_distinct once (by decide), last]
  have name : Json.Decode.string leaf = some a.name := by
    have name := reads.name
    rwa [Json.Decode.optional, first] at name
  unfold Json.Decode.string at name
  split at name
  · obtain rfl := name
    exact Value.string.inj (Option.some.inj leafValue)
  · cases name

/-! ### The index -/

theorem declaredName_eq_some_iff {v : Value} {key : String} : declaredName v = some key ↔
    ∃ fields declared, v = .object fields ∧ fields.lookup "name" = some (.string declared) ∧
      Text.trim declared ≠ "" ∧ Text.trim declared = key := by
  constructor
  · intro declares
    unfold declaredName at declares
    split at declares
    · rename_i declared found
      split at declares
      · exact nomatch declares
      · rename_i notEmpty
        cases v with
        | object fields =>
          exact ⟨fields, declared, rfl, found, notEmpty, Option.some.inj declares⟩
        | _ => exact nomatch found
    · exact nomatch declares
  · rintro ⟨fields, declared, rfl, found, notEmpty, rfl⟩
    rw [declaredName, Value.field?, found]
    exact if_neg notEmpty

theorem readDeclaredName_eq_some_iff {fs : FileSystem} {dir : Path} {key : String} :
    (readDeclaredName fs dir).value = some key ↔ ∃ text fields declared,
      fs.readText (dir.join metadataFile) = .ok text ∧
      Value.parse? text = some (.object fields) ∧
      fields.lookup "name" = some (.string declared) ∧
      Text.trim declared ≠ "" ∧ Text.trim declared = key := by
  unfold readDeclaredName
  cases fs.readText (dir.join metadataFile) with
  | error e => simp
  | ok text =>
    dsimp only
    cases parsed : Value.parse? text with
    | none => simp [parsed]
    | some v =>
      rw [Logged.value_pure, declaredName_eq_some_iff]
      constructor
      · rintro ⟨fields, declared, rfl, rest⟩
        exact ⟨text, fields, declared, rfl, parsed, rest⟩
      · rintro ⟨_, fields, declared, read, same, rest⟩
        obtain rfl := Except.ok.inj read
        exact ⟨fields, declared, Option.some.inj (parsed.symm.trans same), rest⟩

/-- In a list that increases strictly, the last element with a property is the greatest. -/
theorem find?_reverse_eq_some_iff {names : List String} (ordered : names.Pairwise (· < ·))
    {p : String → Bool} {name : String} : names.reverse.find? p = some name ↔
      (name ∈ names ∧ p name = true) ∧ ∀ other, other ∈ names ∧ p other = true → other ≤ name := by
  induction names using List.reverseRecOn with
  | nil => simp
  | append_singleton names greatest ih =>
    obtain ⟨before, -, below⟩ := List.pairwise_append.mp ordered
    rw [List.reverse_concat, List.find?_cons]
    by_cases holds : p greatest = true
    · rw [holds]
      constructor
      · rintro same
        obtain rfl := Option.some.inj same
        refine ⟨⟨List.mem_concat_self, holds⟩, fun other ⟨member, _⟩ => ?_⟩
        rcases List.mem_append.mp member with earlier | last
        · exact (below other earlier greatest List.mem_cons_self).le
        · exact (List.mem_singleton.mp last).le
      · rintro ⟨⟨member, -⟩, most⟩
        rcases List.mem_append.mp member with earlier | last
        · have above := below name earlier greatest List.mem_cons_self
          exact absurd (most greatest ⟨List.mem_concat_self, holds⟩) (not_le.mpr above)
        · rw [List.mem_singleton.mp last]
    · -- The last element does not count, neither as the one that is found nor as another one.
      have members (other : String) : other ∈ names ++ [greatest] ∧ p other = true ↔
          other ∈ names ∧ p other = true := by
        refine and_congr_left fun has => ?_
        rw [List.mem_append, List.mem_singleton]
        exact or_iff_left fun same => holds (same ▸ has)
      simp only [Bool.eq_false_of_not_eq_true holds, members]
      exact ih before

namespace ArtifactIndex

theorem lookup_foldl_add (fs : FileSystem) (dirs : List Path) (index : ArtifactIndex)
    (key : String) :
    (dirs.foldl (fun index dir => (add fs index dir).value) index).entries.lookup key =
      (dirs.reverse.find? fun dir => (readDeclaredName fs dir).value = some key).or
        (index.entries.lookup key) := by
  induction dirs generalizing index with
  | nil => rfl
  | cons dir dirs ih =>
    rw [List.foldl_cons, ih, add_value, List.reverse_cons, List.find?_append, Option.or_assoc]
    congr 1
    rw [List.find?_singleton]
    cases declared : (readDeclaredName fs dir).value with
    | none => simp
    | some name =>
      by_cases same : key = name
      · simp [same]
      · simp [Keyed.lookup_put_other same, Ne.symm same]

theorem mem_listing {fs : FileSystem} {parent : Path} {name : String} :
    name ∈ listing fs parent ↔ ∃ names, fs.names parent = .ok names ∧ name ∈ names := by
  unfold listing
  cases fs.names parent <;> simp [Except.toOption]

theorem directories_eq (fs : FileSystem) (parent : Path) :
    directories fs parent = ((listing fs parent).map parent.join).filter fs.isDirectory := by
  unfold directories listing
  cases fs.names parent <;> rfl

/-- The check of `Declares`, apart from the listing. -/
def isFor (fs : FileSystem) (parent : Path) (test name : String) : Bool :=
  fs.isDirectory (parent.join name) = true ∧
    (readDeclaredName fs (parent.join name)).value = some (Text.trim test)

theorem isFor_iff {fs : FileSystem} {parent : Path} {test name : String} :
    name ∈ listing fs parent ∧ isFor fs parent test name = true ↔
      Declares fs parent test name := by
  rw [mem_listing, isFor, decide_eq_true_eq, readDeclaredName_eq_some_iff]
  constructor
  · rintro ⟨listed, directory, metadata⟩
    exact ⟨listed, directory, metadata⟩
  · rintro ⟨listed, directory, metadata⟩
    exact ⟨listed, directory, metadata⟩

theorem lookup_build (fs : FileSystem) (parent : Path) (test : String) :
    (build fs parent).value.lookup test =
      ((listing fs parent).reverse.find? (isFor fs parent test)).map parent.join := by
  rw [lookup, build, Logged.value_foldlM, lookup_foldl_add, directories_eq, ← List.filter_reverse,
    ← List.map_reverse, List.find?_filter, List.find?_map]
  simp only [Function.comp_def, decide_eq_true_eq]
  exact Option.or_none

theorem lookup_build_eq_some_iff {fs : FileSystem} (sorted : fs.Sorted) {parent dir : Path}
    {test : String} : (build fs parent).value.lookup test = some dir ↔ ∃ name,
      dir = parent.join name ∧ Declares fs parent test name ∧
        ∀ other, Declares fs parent test other → Text.bytes other ≤ Text.bytes name := by
  have order (a b : String) : Text.bytes a ≤ Text.bytes b ↔ a ≤ b := by
    rw [← List.not_lt, Text.bytes_lt_iff, not_lt]
  rw [lookup_build, Option.map_eq_some_iff]
  simp only [find?_reverse_eq_some_iff (listing_pairwise sorted parent), isFor_iff, order]
  exact exists_congr fun name => and_comm.trans (and_congr_left fun _ => eq_comm)

theorem lookup_build_eq_none_iff {fs : FileSystem} {parent : Path} {test : String} :
    (build fs parent).value.lookup test = none ↔ ∀ name, ¬ Declares fs parent test name := by
  rw [lookup_build, Option.map_eq_none_iff, List.find?_eq_none]
  simp only [List.mem_reverse, ← isFor_iff, not_and]

theorem name_of_load {fs : FileSystem} (sorted : fs.Sorted) {parent root : Path} {test : String}
    {options : ScanOptions} {a : Artifact}
    (loaded : ((build fs parent).value.load fs test root options).value = some a) :
    Text.trim a.name = Text.trim test := by
  unfold load at loaded
  split at loaded
  · rename_i dir found
    obtain ⟨name, rfl, declares, -⟩ := (lookup_build_eq_some_iff sorted).mp found
    obtain ⟨text, fields, declared, read, parsed, named, -, same⟩ := declares.metadata
    obtain ⟨again, m, read', decoded⟩ := exists_metadata_of_loadArtifact loaded
    obtain rfl := Except.ok.inj (read.symm.trans read')
    rw [loadArtifact_value read decoded] at loaded
    obtain rfl := Option.some.inj loaded
    rw [← same, ← Artifact.name_of_decode parsed named decoded]
  · exact nomatch loaded

/-- The index has the last directory that declares a test, and gives an artifact of that name. -/
theorem build_indexesDeclared {fs : FileSystem} (sorted : fs.Sorted) (parent : Path) :
    IndexesDeclared fs parent (build fs parent).value where
  last _ _ := lookup_build_eq_some_iff sorted
  absent _ := lookup_build_eq_none_iff
  blank test blank := by
    refine lookup_build_eq_none_iff.mpr fun name declares => ?_
    obtain ⟨_, _, _, -, -, -, notEmpty, same⟩ := declares.metadata
    exact notEmpty (same.trans (Text.trim_eq_empty_iff.mpr blank))
  loaded _ _ _ _ := name_of_load sorted

/-- Of the directories of artifacts, `a` and `c` declare one test; `b` repeats its key, `d` and `e`
declare none. -/
def declaringTree : FileSystem where
  root := .directory [
    ("a", holding "\x7b\"name\":\" pays \"\x7d"),
    ("b", holding "\x7b\"name\":\"pays\",\"name\":\"waits\"\x7d"),
    ("c", holding "\x7b\"name\":\"\\tpays\"\x7d"),
    ("d", holding "\x7b\"name\":\"pays\""),
    ("e", holding "\x7b\"name\":\" \"\x7d"),
    ("f", .file "pays".toUTF8 ⟨0, 0⟩)]
  working := []
where
  holding (metadata : String) : Node :=
    .directory [("metadata.json", .file metadata.toUTF8 ⟨0, 0⟩)]

theorem sorted_declaringTree : declaringTree.Sorted :=
  (FileSystem.regular_of_isRegular (by decide +kernel)).sorted

/-- The repeated key is found under its last name, and refused when the artifact is read. -/
theorem build_declaringTree : ∃ index, (build declaringTree ⟨"/"⟩).value = index ∧
    IndexesDeclared declaringTree ⟨"/"⟩ index ∧
    index.lookup "pays " = some ⟨"/c"⟩ ∧ index.lookup "waits" = some ⟨"/b"⟩ ∧
    (index.load declaringTree "pays" ⟨"/"⟩ .default).value.map (·.name) = some "\tpays" ∧
    (index.load declaringTree "waits" ⟨"/"⟩ .default).value.isNone = true :=
  ⟨_, rfl, build_indexesDeclared sorted_declaringTree _, by decide +kernel, by decide +kernel,
    by decide +kernel, by decide +kernel⟩

end ArtifactIndex

end TestHistory
