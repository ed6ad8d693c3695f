import TestHistory.Proofs.Records
import TestHistory.Proofs.WholeValues
import TestHistory.Run.Artifact

/-!
# Artifacts and what they are written as

`decode_eq_some_iff` says what an object must hold to be an artifact. What is read of one is read
again from the text that the artifact is written as, and no field is lost or taken for another
(`parse?_again`).
-/

namespace TestHistory

open Json (Value Tree)
open Json.Decode (Fields named known unknown written natural_ofValue)
open Decimal (bound64)

namespace Inventory

/-- Its numbers have 64 bits. -/
structure Bounded (i : Inventory) : Prop where
  pods : i.podCount < bound64
  bytes : i.totalBytes < bound64

theorem bounded_of_decode {tree : Tree} {i : Inventory} (read : decode tree = some i) :
    i.Bounded := by
  have bounded {fields : Fields} {name : String} {n : Nat} :
      Json.Decode.optional fields name 0 Json.Decode.natural = some n → n < bound64 :=
    Json.Decode.optional_spec (· < bound64) (by decide) fun _ _ => Json.Decode.natural_lt
  simp only [decode, Option.bind_eq_bind, Option.bind_eq_some_iff, Option.pure_def,
    Option.some.injEq] at read
  obtain ⟨_, -, _, pods, _, -, _, -, _, -, _, bytes, _, -, rfl⟩ := read
  exact ⟨bounded pods, bounded bytes⟩

/-- What an inventory is written as. -/
def fields (i : Inventory) : List (String × Value) :=
  [("pod_count", Json.ofNat i.podCount), ("log_files", Json.ofStrings i.logFiles),
    ("resource_files", Json.ofStrings i.resourceFiles),
    ("event_files", Json.ofStrings i.eventFiles),
    ("total_size_bytes", Json.ofNat i.totalBytes), ("collection_time", .string i.collectedAt)]

theorem decode_ofValue {i : Inventory} (bounded : i.Bounded) :
    decode (Tree.ofValue i.toJson) = some i := by
  have split : Json.Decode.record fieldNames (Tree.ofValue i.toJson) = some (written i.fields) :=
    Json.Decode.record_ofValue (by decide) (List.Sublist.refl fieldNames)
  simp [decode, split, written, fields, Json.Decode.optional, List.lookup_cons, Prod.map,
    natural_ofValue bounded.pods, natural_ofValue bounded.bytes]

theorem isWhole_toJson {i : Inventory} (bounded : i.Bounded) : i.toJson.IsWhole := by
  simp [toJson, Value.IsWhole, Value.FieldsWhole, Json.isWhole_ofNat bounded.pods,
    Json.isWhole_ofNat bounded.bytes]

end Inventory

namespace FileContent

def Bounded (c : FileContent) : Prop :=
  ∀ n ∈ c.totalLines, n < bound64

theorem bounded_of_decode {tree : Tree} {c : FileContent} (read : decode tree = some c) :
    c.Bounded := by
  simp only [decode, Option.bind_eq_bind, Option.bind_eq_some_iff, Option.pure_def,
    Option.some.injEq] at read
  obtain ⟨_, -, _, -, _, -, _, -, _, lines, rfl⟩ := read
  refine Json.Decode.optional_spec (fun lines => ∀ n ∈ lines, n < bound64) (by simp) ?_ lines
  intro tree lines
  exact Json.Decode.nullable_spec (· < bound64) fun _ _ => Json.Decode.natural_lt

def fields (c : FileContent) : List (String × Value) :=
  [("content", .string c.content), ("type", .string c.kind.name)] ++
    (c.truncated.map fun b => ("truncated", Value.bool b)).toList ++
    (c.totalLines.map fun n => ("total_lines", Json.ofNat n)).toList

theorem map_fst_fields_sublist (c : FileContent) : (c.fields.map Prod.fst).Sublist fieldNames := by
  obtain ⟨content, kind, truncated, totalLines⟩ := c
  cases truncated <;> cases totalLines <;> simp [fields, fieldNames]

theorem decode_kind_ofValue (kind : FileKind) :
    FileKind.decode (Tree.ofValue (.string kind.name)) = some kind := by
  cases kind <;> rfl

theorem decode_ofValue {c : FileContent} (bounded : c.Bounded) :
    decode (Tree.ofValue c.toJson) = some c := by
  have split : Json.Decode.record fieldNames (Tree.ofValue c.toJson) = some (written c.fields) :=
    Json.Decode.record_ofValue (by decide) c.map_fst_fields_sublist
  have lines (n : Nat) (member : n ∈ c.totalLines) :=
    Json.Decode.nullable_natural_ofValue (bounded n member)
  obtain ⟨content, kind, truncated, totalLines⟩ := c
  cases truncated <;> cases totalLines <;>
    simp [decode, split, written, fields, Json.Decode.optional, Json.Decode.required,
      List.lookup_cons, Prod.map, decode_kind_ofValue, lines]

theorem isWhole_toJson {c : FileContent} (bounded : c.Bounded) : c.toJson.IsWhole := by
  have lines (n : Nat) (member : n ∈ c.totalLines) := Json.isWhole_ofNat (bounded n member)
  obtain ⟨content, kind, truncated, totalLines⟩ := c
  cases truncated <;> cases totalLines <;>
    simp [toJson, Value.IsWhole, Value.FieldsWhole, lines]

end FileContent

namespace Artifact

/-- The empty object. -/
def empty : Artifact :=
  ⟨"", "", false, none, [], Inventory.empty, "", [], []⟩

/-- What the fields of the record say of an artifact. -/
structure Reads (fields : Fields) (a : Artifact) : Prop where
  name : Json.Decode.optional fields "name" "" Json.Decode.string = some a.name
  namespaceName :
    Json.Decode.optional fields "namespace" "" Json.Decode.string = some a.namespaceName
  failed : Json.Decode.optional fields "failed" false Json.Decode.bool = some a.failed
  failureMessage : Json.Decode.optional fields "failure_message" none
    (Json.Decode.nullable Json.Decode.string) = some a.failureMessage
  labels : Json.Decode.optional fields "labels" []
    (Json.Decode.orNull [] (Json.Decode.list Json.Decode.string)) = some a.labels
  files : Json.Decode.optional fields "artifacts" Inventory.empty Inventory.decode = some a.files
  relativePath :
    Json.Decode.optional fields "relative_path" "" Json.Decode.string = some a.relativePath
  contents : Json.Decode.optional fields "file_contents" []
    (Json.Decode.entries FileContent.decode) = some a.contents

theorem decode_eq_some_iff {tree : Tree} {a : Artifact} :
    decode tree = some a ↔ ∃ fields, tree = .object (named fields) ∧
      Json.Decode.Distinct fieldNames fields ∧ Reads (known fieldNames fields) a ∧
      decodeExtra (unknown fieldNames fields) = some a.extra := by
  constructor
  · intro read
    simp only [decode, Option.bind_eq_bind, Option.bind_eq_some_iff, Option.pure_def,
      Option.some.injEq] at read
    obtain ⟨⟨inside, outside⟩, split, _, name, _, namespaceName, _, failed, _, failureMessage,
      _, labels, _, files, _, relativePath, _, contents, _, extra, rfl⟩ := read
    obtain ⟨fields, rfl, once, rfl, rfl⟩ := Json.Decode.eq_of_splitObject split
    exact ⟨fields, rfl, once, ⟨name, namespaceName, failed, failureMessage, labels, files,
      relativePath, contents⟩, extra⟩
  · rintro ⟨fields, rfl, once, reads, extra⟩
    rw [decode, Json.Decode.splitObject_named once]
    simp [reads.name, reads.namespaceName, reads.failed, reads.failureMessage, reads.labels,
      reads.files, reads.relativePath, reads.contents, extra]

/-! ### Fields outside the record -/

theorem decodeOther_eq_some_iff {field : String × Tree} {read : String × Value} :
    decodeOther field = some read ↔
      field.1 = read.1 ∧ field.2.value? fieldDepth = some read.2 := by
  obtain ⟨key, value⟩ := read
  rw [decodeOther, Option.map_eq_some_iff]
  constructor
  · rintro ⟨_, inner, same⟩
    obtain ⟨rfl, rfl⟩ := Prod.mk.inj same
    exact ⟨rfl, inner⟩
  · rintro ⟨rfl, inner⟩
    exact ⟨value, inner, rfl⟩

theorem alike_of_mapM {fields : Fields} {values : List (String × Value)}
    (read : fields.mapM decodeOther = some values) :
    Keyed.Alike (fun tree value => tree.value? fieldDepth = some value) fields values :=
  (mapM_eq_some_iff.mp read).imp fun _ _ => decodeOther_eq_some_iff.mp

section

variable {fields : Fields} {extra : List (String × Value)} (read : decodeExtra fields = some extra)

include read

theorem lookup_of_decodeExtra {key : String} {tree : Tree}
    (last : fields.reverse.lookup key = some tree) :
    ∃ value, extra.lookup key = some value ∧ tree.value? fieldDepth = some value := by
  obtain ⟨values, each, rfl⟩ := Option.map_eq_some_iff.mp read
  rw [Keyed.lookup_ofList]
  exact (alike_of_mapM each).reverse.lookup last

theorem mem_keys_of_decodeExtra {key : String} :
    key ∈ extra.map Prod.fst ↔ key ∈ fields.map Prod.fst := by
  obtain ⟨values, each, rfl⟩ := Option.map_eq_some_iff.mp read
  rw [Keyed.mem_keys_ofList, (alike_of_mapM each).map_fst]

theorem sorted_of_decodeExtra : Keyed.Sorted extra := by
  obtain ⟨values, -, rfl⟩ := Option.map_eq_some_iff.mp read
  exact Keyed.sorted_ofList values

theorem settled_of_decodeExtra : ∀ field ∈ extra, Tree.Settled fieldDepth field.2 := by
  obtain ⟨values, each, rfl⟩ := Option.map_eq_some_iff.mp read
  have settled : ∀ field ∈ values, Tree.Settled fieldDepth field.2 := by
    refine forall_mem_of_mapM (fun field => Tree.Settled fieldDepth field.2) ?_ each
    intro field value other
    exact Tree.settled_of_value? fieldDepth field.2 (decodeOther_eq_some_iff.mp other).2
  exact fun field member => settled field (Keyed.mem_of_mem_ofList member)

end

theorem decodeExtra_written {extra : List (String × Value)} (sorted : Keyed.Sorted extra)
    (settled : ∀ field ∈ extra, Tree.Settled fieldDepth field.2) :
    decodeExtra (written extra) = some extra := by
  have each : (written extra).mapM decodeOther = some extra := by
    refine mapM_eq_some_iff.mpr (List.forall₂_map_left_iff.mpr (List.forall₂_same.mpr ?_))
    exact fun field member => decodeOther_eq_some_iff.mpr ⟨rfl, settled field member⟩
  rw [decodeExtra, each, Option.map_some, sorted.ofList_eq]

/-! ### Reading back -/

/-- What holds of every artifact that was read. -/
structure WellFormed (a : Artifact) : Prop where
  files : a.files.Bounded
  sortedContents : Keyed.Sorted a.contents
  contents : ∀ file ∈ a.contents, file.2.Bounded
  sortedExtra : Keyed.Sorted a.extra
  outside : ∀ field ∈ a.extra, field.1 ∉ fieldNames
  settled : ∀ field ∈ a.extra, Tree.Settled fieldDepth field.2

theorem wellFormed_of_decode {tree : Tree} {a : Artifact} (read : decode tree = some a) :
    a.WellFormed := by
  obtain ⟨fields, -, -, reads, extra⟩ := decode_eq_some_iff.mp read
  have none : Keyed.Sorted ([] : List (String × FileContent)) := List.Pairwise.nil
  have contents : Keyed.Sorted a.contents ∧ ∀ file ∈ a.contents, file.2.Bounded := by
    refine Json.Decode.optional_spec
      (fun contents => Keyed.Sorted contents ∧ ∀ file ∈ contents, file.2.Bounded)
      ⟨none, by simp⟩ (fun tree contents read => ?_) reads.contents
    obtain ⟨sorted, decoded⟩ := Json.Decode.entries_spec read
    refine ⟨sorted, fun file member => ?_⟩
    obtain ⟨tree, decoded⟩ := decoded file member
    exact FileContent.bounded_of_decode decoded
  exact {
    files := Json.Decode.optional_spec Inventory.Bounded ⟨by decide, by decide⟩
      (fun _ _ => Inventory.bounded_of_decode) reads.files
    sortedContents := contents.1
    contents := contents.2
    sortedExtra := sorted_of_decodeExtra extra
    outside := by
      intro field member
      have kept := (mem_keys_of_decodeExtra extra).mp (List.mem_map_of_mem member)
      obtain ⟨other, unnamed, same⟩ := List.mem_map.mp kept
      exact same ▸ Json.Decode.not_mem_names_of_unknown unnamed
    settled := settled_of_decodeExtra extra }

/-- Without the fields outside the record. -/
def fields (a : Artifact) : List (String × Value) :=
  [("name", .string a.name), ("namespace", .string a.namespaceName), ("failed", .bool a.failed),
    ("failure_message", Json.ofOption .string a.failureMessage),
    ("labels", Json.ofStrings a.labels), ("artifacts", a.files.toJson),
    ("relative_path", .string a.relativePath), ("file_contents", contentsJson a.contents)]

theorem decode_contents {contents : List (String × FileContent)} (sorted : Keyed.Sorted contents)
    (bounded : ∀ file ∈ contents, file.2.Bounded) :
    Json.Decode.entries FileContent.decode (Tree.ofValue (contentsJson contents)) =
      some contents :=
  Json.Decode.entries_ofValue sorted fun file member =>
    FileContent.decode_ofValue (bounded file member)

theorem decode_labels (labels : List String) :
    Json.Decode.orNull [] (Json.Decode.list Json.Decode.string)
      (Tree.ofValue (Json.ofStrings labels)) = some labels :=
  Json.Decode.strings_ofValue labels

theorem reads_written {a : Artifact} (wellFormed : a.WellFormed) : Reads (written a.fields) a := by
  have files := Inventory.decode_ofValue wellFormed.files
  have contents := decode_contents wellFormed.sortedContents wellFormed.contents
  constructor <;>
    simp [written, fields, Json.Decode.optional, List.lookup_cons, Prod.map, decode_labels, files,
      contents]

theorem decode_ofValue {a : Artifact} (wellFormed : a.WellFormed) :
    decode (Tree.ofValue a.toJson) = some a := by
  have split : Json.Decode.splitObject fieldNames (Tree.ofValue a.toJson) =
      some (written a.fields, written a.extra) :=
    Json.Decode.splitObject_ofValue (by decide) (List.Sublist.refl fieldNames) wellFormed.outside
  obtain ⟨all, same, once, own, rest⟩ := Json.Decode.eq_of_splitObject split
  refine decode_eq_some_iff.mpr ⟨all, same, once, own ▸ reads_written wellFormed, ?_⟩
  rw [← rest, decodeExtra_written wellFormed.sortedExtra wellFormed.settled]

/-- Every number outside the record is an integer of 64 bits. -/
def IsWhole (a : Artifact) : Prop :=
  ∀ field ∈ a.extra, field.2.IsWhole

theorem isWhole_toJson {a : Artifact} (wellFormed : a.WellFormed) (whole : a.IsWhole) :
    a.toJson.IsWhole := by
  have files := Inventory.isWhole_toJson wellFormed.files
  have contents : (contentsJson a.contents).IsWhole :=
    Value.fieldsWhole_iff.mpr (List.forall_mem_map.mpr fun file member =>
      FileContent.isWhole_toJson (wellFormed.contents file member))
  have message : (Json.ofOption .string a.failureMessage).IsWhole := by
    cases a.failureMessage <;> trivial
  refine Value.fieldsWhole_iff.mpr (List.forall_mem_append.mpr ⟨?_, whole⟩)
  simp [files, contents, message, Value.IsWhole]

/-- The artifact in a text. -/
def parse? (text : String) : Option Artifact :=
  (Tree.parse? text).bind decode

/-- What becomes of the fields of an object. -/
structure Keeps (fields : Fields) (a : Artifact) : Prop where
  /-- Of a key outside the record the last field is kept. -/
  last : ∀ key ∉ fieldNames, ∀ tree, fields.reverse.lookup key = some tree →
    ∃ value, a.extra.lookup key = some value ∧ tree.value? fieldDepth = some value
  only : ∀ key ∈ a.extra.map Prod.fst, key ∉ fieldNames ∧ key ∈ fields.map Prod.fst
  /-- The record does not depend on other fields, nor they on it. -/
  record_alone :
    decode (.object (named (known fieldNames fields))) = some { a with extra := [] }
  others_alone :
    decode (.object (named (unknown fieldNames fields))) = some { empty with extra := a.extra }
  labels : ("labels", Tree.null) ∈ fields → a.labels = []

theorem keeps_of_reads {fields : Fields} {a : Artifact}
    (once : Json.Decode.Distinct fieldNames fields) (reads : Reads (known fieldNames fields) a)
    (extra : decodeExtra (unknown fieldNames fields) = some a.extra) : Keeps fields a := by
  have inside (field : String × Tree) (member : field ∈ known fieldNames fields) :=
    Json.Decode.mem_names_of_known member
  have outside (field : String × Tree) (member : field ∈ unknown fieldNames fields) :=
    Json.Decode.not_mem_names_of_unknown member
  constructor
  case last =>
    intro key unnamed tree found
    rw [← Json.Decode.lookup_reverse_unknown unnamed] at found
    exact lookup_of_decodeExtra extra found
  case only =>
    intro key member
    obtain ⟨field, kept, rfl⟩ := List.mem_map.mp ((mem_keys_of_decodeExtra extra).mp member)
    exact ⟨outside field kept, List.mem_map_of_mem (List.mem_of_mem_filter kept)⟩
  case record_alone =>
    have own := Json.Decode.known_eq_self inside
    refine decode_eq_some_iff.mpr ⟨known fieldNames fields, rfl, ?_, ?_, ?_⟩
    · rw [Json.Decode.Distinct, own]
      exact once
    · rw [own]
      exact { reads with }
    · rw [Json.Decode.unknown_eq_nil inside]
      rfl
  case others_alone =>
    -- None of them is in the record, so the record has its defaults.
    refine decode_eq_some_iff.mpr ⟨unknown fieldNames fields, rfl, ?_, ?_, ?_⟩
    · rw [Json.Decode.Distinct, Json.Decode.known_eq_nil outside]
      exact List.nodup_nil
    · rw [Json.Decode.known_eq_nil outside]
      constructor <;> rfl
    · rw [Json.Decode.unknown_eq_self outside]
      exact extra
  case labels =>
    intro member
    have kept : ("labels", Tree.null) ∈ known fieldNames fields :=
      List.mem_filter.mpr ⟨member, by decide⟩
    -- Another field of the name would be refused, so this one is found.
    have found := (Keyed.single_of_nodup once).mem_iff_lookup.mp kept
    have labels := reads.labels
    rw [Json.Decode.optional, found] at labels
    exact (Option.some.inj labels).symm

/-- An artifact from a text, all of whose numbers are integers of 64 bits, is read again from what it
is written as. -/
theorem parse?_again {text : String} {a : Artifact} (read : parse? text = some a) :
    (a.IsWhole → parse? a.toJson.compact = some a) ∧
      ∃ fields, Tree.parse? text = some (.object (named fields)) ∧ Keeps fields a := by
  obtain ⟨tree, parsed, decoded⟩ := Option.bind_eq_some_iff.mp read
  have wellFormed := wellFormed_of_decode decoded
  obtain ⟨fields, rfl, once, reads, extra⟩ := decode_eq_some_iff.mp decoded
  refine ⟨fun whole => ?_, fields, parsed, keeps_of_reads once reads extra⟩
  rw [parse?, Json.parse?_compact, Value.tree_of_isWhole _ (isWhole_toJson wellFormed whole)]
  exact decode_ofValue wellFormed

/-- Of the two durations the second one counts. -/
def timed : Artifact :=
  { empty with name := "pays", extra := [("duration_ms", .number (.int 1200))] }

def timedText : String :=
  "\x7b\"name\":\"pays\",\"duration_ms\":7,\"labels\":null,\"duration_ms\":1200\x7d"

theorem parse?_timedText : parse? timedText = some timed := by
  let written : Value := .object [("name", .string "pays"), ("duration_ms", .number (.int 7)),
    ("labels", .null), ("duration_ms", .number (.int 1200))]
  have spelled : timedText = written.compact := by decide +kernel
  have whole : written.IsWhole := by
    simp [written, Value.IsWhole, Value.FieldsWhole, Json.Number.IsWhole]
  rw [parse?, spelled, Json.parse?_compact, Value.tree_of_isWhole _ whole]
  simp [decode, written, timed, empty, Tree.ofValue, Tree.ofFields, Json.Decode.splitObject,
    Json.Decode.keyed, Json.Decode.distinct, known, fieldNames, List.lookup_cons,
    Json.Decode.optional, Json.Decode.string, Json.Decode.orNull, decodeExtra, decodeOther,
    Tree.value?, Keyed.ofList, Keyed.putAll, Keyed.put]

theorem parse?_again_timed :
    parse? timedText = some timed ∧ parse? timed.toJson.compact = some timed ∧
      ∃ fields, Tree.parse? timedText = some (.object (named fields)) ∧ Keeps fields timed := by
  have whole : timed.IsWhole := by simp [timed, IsWhole, Value.IsWhole, Json.Number.IsWhole]
  obtain ⟨again, kept⟩ := parse?_again parse?_timedText
  exact ⟨parse?_timedText, again whole, kept⟩

end Artifact

end TestHistory
