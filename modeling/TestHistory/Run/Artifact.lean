import TestHistory.Json.Decode

/-!
# What a test left behind

`Artifact` is the record of the files that were collected for one test. Its file lists may be
embedded as `FileContent`s; fields that the record does not know stay with it as they are.
-/

namespace TestHistory

open Json (Value Decoder Tree)

/-- The lists of collected files, by kind. -/
structure Inventory where
  podCount : Nat
  logFiles : List String
  resourceFiles : List String
  eventFiles : List String
  totalBytes : Nat
  collectedAt : String
  deriving DecidableEq

inductive FileKind where
  | log
  | resource
  | events
  | error
  deriving DecidableEq

/-- The embedded content of one file. -/
structure FileContent where
  content : String
  kind : FileKind
  truncated : Option Bool
  totalLines : Option Nat
  deriving DecidableEq

structure Artifact where
  name : String
  namespaceName : String
  failed : Bool
  failureMessage : Option String
  labels : List String
  files : Inventory
  relativePath : String
  /-- Sorted by file name. -/
  contents : List (String × FileContent)
  /-- The fields outside the record, sorted by key. -/
  extra : List (String × Value)

namespace Inventory

def empty : Inventory :=
  ⟨0, [], [], [], 0, ""⟩

def fieldNames : List String :=
  ["pod_count", "log_files", "resource_files", "event_files", "total_size_bytes",
    "collection_time"]

def decode : Decoder Inventory := fun tree => do
  let fields ← Json.Decode.record fieldNames tree
  return {
    podCount := ← Json.Decode.optional fields "pod_count" 0 Json.Decode.natural
    logFiles := ← Json.Decode.optional fields "log_files" [] (Json.Decode.list Json.Decode.string)
    resourceFiles :=
      ← Json.Decode.optional fields "resource_files" [] (Json.Decode.list Json.Decode.string)
    eventFiles :=
      ← Json.Decode.optional fields "event_files" [] (Json.Decode.list Json.Decode.string)
    totalBytes := ← Json.Decode.optional fields "total_size_bytes" 0 Json.Decode.natural
    collectedAt := ← Json.Decode.optional fields "collection_time" "" Json.Decode.string }

def toJson (i : Inventory) : Value :=
  .object [
    ("pod_count", Json.ofNat i.podCount),
    ("log_files", Json.ofStrings i.logFiles),
    ("resource_files", Json.ofStrings i.resourceFiles),
    ("event_files", Json.ofStrings i.eventFiles),
    ("total_size_bytes", Json.ofNat i.totalBytes),
    ("collection_time", .string i.collectedAt)]

end Inventory

namespace FileKind

def name : FileKind → String
  | log => "log"
  | resource => "resource"
  | events => "events"
  | error => "error"

def ofName? (name : String) : Option FileKind :=
  [log, resource, events, error].find? fun kind => kind.name = name

/-- The name of a kind, or an object that maps the name to `null`. -/
def decode : Decoder FileKind
  | .string (some name) => ofName? name
  | .object [(some name, .null)] => ofName? name
  | _ => none

end FileKind

namespace FileContent

def fieldNames : List String :=
  ["content", "type", "truncated", "total_lines"]

def decode : Decoder FileContent := fun tree => do
  let fields ← Json.Decode.record fieldNames tree
  return {
    content := ← Json.Decode.required fields "content" Json.Decode.string
    kind := ← Json.Decode.required fields "type" FileKind.decode
    truncated :=
      ← Json.Decode.optional fields "truncated" none (Json.Decode.nullable Json.Decode.bool)
    totalLines :=
      ← Json.Decode.optional fields "total_lines" none (Json.Decode.nullable Json.Decode.natural) }

/-- An optional field is left out when it is absent. -/
def toJson (c : FileContent) : Value :=
  .object (
    [("content", .string c.content), ("type", .string c.kind.name)] ++
    (c.truncated.map fun b => ("truncated", Value.bool b)).toList ++
    (c.totalLines.map fun n => ("total_lines", Json.ofNat n)).toList)

/-- A message in place of a file that was not read. -/
def ofError (message : String) : FileContent :=
  ⟨message, .error, none, none⟩

end FileContent

namespace Artifact

def fieldNames : List String :=
  ["name", "namespace", "failed", "failure_message", "labels", "artifacts", "relative_path",
    "file_contents"]

/-- Levels that are left inside the fields of a record. -/
def fieldDepth : Nat := Json.maxDepth - 1

def decodeOther (field : String × Tree) : Option (String × Value) :=
  (field.2.value? fieldDepth).map fun value => (field.1, value)

def decodeExtra (fields : Json.Decode.Fields) : Option (List (String × Value)) :=
  (fields.mapM decodeOther).map Keyed.ofList

/-- Only an object holds the fields outside the record. -/
def decode : Decoder Artifact := fun tree => do
  let (fields, others) ← Json.Decode.splitObject fieldNames tree
  return {
    name := ← Json.Decode.optional fields "name" "" Json.Decode.string
    namespaceName := ← Json.Decode.optional fields "namespace" "" Json.Decode.string
    failed := ← Json.Decode.optional fields "failed" false Json.Decode.bool
    failureMessage :=
      ← Json.Decode.optional fields "failure_message" none (Json.Decode.nullable Json.Decode.string)
    labels := ← Json.Decode.optional fields "labels" []
      (Json.Decode.orNull [] (Json.Decode.list Json.Decode.string))
    files := ← Json.Decode.optional fields "artifacts" Inventory.empty Inventory.decode
    relativePath := ← Json.Decode.optional fields "relative_path" "" Json.Decode.string
    contents :=
      ← Json.Decode.optional fields "file_contents" [] (Json.Decode.entries FileContent.decode)
    extra := ← decodeExtra others }

def contentsJson (contents : List (String × FileContent)) : Value :=
  .object (contents.map fun (name, content) => (name, content.toJson))

def toJson (a : Artifact) : Value :=
  .object ([
    ("name", .string a.name),
    ("namespace", .string a.namespaceName),
    ("failed", .bool a.failed),
    ("failure_message", Json.ofOption .string a.failureMessage),
    ("labels", Json.ofStrings a.labels),
    ("artifacts", a.files.toJson),
    ("relative_path", .string a.relativePath),
    ("file_contents", contentsJson a.contents)] ++ a.extra)

end Artifact

end TestHistory
