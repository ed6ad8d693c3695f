import Mathlib.Data.List.Forall2
import TestHistory.Json.Decode
import TestHistory.Proofs.Keyed

/-!
# Objects that are read as records

An object is split into the fields that a record knows, each of which stands once, and the others
(`eq_of_splitObject`). A written object is read field by field (`record_ofValue`).
-/

namespace TestHistory

namespace Keyed

variable {α β : Type}

theorem lookup_filter (keeps : String → Bool) {key : String} (kept : keeps key)
    (entries : List (String × α)) :
    (entries.filter fun entry => keeps entry.1).lookup key = entries.lookup key := by
  induction entries with
  | nil => rfl
  | cons entry entries ih =>
    obtain ⟨k, a⟩ := entry
    rw [List.filter_cons]
    by_cases same : key = k
    · subst same
      rw [if_pos kept, List.lookup_cons_self, List.lookup_cons_self]
    · split
      · rw [lookup_cons_other same, lookup_cons_other same, ih]
      · rw [lookup_cons_other same, ih]

/-- The same keys in the same order, with related values. -/
def Alike (related : α → β → Prop) (entries : List (String × α)) (images : List (String × β)) :
    Prop :=
  List.Forall₂ (fun entry image => entry.1 = image.1 ∧ related entry.2 image.2) entries images

section

variable {related : α → β → Prop} {entries : List (String × α)} {images : List (String × β)}

theorem Alike.reverse (alike : Alike related entries images) :
    Alike related entries.reverse images.reverse :=
  List.forall₂_reverse_iff.mpr alike

theorem Alike.map_fst (alike : Alike related entries images) :
    entries.map Prod.fst = images.map Prod.fst := by
  induction alike with
  | nil => rfl
  | cons first _ ih => rw [List.map_cons, List.map_cons, first.1, ih]

theorem Alike.lookup (alike : Alike related entries images) {key : String} {a : α}
    (found : entries.lookup key = some a) : ∃ b, images.lookup key = some b ∧ related a b := by
  induction alike with
  | nil => exact nomatch found
  | @cons entry image entries images first _ ih =>
    obtain ⟨k, c⟩ := entry
    obtain ⟨_, d⟩ := image
    obtain ⟨rfl, relates⟩ := first
    by_cases same : key = k
    · subst same
      rw [List.lookup_cons_self] at found
      exact ⟨d, List.lookup_cons_self, Option.some.inj found ▸ relates⟩
    · rw [lookup_cons_other same] at found ⊢
      exact ih found

end

end Keyed

theorem mapM_eq_some_iff {α β : Type} {f : α → Option β} {l : List α} {images : List β} :
    l.mapM f = some images ↔ List.Forall₂ (fun a b => f a = some b) l images := by
  induction l generalizing images with
  | nil => cases images <;> simp
  | cons a l ih =>
    rw [List.mapM_cons]
    cases images with
    | nil => cases f a <;> cases l.mapM f <;> simp
    | cons b images =>
      rw [List.forall₂_cons, ← ih]
      cases f a <;> cases l.mapM f <;> simp

theorem forall_mem_of_mapM {α β : Type} {f : α → Option β} (holds : β → Prop) {l : List α}
    {images : List β} (each : ∀ a b, f a = some b → holds b) (read : l.mapM f = some images) :
    ∀ b ∈ images, holds b := by
  induction mapM_eq_some_iff.mp read with
  | nil => exact List.forall_mem_nil _
  | cons first rest ih =>
    exact List.forall_mem_cons.mpr ⟨each _ _ first, ih (mapM_eq_some_iff.mpr rest)⟩

namespace Json.Decode

/-- The fields of an object whose keys can all be read. -/
def named (fields : Fields) : List (Option String × Tree) :=
  fields.map (Prod.map some id)

/-- The fields of an object that a record does not know. -/
def unknown (names : List String) (fields : Fields) : Fields :=
  fields.filter fun (key, _) => !names.contains key

theorem keyed_named (fields : Fields) : keyed (named fields) = some fields := by
  induction fields with
  | nil => rfl
  | cons field fields ih =>
    change (keyed (named fields)).map (field :: ·) = _
    rw [ih, Option.map_some]

theorem eq_named_of_keyed {all : List (Option String × Tree)} {fields : Fields}
    (readable : keyed all = some fields) : all = named fields := by
  induction all generalizing fields with
  | nil =>
    obtain rfl := Option.some.inj readable
    rfl
  | cons field all ih =>
    match field with
    | (some key, tree) =>
      obtain ⟨rest, inner, rfl⟩ := Option.map_eq_some_iff.mp readable
      rw [ih inner]
      rfl

theorem distinct_iff {fields : Fields} : distinct fields = true ↔ (fields.map Prod.fst).Nodup := by
  induction fields with
  | nil => simp [distinct]
  | cons field fields ih =>
    rw [distinct, Bool.and_eq_true, ih, List.map_cons, List.nodup_cons, ← Keyed.isSome_lookup,
      Option.isNone_iff_eq_none, Option.not_isSome_iff_eq_none]

variable {names : List String}

/-- Fields of a record that stand once each. -/
def Distinct (names : List String) (fields : Fields) : Prop :=
  ((known names fields).map Prod.fst).Nodup

theorem splitObject_named {fields : Fields} (once : Distinct names fields) :
    splitObject names (.object (named fields)) =
      some (known names fields, unknown names fields) := by
  rw [splitObject, keyed_named]
  exact if_pos (distinct_iff.mpr once)

theorem eq_of_splitObject {tree : Tree} {inside outside : Fields}
    (split : splitObject names tree = some (inside, outside)) :
    ∃ fields, tree = .object (named fields) ∧ Distinct names fields ∧
      inside = known names fields ∧ outside = unknown names fields := by
  unfold splitObject at split
  split at split
  · rename_i all
    split at split
    · rename_i fields readable
      split at split
      · rename_i once
        obtain ⟨rfl, rfl⟩ := Prod.mk.inj (Option.some.inj split)
        exact ⟨fields, congrArg _ (eq_named_of_keyed readable), distinct_iff.mp once, rfl, rfl⟩
      · exact nomatch split
    · exact nomatch split
  · exact nomatch split

/-! ### Written objects -/

/-- The fields of a written object. -/
def written (fields : List (String × Value)) : Fields :=
  fields.map (Prod.map id Tree.ofValue)

theorem ofFields_eq (fields : List (String × Value)) :
    Tree.ofFields fields = named (written fields) := by
  induction fields with
  | nil => rfl
  | cons field fields ih =>
    rw [Tree.ofFields, ih]
    rfl

theorem written_append (fields more : List (String × Value)) :
    written (fields ++ more) = written fields ++ written more :=
  List.map_append

theorem map_fst_written (fields : List (String × Value)) :
    (written fields).map Prod.fst = fields.map Prod.fst := by
  rw [written, List.map_map]
  rfl

theorem forall_mem_written (holds : String → Prop) {fields : List (String × Value)}
    (all : ∀ field ∈ fields, holds field.1) : ∀ field ∈ written fields, holds field.1 :=
  List.forall_mem_map.mpr all

theorem isOther_iff {key : String} : (!names.contains key) = true ↔ key ∉ names := by
  rw [Bool.not_eq_true', Bool.eq_false_iff, ne_eq, List.contains_iff_mem]

theorem known_eq_self {fields : Fields} (inside : ∀ field ∈ fields, field.1 ∈ names) :
    known names fields = fields :=
  List.filter_eq_self.mpr fun field member => List.contains_iff_mem.mpr (inside field member)

theorem known_eq_nil {fields : Fields} (outside : ∀ field ∈ fields, field.1 ∉ names) :
    known names fields = [] :=
  List.filter_eq_nil_iff.mpr fun field member => mt List.contains_iff_mem.mp (outside field member)

theorem unknown_eq_self {fields : Fields} (outside : ∀ field ∈ fields, field.1 ∉ names) :
    unknown names fields = fields :=
  List.filter_eq_self.mpr fun field member => isOther_iff.mpr (outside field member)

theorem unknown_eq_nil {fields : Fields} (inside : ∀ field ∈ fields, field.1 ∈ names) :
    unknown names fields = [] :=
  List.filter_eq_nil_iff.mpr fun field member other => isOther_iff.mp other (inside field member)

theorem mem_names_of_known {fields : Fields} {field : String × Tree}
    (member : field ∈ known names fields) : field.1 ∈ names :=
  List.contains_iff_mem.mp (List.mem_filter.mp member).2

theorem not_mem_names_of_unknown {fields : Fields} {field : String × Tree}
    (member : field ∈ unknown names fields) : field.1 ∉ names :=
  isOther_iff.mp (List.mem_filter.mp member).2

/-- Other fields do not hide any of a key outside the record. -/
theorem lookup_reverse_unknown {key : String} (outside : key ∉ names) (fields : Fields) :
    (unknown names fields).reverse.lookup key = fields.reverse.lookup key := by
  rw [unknown, ← List.filter_reverse]
  exact Keyed.lookup_filter (!names.contains ·) (isOther_iff.mpr outside) fields.reverse

theorem known_append (fields more : Fields) :
    known names (fields ++ more) = known names fields ++ known names more :=
  List.filter_append ..

theorem unknown_append (fields more : Fields) :
    unknown names (fields ++ more) = unknown names fields ++ unknown names more :=
  List.filter_append ..

/-- A record that is written as an object is split into its own fields and the others. -/
theorem splitObject_ofValue {fields others : List (String × Value)}
    (single : names.Nodup) (listed : (fields.map Prod.fst).Sublist names)
    (outside : ∀ field ∈ others, field.1 ∉ names) :
    splitObject names (Tree.ofValue (.object (fields ++ others))) =
      some (written fields, written others) := by
  have inside (field : String × Value) (member : field ∈ fields) : field.1 ∈ names :=
    listed.subset (List.mem_map_of_mem member)
  have inside' := forall_mem_written (· ∈ names) inside
  have outside' := forall_mem_written (· ∉ names) outside
  have own : known names (written (fields ++ others)) = written fields := by
    rw [written_append, known_append, known_eq_self inside', known_eq_nil outside',
      List.append_nil]
  have rest : unknown names (written (fields ++ others)) = written others := by
    rw [written_append, unknown_append, unknown_eq_nil inside', unknown_eq_self outside',
      List.nil_append]
  have distinct : Distinct names (written (fields ++ others)) := by
    rw [Distinct, own, map_fst_written]
    exact single.sublist listed
  rw [Tree.ofValue, ofFields_eq, splitObject_named distinct, own, rest]

theorem record_ofValue {fields : List (String × Value)} (single : names.Nodup)
    (listed : (fields.map Prod.fst).Sublist names) :
    record names (Tree.ofValue (.object fields)) = some (written fields) := by
  have noOthers : ∀ field ∈ ([] : List (String × Value)), field.1 ∉ names := nofun
  have split := splitObject_ofValue single listed noOthers
  rw [List.append_nil] at split
  exact congrArg (Option.map Prod.fst) split

/-! ### Decoders -/

section

variable {α : Type} {decode : Decoder α}

theorem optional_spec (holds : α → Prop) {fields : Fields} {name : String} {default a : α}
    (fallback : holds default) (decoded : ∀ tree a, decode tree = some a → holds a)
    (read : optional fields name default decode = some a) : holds a := by
  unfold optional at read
  split at read
  · exact Option.some.inj read ▸ fallback
  · exact decoded _ a read

theorem natural_lt {tree : Tree} {n : Nat} (read : natural tree = some n) :
    n < Decimal.bound64 := by
  unfold natural at read
  split at read
  · split at read
    · rename_i small
      exact Option.some.inj read ▸ small
    · exact nomatch read
  · exact nomatch read

theorem nullable_spec (holds : α → Prop) {tree : Tree} {value : Option α}
    (decoded : ∀ tree a, decode tree = some a → holds a)
    (read : nullable decode tree = some value) : ∀ a ∈ value, holds a := by
  unfold nullable at read
  split at read
  · obtain rfl := Option.some.inj read
    exact nofun
  · obtain ⟨b, inner, rfl⟩ := Option.map_eq_some_iff.mp read
    intro a same
    exact Option.some.inj same ▸ decoded _ b inner

theorem entries_spec {tree : Tree} {read : List (String × α)}
    (decoded : entries decode tree = some read) :
    Keyed.Sorted read ∧ ∀ entry ∈ read, ∃ tree, decode tree = some entry.2 := by
  match tree with
  | .object fields =>
    obtain ⟨listed, each, rfl⟩ := Option.map_eq_some_iff.mp decoded
    have decodes : ∀ item ∈ listed, ∃ tree, decode tree = some item.2 := by
      refine forall_mem_of_mapM (fun item => ∃ tree, decode tree = some item.2) ?_ each
      intro field item read
      match field with
      | (some key, tree) =>
        obtain ⟨a, inner, rfl⟩ := Option.map_eq_some_iff.mp read
        exact ⟨tree, inner⟩
    exact ⟨Keyed.sorted_ofList listed,
      fun item member => decodes item (Keyed.mem_of_mem_ofList member)⟩

@[simp] theorem string_ofValue (s : String) : string (Tree.ofValue (.string s)) = some s :=
  rfl

@[simp] theorem bool_ofValue (b : Bool) : bool (Tree.ofValue (.bool b)) = some b :=
  rfl

@[simp] theorem nullable_string_ofValue (s : Option String) :
    nullable string (Tree.ofValue (ofOption .string s)) = some s := by
  cases s <;> rfl

@[simp] theorem nullable_bool_ofValue (b : Bool) :
    nullable bool (Tree.ofValue (.bool b)) = some (some b) :=
  rfl

theorem natural_ofValue {n : Nat} (small : n < Decimal.bound64) :
    natural (Tree.ofValue (ofNat n)) = some n :=
  if_pos small

theorem nullable_natural_ofValue {n : Nat} (small : n < Decimal.bound64) :
    nullable natural (Tree.ofValue (ofNat n)) = some (some n) :=
  congrArg (Option.map some) (natural_ofValue small)

@[simp] theorem strings_ofValue (texts : List String) :
    list string (Tree.ofValue (ofStrings texts)) = some texts := by
  change (Tree.ofItems (texts.map .string)).mapM string = some texts
  induction texts with
  | nil => rfl
  | cons text texts ih =>
    rw [List.map_cons, Tree.ofItems, List.mapM_cons, ih]
    rfl

theorem entries_ofValue {write : α → Value} {list : List (String × α)} (sorted : Keyed.Sorted list)
    (again : ∀ item ∈ list, decode (Tree.ofValue (write item.2)) = some item.2) :
    entries decode (Tree.ofValue (.object (list.map fun (key, a) => (key, write a)))) =
      some list := by
  have each : (Tree.ofFields (list.map fun (key, a) => (key, write a))).mapM (entry decode) =
      some list := by
    clear sorted
    induction list with
    | nil => rfl
    | cons item list ih =>
      obtain ⟨first, rest⟩ := List.forall_mem_cons.mp again
      rw [List.map_cons, Tree.ofFields, List.mapM_cons, ih rest, entry, first]
      rfl
  rw [Tree.ofValue, entries, each, Option.map_some, sorted.ofList_eq]

end

end Json.Decode

end TestHistory
