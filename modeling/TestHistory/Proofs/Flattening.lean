import TestHistory.Proofs.SettingsOrder

/-!
# Settings of nested documents

A document is a tree, its settings are a dictionary of dotted paths. The leaves of the tree are
told here with the place where they stand, so that of the leaves with one path the last one can be
named. `dictionary_flattens` is the main result.
-/

namespace TestHistory

namespace Yaml.Value

/-- What stands under the tags. -/
def content : Value → Value
  | tagged _ value => value.content
  | value => value

inductive IsScalar : Value → String → Prop
  | yes : IsScalar (bool true) "true"
  | no : IsScalar (bool false) "false"
  | int (n : Int) : IsScalar (int n) (toString n)
  | float (x : Float) : IsScalar (float x) (Decimal.floatText floatStyle x)
  | string (s : String) : IsScalar (string s) s

theorem scalarText_eq_some_iff {value : Value} {text : String} :
    value.scalarText = some text ↔ IsScalar value.content text := by
  fun_induction content value with
  | case1 tag value ih => exact ih
  | case2 value untagged =>
    constructor
    · intro found
      cases value with
      | null | sequence | mapping => cases found
      | tagged tag value => exact absurd rfl (untagged tag value)
      | bool b =>
        obtain rfl := Option.some.inj found
        cases b
        · exact .no
        · exact .yes
      | int n =>
        obtain rfl := Option.some.inj found
        exact .int n
      | float x =>
        obtain rfl := Option.some.inj found
        exact .float x
      | string s =>
        obtain rfl := Option.some.inj found
        exact .string s
    · intro scalar
      cases scalar <;> rfl

/-- The texts of the scalars among the items, in their order. -/
inductive ScalarTexts : List Value → List String → Prop
  | nil : ScalarTexts [] []
  | scalar {item : Value} {text : String} {items : List Value} {texts : List String}
      (first : IsScalar item.content text) (rest : ScalarTexts items texts) :
      ScalarTexts (item :: items) (text :: texts)
  | other {item : Value} {items : List Value} {texts : List String}
      (first : ∀ text, ¬ IsScalar item.content text) (rest : ScalarTexts items texts) :
      ScalarTexts (item :: items) texts

theorem scalarTexts_iff {items : List Value} {texts : List String} :
    ScalarTexts items texts ↔ items.filterMap scalarText = texts := by
  constructor
  · intro listed
    induction listed with
    | nil => rfl
    | scalar first rest ih =>
      rw [List.filterMap_cons_some (scalarText_eq_some_iff.mpr first), ih]
    | other first rest ih =>
      have none : scalarText _ = none :=
        Option.eq_none_iff_forall_ne_some.mpr fun text found =>
          first text (scalarText_eq_some_iff.mp found)
      rw [List.filterMap_cons_none none, ih]
  · rintro rfl
    induction items with
    | nil => exact .nil
    | cons item items ih =>
      cases text : item.scalarText with
      | some text' =>
        rw [List.filterMap_cons_some text]
        exact .scalar (scalarText_eq_some_iff.mp text) ih
      | none =>
        rw [List.filterMap_cons_none text]
        refine .other (fun text' scalar => ?_) ih
        rw [scalarText_eq_some_iff.mpr scalar] at text
        cases text

end Yaml.Value

namespace Layer

open Yaml (Value)

theorem keyText_eq_some_iff {key : Value} {name : String} :
    keyText key = some name ↔ key.content = .string name := by
  fun_induction Value.content key with
  | case1 tag value ih => exact ih
  | case2 value untagged =>
    cases value with
    | tagged tag value => exact absurd rfl (untagged tag value)
    | _ => simp [keyText]

/-! ### Leaves -/

/-- A text in a tree: the positions of the entries that lead to it, with their keys. -/
structure Leaf where
  place : List Nat
  keys : List String
  text : String

/-- The same leaf in the tree that has its own tree as an entry. -/
def Leaf.below (position : Nat) (name : String) (leaf : Leaf) : Leaf :=
  ⟨position :: leaf.place, name :: leaf.keys, leaf.text⟩

/-- The keys with points between them; empty keys in front add nothing. -/
def Leaf.path (leaf : Leaf) : String :=
  ".".intercalate (leaf.keys.dropWhile (· = ""))

/-- Scalars under any tags are leaves, and so are sequences without a tag. Only mappings without
a tag lead further, by the entries whose key is a string under any tags. -/
inductive HasLeaf : Value → Leaf → Prop
  | scalar {value : Value} {text : String} (scalar : value.content.IsScalar text) :
      HasLeaf value ⟨[], [], text⟩
  | sequence {items : List Value} {texts : List String} (scalars : Value.ScalarTexts items texts) :
      HasLeaf (.sequence items) ⟨[], [], ",".intercalate texts⟩
  | entry {entries : List (Value × Value)} {position : Nat} {key value : Value} {name : String}
      {leaf : Leaf} (entry : entries[position]? = some (key, value))
      (named : key.content = .string name) (inside : HasLeaf value leaf) :
      HasLeaf (.mapping entries) (leaf.below position name)

mutual

/-- All leaves, in the order of the document. -/
def leaves : Value → List Leaf
  | .mapping entries => entryLeaves 0 entries
  | .sequence items => [⟨[], [], ",".intercalate (items.filterMap Value.scalarText)⟩]
  | value => (value.scalarText.map fun text => ⟨[], [], text⟩).toList

/-- The leaves of entries that stand from a position on. -/
def entryLeaves (position : Nat) : List (Value × Value) → List Leaf
  | [] => []
  | (key, value) :: entries =>
    ((keyText key).toList.flatMap fun name => (leaves value).map (Leaf.below position name)) ++
      entryLeaves (position + 1) entries

end

theorem mem_entryLeaves {leaf : Leaf} {position : Nat} {entries : List (Value × Value)} :
    leaf ∈ entryLeaves position entries ↔
      ∃ k key value name inside, entries[k]? = some (key, value) ∧ key.content = .string name ∧
        inside ∈ leaves value ∧ leaf = inside.below (position + k) name := by
  induction entries generalizing position with
  | nil => simp [entryLeaves]
  | cons entry entries ih =>
    obtain ⟨key, value⟩ := entry
    rw [entryLeaves, List.mem_append, ih]
    refine Iff.trans ?_ Nat.or_exists_add_one
    simp [keyText_eq_some_iff, eq_comm (a := leaf), Nat.add_assoc, Nat.add_comm 1]

theorem leaves_scalar {value : Value} {text : String} (scalar : value.content.IsScalar text) :
    leaves value = [⟨[], [], text⟩] := by
  have found := Value.scalarText_eq_some_iff.mpr scalar
  cases value with
  | mapping | sequence => cases found
  | _ => simp [leaves, found]

theorem hasLeaf_of_mem {leaf : Leaf} {value : Value} (member : leaf ∈ leaves value) :
    HasLeaf value leaf := by
  cases value with
  | mapping entries =>
    obtain ⟨k, key, inner, name, inside, entry, named, listed, same⟩ := mem_entryLeaves.mp member
    -- The recursion is on the place: a leaf has one position less in the entry that it stands in.
    have shorter : inside.place.length < leaf.place.length := by
      rw [same]
      exact Nat.lt_succ_self _
    rw [same, Nat.zero_add]
    exact .entry entry named (hasLeaf_of_mem listed)
  | sequence items =>
    obtain rfl := List.mem_singleton.mp member
    exact .sequence (Value.scalarTexts_iff.mpr rfl)
  | _ =>
    unfold leaves at member
    obtain ⟨text, found, rfl⟩ := Option.map_eq_some_iff.mp (Option.mem_toList.mp member)
    exact .scalar (Value.scalarText_eq_some_iff.mp found)
termination_by leaf.place.length

theorem mem_leaves {leaf : Leaf} {value : Value} : leaf ∈ leaves value ↔ HasLeaf value leaf := by
  refine ⟨hasLeaf_of_mem, fun has => ?_⟩
  induction has with
  | scalar scalar => rw [leaves_scalar scalar]; exact List.mem_singleton_self _
  | sequence scalars => rw [← Value.scalarTexts_iff.mp scalars]; exact List.mem_singleton_self _
  | entry entry named inside ih =>
    exact mem_entryLeaves.mpr ⟨_, _, _, _, _, entry, named, ih, by rw [Nat.zero_add]⟩

mutual

theorem flatten_eq (path : String) : ∀ value : Value,
    flatten path value = (leaves value).map fun leaf => (leaf.keys.foldl joinKey path, leaf.text)
  | .mapping entries => by
    rw [flatten, leaves, flattenEntries_eq path 0 entries]
  | .sequence items => rfl
  | .null | .bool b | .int n | .float x | .string s => rfl
  | .tagged tag value => by
    unfold flatten leaves
    cases (Value.tagged tag value).scalarText <;> rfl

theorem flattenEntries_eq (path : String) (position : Nat) : ∀ entries : List (Value × Value),
    flattenEntries path entries =
      (entryLeaves position entries).map fun leaf => (leaf.keys.foldl joinKey path, leaf.text)
  | [] => rfl
  | (key, value) :: entries => by
    have rest := flattenEntries_eq path (position + 1) entries
    unfold flattenEntries entryLeaves
    cases keyText key with
    | none => exact rest
    | some name =>
      have inside := flatten_eq (joinKey path name) value
      simp [inside, rest, Leaf.below]

end

mutual

theorem pairwise_leaves : ∀ value : Value, (leaves value).Pairwise (·.place < ·.place)
  | .mapping entries => by
    rw [leaves]
    exact pairwise_entryLeaves 0 entries
  | .sequence items => List.pairwise_singleton _ _
  | .null => .nil
  | .bool b | .int n | .float x | .string s => List.pairwise_singleton _ _
  | .tagged tag value => by
    unfold leaves
    cases (Value.tagged tag value).scalarText
    · exact .nil
    · exact List.pairwise_singleton _ _

theorem pairwise_entryLeaves (position : Nat) : ∀ entries : List (Value × Value),
    (entryLeaves position entries).Pairwise (·.place < ·.place)
  | [] => .nil
  | (key, value) :: entries => by
    have rest := pairwise_entryLeaves (position + 1) entries
    have inside := pairwise_leaves value
    unfold entryLeaves
    cases keyText key with
    | none => exact rest
    | some name =>
      rw [Option.toList_some, List.flatMap_singleton, List.pairwise_append, List.pairwise_map]
      refine ⟨inside.imp fun before => List.cons_lt_cons_iff.mpr (.inr ⟨rfl, before⟩), rest, ?_⟩
      intro leaf member other later
      obtain ⟨first, -, rfl⟩ := List.mem_map.mp member
      obtain ⟨k, _, _, _, last, -, -, -, rfl⟩ := mem_entryLeaves.mp later
      exact List.cons_lt_cons_iff.mpr (.inl (by omega))

end

/-! ### Paths -/

theorem foldl_joinKey {path : String} (named : path ≠ "") (keys : List String) :
    keys.foldl joinKey path = ".".intercalate (path :: keys) := by
  induction keys generalizing path with
  | nil => exact String.intercalate_singleton.symm
  | cons key keys ih =>
    have longer : path ++ "." ++ key ≠ "" := by simp
    rw [List.foldl_cons, joinKey, if_neg named, ih longer, String.intercalate_cons_append,
      String.intercalate_cons_cons]

theorem foldl_joinKey_root (keys : List String) :
    keys.foldl joinKey "" = ".".intercalate (keys.dropWhile (· = "")) := by
  induction keys with
  | nil => rfl
  | cons key keys ih =>
    rw [List.foldl_cons, joinKey, if_pos rfl]
    by_cases empty : key = ""
    · rw [empty, ih, List.dropWhile_cons_of_pos (by simp)]
    · rw [foldl_joinKey empty, List.dropWhile_cons_of_neg (by simpa using empty)]

theorem flatten_root (value : Value) :
    flatten "" value = (leaves value).map fun leaf => (leaf.path, leaf.text) := by
  rw [flatten_eq]
  exact List.map_congr_left fun leaf _ => congrArg (·, leaf.text) (foldl_joinKey_root leaf.keys)

/-! ### The dictionary -/

/-- Of the leaves with a path this one comes last. -/
structure IsLastLeaf (value : Value) (path : String) (leaf : Leaf) : Prop where
  stands : HasLeaf value leaf
  named : leaf.path = path
  last : ∀ other, HasLeaf value other → other.path = path →
    other = leaf ∨ other.place < leaf.place

theorem leaves_split {value : Value} {before after : List Leaf} {leaf : Leaf}
    (split : leaves value = before ++ leaf :: after) :
    (∀ other ∈ before, other.place < leaf.place) ∧ ∀ other ∈ after, leaf.place < other.place := by
  have increasing := pairwise_leaves value
  rw [split, List.pairwise_append, List.pairwise_cons] at increasing
  obtain ⟨-, ⟨below, -⟩, across⟩ := increasing
  exact ⟨fun other earlier => across other earlier leaf List.mem_cons_self, below⟩

theorem mem_dictionary {value : Value} {path text : String} :
    (path, text) ∈ dictionary value ↔ ∃ leaf, IsLastLeaf value path leaf ∧ leaf.text = text := by
  rw [dictionary, flatten_root, Keyed.mem_ofList_iff]
  constructor
  · rintro ⟨front, back, listed, absent⟩
    obtain ⟨before, rest, split, rfl, listed'⟩ := List.map_eq_append_iff.mp listed
    obtain ⟨leaf, after, rfl, named, rfl⟩ := List.map_eq_cons_iff.mp listed'
    obtain ⟨rfl, rfl⟩ := Prod.mk.inj named
    refine ⟨leaf, ⟨mem_leaves.mp (split ▸ List.mem_append_cons_self), rfl, ?_⟩, rfl⟩
    intro other has same
    rw [← mem_leaves, split, List.mem_append, List.mem_cons] at has
    rcases has with earlier | rfl | later
    · exact .inr ((leaves_split split).1 other earlier)
    · exact .inl rfl
    · exact absurd same (absent _ (List.mem_map_of_mem later))
  · rintro ⟨leaf, ⟨stands, rfl, last⟩, rfl⟩
    obtain ⟨before, after, split⟩ := List.append_of_mem (mem_leaves.mpr stands)
    refine ⟨before.map _, after.map _, by rw [split, List.map_append, List.map_cons], ?_⟩
    intro entry member same
    obtain ⟨other, later, rfl⟩ := List.mem_map.mp member
    have has : HasLeaf value other :=
      mem_leaves.mp (split ▸ List.mem_append_right _ (List.mem_cons_of_mem _ later))
    have below : leaf.place < other.place := (leaves_split split).2 other later
    rcases last other has same with rfl | above
    · exact lt_irrefl _ below
    · exact lt_asymm below above

/-- Each path of the tree has one setting, and its text is that of the last leaf. -/
structure Flattened (value : Value) (settings : List (String × String)) : Prop where
  once : (settings.map Prod.fst).Nodup
  paths : ∀ path, path ∈ settings.map Prod.fst ↔ ∃ leaf, HasLeaf value leaf ∧ leaf.path = path
  texts : ∀ path text, (path, text) ∈ settings ↔
    ∃ leaf, IsLastLeaf value path leaf ∧ leaf.text = text

theorem dictionary_flattens (value : Value) : Flattened value (dictionary value) where
  once := (Keyed.sorted_ofList _).nodup
  paths path := by
    rw [dictionary, flatten_root, Keyed.mem_keys_ofList, List.map_map, List.mem_map]
    exact exists_congr fun leaf => and_congr_left' mem_leaves
  texts path text := mem_dictionary

example :
    dictionary (.mapping [(.string "a", .mapping [(.string "b", .int 1)]),
      (.string "a.b", .sequence [.string "x", .null, .tagged "!t" (.bool true)]),
      (.string "", .tagged "!t" (.mapping [(.string "c", .int 2)])), (.int 3, .string "y")]) =
      [("a.b", "x,true")] := by
  decide +kernel

end Layer

end TestHistory
