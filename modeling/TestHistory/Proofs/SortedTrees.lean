import TestHistory.Proofs.Writing

/-!
# Trees with sorted directories

In every directory the names strictly increase. The empty tree is so, and laying out, removing and
writing keep it so (`sorted_put`, `sorted_remove`, `sorted_setFile`); a listing is then in strict
order (`names_pairwise`).
-/

namespace TestHistory

/-- The names in each directory strictly increase. -/
inductive Node.Sorted : Node → Prop where
  | file (content : ByteArray) (modified : Time.Instant) : Sorted (.file content modified)
  | directory {entries : List (String × Node)} (names : Keyed.Sorted entries)
      (nodes : ∀ entry ∈ entries, Sorted entry.2) : Sorted (.directory entries)

def FileSystem.Sorted (fs : FileSystem) : Prop :=
  fs.root.Sorted

namespace Node

theorem sorted_entries {node : Node} (sorted : node.Sorted) : (directory node.entries).Sorted := by
  cases sorted with
  | file content modified => exact .directory List.Pairwise.nil (by simp [Node.entries])
  | directory names nodes => exact .directory names nodes

variable {entries : List (String × Node)} {name : String} {node : Node}

theorem sorted_of_lookup (sorted : (directory entries).Sorted)
    (found : entries.lookup name = some node) : node.Sorted := by
  cases sorted with
  | directory names nodes =>
    obtain ⟨front, back, rfl, -⟩ := List.lookup_eq_some_iff.mp found
    exact nodes (name, node) List.mem_append_cons_self

theorem sorted_put (sorted : (directory entries).Sorted) (new : node.Sorted) :
    (directory (Keyed.put name node entries)).Sorted := by
  cases sorted with
  | directory names nodes =>
    refine .directory (Keyed.sorted_put names) fun entry member => ?_
    rcases Keyed.mem_of_mem_put member with rfl | old
    · exact new
    · exact nodes entry old

theorem sorted_erase (sorted : (directory entries).Sorted) (name : String) :
    (directory (entries.filter fun entry => entry.1 ≠ name)).Sorted := by
  cases sorted with
  | directory names nodes =>
    exact .directory (names.sublist (List.filter_sublist.map Prod.fst)) fun entry member =>
      nodes entry (List.mem_filter.mp member).1

theorem sorted_set {new : Option Node} (sorted : node.Sorted) (fits : ∀ n ∈ new, n.Sorted)
    (names : List String) : (node.set new names).Sorted := by
  fun_induction set new names node with
  | case1 node =>
    cases new with
    | none => exact sorted
    | some new => exact fits new rfl
  | case2 name node new given => exact sorted_put (sorted_entries sorted) (fits new given)
  | case3 name node => exact sorted_erase (sorted_entries sorted) name
  | case4 name rest node more child ih =>
    refine sorted_put (sorted_entries sorted) (ih ?_)
    cases found : node.entries.lookup name with
    | none => simpa [child, found] using .directory List.Pairwise.nil (by simp)
    | some below => simpa [child, found] using sorted_of_lookup (sorted_entries sorted) found

theorem Sorted.at? {root : Node} (sorted : root.Sorted) {address : List String}
    (found : root.at? address = some node) : node.Sorted := by
  induction address generalizing root with
  | nil => exact Option.some.inj found ▸ sorted
  | cons name address ih =>
    obtain ⟨child, here, below⟩ := Option.bind_eq_some_iff.mp found
    exact ih (sorted_of_lookup (sorted_entries sorted) here) below

/-- A sorted tree is known once it is known what stands at its addresses. -/
theorem Sorted.ext {first second : Node} (sorted : first.Sorted) (sorted' : second.Sorted)
    (same : ∀ address, first.entryAt? address = second.entryAt? address) : first = second := by
  induction sorted generalizing second with
  | file content modified =>
    cases second with
    | file content' modified' => simpa [entryAt?, Node.at?, entry] using same []
    | directory entries => cases same []
  | @directory entries names nodes ih =>
    cases sorted' with
    | file content modified => cases same []
    | @directory entries' names' nodes' =>
      refine congrArg Node.directory (names.ext names' fun name => ?_)
      have here := congrArg Option.isSome (same [name])
      cases found : entries.lookup name with
      | none =>
        cases found' : entries'.lookup name with
        | none => rfl
        | some child' => simp [entryAt?, Node.at?, Node.entries, found, found'] at here
      | some child =>
        cases found' : entries'.lookup name with
        | none => simp [entryAt?, Node.at?, Node.entries, found, found'] at here
        | some child' =>
          have member := (Keyed.mem_iff_lookup names).mpr found
          have member' := (Keyed.mem_iff_lookup names').mpr found'
          refine congrArg some (ih (name, child) member (nodes' (name, child') member') ?_)
          intro address
          have below := same (name :: address)
          rw [entryAt?, entryAt?, at?_directory, at?_directory, found, found'] at below
          exact below

theorem Sets.sorted {content : ByteArray} {modified : Time.Instant} {address : List String}
    {root after : Node} (sets : Sets content modified address root after) (sorted : root.Sorted) :
    after.Sorted := by
  induction sets with
  | here free => exact sorted_put sorted (.file content modified)
  | within found sets ih => exact sorted_put sorted (ih (sorted_of_lookup sorted found))

end Node

namespace FileSystem

variable {fs changed : FileSystem} {path : Path}

theorem Sorted.node (sorted : fs.Sorted) {node : Node} (found : fs.node path = .ok node) :
    node.Sorted := by
  obtain ⟨address, -, here⟩ := at?_of_node found
  exact Node.Sorted.at? sorted here

/-- In sorted trees, what a directory holds says which tree it is. -/
theorem subtree?_ext {fs₁ fs₂ : FileSystem} (sorted₁ : fs₁.Sorted) (sorted₂ : fs₂.Sorted)
    {dir : Path} (same : ∀ address, fs₁.held? dir address = fs₂.held? dir address) :
    fs₁.subtree? dir = fs₂.subtree? dir := by
  have below {fs : FileSystem} (sorted : fs.Sorted) {tree : Node}
      (found : fs.subtree? dir = some tree) : tree.Sorted := by
    rw [subtree?_eq] at found
    obtain ⟨address, -, here⟩ := Option.bind_eq_some_iff.mp found
    exact Node.Sorted.at? sorted here
  have top := same []
  unfold held? at same top
  cases first : fs₁.subtree? dir with
  | none =>
    cases second : fs₂.subtree? dir with
    | none => rfl
    | some tree => simp [first, second, Node.entryAt?, Node.at?] at top
  | some tree₁ =>
    cases second : fs₂.subtree? dir with
    | none => simp [first, second, Node.entryAt?, Node.at?] at top
    | some tree₂ =>
      rw [first, second] at same
      exact congrArg some ((below sorted₁ first).ext (below sorted₂ second) same)

/-- A listing is in strict order. -/
theorem names_pairwise (sorted : fs.Sorted) {names : List String}
    (listed : fs.names path = .ok names) : names.Pairwise (· < ·) := by
  unfold FileSystem.names at listed
  split at listed
  · rename_i entries found
    obtain rfl := Except.ok.inj listed
    cases sorted.node found with
    | directory names nodes => exact names
  · exact nomatch listed
  · exact nomatch listed

/-! ### Trees that are laid out -/

theorem sorted_empty : empty.Sorted :=
  .directory (by simp [Keyed.Sorted]) fun entry member => by
    obtain rfl := List.mem_singleton.mp member
    exact .directory List.Pairwise.nil (by simp)

theorem sorted_put (sorted : fs.Sorted) (path : Path) {node : Node} (new : node.Sorted) :
    (fs.put path node).Sorted :=
  Node.sorted_set sorted (by simpa using new) _

theorem sorted_remove (sorted : fs.Sorted) (path : Path) : (fs.remove path).Sorted := by
  unfold remove
  split
  · exact Node.sorted_set sorted (by simp) _
  · exact sorted

theorem sorted_setFile (sorted : fs.Sorted) {content : ByteArray} {modified : Time.Instant}
    (written : fs.setFile path content modified = .ok changed) : changed.Sorted := by
  obtain ⟨address, -, writes⟩ := writes_of_setFile written
  exact writes.sets.sorted sorted

end FileSystem

end TestHistory
