import TestHistory.Proofs.SortedTrees

/-!
# Regular trees

In a regular tree the directories are sorted and every entry has a name that a path can hold. Trees
can be checked for it (`regular_of_isRegular`), and writing keeps it so (`Regular.setFile`).
-/

namespace TestHistory

namespace Node

variable {node : Node} {name : String} {entries : List (String × Node)}

/-- A tree is named if its entries are, and the trees below it. -/
theorem named_iff : node.Named ↔ ∀ name child, node.entries.lookup name = some child →
    Path.IsName name ∧ child.Named := by
  constructor
  · intro named name child found
    have below (address : List String) : node.at? (name :: address) = child.at? address := by
      rw [at?, found, Option.bind_some]
    refine ⟨named [name] (by rw [below]; rfl) name List.mem_cons_self, fun address inside => ?_⟩
    intro other member
    exact named (name :: address) (by rw [below, inside]) other (List.mem_cons_of_mem name member)
  · intro named address inside
    cases address with
    | nil => exact fun name member => absurd member List.not_mem_nil
    | cons name address =>
      rw [at?] at inside
      cases found : node.entries.lookup name with
      | none => simp [found] at inside
      | some child =>
        obtain ⟨isName, below⟩ := named name child found
        rw [found, Option.bind_some] at inside
        intro other member
        rcases List.mem_cons.mp member with rfl | later
        · exact isName
        · exact below address inside other later

theorem named_file (content : ByteArray) (modified : Time.Instant) :
    (file content modified).Named :=
  named_iff.mpr nofun

theorem named_directory (names : ∀ entry ∈ entries, Path.IsName entry.1 ∧ entry.2.Named) :
    (directory entries).Named := by
  refine named_iff.mpr fun name child found => ?_
  obtain ⟨front, back, rfl, -⟩ := List.lookup_eq_some_iff.mp found
  exact names (name, child) List.mem_append_cons_self

theorem Sets.named {content : ByteArray} {modified : Time.Instant} {address : List String}
    {root after : Node} (sets : Sets content modified address root after) (named : root.Named)
    (areNames : ∀ name ∈ address, Path.IsName name) : after.Named := by
  intro other inside
  by_cases written : other = address
  · exact written ▸ areNames
  · rw [← isSome_entryAt?, sets.entryAt? written, isSome_entryAt?] at inside
    exact named other inside

/-! ### Checking a tree -/

mutual

def isRegular : Node → Bool
  | file .. => true
  | directory entries => decide (Keyed.Sorted entries) && areRegular entries

def areRegular : List (String × Node) → Bool
  | [] => true
  | (name, node) :: entries => decide (Path.IsName name) && node.isRegular && areRegular entries

end

mutual

theorem sorted_and_named_of_isRegular {node : Node} (checked : node.isRegular = true) :
    node.Sorted ∧ node.Named := by
  cases node with
  | file content modified => exact ⟨.file content modified, named_file content modified⟩
  | directory entries =>
    rw [isRegular, Bool.and_eq_true, decide_eq_true_eq] at checked
    have nodes := sorted_and_named_of_areRegular checked.2
    exact ⟨.directory checked.1 fun entry member => (nodes entry member).2.1,
      named_directory fun entry member => ⟨(nodes entry member).1, (nodes entry member).2.2⟩⟩

theorem sorted_and_named_of_areRegular {entries : List (String × Node)}
    (checked : areRegular entries = true) :
    ∀ entry ∈ entries, Path.IsName entry.1 ∧ entry.2.Sorted ∧ entry.2.Named := by
  cases entries with
  | nil => exact fun entry member => absurd member List.not_mem_nil
  | cons entry entries =>
    obtain ⟨name, node⟩ := entry
    rw [areRegular, Bool.and_eq_true, Bool.and_eq_true, decide_eq_true_eq] at checked
    obtain ⟨⟨isName, below⟩, rest⟩ := checked
    rw [List.forall_mem_cons]
    exact ⟨⟨isName, sorted_and_named_of_isRegular below⟩, sorted_and_named_of_areRegular rest⟩

end

end Node

namespace FileSystem

/-- Directories are sorted, and entries have names that a path can hold. -/
structure Regular (fs : FileSystem) : Prop where
  sorted : fs.Sorted
  named : fs.root.Named

variable {fs changed : FileSystem} {path : Path}

theorem regular_of_isRegular (checked : fs.root.isRegular = true) : fs.Regular :=
  ⟨(Node.sorted_and_named_of_isRegular checked).1, (Node.sorted_and_named_of_isRegular checked).2⟩

theorem isName_of_segment {segment : String} (member : segment ∈ path.segments)
    (busy : Path.isIdle segment = false) (down : segment ≠ "..") : Path.IsName segment :=
  ⟨busy, down, Path.slash_not_mem_of_segment member⟩

theorem Regular.setFile (regular : fs.Regular) {content : ByteArray} {modified : Time.Instant}
    (written : fs.setFile path content modified = .ok changed) : changed.Regular where
  sorted := sorted_setFile regular.sorted written
  named := by
    obtain ⟨address, placed, writes⟩ := writes_of_setFile written
    refine writes.sets.named regular.named ?_
    obtain ⟨-, before, name, directory, last, busy, down, -, around, -, rfl⟩ :=
      location?_eq_some_iff.mp placed
    intro other member
    rcases List.mem_append.mp member with above | here
    · have inside : (fs.root.at? directory).isSome = true := by
        rw [← Node.isSome_entryAt?, around]
        rfl
      exact regular.named directory inside other above
    · obtain rfl := List.mem_singleton.mp here
      exact isName_of_segment (last ▸ List.mem_concat_self) busy down

end FileSystem

end TestHistory
