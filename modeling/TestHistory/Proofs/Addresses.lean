import TestHistory.Files.Edit
import TestHistory.Proofs.Keyed
import TestHistory.Proofs.Paths

/-!
# Addresses in a tree

An address lists the names that lead from the root to a node. A walk by addresses takes the steps
of a walk by places (`Place.Reached.toOption_walk`), so a path leads to the node at its address
(`FileSystem.toOption_node_eq`), whatever way it takes. In a tree whose entries are all named
(`Node.Named`), a listing holds names only (`names_named`).
-/

namespace TestHistory

/-! ### Names of entries -/

/-- A segment that names an entry of a directory. -/
structure Path.IsName (segment : String) : Prop where
  busy : isIdle segment = false
  down : segment ≠ ".."
  whole : '/' ∉ segment.toList

namespace Path

theorem isIdle_iff {segment : String} : isIdle segment = true ↔ segment = "" ∨ segment = "." := by
  simp [isIdle]

theorem charSegments_of_whole {text : List Char} (whole : '/' ∉ text) :
    charSegments text = [text] := by
  induction text with
  | nil => rfl
  | cons c text ih =>
    rw [List.mem_cons, not_or] at whole
    change addToSegments c (charSegments text) = _
    rw [ih whole.2, addToSegments, if_neg (Ne.symm whole.1)]

theorem slash_not_mem_charSegments {text segment : List Char}
    (member : segment ∈ charSegments text) : '/' ∉ segment := by
  induction text generalizing segment with
  | nil =>
    obtain rfl := List.mem_singleton.mp member
    exact List.not_mem_nil
  | cons c text ih =>
    obtain ⟨first, rest, same⟩ := List.exists_cons_of_ne_nil (charSegments_ne_nil text)
    change segment ∈ addToSegments c (charSegments text) at member
    rw [same] at ih member
    by_cases slash : c = '/'
    · rw [slash, addToSegments_slash (List.cons_ne_nil first rest)] at member
      rcases List.mem_cons.mp member with rfl | later
      · exact List.not_mem_nil
      · exact ih later
    · rw [addToSegments, if_neg slash] at member
      rcases List.mem_cons.mp member with rfl | later
      · exact mt List.mem_cons.mp (not_or.mpr ⟨Ne.symm slash, ih List.mem_cons_self⟩)
      · exact ih (List.mem_cons_of_mem first later)

theorem slash_not_mem_of_segment {p : Path} {segment : String} (member : segment ∈ p.segments) :
    '/' ∉ segment.toList := by
  obtain ⟨characters, inside, rfl⟩ := List.mem_map.mp member
  rw [String.toList_ofList]
  exact slash_not_mem_charSegments inside

variable {name : String}

instance : Decidable (IsName name) :=
  decidable_of_iff (isIdle name = false ∧ name ≠ ".." ∧ '/' ∉ name.toList)
    ⟨fun h => ⟨h.1, h.2.1, h.2.2⟩, fun h => ⟨h.busy, h.down, h.whole⟩⟩

theorem IsName.segments (h : IsName name) : (Path.mk name).segments = [name] := by
  change (charSegments name.toList).map String.ofList = [name]
  rw [charSegments_of_whole h.whole]
  simp

theorem IsName.namesInside (h : IsName name) : NamesInside name where
  nonempty := by
    rintro rfl
    exact absurd h.busy (by decide)
  relative := by
    intro slash
    obtain ⟨rest, same⟩ := List.head?_eq_some_iff.mp slash
    exact h.whole (same ▸ List.mem_cons_self)
  noWayUp := by
    rw [h.segments, List.mem_singleton]
    exact Ne.symm h.down

end Path

/-! ### Nodes by address -/

/-- What a name stands for in a directory, without the nodes below it. -/
inductive Entry where
  | file (content : ByteArray) (modified : Time.Instant)
  | directory

namespace Node

def entry : Node → Entry
  | file content modified => .file content modified
  | directory _ => .directory

/-- The node that names lead to. -/
def at? : List String → Node → Option Node
  | [], node => some node
  | name :: rest, node => (node.entries.lookup name).bind (at? rest)

theorem descend?_name {name : String} (isName : Path.IsName name) (node : Node) :
    node.descend? [name] =
      if maxNameBytes < name.utf8ByteSize then none else node.entries.lookup name := by
  cases node with
  | file content modified => exact (ite_self none).symm
  | directory entries =>
    rw [descend?, isName.busy, if_neg Bool.false_ne_true]
    exact if_congr Iff.rfl rfl (Option.bind_fun_some _)

theorem at?_append (front back : List String) (node : Node) :
    node.at? (front ++ back) = (node.at? front).bind (at? back) := by
  induction front generalizing node with
  | nil => rfl
  | cons name front ih =>
    rw [List.cons_append, at?, at?, Option.bind_assoc]
    congr 1
    funext child
    exact ih child

theorem at?_concat (address : List String) (name : String) (node : Node) :
    node.at? (address ++ [name]) = (node.at? address).bind fun found => found.entries.lookup name := by
  rw [at?_append]
  congr 1
  funext found
  exact Option.bind_fun_some _

/-- What stands at an address, without the nodes below it. -/
def entryAt? (address : List String) (root : Node) : Option Entry :=
  (root.at? address).map entry

theorem isSome_entryAt? (address : List String) (root : Node) :
    (root.entryAt? address).isSome = (root.at? address).isSome :=
  Option.isSome_map

/-- Whatever the tree holds, it holds under names of entries. -/
def Named (node : Node) : Prop :=
  ∀ address, (node.at? address).isSome = true → ∀ name ∈ address, Path.IsName name

end Node

/-! ### Walks by address -/

namespace Node

/-- One segment of a path, from an address; only a directory leads on. -/
def stepAddress? (root : Node) (address : List String) (segment : String) :
    Option (List String) :=
  match root.entryAt? address with
  | some .directory =>
    if Path.isIdle segment then some address
    else if segment = ".." then some address.dropLast
    else if maxNameBytes < segment.utf8ByteSize then none
    else (root.entryAt? (address ++ [segment])).map fun _ => address ++ [segment]
  | _ => none

/-- The address that segments lead to from an address. -/
def walkAddress? (root : Node) (address segments : List String) : Option (List String) :=
  segments.foldlM root.stepAddress? address

theorem stepAddress?_eq_none {root : Node} {address : List String} {segment : String}
    (h : root.entryAt? address ≠ some .directory) : root.stepAddress? address segment = none := by
  unfold stepAddress?
  split
  · exact absurd ‹_› h
  · rfl

theorem entryAt?_dropLast {root : Node} {address : List String}
    (h : root.entryAt? address = some .directory) :
    root.entryAt? address.dropLast = some .directory := by
  rcases List.eq_nil_or_concat' address with rfl | ⟨around, name, rfl⟩
  · exact h
  · obtain ⟨node, below, -⟩ := Option.map_eq_some_iff.mp h
    rw [at?_concat] at below
    obtain ⟨found, here, inside⟩ := Option.bind_eq_some_iff.mp below
    rw [List.dropLast_concat, entryAt?, here]
    cases found with
    | file content modified => exact nomatch inside
    | directory entries => rfl

/-- A step leaves a directory, for one above or below it or to stay, or for a file in it. -/
theorem stepAddress?_eq_some {root : Node} {address next : List String} {segment : String}
    (h : root.stepAddress? address segment = some next) :
    root.entryAt? address = some .directory ∧ (root.entryAt? next = some .directory ∨
      Path.isIdle segment = false ∧ segment ≠ ".." ∧ segment.utf8ByteSize ≤ maxNameBytes ∧
        address ++ [segment] = next) := by
  unfold stepAddress? at h
  split at h
  · rename_i here
    refine ⟨here, ?_⟩
    split at h
    · obtain rfl := Option.some.inj h
      exact Or.inl here
    · rename_i busy
      split at h
      · obtain rfl := Option.some.inj h
        exact Or.inl (entryAt?_dropLast here)
      · rename_i down
        split at h
        · exact nomatch h
        · rename_i short
          obtain ⟨-, -, same⟩ := Option.map_eq_some_iff.mp h
          exact Or.inr ⟨Bool.eq_false_iff.mpr busy, down, not_lt.mp short, same⟩
  · exact nomatch h

theorem walkAddress?_cons (root : Node) (address : List String) (segment : String)
    (rest : List String) : root.walkAddress? address (segment :: rest) =
      (root.stepAddress? address segment).bind fun next => root.walkAddress? next rest :=
  List.foldlM_cons

theorem walkAddress?_append (root : Node) (address front back : List String) :
    root.walkAddress? address (front ++ back) =
      (root.walkAddress? address front).bind fun next => root.walkAddress? next back :=
  List.foldlM_append

end Node

/-! ### Places by address -/

theorem toOption_eq_some_iff {ε α : Type} {e : Except ε α} {a : α} :
    e.toOption = some a ↔ e = .ok a := by
  cases e with
  | error e => exact iff_of_false nofun nofun
  | ok b => simp [Except.toOption]

namespace Place

/-- The names that lead to a place. -/
def address (place : Place) : List String :=
  (place.above.map Prod.fst).reverse

/-- A place in a tree. -/
inductive Reached (root : Node) : Place → Prop where
  | root : Reached root ⟨root, []⟩
  | entry {entries : List (String × Node)} {above : List (String × List (String × Node))}
      {name : String} {node : Node} (around : Reached root ⟨.directory entries, above⟩)
      (found : entries.lookup name = some node) : Reached root ⟨node, (name, entries) :: above⟩

theorem address_entry (node : Node) (name : String) (entries : List (String × Node))
    (above : List (String × List (String × Node))) :
    address ⟨node, (name, entries) :: above⟩ = address ⟨.directory entries, above⟩ ++ [name] := by
  simp [address]

theorem address_parent (place : Place) : place.parent.address = place.address.dropLast := by
  obtain ⟨node, above⟩ := place
  cases above with
  | nil => rfl
  | cons level above =>
    rw [address_entry, List.dropLast_concat]
    rfl

namespace Reached

variable {root : Node} {place next : Place}

theorem parent (reached : Reached root place) : Reached root place.parent := by
  cases reached with
  | root => exact .root
  | entry around found => exact around

theorem step (reached : Reached root place) {segment : String}
    (stepped : place.step segment = .ok next) : Reached root next := by
  obtain ⟨node, above⟩ := place
  cases node with
  | file content modified => simp [Place.step] at stepped
  | directory entries =>
    simp only [Place.step] at stepped
    split at stepped
    · obtain rfl := Except.ok.inj stepped
      exact reached
    · split at stepped
      · obtain rfl := Except.ok.inj stepped
        exact reached.parent
      · split at stepped
        · cases stepped
        · split at stepped
          · rename_i below found
            obtain rfl := Except.ok.inj stepped
            exact .entry reached found
          · cases stepped

theorem walk (reached : Reached root place) {segments : List String}
    (walked : place.walk segments = .ok next) : Reached root next := by
  induction segments generalizing place with
  | nil =>
    obtain rfl := Except.ok.inj walked
    exact reached
  | cons segment segments ih =>
    rw [Place.walk] at walked
    split at walked
    · rename_i between stepped
      exact ih (reached.step stepped) walked
    · cases walked

/-- The node of a place stands at its address. -/
theorem at? (reached : Reached root place) : root.at? place.address = some place.node := by
  induction reached with
  | root => rfl
  | entry around found ih =>
    rw [address_entry, Node.at?_concat, ih]
    exact found

theorem toOption_step (reached : Reached root place) (segment : String) :
    (place.step segment).toOption.map address = root.stepAddress? place.address segment := by
  have here := reached.at?
  obtain ⟨node, above⟩ := place
  rw [Node.stepAddress?, Node.entryAt?, here]
  cases node with
  | file content modified => rfl
  | directory entries =>
    have below : root.at? (address ⟨.directory entries, above⟩ ++ [segment]) =
        entries.lookup segment := by
      rw [Node.at?_concat, here]
      rfl
    simp only [Place.step, Option.map_some, Node.entry, Node.entryAt?, below]
    by_cases idle : segment = "" ∨ segment = "."
    · rw [if_pos idle, if_pos (Path.isIdle_iff.mpr idle)]
      rfl
    · rw [if_neg idle, if_neg (mt Path.isIdle_iff.mp idle)]
      by_cases up : segment = ".."
      · rw [if_pos up, if_pos up, ← address_parent]
        rfl
      · rw [if_neg up, if_neg up]
        by_cases long : maxNameBytes < segment.utf8ByteSize
        · rw [if_pos long, if_pos long]
          rfl
        · rw [if_neg long, if_neg long]
          cases entries.lookup segment with
          | none => rfl
          | some found => exact congrArg some (address_entry found segment entries above)

theorem toOption_walk (reached : Reached root place) (segments : List String) :
    (place.walk segments).toOption.map address = root.walkAddress? place.address segments := by
  induction segments generalizing place with
  | nil => rfl
  | cons segment segments ih =>
    rw [Node.walkAddress?_cons, ← reached.toOption_step segment, Place.walk]
    cases stepped : place.step segment with
    | error e => rfl
    | ok next => exact ih (reached.step stepped)

end Reached

end Place

namespace FileSystem

variable {fs : FileSystem} {path : Path}

/-- Where segments lead to that begin where a path begins. -/
def walkFrom? (fs : FileSystem) (path : Path) (segments : List String) : Option (List String) :=
  fs.root.walkAddress? [] ((if path.isAbsolute then [] else fs.working) ++ segments)

theorem walkFrom?_concat (fs : FileSystem) (path : Path) (before : List String) (last : String) :
    fs.walkFrom? path (before ++ [last]) =
      (fs.walkFrom? path before).bind fun directory => fs.root.stepAddress? directory last := by
  rw [walkFrom?, walkFrom?, ← List.append_assoc, Node.walkAddress?_append]
  congr 1
  funext directory
  rw [Node.walkAddress?_cons]
  exact Option.bind_fun_some _

/-- The address of what a path leads to. -/
def address? (fs : FileSystem) (path : Path) : Option (List String) :=
  if (refusal? path).isSome then none else fs.walkFrom? path path.segments

theorem walkFrom?_of_address? {address : List String} (leads : fs.address? path = some address) :
    fs.walkFrom? path path.segments = some address := by
  unfold address? at leads
  split at leads
  · exact nomatch leads
  · exact leads

theorem reached_of_start {place : Place} (starts : fs.start path = .ok place) :
    place.Reached fs.root := by
  unfold start at starts
  split at starts
  · obtain rfl := Except.ok.inj starts
    exact .root
  · exact Place.Reached.root.walk starts

theorem walkFrom?_eq (fs : FileSystem) (path : Path) (segments : List String) :
    fs.walkFrom? path segments =
      (fs.start path).toOption.bind fun place => (place.walk segments).toOption.map Place.address := by
  have top : fs.rootPlace.Reached fs.root := .root
  rw [walkFrom?, start, Node.walkAddress?_append]
  by_cases absolute : path.isAbsolute = true
  · rw [if_pos absolute, if_pos absolute]
    exact (top.toOption_walk segments).symm
  · rw [if_neg absolute, if_neg absolute]
    have working := top.toOption_walk fs.working
    rw [← show fs.rootPlace.address = [] from rfl, ← working]
    cases walked : fs.rootPlace.walk fs.working with
    | error e => rfl
    | ok place => exact ((top.walk walked).toOption_walk segments).symm

theorem subtree?_eq (fs : FileSystem) (dir : Path) :
    fs.subtree? dir = (fs.walkFrom? dir dir.segments).bind fun address => fs.root.at? address := by
  rw [subtree?, walkFrom?_eq, Option.bind_assoc]
  cases starts : fs.start dir with
  | error e => rfl
  | ok place =>
    change (place.walk dir.segments).toOption.map Place.node =
      ((place.walk dir.segments).toOption.map Place.address).bind fun address => fs.root.at? address
    cases walked : place.walk dir.segments with
    | error e => rfl
    | ok next => exact ((reached_of_start starts).walk walked).at?.symm

/-- What a path leads to stands at its address. -/
theorem toOption_node_eq (fs : FileSystem) (path : Path) :
    (fs.node path).toOption = (fs.address? path).bind fun address => fs.root.at? address := by
  rw [toOption_node, address?]
  split
  · rfl
  · exact fs.subtree?_eq path

/-- What stands at a path, without the nodes below it. -/
def entryOf? (fs : FileSystem) (path : Path) : Option Entry :=
  (fs.node path).toOption.map Node.entry

theorem entryOf?_eq (fs : FileSystem) (path : Path) :
    fs.entryOf? path = (fs.address? path).bind fun address => fs.root.entryAt? address := by
  rw [entryOf?, toOption_node_eq, Option.map_bind]
  rfl

theorem at?_of_node {node : Node} (found : fs.node path = .ok node) :
    ∃ address, fs.address? path = some address ∧ fs.root.at? address = some node := by
  refine Option.bind_eq_some_iff.mp ?_
  rw [← toOption_node_eq, found]
  rfl

theorem subtree?_of_node {node : Node} (found : fs.node path = .ok node) :
    fs.subtree? path = some node := by
  have tree := congrArg Except.toOption found
  rw [toOption_node] at tree
  split at tree
  · exact nomatch tree
  · exact tree

theorem node_of_isDirectory (directory : fs.isDirectory path = true) :
    ∃ entries, fs.node path = .ok (.directory entries) := by
  unfold isDirectory at directory
  split at directory
  · exact ⟨_, ‹_›⟩
  · exact nomatch directory

/-- A listing holds names of entries only. -/
theorem names_named (named : fs.root.Named) {names : List String}
    (listed : fs.names path = .ok names) : ∀ name ∈ names, Path.IsName name := by
  intro name member
  unfold FileSystem.names at listed
  split at listed
  · rename_i entries found
    obtain rfl := Except.ok.inj listed
    obtain ⟨address, -, here⟩ := at?_of_node found
    refine named (address ++ [name]) ?_ name List.mem_concat_self
    rw [Node.at?_concat, here]
    exact Keyed.isSome_lookup.mpr member
  · exact nomatch listed
  · exact nomatch listed

/-! ### What a directory holds -/

/-- What stands at an address below a directory. -/
def held? (fs : FileSystem) (dir : Path) (address : List String) : Option Entry :=
  (fs.subtree? dir).bind fun tree => tree.entryAt? address

theorem subtree?_join_name (fs : FileSystem) (dir : Path) {name : String} (isName : Path.IsName name)
    (short : name.utf8ByteSize ≤ maxNameBytes) :
    fs.subtree? (dir.join name) = (fs.subtree? dir).bind fun tree => tree.entries.lookup name := by
  rw [subtree?_join fs dir isName.namesInside, isName.segments]
  congr 1
  funext tree
  rw [Node.descend?_name isName, if_neg (not_lt.mpr short)]

theorem held?_join (fs : FileSystem) (dir : Path) {name : String} (isName : Path.IsName name)
    (short : name.utf8ByteSize ≤ maxNameBytes) (address : List String) :
    fs.held? (dir.join name) address = fs.held? dir (name :: address) := by
  rw [held?, held?, subtree?_join_name fs dir isName short, Option.bind_assoc]
  congr 1
  funext tree
  rw [Node.entryAt?, Node.at?, Option.map_bind]
  rfl

theorem entryOf?_eq_held? (fs : FileSystem) (path : Path) :
    fs.entryOf? path = if (refusal? path).isSome then none else fs.held? path [] := by
  rw [entryOf?, toOption_node]
  split
  · rfl
  · change (fs.subtree? path).map Node.entry = (fs.subtree? path).bind fun tree => some tree.entry
    cases fs.subtree? path with
    | none => rfl
    | some tree => rfl

end FileSystem

end TestHistory
