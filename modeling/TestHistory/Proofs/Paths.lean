import TestHistory.Files.System

/-!
# Names joined to a directory

A relative name without a way up leads to the directory that it is joined to or to a node below
it. `node_join` says so as an equation: what the joined path names depends on the tree below the
directory alone.
-/

namespace TestHistory

/-! ### Segments -/

namespace Path

/-- The texts between slashes, as characters. -/
def charSegments (text : List Char) : List (List Char) :=
  text.foldr addToSegments [[]]

theorem addToSegments_ne_nil (c : Char) (segments : List (List Char)) :
    addToSegments c segments ≠ [] := by
  unfold addToSegments
  split <;> split <;> exact List.cons_ne_nil _ _

theorem charSegments_ne_nil (text : List Char) : charSegments text ≠ [] := by
  cases text with
  | nil => exact List.cons_ne_nil _ _
  | cons c text => exact addToSegments_ne_nil c _

theorem addToSegments_append {c : Char} {segments : List (List Char)} (more : List (List Char))
    (some : segments ≠ []) : addToSegments c (segments ++ more) = addToSegments c segments ++ more := by
  obtain ⟨first, rest, rfl⟩ := List.exists_cons_of_ne_nil some
  rw [List.cons_append, addToSegments, addToSegments]
  split <;> rfl

theorem addToSegments_slash {segments : List (List Char)} (some : segments ≠ []) :
    addToSegments '/' segments = [] :: segments := by
  obtain ⟨first, rest, rfl⟩ := List.exists_cons_of_ne_nil some
  rfl

theorem charSegments_append (front back : List Char) :
    charSegments (front ++ '/' :: back) = charSegments front ++ charSegments back := by
  induction front with
  | nil => exact addToSegments_slash (charSegments_ne_nil back)
  | cons c front ih =>
    change addToSegments c (charSegments (front ++ '/' :: back)) = _
    rw [ih, addToSegments_append _ (charSegments_ne_nil front)]
    rfl

theorem segments_ne_nil (p : Path) : p.segments ≠ [] := by
  rw [segments, Ne, List.map_eq_nil_iff]
  exact charSegments_ne_nil p.text.toList

/-- The segments of a joined path are those of both parts, without an empty one between them. -/
theorem segments_join (dir : Path) {name : String} (relative : (Path.mk name).isAbsolute = false) :
    ∃ front, (dir.segments = front ∨ dir.segments = front ++ [""]) ∧
      (dir.join name).segments = front ++ (Path.mk name).segments := by
  have joined (front : List Char) (text : String)
      (same : text.toList = front ++ '/' :: name.toList) :
      (Path.mk text).segments =
        (charSegments front).map String.ofList ++ (Path.mk name).segments := by
    change (charSegments text.toList).map String.ofList = _
    rw [same, charSegments_append, List.map_append]
    rfl
  unfold join
  rw [if_neg (Bool.eq_false_iff.mp relative)]
  split
  · rename_i noSlash
    rcases noSlash with empty | slash
    · refine ⟨[], Or.inr ?_, ?_⟩
      · rw [segments, empty]
        rfl
      · rw [empty, String.empty_append, List.nil_append]
    · obtain ⟨front, same⟩ := List.getLast?_eq_some_iff.mp slash
      refine ⟨(charSegments front).map String.ofList, Or.inr ?_, joined front _ ?_⟩
      · change (charSegments dir.text.toList).map String.ofList = _
        rw [same, charSegments_append, List.map_append]
        rfl
      · rw [String.toList_append, same, List.append_assoc]
        rfl
  · refine ⟨dir.segments, Or.inl rfl, joined dir.text.toList _ ?_⟩
    rw [String.toList_append, String.toList_append, List.append_assoc]
    rfl

theorem isAbsolute_join (dir : Path) {name : String}
    (relative : (Path.mk name).isAbsolute = false) :
    (dir.join name).isAbsolute = dir.isAbsolute := by
  unfold join
  rw [if_neg (Bool.eq_false_iff.mp relative)]
  by_cases empty : dir.text = ""
  · rw [if_pos (Or.inl empty)]
    rw [isAbsolute] at relative
    simp [isAbsolute, empty, relative]
  · obtain ⟨c, rest, same⟩ := List.exists_cons_of_ne_nil (mt String.toList_eq_nil_iff.mp empty)
    split <;> simp [isAbsolute, same]

/-! ### Components -/

/-- Only an absolute path begins with an empty segment that others follow. -/
theorem isAbsolute_iff {p : Path} :
    p.isAbsolute = true ↔ ∃ segment rest, p.segments = "" :: segment :: rest := by
  change decide (p.text.toList.head? = some '/') = true ↔
    ∃ segment rest, (charSegments p.text.toList).map String.ofList = "" :: segment :: rest
  rw [decide_eq_true_eq]
  cases p.text.toList with
  | nil => simp [charSegments]
  | cons c text =>
    obtain ⟨segment, rest, same⟩ := List.exists_cons_of_ne_nil (charSegments_ne_nil text)
    change some c = some '/' ↔
      ∃ s r, (addToSegments c (charSegments text)).map String.ofList = "" :: s :: r
    by_cases slash : c = '/'
    · refine iff_of_true (congrArg some slash) ⟨String.ofList segment, rest.map String.ofList, ?_⟩
      rw [slash, addToSegments_slash (charSegments_ne_nil text), same]
      rfl
    · simp [slash, addToSegments, same]

def isInner (component : Component) : Bool :=
  component ≠ .root && component ≠ .parent

theorem all_isInner_bodyParts (segments : List String) :
    ((bodyParts segments).map Prod.fst).all isInner = true ↔ ".." ∉ segments := by
  induction segments with
  | nil => simp [bodyParts]
  | cons segment segments ih =>
    rw [bodyParts]
    by_cases idle : isIdle segment = true
    · rw [if_pos idle, ih, List.mem_cons]
      have other : ".." ≠ segment := by
        rintro rfl
        exact absurd idle (by decide)
      simp [other]
    · rw [if_neg idle, List.map_cons, List.all_cons, Bool.and_eq_true, ih, List.mem_cons, not_or]
      refine and_congr_left fun _ => ?_
      by_cases up : segment = ".."
      · simp [bodyComponent, up, isInner]
      · simp [bodyComponent, up, Ne.symm up, isInner]

/-- The rule of components, in terms of the text between slashes. -/
theorem staysBelow_iff {p : Path} :
    p.staysBelow = true ↔ p.isAbsolute = false ∧ ".." ∉ p.segments := by
  change (p.parts.map Prod.fst).all isInner = true ↔ _
  rw [← Bool.not_eq_true, isAbsolute_iff]
  unfold parts
  split
  · rename_i segment rest same
    simp [same, isInner]
  · rename_i rest same
    simp [same, isInner, ← all_isInner_bodyParts]
  · rename_i relative _
    rw [all_isInner_bodyParts]
    exact (and_iff_right fun ⟨segment, rest, same⟩ => relative segment rest same).symm

end Path

/-! ### Walking down -/

namespace Node

/-- What segments without a way up lead to from a node. -/
def descend? : List String → Node → Option Node
  | [], node => some node
  | _ :: _, .file .. => none
  | segment :: rest, .directory entries =>
    if Path.isIdle segment then descend? rest (.directory entries)
    else if maxNameBytes < segment.utf8ByteSize then none
    else (entries.lookup segment).bind (descend? rest)

/-- The node itself, or a node below it. -/
inductive Within (top : Node) : Node → Prop where
  | self : Within top top
  | entry {entries : List (String × Node)} {name : String} {node : Node}
      (above : Within top (.directory entries)) (member : (name, node) ∈ entries) :
      Within top node

theorem within_of_descend? {top node found : Node} {segments : List String}
    (above : top.Within node) (h : descend? segments node = some found) : top.Within found := by
  induction segments generalizing node with
  | nil =>
    obtain rfl := Option.some.inj h
    exact above
  | cons segment segments ih =>
    cases node with
    | file content modified => simp [descend?] at h
    | directory entries =>
      rw [descend?] at h
      split at h
      · exact ih above h
      · split at h
        · simp at h
        · obtain ⟨node, found', below⟩ := Option.bind_eq_some_iff.mp h
          obtain ⟨front, back, rfl, -⟩ := List.lookup_eq_some_iff.mp found'
          exact ih (.entry above List.mem_append_cons_self) below

end Node

namespace Place

theorem toOption_walk_append (place : Place) (front back : List String) :
    (place.walk (front ++ back)).toOption =
      (place.walk front).toOption.bind fun reached => (reached.walk back).toOption := by
  induction front generalizing place with
  | nil => rfl
  | cons segment front ih =>
    rw [List.cons_append, walk, walk]
    cases place.step segment with
    | ok next => exact ih next
    | error e => rfl

/-- An empty segment asks for a directory, as any further segment does. -/
theorem toOption_walk_blank (place : Place) {segments : List String} (more : segments ≠ []) :
    (place.walk ("" :: segments)).toOption = (place.walk segments).toOption := by
  obtain ⟨segment, rest, rfl⟩ := List.exists_cons_of_ne_nil more
  obtain ⟨node, above⟩ := place
  cases node with
  | file content modified => rfl
  | directory entries => rfl

/-- Without a way up, only the node of a place counts. -/
theorem node_walk (place : Place) {segments : List String} (inner : ".." ∉ segments) :
    (place.walk segments).toOption.map node = place.node.descend? segments := by
  induction segments generalizing place with
  | nil => rfl
  | cons segment segments ih =>
    obtain ⟨node, above⟩ := place
    rw [List.mem_cons, not_or] at inner
    cases node with
    | file content modified => rfl
    | directory entries =>
      have down : segment ≠ ".." := Ne.symm inner.1
      rw [walk, step, Node.descend?, Path.isIdle]
      dsimp only
      by_cases idle : segment = "" ∨ segment = "."
      · rw [if_pos idle, if_pos (by simpa using idle)]
        exact ih _ inner.2
      · have busy : ¬ (decide (segment = "") || decide (segment = ".")) = true := by simpa using idle
        rw [if_neg idle, if_neg down, if_neg busy]
        by_cases long : maxNameBytes < segment.utf8ByteSize
        · rw [if_pos long, if_pos long]
          rfl
        · rw [if_neg long, if_neg long]
          cases entries.lookup segment with
          | none => rfl
          | some node => exact ih _ inner.2

end Place

namespace FileSystem

/-- Where a path starts. -/
def start (fs : FileSystem) (path : Path) : Except FileError Place :=
  if path.isAbsolute then .ok fs.rootPlace else fs.rootPlace.walk fs.working

/-- The tree that a directory holds; an empty path stands for the working directory. -/
def subtree? (fs : FileSystem) (dir : Path) : Option Node :=
  (fs.start dir).toOption.bind fun place => (place.walk dir.segments).toOption.map Place.node

/-- Why a text is no path to look up. -/
def refusal? (path : Path) : Option FileError :=
  if path.text.toList.contains '\x00' then some .hasNull
  else if maxPathBytes ≤ path.text.utf8ByteSize then some .nameTooLong
  else if path.text = "" then some .notFound
  else none

theorem origin_eq (fs : FileSystem) (path : Path) :
    fs.origin path = (refusal? path).elim (fs.start path) Except.error := by
  unfold origin start refusal?
  split
  · rfl
  · split
    · rfl
    · split <;> rfl

theorem toOption_node (fs : FileSystem) (path : Path) :
    (fs.node path).toOption =
      if (refusal? path).isSome then none
      else (fs.start path).toOption.bind fun place =>
        (place.walk path.segments).toOption.map Place.node := by
  unfold node locate
  rw [origin_eq]
  cases refusal? path with
  | some e => rfl
  | none =>
    rw [Option.elim_none]
    cases fs.start path with
    | error e => rfl
    | ok place =>
      change ((place.walk path.segments).map Place.node).toOption =
        (place.walk path.segments).toOption.map Place.node
      cases place.walk path.segments <;> rfl

end FileSystem

/-! ### Names of a directory -/

/-- A name for something inside a directory: not empty, not absolute, with no way up. -/
structure NamesInside (name : String) : Prop where
  nonempty : name ≠ ""
  relative : name.toList.head? ≠ some '/'
  noWayUp : ".." ∉ (Path.mk name).segments

theorem NamesInside.isAbsolute {name : String} (h : NamesInside name) :
    (Path.mk name).isAbsolute = false :=
  decide_eq_false h.relative

theorem Place.walk_join (place : Place) (dir : Path) {name : String} (inside : NamesInside name) :
    (place.walk (dir.join name).segments).toOption =
      (place.walk (dir.segments ++ (Path.mk name).segments)).toOption := by
  obtain ⟨front, ends, joined⟩ := Path.segments_join dir inside.isAbsolute
  rw [joined]
  rcases ends with same | same
  · rw [same]
  · -- The directory ends in a slash, or is the empty path.
    rw [same, List.append_assoc, toOption_walk_append, toOption_walk_append]
    congr 1
    funext reached
    exact (toOption_walk_blank reached (Path.segments_ne_nil _)).symm

namespace FileSystem

theorem subtree?_join (fs : FileSystem) (dir : Path) {name : String} (inside : NamesInside name) :
    fs.subtree? (dir.join name) =
      (fs.subtree? dir).bind (Node.descend? (Path.mk name).segments) := by
  have origin : fs.start (dir.join name) = fs.start dir := by
    rw [start, start, Path.isAbsolute_join dir inside.isAbsolute]
  rw [subtree?, origin, subtree?, Option.bind_assoc]
  congr 1
  funext place
  rw [Place.walk_join place dir inside, Place.toOption_walk_append, Option.map_bind,
    Option.bind_map]
  congr 1
  funext reached
  exact reached.node_walk inside.noWayUp

/-- What a name inside a directory leads to, from the tree that the directory holds. -/
theorem node_join (fs : FileSystem) (dir : Path) {name : String} (inside : NamesInside name) :
    (fs.node (dir.join name)).toOption =
      if (refusal? (dir.join name)).isSome then none
      else (fs.subtree? dir).bind (Node.descend? (Path.mk name).segments) := by
  rw [toOption_node, ← subtree?_join fs dir inside]
  rfl

end FileSystem

end TestHistory
