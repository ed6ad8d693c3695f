import TestHistory.Proofs.Addresses

/-!
# Writing a file

A write sets one file of the tree, at the location of its path (`writes_of_setFile`). All other
addresses keep what stands at them (`Node.Sets.entryAt?`), so a path leads to what it led to before
unless the file lies at its location (`Writes.entryOf?`). A write that stops leaves the front of its
content there (`write_eq_ok_iff`, `Fault.exists_eq_append`).
-/

namespace TestHistory

/-! ### The last segment of a path -/

namespace Path

theorem charSegments_concat_of_ne (front : List Char) {c : Char} (other : c ≠ '/') :
    ∃ before last, charSegments (front ++ [c]) = before ++ [last ++ [c]] := by
  induction front with
  | nil =>
    refine ⟨[], [], ?_⟩
    change addToSegments c [[]] = _
    rw [addToSegments, if_neg other]
    rfl
  | cons d front ih =>
    obtain ⟨before, last, same⟩ := ih
    have filled : before ++ [last ++ [c]] ≠ [] :=
      List.append_ne_nil_of_right_ne_nil _ (List.cons_ne_nil _ _)
    change ∃ before last, addToSegments d (charSegments (front ++ [c])) = before ++ [last ++ [c]]
    rw [same]
    by_cases slash : d = '/'
    · rw [slash, addToSegments_slash filled]
      exact ⟨[] :: before, last, rfl⟩
    · cases before with
      | nil =>
        refine ⟨[], d :: last, ?_⟩
        rw [List.nil_append, addToSegments, if_neg slash]
        rfl
      | cons first before =>
        refine ⟨(d :: first) :: before, last, ?_⟩
        rw [List.cons_append, addToSegments, if_neg slash]
        rfl

variable {path : Path} {before : List String} {last : String}

theorem segments_of_empty (empty : path.text = "") : path.segments = [""] := by
  rw [segments, empty]
  rfl

theorem segments_of_slash (slash : path.text.toList.getLast? = some '/') :
    ∃ before, path.segments = before ++ [""] := by
  obtain ⟨front, same⟩ := List.getLast?_eq_some_iff.mp slash
  refine ⟨(charSegments front).map String.ofList, ?_⟩
  change (charSegments path.text.toList).map String.ofList = _
  rw [same, charSegments_append, List.map_append]
  rfl

/-- The last segment is empty only if the path is, or ends in a slash. -/
theorem last_eq_empty_iff (same : path.segments = before ++ [last]) :
    last = "" ↔ path.text = "" ∨ path.text.toList.getLast? = some '/' := by
  constructor
  · intro blank
    by_contra neither
    rw [not_or] at neither
    obtain ⟨c, ends⟩ : ∃ c, path.text.toList.getLast? = some c :=
      Option.ne_none_iff_exists'.mp
        (mt List.getLast?_eq_none_iff.mp (mt String.toList_eq_nil_iff.mp neither.1))
    obtain ⟨front, text⟩ := List.getLast?_eq_some_iff.mp ends
    have other : c ≠ '/' := by
      rintro rfl
      exact neither.2 ends
    obtain ⟨front', last', split⟩ := charSegments_concat_of_ne front other
    have segments : path.segments = front'.map String.ofList ++ [String.ofList (last' ++ [c])] := by
      change (charSegments path.text.toList).map String.ofList = _
      rw [text, split, List.map_append]
      rfl
    rw [segments] at same
    have ends : String.ofList (last' ++ [c]) = "" := by
      rw [List.singleton_inj.mp (List.append_inj_right' same rfl), blank]
    rw [String.ofList_eq_empty_iff] at ends
    exact absurd ends (List.append_ne_nil_of_right_ne_nil _ (List.cons_ne_nil _ _))
  · rintro (empty | slash)
    · have ends : [] ++ [""] = before ++ [last] := (segments_of_empty empty).symm.trans same
      exact (List.singleton_inj.mp (List.append_inj_right' ends rfl)).symm
    · obtain ⟨front, ends⟩ := segments_of_slash slash
      rw [ends] at same
      exact (List.singleton_inj.mp (List.append_inj_right' same rfl)).symm

end Path

namespace FileSystem

variable {path : Path} {before : List String} {name : String}

/-- A path names a file if its last segment is the name of an entry. -/
theorem target_eq_iff : target path = (before, some name) ↔
    path.segments = before ++ [name] ∧ Path.isIdle name = false ∧ name ≠ ".." := by
  obtain ⟨front, last, split⟩ :=
    (List.eq_nil_or_concat' path.segments).resolve_left (Path.segments_ne_nil path)
  have blank := Path.last_eq_empty_iff split
  have ends : path.segments = before ++ [name] ↔ front = before ∧ last = name := by
    rw [split, List.append_singleton_inj]
  rw [target, ends, split, List.reverse_concat]
  by_cases empty : last = ""
  · -- A path that is empty or ends in a slash names no file.
    refine iff_of_false ?_ ?_
    · rcases blank.mp empty with none | slash
      · have alone : [] ++ [""] = front ++ [last] := (Path.segments_of_empty none).symm.trans split
        obtain rfl := List.append_inj_left' alone rfl
        rw [empty]
        exact nofun
      · split
        · exact nofun
        · simp [slash]
    · rintro ⟨⟨-, rfl⟩, busy, -⟩
      rw [empty] at busy
      exact absurd busy (by decide)
  · have noSlash : path.text.toList.getLast? ≠ some '/' := fun slash => empty (blank.mpr (.inr slash))
    rw [List.dropWhile_cons_of_neg (by simpa using empty)]
    simp only [List.reverse_reverse, Prod.mk.injEq, Option.ite_none_right_eq_some, Option.some.injEq]
    constructor
    · rintro ⟨rfl, ⟨-, here, up⟩, rfl⟩
      exact ⟨⟨rfl, rfl⟩, by simp [Path.isIdle, empty, here], up⟩
    · rintro ⟨⟨rfl, rfl⟩, busy, up⟩
      have here : last ≠ "." := by
        rintro rfl
        exact absurd busy (by decide)
      exact ⟨rfl, ⟨noSlash, here, up⟩, rfl⟩

end FileSystem

/-! ### One file of a tree -/

namespace Node

/-- A tree after a file was set at an address; no directory was there. -/
inductive Sets (content : ByteArray) (modified : Time.Instant) : List String → Node → Node → Prop
  | here {entries : List (String × Node)} {name : String}
      (free : ∀ inner, entries.lookup name ≠ some (.directory inner)) :
      Sets content modified [name] (.directory entries)
        (.directory (Keyed.put name (.file content modified) entries))
  | within {entries : List (String × Node)} {name : String} {child changed : Node}
      {address : List String} (found : entries.lookup name = some child)
      (sets : Sets content modified address child changed) :
      Sets content modified (name :: address) (.directory entries)
        (.directory (Keyed.put name changed entries))

theorem at?_directory (name : String) (address : List String) (entries : List (String × Node)) :
    (directory entries).at? (name :: address) = (entries.lookup name).bind (at? address) :=
  rfl

theorem at?_put_other {name other : String} (different : other ≠ name) (address : List String)
    (node : Node) (entries : List (String × Node)) :
    (directory (Keyed.put name node entries)).at? (other :: address) =
      (directory entries).at? (other :: address) := by
  rw [at?_directory, Keyed.lookup_put_other different, at?_directory]

theorem at?_put_self (name : String) (address : List String) (node : Node)
    (entries : List (String × Node)) :
    (directory (Keyed.put name node entries)).at? (name :: address) = node.at? address := by
  rw [at?_directory, Keyed.lookup_put_self]
  rfl

namespace Sets

variable {content : ByteArray} {modified : Time.Instant} {address other : List String}
  {root after : Node}

theorem at?_self (sets : Sets content modified address root after) :
    after.at? address = some (.file content modified) := by
  induction sets with
  | here free => exact at?_put_self ..
  | within found sets ih => exact (at?_put_self ..).trans ih

theorem not_directory (sets : Sets content modified address root after) :
    root.entryAt? address ≠ some .directory := by
  induction sets with
  | @here entries name free =>
    rw [entryAt?, at?_directory]
    cases found : entries.lookup name with
    | none => rintro ⟨⟩
    | some node =>
      cases node with
      | file content modified => rintro ⟨⟩
      | directory inner => exact absurd found (free inner)
  | within found sets ih => rwa [entryAt?, at?_directory, found, Option.bind_some]

theorem entryAt?_self (sets : Sets content modified address root after) :
    after.entryAt? address = some (.file content modified) := by
  rw [Node.entryAt?, sets.at?_self]
  rfl

theorem file_not_directory (sets : Sets content modified address root after) :
    after.entryAt? address ≠ some .directory := by
  rw [sets.entryAt?_self]
  exact nofun

/-- Away from the file and its directories, the nodes are the same. -/
theorem at?_of_not_prefix (sets : Sets content modified address root after)
    (apart : ¬ other <+: address) : after.at? other = root.at? other := by
  induction sets generalizing other with
  | @here entries name free =>
    obtain ⟨first, rest, rfl⟩ : ∃ first rest, other = first :: rest :=
      List.exists_cons_of_ne_nil fun same => apart (same ▸ List.nil_prefix)
    by_cases same : first = name
    · subst same
      -- Below the name there was nothing: it was free, or a file.
      obtain ⟨second, rest, rfl⟩ : ∃ second rest', rest = second :: rest' :=
        List.exists_cons_of_ne_nil fun same => apart (same ▸ List.prefix_rfl)
      rw [at?_put_self, at?_directory]
      cases found : entries.lookup first with
      | none => rfl
      | some node =>
        cases node with
        | file content modified => rfl
        | directory inner => exact absurd found (free inner)
    · exact at?_put_other same rest _ entries
  | @within entries name child changed address found sets ih =>
    obtain ⟨first, rest, rfl⟩ : ∃ first rest, other = first :: rest :=
      List.exists_cons_of_ne_nil fun same => apart (same ▸ List.nil_prefix)
    by_cases same : first = name
    · subst same
      rw [at?_put_self, at?_directory, found, Option.bind_some]
      exact ih fun inside => apart (List.cons_prefix_cons.mpr ⟨rfl, inside⟩)
    · exact at?_put_other same rest _ entries

/-- The directories on the way to the file are directories before and after. -/
theorem entryAt?_of_prefix (sets : Sets content modified address root after)
    (above : other <+: address) (different : other ≠ address) :
    root.entryAt? other = some .directory ∧ after.entryAt? other = some .directory := by
  induction sets generalizing other with
  | @here entries name free =>
    cases other with
    | nil => exact ⟨rfl, rfl⟩
    | cons first rest =>
      obtain ⟨rfl, inside⟩ := List.cons_prefix_cons.mp above
      obtain rfl := List.prefix_nil.mp inside
      exact absurd rfl different
  | @within entries name child changed address found sets ih =>
    cases other with
    | nil => exact ⟨rfl, rfl⟩
    | cons first rest =>
      obtain ⟨rfl, inside⟩ := List.cons_prefix_cons.mp above
      rw [entryAt?, entryAt?, at?_put_self, at?_directory, found]
      exact ih inside (mt (congrArg (first :: ·)) different)

/-- Every other address keeps what stands at it. -/
theorem entryAt? (sets : Sets content modified address root after) (different : other ≠ address) :
    after.entryAt? other = root.entryAt? other := by
  by_cases above : other <+: address
  · obtain ⟨old, new⟩ := sets.entryAt?_of_prefix above different
    rw [old, new]
  · rw [Node.entryAt?, Node.entryAt?, sets.at?_of_not_prefix above]

theorem rebuild {place : Place} (reached : place.Reached root)
    (sets : Sets content modified address place.node after) :
    Sets content modified (place.address ++ address) root (Place.rebuild after place.above) := by
  induction reached generalizing address after with
  | root => exact sets
  | @entry entries above name node around found ih =>
    rw [Place.address_entry, List.append_assoc, List.singleton_append]
    exact ih (.within found sets)

/-! ### Walks in the changed tree -/

theorem stepAddress? (sets : Sets content modified address root after) (here : List String)
    (segment : String) :
    after.stepAddress? here segment = root.stepAddress? here segment ∨
      after.stepAddress? here segment = some address ∧ root.stepAddress? here segment = none := by
  by_cases same : here = address
  · -- The file leads nowhere, and what was there before neither.
    subst same
    refine Or.inl ?_
    rw [stepAddress?_eq_none sets.not_directory, stepAddress?_eq_none sets.file_not_directory]
  · rw [Node.stepAddress?, Node.stepAddress?, sets.entryAt? same]
    by_cases new : here ++ [segment] = address
    · rw [new, sets.entryAt?_self]
      split
      · split
        · exact Or.inl rfl
        · split
          · exact Or.inl rfl
          · split
            · exact Or.inl rfl
            · cases root.entryAt? address with
              | none => exact Or.inr ⟨rfl, rfl⟩
              | some entry => exact Or.inl rfl
      · exact Or.inl rfl
    · rw [sets.entryAt? new]
      exact Or.inl rfl

theorem walkAddress? (sets : Sets content modified address root after) (here : List String)
    (segments : List String) :
    after.walkAddress? here segments = root.walkAddress? here segments ∨
      after.walkAddress? here segments = some address ∧ root.walkAddress? here segments = none := by
  induction segments generalizing here with
  | nil => exact Or.inl rfl
  | cons segment segments ih =>
    rw [walkAddress?_cons, walkAddress?_cons]
    rcases sets.stepAddress? here segment with same | ⟨new, old⟩
    · rw [same]
      cases root.stepAddress? here segment with
      | none => exact Or.inl rfl
      | some next => exact ih next
    · -- The walks part at the file, which leads no further.
      rw [new, old]
      cases segments with
      | nil => exact Or.inr ⟨rfl, rfl⟩
      | cons next segments =>
        refine Or.inl ?_
        rw [Option.bind_some, walkAddress?_cons, stepAddress?_eq_none sets.file_not_directory]
        rfl

end Sets

end Node

/-! ### Writes by location -/

namespace FileSystem

variable {fs changed : FileSystem} {path : Path} {content : ByteArray} {modified : Time.Instant}
  {address : List String}

/-- The address at which a file is set: a name in a directory that is there. -/
def location? (fs : FileSystem) (path : Path) : Option (List String) :=
  if (refusal? path).isSome then none
  else do
    let name ← (target path).2
    let directory ← fs.walkFrom? path (target path).1
    match fs.root.entryAt? directory with
    | some .directory =>
      if maxNameBytes < name.utf8ByteSize then none else some (directory ++ [name])
    | _ => none

theorem location?_eq_some_iff : fs.location? path = some address ↔
    refusal? path = none ∧ ∃ before name directory,
      path.segments = before ++ [name] ∧ Path.isIdle name = false ∧ name ≠ ".." ∧
      fs.walkFrom? path before = some directory ∧
      fs.root.entryAt? directory = some .directory ∧ name.utf8ByteSize ≤ maxNameBytes ∧
      directory ++ [name] = address := by
  rw [location?]
  constructor
  · intro placed
    split at placed
    · exact nomatch placed
    · rename_i plain
      obtain ⟨name, named, rest⟩ := Option.bind_eq_some_iff.mp placed
      obtain ⟨directory, walked, found⟩ := Option.bind_eq_some_iff.mp rest
      obtain ⟨last, busy, down⟩ := target_eq_iff.mp (Prod.ext rfl named)
      split at found
      · rename_i here
        split at found
        · exact nomatch found
        · rename_i short
          exact ⟨by simpa using plain, _, name, directory, last, busy, down, walked, here,
            not_lt.mp short, Option.some.inj found⟩
      · exact nomatch found
  · rintro ⟨plain, before, name, directory, last, busy, down, walked, here, short, rfl⟩
    have named := target_eq_iff.mpr ⟨last, busy, down⟩
    simp [plain, named, walked, here, not_lt.mpr short]

/-- Only the file at an address is set, from one file system to the next. -/
structure Writes (content : ByteArray) (modified : Time.Instant) (address : List String)
    (fs changed : FileSystem) : Prop where
  working : changed.working = fs.working
  sets : Node.Sets content modified address fs.root changed.root

theorem origin_eq_ok_iff {place : Place} :
    fs.origin path = .ok place ↔ refusal? path = none ∧ fs.start path = .ok place := by
  rw [origin_eq]
  cases refusal? path with
  | none => simp
  | some e => simp

/-- A file can be set under a name that is free for one, in a directory that is there. -/
theorem setFile_eq_ok_iff : fs.setFile path content modified = .ok changed ↔
    ∃ start place entries name, fs.origin path = .ok start ∧
      start.walk (target path).1 = .ok place ∧ place.node = .directory entries ∧
      (target path).2 = some name ∧ name.utf8ByteSize ≤ maxNameBytes ∧
      (∀ inner, entries.lookup name ≠ some (.directory inner)) ∧
      changed = ⟨Place.rebuild (.directory (Keyed.put name (.file content modified) entries))
        place.above, fs.working⟩ := by
  unfold setFile
  constructor
  · intro written
    cases starts : fs.origin path with
    | error e => simp [starts, bind, Except.bind] at written
    | ok start =>
      cases walked : start.walk (target path).1 with
      | error e => simp [starts, walked, bind, Except.bind] at written
      | ok place =>
        simp only [starts, walked, bind, Except.bind] at written
        split at written
        · exact nomatch written
        · exact nomatch written
        · rename_i entries name here named
          split at written
          · exact nomatch written
          · rename_i short
            split at written
            · exact nomatch written
            · rename_i free
              exact ⟨start, place, entries, name, rfl, walked, here, named, not_lt.mp short, free,
                (Except.ok.inj written).symm⟩
  · rintro ⟨start, place, entries, name, starts, walked, here, named, short, free, rfl⟩
    simp only [starts, walked, here, named, bind, Except.bind, if_neg (not_lt.mpr short)]

theorem writes_of_setFile (written : fs.setFile path content modified = .ok changed) :
    ∃ address, fs.location? path = some address ∧ Writes content modified address fs changed := by
  obtain ⟨start, place, entries, name, starts, walked, here, named, short, free, rfl⟩ :=
    setFile_eq_ok_iff.mp written
  obtain ⟨plain, starts⟩ := origin_eq_ok_iff.mp starts
  have reached := (reached_of_start starts).walk walked
  obtain ⟨split, busy, down⟩ := target_eq_iff.mp (Prod.ext rfl named)
  have around : fs.walkFrom? path (target path).1 = some place.address := by
    rw [walkFrom?_eq, starts]
    change (start.walk _).toOption.map _ = _
    rw [walked]
    rfl
  have directory : fs.root.entryAt? place.address = some .directory := by
    rw [Node.entryAt?, reached.at?, here]
    rfl
  have sets : Node.Sets content modified [name] place.node
      (.directory (Keyed.put name (.file content modified) entries)) := here ▸ .here free
  exact ⟨place.address ++ [name],
    location?_eq_some_iff.mpr ⟨plain, _, name, _, split, busy, down, around, directory, short, rfl⟩,
    rfl, sets.rebuild reached⟩

theorem setFile_of_location (placed : fs.location? path = some address)
    (free : fs.root.entryAt? address ≠ some .directory) (content : ByteArray)
    (modified : Time.Instant) : ∃ changed, fs.setFile path content modified = .ok changed := by
  obtain ⟨plain, before, name, directory, split, busy, down, around, here, short, rfl⟩ :=
    location?_eq_some_iff.mp placed
  have named := target_eq_iff.mpr ⟨split, busy, down⟩
  rw [walkFrom?_eq] at around
  obtain ⟨start, starts, around⟩ := Option.bind_eq_some_iff.mp around
  obtain ⟨place, walked, rfl⟩ := Option.map_eq_some_iff.mp around
  rw [toOption_eq_some_iff] at starts walked
  have reached := (reached_of_start starts).walk walked
  have at? := reached.at?
  cases node : place.node with
  | file content modified => simp [Node.entryAt?, at?, node, Node.entry] at here
  | directory entries =>
    rw [Node.entryAt?, Node.at?_concat, at?, node] at free
    have isFree : ∀ inner, entries.lookup name ≠ some (.directory inner) := by
      intro inner found
      exact free (by simp [Node.entries, found, Node.entry])
    exact ⟨_, setFile_eq_ok_iff.mpr ⟨start, place, entries, name, origin_eq_ok_iff.mpr ⟨plain, starts⟩,
      named ▸ walked, node, by rw [named], short, isFree, rfl⟩⟩

/-! ### What paths lead to after a write -/

/-- A path leads to a file if the file is where a write at the path would set one. -/
theorem address?_eq_iff_location? {file : Entry} (here : fs.root.entryAt? address = some file)
    (isFile : file ≠ .directory) :
    fs.address? path = some address ↔ fs.location? path = some address := by
  have other : fs.root.entryAt? address ≠ some .directory := by
    rw [here]
    exact mt Option.some.inj isFile
  rw [location?_eq_some_iff, address?]
  constructor
  · intro leads
    split at leads
    · cases leads
    · rename_i plain
      refine ⟨by simpa using plain, ?_⟩
      obtain ⟨before, name, last⟩ :=
        (List.eq_nil_or_concat' path.segments).resolve_left (Path.segments_ne_nil path)
      rw [last, walkFrom?_concat] at leads
      obtain ⟨directory, walked, stepped⟩ := Option.bind_eq_some_iff.mp leads
      obtain ⟨around, same | ⟨busy, down, short, same⟩⟩ := Node.stepAddress?_eq_some stepped
      · exact absurd same other
      · exact ⟨before, name, directory, last, busy, down, walked, around, short, same⟩
  · rintro ⟨plain, before, name, directory, last, busy, down, walked, around, short, rfl⟩
    rw [plain, last, walkFrom?_concat, walked, Option.bind_some, Node.stepAddress?, around]
    simp [busy, down, not_lt.mpr short, here]

namespace Writes

theorem walkFrom? (writes : Writes content modified address fs changed) (path : Path)
    (segments : List String) :
    changed.walkFrom? path segments = fs.walkFrom? path segments ∨
      changed.walkFrom? path segments = some address ∧ fs.walkFrom? path segments = none := by
  rw [FileSystem.walkFrom?, FileSystem.walkFrom?, writes.working]
  exact writes.sets.walkAddress? [] _

/-- A write moves no directory. -/
theorem walkFrom?_directory (writes : Writes content modified address fs changed) (path : Path)
    (segments directory : List String) :
    changed.walkFrom? path segments = some directory ∧
        changed.root.entryAt? directory = some .directory ↔
      fs.walkFrom? path segments = some directory ∧
        fs.root.entryAt? directory = some .directory := by
  by_cases written : directory = address
  · subst written
    exact iff_of_false (fun new => writes.sets.file_not_directory new.2)
      fun old => writes.sets.not_directory old.2
  · rw [writes.sets.entryAt? written]
    refine and_congr_left fun _ => ?_
    rcases writes.walkFrom? path segments with same | ⟨new, old⟩
    · rw [same]
    · rw [new, old]
      exact iff_of_false (fun same => written (Option.some.inj same).symm) nofun

theorem entryOf?_directory (writes : Writes content modified address fs changed) (path : Path) :
    changed.entryOf? path = some .directory ↔ fs.entryOf? path = some .directory := by
  rw [entryOf?_eq, entryOf?_eq, address?, address?]
  split
  · exact Iff.rfl
  · rw [Option.bind_eq_some_iff, Option.bind_eq_some_iff]
    exact exists_congr (writes.walkFrom?_directory path path.segments)

theorem location? (writes : Writes content modified address fs changed) (path : Path) :
    changed.location? path = fs.location? path := by
  ext location
  rw [location?_eq_some_iff, location?_eq_some_iff]
  refine and_congr_right fun _ => ?_
  refine exists_congr fun before => exists_congr fun name => exists_congr fun directory => ?_
  refine and_congr_right fun _ => and_congr_right fun _ => and_congr_right fun _ => ?_
  rw [← and_assoc, writes.walkFrom?_directory path before directory, and_assoc]

/-- After a write, the paths with the location of the file lead to it, and all others lead to what
they led to before. -/
theorem entryOf? (writes : Writes content modified address fs changed) (path : Path) :
    changed.entryOf? path =
      if fs.location? path = some address then some (.file content modified) else fs.entryOf? path := by
  have leads : changed.address? path = some address ↔ changed.location? path = some address :=
    address?_eq_iff_location? writes.sets.entryAt?_self nofun
  rw [writes.location? path] at leads
  rw [entryOf?_eq, entryOf?_eq]
  split
  · rename_i placed
    rw [leads.mpr placed]
    exact writes.sets.entryAt?_self
  · rename_i elsewhere
    have away := mt leads.mp elsewhere
    rw [address?] at away ⊢
    rw [address?]
    split
    · rfl
    · rename_i plain
      rw [if_neg plain] at away
      rcases writes.walkFrom? path path.segments with same | ⟨new, -⟩
      · rw [same] at away ⊢
        cases found : fs.walkFrom? path path.segments with
        | none => rfl
        | some other =>
          exact writes.sets.entryAt? fun here => away (found.trans (congrArg some here))
      · exact absurd new away

/-- A directory that the file does not lie in keeps its tree. -/
theorem subtree? (writes : Writes content modified address fs changed) {dir : Path}
    {directory : List String} (leads : fs.walkFrom? dir dir.segments = some directory)
    (apart : ¬ directory <+: address) : changed.subtree? dir = fs.subtree? dir := by
  rw [subtree?_eq, subtree?_eq]
  rcases writes.walkFrom? dir dir.segments with same | ⟨-, old⟩
  · rw [same, leads]
    exact writes.sets.at?_of_not_prefix apart
  · rw [old] at leads
    exact nomatch leads

end Writes

/-- What was written is read back. -/
theorem readBytes_of_setFile (written : fs.setFile path content modified = .ok changed) :
    changed.readBytes path = .ok content := by
  obtain ⟨address, placed, writes⟩ := writes_of_setFile written
  have here := writes.entryOf? path
  rw [if_pos placed, entryOf?] at here
  obtain ⟨node, found, file⟩ := Option.map_eq_some_iff.mp here
  rw [toOption_eq_some_iff] at found
  cases node with
  | directory entries => cases file
  | file content' modified' =>
    cases file
    rw [readBytes, found]

end FileSystem

/-! ### Writes that stop -/

namespace Fault

variable (fault : Option Fault) (content : ByteArray)

/-- What is stored is the front of the content. -/
theorem exists_eq_append : ∃ rest, content = (cut fault content).1 ++ rest := by
  unfold cut
  split
  · rename_i fault
    split
    · rename_i short
      refine ⟨content.extract fault.stored content.size, ?_⟩
      rw [← ByteArray.extract_eq_extract_append_extract _ (Nat.zero_le _) short.le,
        ByteArray.extract_zero_size]
    · exact ⟨.empty, ByteArray.append_empty.symm⟩
  · exact ⟨.empty, ByteArray.append_empty.symm⟩

/-- Nothing is told exactly if everything is stored. -/
theorem cut_eq_none_iff : (cut fault content).2 = none ↔ (cut fault content).1 = content := by
  unfold cut
  split
  · rename_i fault
    split
    · rename_i short
      refine iff_of_false nofun fun whole => ?_
      have size := congrArg ByteArray.size whole
      rw [ByteArray.size_extract] at size
      omega
    · exact iff_of_true rfl rfl
  · exact iff_of_true rfl rfl

theorem cut_none : cut none content = (content, none) :=
  rfl

end Fault

namespace FileSystem

variable {fs changed : FileSystem} {path : Path} {content : ByteArray} {modified : Time.Instant}
  {fault : Option Fault}

theorem write_eq : fs.write path content modified fault =
    (fs.setFile path (Fault.cut fault content).1 modified).map fun changed =>
      (changed, (Fault.cut fault content).2) := by
  unfold write
  cases opened : fs.setFile path (Fault.cut fault content).1 modified with
  | error e => simp [opened, bind, Except.bind, Except.map]
  | ok changed => simp [opened, bind, Except.bind, Except.map, pure, Except.pure]

theorem write_eq_ok_iff {told : Option FileError} :
    fs.write path content modified fault = .ok (changed, told) ↔
      fs.setFile path (Fault.cut fault content).1 modified = .ok changed ∧
        (Fault.cut fault content).2 = told := by
  rw [write_eq]
  cases fs.setFile path (Fault.cut fault content).1 modified with
  | error e => exact iff_of_false nofun fun opened => nomatch opened.1
  | ok after => rw [Except.map, Except.ok.injEq, Except.ok.injEq, Prod.mk.injEq]

theorem write_eq_error_iff {e : FileError} : fs.write path content modified fault = .error e ↔
    fs.setFile path (Fault.cut fault content).1 modified = .error e := by
  rw [write_eq]
  cases fs.setFile path (Fault.cut fault content).1 modified with
  | error other => rw [Except.map, Except.error.injEq, Except.error.injEq]
  | ok after => exact iff_of_false nofun nofun

end FileSystem

end TestHistory
