import Mathlib.Data.String.Basic
import TestHistory.Scan.Artifacts

/-!
# Texts cut to a number of bytes

The search for a place to cut goes back from an offset until it stands between two characters. It
never runs out of bytes (`exists_positionBack`), and what it cuts off is not needed: `cutBytes_limits`
says that the longest start of the text is kept that fits.
-/

namespace TestHistory

namespace Text

variable {text : String}

/-! ### Positions -/

/-- The last position of a text that is not behind an offset. -/
structure IsLastPosition (offset : Nat) (position : text.Pos) : Prop where
  fits : position.offset.byteIdx ≤ offset
  last : ∀ other : text.Pos, other.offset.byteIdx ≤ offset →
    other.offset.byteIdx ≤ position.offset.byteIdx

theorem positionAt?_eq_some_iff {offset : Nat} {position : text.Pos} :
    positionAt? text offset = some position ↔ position.offset.byteIdx = offset := by
  unfold positionAt?
  constructor
  · intro found
    split at found
    · obtain rfl := Option.some.inj found
      rfl
    · exact nomatch found
  · rintro rfl
    rw [dif_pos position.isValid]

theorem positionAt?_eq_none_iff {offset : Nat} :
    positionAt? text offset = none ↔ ∀ position : text.Pos, position.offset.byteIdx ≠ offset := by
  rw [Option.eq_none_iff_forall_ne_some]
  simp only [ne_eq, positionAt?_eq_some_iff]

/-- The search ends at a position: at offset 0 there always is one. -/
theorem exists_positionBack (text : String) (offset : Nat) :
    ∃ position, positionBack? text offset = some position ∧ IsLastPosition offset position := by
  induction offset with
  | zero =>
    refine ⟨text.startPos, positionAt?_eq_some_iff.mpr rfl, Nat.le_refl 0, ?_⟩
    intro other below
    exact below
  | succ offset ih =>
    unfold positionBack?
    cases found : positionAt? text (offset + 1) with
    | some position =>
      have here := positionAt?_eq_some_iff.mp found
      refine ⟨position, rfl, here.le, ?_⟩
      intro other below
      rwa [here]
    | none =>
      obtain ⟨position, back, fits, last⟩ := ih
      refine ⟨position, back, Nat.le_succ_of_le fits, ?_⟩
      intro other below
      have elsewhere := positionAt?_eq_none_iff.mp found other
      exact last other (by omega)

/-! ### Starts that fit -/

/-- The first characters of a text, as many as fit into a number of bytes. -/
structure IsLongestFit (maxBytes : Nat) (text front : String) : Prop where
  start : front.toList <+: text.toList
  fits : front.utf8ByteSize ≤ maxBytes
  longest : ∀ other : String, other.toList <+: text.toList → other.utf8ByteSize ≤ maxBytes →
    other.toList <+: front.toList

theorem toList_prefix_iff {front text : String} :
    front.toList <+: text.toList ↔ ∃ rest, text = front ++ rest := by
  constructor
  · rintro ⟨rest, same⟩
    refine ⟨String.ofList rest, ?_⟩
    rw [← String.toList_inj, String.toList_append, String.toList_ofList, same]
  · rintro ⟨rest, rfl⟩
    rw [String.toList_append]
    exact List.prefix_append ..

theorem IsLongestFit.unique {maxBytes : Nat} {front other : String}
    (fit : IsLongestFit maxBytes text front) (fit' : IsLongestFit maxBytes text other) :
    front = other := by
  have shorter := fit'.longest front fit.start fit.fits
  have longer := fit.longest other fit'.start fit'.fits
  exact String.toList_inj.mp (shorter.eq_of_length_le longer.length_le)

theorem splits_upTo (position : text.Pos) :
    position.Splits (upTo position) (text.sliceFrom position).copy :=
  position.splits

theorem utf8ByteSize_upTo (position : text.Pos) :
    (upTo position).utf8ByteSize = position.offset.byteIdx :=
  congrArg String.Pos.Raw.byteIdx (splits_upTo position).offset_eq_rawEndPos.symm

namespace IsLastPosition

variable {offset : Nat} {position : text.Pos}

theorem size_le (last : IsLastPosition offset position) {front rest : String}
    (whole : text = front ++ rest) (fits : front.utf8ByteSize ≤ offset) :
    front.utf8ByteSize ≤ position.offset.byteIdx := by
  have ends := (String.Pos.splits_ofEqAppend whole).offset_eq_rawEndPos
  have size := congrArg String.Pos.Raw.byteIdx ends
  rw [String.byteIdx_rawEndPos] at size
  have bound := last.last (String.Pos.ofEqAppend whole) (size ▸ fits)
  rwa [size] at bound

theorem isLongestFit (last : IsLastPosition offset position) :
    IsLongestFit offset text (upTo position) := by
  have start : (upTo position).toList <+: text.toList :=
    toList_prefix_iff.mpr ⟨_, (splits_upTo position).eq_append⟩
  refine ⟨start, (utf8ByteSize_upTo position).trans_le last.fits, ?_⟩
  intro other begins fits
  rcases List.prefix_or_prefix_of_prefix begins start with inside | beyond
  · exact inside
  · -- A start that goes on behind the position would have to go on by nothing.
    obtain ⟨rest, whole⟩ := toList_prefix_iff.mp begins
    obtain ⟨more, rfl⟩ := toList_prefix_iff.mp beyond
    have bound := last.size_le whole fits
    rw [String.utf8ByteSize_append, utf8ByteSize_upTo] at bound
    have nothing : more = "" := String.utf8ByteSize_eq_zero_iff.mp (by omega)
    simp [nothing]

/-- Behind the position stands a character, of four bytes at most, that no longer fits. -/
theorem offset_le (last : IsLastPosition offset position) (inside : offset < text.utf8ByteSize) :
    offset ≤ position.offset.byteIdx + 3 := by
  have whole := (splits_upTo position).eq_append
  have size := congrArg String.utf8ByteSize whole
  generalize (text.sliceFrom position).copy = rest at whole size
  rw [String.utf8ByteSize_append, utf8ByteSize_upTo] at size
  have fits := last.fits
  cases chars : rest.toList with
  | nil =>
    rw [String.toList_eq_nil_iff.mp chars, String.utf8ByteSize_empty] at size
    omega
  | cons c tail =>
    have next : rest = String.singleton c ++ String.ofList tail := by
      rw [← String.toList_inj, chars, String.toList_append, String.toList_singleton,
        String.toList_ofList, List.singleton_append]
    rw [next, ← String.append_assoc] at whole
    have four := c.utf8Size_le_four
    by_contra large
    have bound := last.size_le whole (by
      rw [String.utf8ByteSize_append, utf8ByteSize_upTo, String.utf8ByteSize_singleton]
      omega)
    rw [String.utf8ByteSize_append, utf8ByteSize_upTo, String.utf8ByteSize_singleton] at bound
    have some := c.utf8Size_pos
    omega

end IsLastPosition

/-! ### The cut -/

/-- A text that does not fit is cut to this start, which is at most three bytes too short. -/
structure CutsTo (maxBytes : Nat) (text front : String) : Prop
    extends IsLongestFit maxBytes text front where
  larger : maxBytes < text.utf8ByteSize
  near : maxBytes ≤ front.utf8ByteSize + 3
  bytes : front.toByteArray = text.toByteArray.extract 0 front.utf8ByteSize

theorem cutsTo_upTo {maxBytes : Nat} {position : text.Pos}
    (last : IsLastPosition maxBytes position) (larger : maxBytes < text.utf8ByteSize) :
    CutsTo maxBytes text (upTo position) where
  toIsLongestFit := last.isLongestFit
  larger := larger
  near := utf8ByteSize_upTo position ▸ last.offset_le larger
  bytes := utf8ByteSize_upTo position ▸ (splits_upTo position).toByteArray_left_eq

theorem cutBytes_cases (text : String) (maxBytes : Nat) :
    (text.utf8ByteSize ≤ maxBytes ∧ cutBytes text maxBytes = none) ∨
      ∃ front, CutsTo maxBytes text front ∧ cutBytes text maxBytes = some front := by
  unfold cutBytes
  split
  · rename_i fits
    exact Or.inl ⟨fits, rfl⟩
  · rename_i larger
    obtain ⟨position, back, last⟩ := exists_positionBack text maxBytes
    refine Or.inr ⟨upTo position, cutsTo_upTo last (Nat.lt_of_not_le larger), ?_⟩
    rw [back, Option.map_some]

theorem cutBytes_eq_none_iff {maxBytes : Nat} :
    cutBytes text maxBytes = none ↔ text.utf8ByteSize ≤ maxBytes := by
  rcases cutBytes_cases text maxBytes with ⟨fits, whole⟩ | ⟨front, cuts, cut⟩
  · exact iff_of_true whole fits
  · rw [cut]
    exact iff_of_false nofun (Nat.not_le_of_lt cuts.larger)

theorem cutBytes_eq_some_iff {maxBytes : Nat} {front : String} :
    cutBytes text maxBytes = some front ↔ CutsTo maxBytes text front := by
  rcases cutBytes_cases text maxBytes with ⟨fits, whole⟩ | ⟨other, cuts, cut⟩
  · rw [whole]
    exact iff_of_false nofun fun cuts => Nat.not_lt_of_le fits cuts.larger
  · rw [cut, Option.some.injEq]
    constructor
    · rintro rfl
      exact cuts
    · intro cuts'
      exact cuts.unique cuts'.toIsLongestFit

example : cutBytes "aé-b" 2 = some "a" := by decide +kernel

end Text

/-- A resource is shown whole, or cut to the start that fits and with a mark at its end. -/
inductive ShowsResource (maxBytes : Nat) (text : String) : String → Prop where
  | whole (fits : text.utf8ByteSize ≤ maxBytes) : ShowsResource maxBytes text text
  | cut {front : String} (cuts : Text.CutsTo maxBytes text front) :
      ShowsResource maxBytes text (front ++ "\n... (truncated)")

theorem showsResource_resourceText (maxBytes : Nat) (text : String) :
    ShowsResource maxBytes text (resourceText maxBytes text) := by
  unfold resourceText
  cases cut : Text.cutBytes text maxBytes with
  | none => exact .whole (Text.cutBytes_eq_none_iff.mp cut)
  | some front => exact .cut (Text.cutBytes_eq_some_iff.mp cut)

theorem ShowsResource.utf8ByteSize_le {maxBytes : Nat} {text shown : String}
    (shows : ShowsResource maxBytes text shown) :
    shown.utf8ByteSize ≤ maxBytes + truncationMark.utf8ByteSize := by
  cases shows with
  | whole fits => exact Nat.le_add_right_of_le fits
  | cut cuts =>
    rw [String.utf8ByteSize_append]
    exact Nat.add_le_add_right cuts.fits _

/-- The search for the place to cut succeeds, and of a text that does not fit it keeps the longest
start that does. A resource is shown so, with a mark where it was cut. -/
theorem cutBytes_limits (text : String) (maxBytes : Nat) :
    (∃ position, Text.positionBack? text maxBytes = some position ∧
        Text.IsLastPosition maxBytes position) ∧
      (Text.cutBytes text maxBytes = none ↔ text.utf8ByteSize ≤ maxBytes) ∧
      (∀ front, Text.cutBytes text maxBytes = some front ↔ Text.CutsTo maxBytes text front) ∧
      ∀ options : ScanOptions,
        let shown := (fileContent { options with resourceMaxBytes := maxBytes } .resource text).content
        ShowsResource maxBytes text shown ∧ shown.toByteArray.IsValidUTF8 ∧
          shown.utf8ByteSize ≤ maxBytes + truncationMark.utf8ByteSize := by
  refine ⟨Text.exists_positionBack text maxBytes, Text.cutBytes_eq_none_iff,
    fun _ => Text.cutBytes_eq_some_iff, fun options => ?_⟩
  have shows := showsResource_resourceText maxBytes text
  exact ⟨shows, String.isValidUTF8 _, shows.utf8ByteSize_le⟩

end TestHistory
