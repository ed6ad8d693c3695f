import TestHistory.Proofs.TextLimits
import TestHistory.Scan.Basic

/-!
# The last lines of a text

`IsTail` says what is kept of the lines of a text, and `ShowsLog` how a console log is shown.
`tailLines_keepsLast` has both, and that a tail of a tail is the shorter of the two tails.
-/

namespace TestHistory

namespace Text

structure IsTail (maxLines : Nat) (text : String) (tail : Tail) : Prop where
  lines : ∃ front last, IsLines text.toList (front ++ last) ∧
    tail.totalLines = (front ++ last).length ∧ last.length = min maxLines tail.totalLines ∧
    tail.text.toList = last.flatten
  truncated : tail.truncated = true ↔ maxLines < tail.totalLines
  suffix : tail.text.toList <:+ text.toList

theorem existsUnique_isLines (text : List Char) : ∃! lines, IsLines text lines :=
  ⟨pieces text, isLines_pieces text, fun _ whole => whole.eq_pieces⟩

theorem isTail_tailLines (text : String) (maxLines : Nat) :
    IsTail maxLines text (tailLines text maxLines) := by
  have whole := isLines_pieces text.toList
  have flatten := flatten_pieces text.toList
  rw [tailLines_eq]
  dsimp only
  generalize pieces text.toList = lines at whole flatten ⊢
  have split := List.take_append_drop (lines.length - maxLines) lines
  constructor
  case lines =>
    refine ⟨_, _, split.symm ▸ whole, split.symm ▸ rfl, ?_, String.toList_ofList⟩
    rw [List.length_drop]
    dsimp only
    omega
  case truncated => exact decide_eq_true_iff
  case suffix =>
    rw [String.toList_ofList]
    rw [← split, List.flatten_append] at flatten
    exact ⟨_, flatten⟩

theorem pieces_tailLines (text : String) (maxLines : Nat) :
    pieces (tailLines text maxLines).text.toList =
      (pieces text.toList).drop ((pieces text.toList).length - maxLines) := by
  rw [tailLines_eq, String.toList_ofList]
  exact ((isLines_pieces text.toList).drop _).eq_pieces.symm

theorem tailLines_tailLines (text : String) (m n : Nat) :
    (tailLines (tailLines text m).text n).text = (tailLines text (min m n)).text := by
  rw [tailLines_eq (tailLines text m).text, tailLines_eq text (min m n), pieces_tailLines]
  dsimp only
  rw [List.drop_drop, List.length_drop]
  have dropped (total : Nat) :
      total - m + (total - (total - m) - n) = total - min m n := by
    omega
  rw [dropped]

end Text

/-- A log that has too many lines is shown with a notice, an empty line, and its last lines. -/
inductive ShowsLog (maxLines : Nat) (text : String) : String → Prop where
  | whole {lines : List (List Char)} (all : Text.IsLines text.toList lines)
      (few : lines.length ≤ maxLines) : ShowsLog maxLines text text
  | cut {front last : List (List Char)} (all : Text.IsLines text.toList (front ++ last))
      (more : front ≠ []) (kept : last.length = maxLines) :
      ShowsLog maxLines text ("Log truncated. Showing last " ++ Decimal.groupThousands maxLines ++
        " of " ++ Decimal.groupThousands (front ++ last).length ++ " lines.\n\n" ++
        String.ofList last.flatten)

theorem showsLog_consoleText (maxLines : Nat) (text : String) :
    ShowsLog maxLines text (consoleText maxLines text) := by
  obtain ⟨front, last, all, total, kept, shown⟩ := (Text.isTail_tailLines text maxLines).lines
  have truncated := (Text.isTail_tailLines text maxLines).truncated
  unfold consoleText
  dsimp only
  rw [total] at kept truncated
  split
  · rename_i cut
    have larger := truncated.mp cut
    have some : front ≠ [] := by
      rintro rfl
      rw [List.nil_append] at kept larger
      omega
    rw [total, ← String.ofList_toList (s := (Text.tailLines text maxLines).text), shown]
    exact .cut all some (by omega)
  · rename_i fits
    have few := Nat.le_of_not_lt (mt truncated.mpr fits)
    rw [Text.tailLines, if_pos (all.eq_pieces ▸ few)]
    exact .whole all few

theorem readConsoleLog_value {fs : FileSystem} {path : Path} {bytes : ByteArray}
    {modified : Time.Instant} (here : fs.node path = .ok (.file bytes modified)) (maxLines : Nat) :
    (readConsoleLog fs path maxLines).value = consoleText maxLines (Text.decodeLossy bytes) := by
  rw [readConsoleLog, here]
  rfl

theorem tailLines_keepsLast :
    (∀ text : List Char, ∃! lines, Text.IsLines text lines) ∧
      (∀ text maxLines, Text.IsTail maxLines text (Text.tailLines text maxLines)) ∧
      (∀ text m n, (Text.tailLines (Text.tailLines text m).text n).text =
        (Text.tailLines text (min m n)).text) ∧
      ∀ (fs : FileSystem) path bytes modified maxLines,
        fs.node path = .ok (.file bytes modified) →
          ShowsLog maxLines (Text.decodeLossy bytes) (readConsoleLog fs path maxLines).value := by
  refine ⟨Text.existsUnique_isLines, Text.isTail_tailLines, Text.tailLines_tailLines, ?_⟩
  intro fs path bytes modified maxLines here
  rw [readConsoleLog_value here]
  exact showsLog_consoleText maxLines _

namespace LongLog

def text : String := "built\n\ntested\nfailed"

def tree : FileSystem where
  root := .directory [("run.log", .file text.toUTF8 ⟨0, 0⟩)]
  working := []

end LongLog

theorem tailLines_keepsLast_longLog :
    LongLog.tree.node ⟨"run.log"⟩ = .ok (.file LongLog.text.toUTF8 ⟨0, 0⟩) ∧
      ShowsLog 2 LongLog.text "Log truncated. Showing last 2 of 4 lines.\n\ntested\nfailed" := by
  have here : LongLog.tree.node ⟨"run.log"⟩ = .ok (.file LongLog.text.toUTF8 ⟨0, 0⟩) := rfl
  have shown := tailLines_keepsLast.2.2.2 LongLog.tree ⟨"run.log"⟩ _ _ 2 here
  have decoded : Text.decodeLossy LongLog.text.toUTF8 = LongLog.text := by decide +kernel
  have log : (readConsoleLog LongLog.tree ⟨"run.log"⟩ 2).value =
      "Log truncated. Showing last 2 of 4 lines.\n\ntested\nfailed" := by
    decide +kernel
  rw [decoded, log] at shown
  exact ⟨here, shown⟩

end TestHistory
