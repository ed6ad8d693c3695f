import Mathlib.Data.String.Basic

/-!
# Texts in the order of their bytes

Texts are ordered by their characters. `bytes_lt_iff` shows that the bytes of their UTF-8 form give
the same order.
-/

namespace TestHistory.Text

open String (utf8EncodeChar)

/-- The UTF-8 form. -/
def bytes (text : String) : List UInt8 :=
  text.toUTF8.data.toList

theorem bytes_eq (text : String) : bytes text = text.toList.flatMap utf8EncodeChar := by
  rw [bytes, String.toUTF8, ← String.utf8Encode_toList, List.utf8Encode,
    List.toList_data_toByteArray]

/-- The forms of two characters differ before either ends. -/
theorem utf8EncodeChar_append_lt {c d : Char} (below : c < d) (x y : List UInt8) :
    utf8EncodeChar c ++ x < utf8EncodeChar d ++ y := by
  have order : c.val.toNat < d.val.toNat := below
  have bound : d.val.toNat < 1114112 := by
    rcases d.valid with low | high
    · have surrogates : d.val.toNat < 0xd800 := low
      omega
    · exact high.2
  -- With nested quotients the leading bits of a byte are those of the byte before it.
  have twice (n : Nat) : n / 4096 = n / 64 / 64 := by omega
  have thrice (n : Nat) : n / 262144 = n / 64 / 64 / 64 := by omega
  unfold utf8EncodeChar
  generalize c.val.toNat = v at order ⊢
  generalize d.val.toNat = w at order bound ⊢
  dsimp only
  split_ifs
  all_goals
    simp only [List.cons_append, List.nil_append, List.cons_lt_cons_iff, UInt8.lt_iff_toNat_lt,
      ← UInt8.toNat_inj, UInt8.toNat_ofNat', twice, thrice]
    omega

theorem flatMap_utf8EncodeChar_lt {a b : List Char} (below : a < b) :
    a.flatMap utf8EncodeChar < b.flatMap utf8EncodeChar := by
  induction a generalizing b with
  | nil =>
    cases b with
    | nil => exact absurd below (List.lt_irrefl [])
    | cons d b =>
      rw [List.flatMap_nil, List.flatMap_cons]
      have notNil : utf8EncodeChar d ≠ [] := String.utf8EncodeChar_ne_nil
      obtain ⟨first, rest, same⟩ := List.exists_cons_of_ne_nil notNil
      rw [same]
      exact List.nil_lt_cons ..
  | cons c a ih =>
    cases b with
    | nil => exact absurd below (List.not_lt_nil _)
    | cons d b =>
      rw [List.flatMap_cons, List.flatMap_cons]
      rcases List.cons_lt_cons_iff.mp below with first | ⟨rfl, rest⟩
      · exact utf8EncodeChar_append_lt first ..
      · exact List.append_left_lt (ih rest)

theorem bytes_lt {a b : String} (below : a < b) : bytes a < bytes b := by
  rw [bytes_eq, bytes_eq]
  exact flatMap_utf8EncodeChar_lt (String.lt_iff_toList_lt.mp below)

theorem bytes_lt_iff {a b : String} : bytes a < bytes b ↔ a < b := by
  refine ⟨fun below => ?_, bytes_lt⟩
  rcases lt_trichotomy a b with before | rfl | after
  · exact before
  · exact absurd below (List.lt_irrefl _)
  · exact absurd below (List.lt_asymm (bytes_lt after))

end TestHistory.Text
