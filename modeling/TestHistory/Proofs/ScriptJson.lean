import TestHistory.Page.Html
import TestHistory.Proofs.JsonText

/-!
# JSON inside a script

`scriptChar` replaces characters without looking at where they stand. In JSON text they only stand
between quotes, and there never inside an escape, so the replaced text is read as the same tokens;
`scriptJson_spec` draws the conclusion for whole values.
-/

namespace TestHistory.Page

open Decimal (digitIn?)
open Json (Body Spells EndsWord IsWord Token isWordChar)

/-- The characters that could end a script, or a line of it. -/
def scriptSpecials : List Char :=
  ['<', '>', '&', '\u2028', '\u2029']

theorem forall_scriptSpecials {P : Char → Prop} :
    (∀ c ∈ scriptSpecials, P c) ↔ P '<' ∧ P '>' ∧ P '&' ∧ P '\u2028' ∧ P '\u2029' := by
  simp [scriptSpecials]

theorem scriptChar_of_plain {c : Char} (plain : c ∉ scriptSpecials) : scriptChar c = [c] := by
  simp only [scriptSpecials, List.mem_cons, List.not_mem_nil, or_false, not_or] at plain
  simp [scriptChar, plain]

theorem not_mem_scriptSpecials_of_scriptChar {c d : Char} (member : d ∈ scriptChar c) :
    d ∉ scriptSpecials := by
  by_cases special : c ∈ scriptSpecials
  · have replaced : ∀ c ∈ scriptSpecials, (scriptChar c).all (· ∉ scriptSpecials) :=
      forall_scriptSpecials.mpr (by decide)
    exact of_decide_eq_true (List.all_eq_true.mp (replaced c special) d member)
  · rw [scriptChar_of_plain special, List.mem_singleton] at member
    exact member ▸ special

theorem flatMap_scriptChar_of_plain {text : List Char} (plain : ∀ c ∈ text, c ∉ scriptSpecials) :
    text.flatMap scriptChar = text := by
  induction text with
  | nil => rfl
  | cons c text ih =>
    rw [List.flatMap_cons, scriptChar_of_plain (plain c List.mem_cons_self),
      ih fun d member => plain d (List.mem_cons_of_mem c member)]
    rfl

/-! ### Between quotes -/

/-- The escape of a character stands for the character. -/
theorem body_scriptChar {c : Char} (quote : c ≠ '"') (backslash : c ≠ '\\')
    (printable : 0x20 ≤ c.toNat) {body text : List Char} (rest : Body body text) :
    Body (scriptChar c ++ body) (c :: text) := by
  have zero : digitIn? 16 '0' = some 0 := by decide
  have two : digitIn? 16 '2' = some 2 := by decide
  have three : digitIn? 16 '3' = some 3 := by decide
  have six : digitIn? 16 '6' = some 6 := by decide
  have eight : digitIn? 16 '8' = some 8 := by decide
  have nine : digitIn? 16 '9' = some 9 := by decide
  have twelve : digitIn? 16 'c' = some 12 := by decide
  have fourteen : digitIn? 16 'e' = some 14 := by decide
  unfold scriptChar
  split_ifs with less greater ampersand line paragraph
  · subst less
    exact .unit zero zero three twelve (fun _ => rfl) rest
  · subst greater
    exact .unit zero zero three fourteen (fun _ => rfl) rest
  · subst ampersand
    exact .unit zero zero two six (fun _ => rfl) rest
  · subst line
    exact .unit two zero two eight (fun _ => rfl) rest
  · subst paragraph
    exact .unit two zero two nine (fun _ => rfl) rest
  · exact .plain quote backslash printable rest

theorem plain_of_escapes {e c : Char}
    (escapes : ∀ q : Json.Quoted, q.escaped? e = some (q.push c)) : e ∉ scriptSpecials := by
  intro special
  have refused : ∀ e ∈ scriptSpecials, Json.Quoted.empty.escaped? e = none :=
    forall_scriptSpecials.mpr (by decide)
  exact nomatch (refused e special).symm.trans (escapes _)

theorem plain_of_digit {a : Char} {d : Nat} (digit : digitIn? 16 a = some d) :
    a ∉ scriptSpecials := by
  intro special
  have refused : ∀ a ∈ scriptSpecials, digitIn? 16 a = none :=
    forall_scriptSpecials.mpr (by decide)
  exact nomatch (refused a special).symm.trans digit

theorem body_flatMap_scriptChar {body text : List Char} (isBody : Body body text) :
    Body (body.flatMap scriptChar) text := by
  induction isBody with
  | nil => exact .nil
  | plain quote backslash printable _ ih => exact body_scriptChar quote backslash printable ih
  | letter escapes _ ih =>
    rw [List.flatMap_cons, List.flatMap_cons, scriptChar_of_plain (plain_of_escapes escapes)]
    exact .letter escapes ih
  | unit first second third fourth value _ ih =>
    simp only [List.flatMap_cons, scriptChar_of_plain (plain_of_digit first),
      scriptChar_of_plain (plain_of_digit second), scriptChar_of_plain (plain_of_digit third),
      scriptChar_of_plain (plain_of_digit fourth)]
    exact .unit first second third fourth value ih

/-! ### Outside quotes -/

theorem plain_of_isWordChar {c : Char} (word : isWordChar c) : c ∉ scriptSpecials := by
  intro special
  have refused : ∀ c ∈ scriptSpecials, isWordChar c = false :=
    forall_scriptSpecials.mpr (by decide)
  exact absurd ((refused c special).symm.trans word) (by decide)

theorem plain_of_isBlank {c : Char} (blank : Json.Lexer.isBlank c) : c ∉ scriptSpecials := by
  intro special
  have refused : ∀ c ∈ scriptSpecials, Json.Lexer.isBlank c = false :=
    forall_scriptSpecials.mpr (by decide)
  exact absurd ((refused c special).symm.trans blank) (by decide)

theorem plain_of_mark {c : Char} {mark : Token} (isMark : Json.Lexer.punctuation? c = some mark) :
    c ∉ scriptSpecials := by
  intro special
  have refused : ∀ c ∈ scriptSpecials, Json.Lexer.punctuation? c = none :=
    forall_scriptSpecials.mpr (by decide)
  exact nomatch (refused c special).symm.trans isMark

theorem endsWord_flatMap_scriptChar {text : List Char} (ends : EndsWord text) :
    EndsWord (text.flatMap scriptChar) := by
  match text with
  | [] => exact Json.endsWord_nil
  | c :: text =>
    have stops := ends c text rfl
    have plain : c ∉ scriptSpecials := by
      intro special
      have bare : ∀ c ∈ scriptSpecials, Json.Lexer.isBare c = true :=
        forall_scriptSpecials.mpr (by decide)
      exact absurd ((bare c special).symm.trans stops) (by decide)
    rw [List.flatMap_cons, scriptChar_of_plain plain]
    exact Json.endsWord_of_cons stops _

/-- The replacement leaves every token of a text as it is. -/
theorem spells_flatMap_scriptChar {text : List Char} {tokens : List Token}
    (spells : Spells text tokens) : Spells (text.flatMap scriptChar) tokens := by
  induction spells with
  | nil => exact .nil
  | blank isBlank _ ih =>
    rw [List.flatMap_cons, scriptChar_of_plain (plain_of_isBlank isBlank)]
    exact .blank isBlank ih
  | mark isMark _ ih =>
    rw [List.flatMap_cons, scriptChar_of_plain (plain_of_mark isMark)]
    exact .mark isMark ih
  | word isWord ends _ ih =>
    rw [List.flatMap_append, flatMap_scriptChar_of_plain fun c member =>
      plain_of_isWordChar (isWord.chars c member)]
    exact .word isWord (endsWord_flatMap_scriptChar ends) ih
  | quoted isBody _ ih =>
    have quote : '"' ∉ scriptSpecials := by decide
    rw [List.flatMap_cons, List.flatMap_append, List.flatMap_cons, scriptChar_of_plain quote]
    exact .quoted (body_flatMap_scriptChar isBody) ih

/-! ### Whole values -/

theorem not_mem_scriptSpecials_of_scriptJson {v : Json.Value} {c : Char}
    (member : c ∈ (scriptJson v).toList) : c ∉ scriptSpecials := by
  rw [scriptJson, String.toList_ofList] at member
  obtain ⟨d, -, replaced⟩ := List.mem_flatMap.mp member
  exact not_mem_scriptSpecials_of_scriptChar replaced

theorem parse?_scriptJson (v : Json.Value) : Json.Tree.parse? (scriptJson v) = some v.tree :=
  Json.parse?_of_spells (spells_flatMap_scriptChar (Json.spells_compact v))

/-- JSON in a script has none of the characters that could end it, is read whatever its nesting,
and gives the value that the plain JSON gives, or none when that gives none. -/
theorem scriptJson_spec (v : Json.Value) :
    (∀ c ∈ (scriptJson v).toList, c ∉ ['<', '>', '&', '\u2028', '\u2029']) ∧
      (Json.Tree.parse? (scriptJson v)).isSome ∧
      Json.Value.parse? (scriptJson v) = Json.Value.parse? v.compact := by
  refine ⟨fun c member => not_mem_scriptSpecials_of_scriptJson member, ?_, ?_⟩
  · rw [parse?_scriptJson, Option.isSome_some]
  · rw [Json.Value.parse?, Json.Value.parse?, parse?_scriptJson, Json.parse?_compact]

example : scriptJson (.array [.string "</script>"]) = "[\"\\u003c/script\\u003e\"]" := by
  decide +kernel

end TestHistory.Page
