import TestHistory.Proofs.Markup

/-!
# Escaped text

An escaped text has no character that could end a content or a value, and its ampersands all begin
one of five references. These two properties and the text that is read back determine it
(`isEscaped_iff`), so two texts never look the same in the markup.
-/

namespace TestHistory.Page

/-- What is written for the characters that mean something in markup. -/
def references : List (List Char) :=
  [['&', 'a', 'm', 'p', ';'], ['&', 'l', 't', ';'], ['&', 'g', 't', ';'],
    ['&', 'q', 'u', 'o', 't', ';'], ['&', '#', '3', '9', ';']]

/-- Text without its character references. -/
def unescape : List Char → List Char
  | '&' :: 'a' :: 'm' :: 'p' :: ';' :: rest => '&' :: unescape rest
  | '&' :: 'l' :: 't' :: ';' :: rest => '<' :: unescape rest
  | '&' :: 'g' :: 't' :: ';' :: rest => '>' :: unescape rest
  | '&' :: 'q' :: 'u' :: 'o' :: 't' :: ';' :: rest => '"' :: unescape rest
  | '&' :: '#' :: '3' :: '9' :: ';' :: rest => '\'' :: unescape rest
  | c :: rest => c :: unescape rest
  | [] => []

/-- The form that a text has in markup. -/
structure IsEscaped (text escaped : List Char) : Prop where
  harmless : ∀ c ∈ escaped, c ≠ '<' ∧ c ≠ '>' ∧ c ≠ '"' ∧ c ≠ '\''
  ampersands : ∀ rest, '&' :: rest <:+ escaped →
    ∃ reference ∈ references, reference <+: '&' :: rest
  unescaped : unescape escaped = text

/-! ### One character -/

theorem escapeChar_cases (c : Char) :
    (c ≠ '&' ∧ escapeChar c = [c]) ∨ ∃ reference ∈ references, escapeChar c = reference := by
  unfold escapeChar
  split_ifs with ampersand
  case neg => exact Or.inl ⟨ampersand, rfl⟩
  all_goals exact Or.inr (by decide)

theorem reference_shape {reference : List Char} (member : reference ∈ references) :
    ∃ body, reference = '&' :: body ∧ '&' ∉ body := by
  have shapes : ∀ reference ∈ references,
      reference.head? = some '&' ∧ '&' ∉ reference.tail := by
    decide
  obtain ⟨head, tail⟩ := shapes reference member
  exact ⟨_, (List.cons_head?_tail head).symm, tail⟩

theorem escapeChar_ampersand {c : Char} {front more : List Char}
    (split : front ++ '&' :: more = escapeChar c) :
    ∃ reference ∈ references, reference = '&' :: more := by
  have member : '&' ∈ escapeChar c := split ▸ List.mem_append_cons_self
  rcases escapeChar_cases c with ⟨other, plain⟩ | ⟨reference, listed, same⟩
  · rw [plain, List.mem_singleton] at member
    exact absurd member.symm other
  · obtain ⟨body, shape, noOther⟩ := reference_shape listed
    refine ⟨reference, listed, ?_⟩
    rw [same, shape] at split
    cases front with
    | nil => rw [shape, ← split, List.nil_append]
    | cons d front =>
      obtain ⟨-, rfl⟩ := List.cons.inj split
      exact absurd List.mem_append_cons_self noOther

theorem unescape_escapeChar (c : Char) (rest : List Char) :
    unescape (escapeChar c ++ rest) = c :: unescape rest := by
  unfold escapeChar
  split
  next same => rw [same]; rfl
  split
  next same => rw [same]; rfl
  split
  next same => rw [same]; rfl
  split
  next same => rw [same]; rfl
  split
  next same => rw [same]; rfl
  next other _ _ _ _ =>
    rw [List.singleton_append, unescape]
    all_goals exact fun _ same _ => other same

/-! ### Whole texts -/

theorem unescape_flatMap (text : List Char) : unescape (text.flatMap escapeChar) = text := by
  induction text with
  | nil => rfl
  | cons c rest ih => rw [List.flatMap_cons, unescape_escapeChar, ih]

theorem unescape_escape (s : String) : unescape (escape s).toList = s.toList := by
  rw [escape, String.toList_ofList, unescape_flatMap]

theorem ampersands_flatMap {text rest : List Char}
    (suffix : '&' :: rest <:+ text.flatMap escapeChar) :
    ∃ reference ∈ references, reference <+: '&' :: rest := by
  induction text with
  | nil => exact nomatch List.suffix_nil.mp suffix
  | cons c text ih =>
    obtain ⟨front, split⟩ := suffix
    rw [List.flatMap_cons] at split
    rcases List.append_eq_append_iff.mp split with ⟨inner, first, later⟩ | ⟨inner, first, later⟩
    · -- The ampersand stands in what is written for the first character, or right behind it.
      cases inner with
      | nil => exact ih ⟨[], later⟩
      | cons d more =>
        obtain ⟨rfl, rfl⟩ := List.cons.inj later
        obtain ⟨reference, listed, same⟩ := escapeChar_ampersand first.symm
        exact ⟨reference, listed, _, congrArg (· ++ _) same⟩
    · exact ih ⟨inner, later.symm⟩

theorem isEscaped_flatMap (text : List Char) : IsEscaped text (text.flatMap escapeChar) where
  harmless d member := by
    obtain ⟨c, -, escaped⟩ := List.mem_flatMap.mp member
    simpa [isDelimiter, isAngle, and_assoc] using isDelimiter_of_mem_escapeChar escaped
  ampersands _ := ampersands_flatMap
  unescaped := unescape_flatMap text

theorem escapeChar_of_harmless {c : Char}
    (harmless : c ≠ '<' ∧ c ≠ '>' ∧ c ≠ '"' ∧ c ≠ '\'') (other : c ≠ '&') : escapeChar c = [c] := by
  obtain ⟨less, greater, quote, apostrophe⟩ := harmless
  simp [escapeChar, less, greater, quote, apostrophe, other]

namespace IsEscaped

theorem behind {text front rest : List Char} (whole : IsEscaped text (front ++ rest)) :
    IsEscaped (unescape rest) rest where
  harmless c member := whole.harmless c (List.mem_append_right front member)
  ampersands _ later := whole.ampersands _ (later.trans (List.suffix_append front rest))
  unescaped := rfl

theorem eq_cons {text : List Char} (c : Char) (rest : List Char)
    (whole : IsEscaped text (escapeChar c ++ rest))
    (ih : IsEscaped (unescape rest) rest → rest = (unescape rest).flatMap escapeChar) :
    escapeChar c ++ rest = (c :: unescape rest).flatMap escapeChar := by
  rw [List.flatMap_cons, ← ih whole.behind]

theorem eq {text escaped : List Char} (whole : IsEscaped text escaped) :
    escaped = text.flatMap escapeChar := by
  obtain rfl := whole.unescaped
  fun_induction unescape escaped with
  | case1 rest ih => exact eq_cons '&' rest whole ih
  | case2 rest ih => exact eq_cons '<' rest whole ih
  | case3 rest ih => exact eq_cons '>' rest whole ih
  | case4 rest ih => exact eq_cons '"' rest whole ih
  | case5 rest ih => exact eq_cons '\'' rest whole ih
  | case6 c rest amp lt gt quot apos ih =>
    have other : c ≠ '&' := by
      rintro rfl
      obtain ⟨reference, listed, tail, begins⟩ := whole.ampersands rest List.suffix_rfl
      simp only [references, List.mem_cons, List.not_mem_nil, or_false] at listed
      rcases listed with rfl | rfl | rfl | rfl | rfl
      · exact amp tail rfl (List.cons.inj begins).2.symm
      · exact lt tail rfl (List.cons.inj begins).2.symm
      · exact gt tail rfl (List.cons.inj begins).2.symm
      · exact quot tail rfl (List.cons.inj begins).2.symm
      · exact apos tail rfl (List.cons.inj begins).2.symm
    have plain := escapeChar_of_harmless (whole.harmless c List.mem_cons_self) other
    have step := eq_cons c rest (by rwa [plain]) ih
    rwa [plain] at step
  | case7 => rfl

end IsEscaped

theorem isEscaped_iff {text escaped : List Char} :
    IsEscaped text escaped ↔ escaped = text.flatMap escapeChar :=
  ⟨IsEscaped.eq, fun same => same ▸ isEscaped_flatMap text⟩

theorem escape_injective : Function.Injective escape := by
  intro a b same
  have read := congrArg (fun escaped => unescape escaped.toList) same
  simp only [unescape_escape] at read
  exact String.toList_inj.mp read

/-- Escaping gives each text its own form, the only one without delimiters and with no ampersand
beside those of references. It is done part by part. -/
theorem escape_faithful :
    (∀ text escaped, escape text = escaped ↔ IsEscaped text.toList escaped.toList) ∧
      Function.Injective escape ∧ ∀ a b, escape (a ++ b) = escape a ++ escape b := by
  refine ⟨fun text escaped => ?_, escape_injective, escape_append⟩
  rw [isEscaped_iff, ← String.toList_inj, escape, String.toList_ofList, eq_comm]

end TestHistory.Page
