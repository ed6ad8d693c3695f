import TestHistory.Json.Tree
import TestHistory.Proofs.Numerals

/-!
# Written JSON is read back

`Spells text tokens` is the grammar of texts that the writer produces: words, marks, quoted texts
and blanks between them. `tokens?_of_spells` reads every such text, `spells_compact` and
`spells_pretty` show that both ways of writing a value follow the grammar with the same tokens, and
`ofTokens?_tokens` rebuilds the value from these tokens.
-/

namespace TestHistory.Json

open TestHistory.Decimal (digitIn?)

/-! ### Grammar -/

/-- What stands between the quotes of a text, and the characters it stands for. -/
inductive Body : List Char → List Char → Prop where
  | nil : Body [] []
  | plain {c : Char} {body text : List Char} (quote : c ≠ '"') (backslash : c ≠ '\\')
      (printable : 0x20 ≤ c.toNat) (rest : Body body text) : Body (c :: body) (c :: text)
  | letter {e c : Char} {body text : List Char} (escapes : ∀ q : Quoted, q.escaped? e = some (q.push c))
      (rest : Body body text) : Body ('\\' :: e :: body) (c :: text)
  | unit {a₁ a₂ a₃ a₄ c : Char} {d₁ d₂ d₃ d₄ : Nat} {body text : List Char}
      (first : digitIn? 16 a₁ = some d₁) (second : digitIn? 16 a₂ = some d₂)
      (third : digitIn? 16 a₃ = some d₃) (fourth : digitIn? 16 a₄ = some d₄)
      (value : ∀ q : Quoted,
        q.pushUnit ((((0 * 16 + d₁) * 16 + d₂) * 16 + d₃) * 16 + d₄) = q.push c)
      (rest : Body body text) : Body ('\\' :: 'u' :: a₁ :: a₂ :: a₃ :: a₄ :: body) (c :: text)

/-- A word can end before this text. -/
def EndsWord (text : List Char) : Prop :=
  ∀ c rest, text = c :: rest → Lexer.isBare c = false

inductive Spells : List Char → List Token → Prop where
  | nil : Spells [] []
  | blank {c : Char} {text : List Char} {tokens : List Token} (isBlank : Lexer.isBlank c)
      (rest : Spells text tokens) : Spells (c :: text) tokens
  | mark {c : Char} {mark : Token} {text : List Char} {tokens : List Token}
      (isMark : Lexer.punctuation? c = some mark) (rest : Spells text tokens) :
      Spells (c :: text) (mark :: tokens)
  | word {word text : List Char} {tokens : List Token} (isWord : IsWord word) (ends : EndsWord text)
      (rest : Spells text tokens) : Spells (word ++ text) (.bare word :: tokens)
  | quoted {body content text : List Char} {tokens : List Token} (isBody : Body body content)
      (rest : Spells text tokens) :
      Spells ('"' :: (body ++ '"' :: text)) (.quoted (some (String.ofList content)) :: tokens)

/-! ### The lexer reads the grammar -/

namespace Lexer

/-- The tokens of the rest of a text. -/
def scan (l : Lexer) (text : List Char) : Option (List Token) :=
  (run l text).bind finish

theorem scan_cons {l : Lexer} {c : Char} (next : Lexer) (step : l.step c = some next)
    (text : List Char) : l.scan (c :: text) = next.scan text := by
  rw [scan, run, step]
  rfl

theorem ne_of_isWordChar {c d : Char} (word : isWordChar c) (other : isWordChar d = false) : c ≠ d := by
  rintro rfl
  exact absurd (other.symm.trans word) (by decide)

theorem isBare_of_isWordChar {c : Char} (word : isWordChar c) : isBare c := by
  have differs (d : Char) (other : isWordChar d = false) : c ≠ d := ne_of_isWordChar word other
  simp [isBare, isBlank, punctuation?, differs ' ' rfl, differs '\t' rfl, differs '\n' rfl,
    differs '\r' rfl, differs '"' rfl, differs '[' rfl, differs ']' rfl, differs '{' rfl,
    differs '}' rfl, differs ',' rfl, differs ':' rfl]

theorem between_of_isBare {c : Char} (bare : isBare c) (read : List Token) :
    between read c = ⟨read, .bare [c]⟩ := by
  simp only [isBare, Bool.and_eq_true, Bool.not_eq_true', decide_eq_true_eq, ne_eq,
    Option.isNone_iff_eq_none] at bare
  obtain ⟨⟨blank, quote⟩, mark⟩ := bare
  simp [between, blank, quote, mark]

theorem between_of_mark {c : Char} {mark : Token} (isMark : punctuation? c = some mark)
    (read : List Token) : between read c = ⟨mark :: read, .between⟩ := by
  have cases : c = '[' ∨ c = ']' ∨ c = '{' ∨ c = '}' ∨ c = ',' ∨ c = ':' := by
    by_contra other
    simp only [not_or] at other
    simp [punctuation?, other] at isMark
  rcases cases with rfl | rfl | rfl | rfl | rfl | rfl <;> obtain rfl := Option.some.inj isMark <;> rfl

theorem scan_bare (read : List Token) (front word text : List Char) (bare : ∀ c ∈ word, isBare c)
    (ends : EndsWord text) :
    scan ⟨read, .bare front⟩ (word ++ text) =
      scan ⟨.bare (front.reverse ++ word) :: read, .between⟩ text := by
  induction word generalizing front with
  | nil =>
    rw [List.nil_append, List.append_nil]
    match text with
    | [] => rfl
    | c :: text =>
      have settles : step ⟨read, .bare front⟩ c = some (between (.bare front.reverse :: read) c) := by
        simp [step, ends c text rfl]
      rw [scan_cons _ settles, scan_cons _ rfl]
  | cons c word ih =>
    have continues : step ⟨read, .bare front⟩ c = some ⟨read, .bare (c :: front)⟩ := by
      simp [step, bare c List.mem_cons_self]
    rw [List.cons_append, scan_cons _ continues,
      ih _ fun d member => bare d (List.mem_cons_of_mem c member)]
    simp

theorem scan_word (read : List Token) {word text : List Char} (isWord : IsWord word)
    (ends : EndsWord text) :
    scan ⟨read, .between⟩ (word ++ text) = scan ⟨.bare word :: read, .between⟩ text := by
  have bare (c : Char) (member : c ∈ word) : isBare c := isBare_of_isWordChar (isWord.chars c member)
  obtain ⟨c, rest, rfl⟩ := List.exists_cons_of_ne_nil isWord.nonempty
  have starts : step ⟨read, .between⟩ c = some ⟨read, .bare [c]⟩ :=
    congrArg some (between_of_isBare (bare c List.mem_cons_self) read)
  rw [List.cons_append, scan_cons _ starts,
    scan_bare _ _ _ _ (fun d member => bare d (List.mem_cons_of_mem c member)) ends]
  rfl

/-- A quoted text as far as it is read, outside an escape and without a broken pair. -/
def plainQuoted (read : List Char) : Quoted :=
  ⟨read, none, true, .none⟩

theorem scan_body (read : List Token) {body content : List Char} (isBody : Body body content)
    (front text : List Char) :
    scan ⟨read, .quoted (plainQuoted front)⟩ (body ++ '"' :: text) =
      scan ⟨.quoted (some (String.ofList (front.reverse ++ content))) :: read, .between⟩ text := by
  induction isBody generalizing front with
  | nil =>
    rw [List.nil_append, List.append_nil]
    exact scan_cons _ rfl text
  | @plain c body content quote backslash printable _ ih =>
    have pushes : step ⟨read, .quoted (plainQuoted front)⟩ c =
        some ⟨read, .quoted (plainQuoted (c :: front))⟩ := by
      simp [step, inQuotes, plainQuoted, quote, backslash, Nat.not_lt.mpr printable, Quoted.push]
    rw [List.cons_append, scan_cons _ pushes, ih]
    simp
  | @letter e c body content escapes _ ih =>
    have decodes : step ⟨read, .quoted { plainQuoted front with escape := .backslash }⟩ e =
        some ⟨read, .quoted (plainQuoted (c :: front))⟩ := by
      simp [step, inQuotes, escapes, plainQuoted, Quoted.push]
    rw [List.cons_append, List.cons_append, scan_cons _ rfl]
    rw [scan_cons _ decodes, ih]
    simp
  | @unit a₁ a₂ a₃ a₄ c d₁ d₂ d₃ d₄ body content first second third fourth value _ ih =>
    have hexStep (missing number : Nat) {a : Char} {d : Nat} (digit : digitIn? 16 a = some d) :
        step ⟨read, .quoted { plainQuoted front with escape := .hex (missing + 2) number }⟩ a =
          some ⟨read, .quoted
            { plainQuoted front with escape := .hex (missing + 1) (number * 16 + d) }⟩ := by
      simp [step, inQuotes, Quoted.hexDigit?, digit]
    have hexEnd (number : Nat) {a : Char} {d : Nat} (digit : digitIn? 16 a = some d) :
        step ⟨read, .quoted { plainQuoted front with escape := .hex 1 number }⟩ a =
          some ⟨read, .quoted
            ({ plainQuoted front with escape := .hex 1 number }.pushUnit (number * 16 + d))⟩ := by
      simp [step, inQuotes, Quoted.hexDigit?, digit]
    simp only [List.cons_append]
    rw [scan_cons _ rfl, scan_cons _ rfl, scan_cons _ (hexStep 2 0 first),
      scan_cons _ (hexStep 1 _ second), scan_cons _ (hexStep 0 _ third),
      scan_cons _ (hexEnd _ fourth), value]
    have pushes (escape : Escape) :
        { plainQuoted front with escape }.push c = plainQuoted (c :: front) := rfl
    rw [pushes, ih]
    simp

theorem scan_spells {text : List Char} {tokens : List Token} (spells : Spells text tokens)
    (read : List Token) : scan ⟨read, .between⟩ text = some (read.reverse ++ tokens) := by
  induction spells generalizing read with
  | nil => simp [scan, run, finish]
  | @blank c text tokens isBlank _ ih =>
    have skips : step ⟨read, .between⟩ c = some ⟨read, .between⟩ := by
      simp [step, between, isBlank]
    rw [scan_cons _ skips, ih]
  | @mark c mark text tokens isMark _ ih =>
    have takes : step ⟨read, .between⟩ c = some ⟨mark :: read, .between⟩ :=
      congrArg some (between_of_mark isMark read)
    rw [scan_cons _ takes, ih]
    simp
  | word isWord ends _ ih =>
    rw [scan_word read isWord ends, ih]
    simp
  | quoted isBody _ ih =>
    rw [scan_cons ⟨read, .quoted (plainQuoted [])⟩ rfl, scan_body read isBody, ih]
    simp

end Lexer

/-- Every text of the grammar is read as its tokens. -/
theorem tokens?_of_spells {text : List Char} {tokens : List Token} (spells : Spells text tokens) :
    tokens? text = some tokens :=
  Lexer.scan_spells spells []

/-! ### The writer follows the grammar -/

theorem digitIn?_hex {n : Nat} (small : n < 16) : digitIn? 16 n.digitChar = some n := by
  have all : ∀ n < 16, digitIn? 16 (Nat.digitChar n) = some n := by decide
  exact all n small

theorem pushUnit_of_lt {n : Nat} (low : n < 0xD800) (q : Quoted) :
    q.pushUnit n = q.push (Char.ofNat n) := by
  rw [Quoted.pushUnit, if_neg (by omega), if_neg (by omega)]

theorem Body.escape (c : Char) {body text : List Char} (rest : Body body text) :
    Body (escapeChar c ++ body) (c :: text) := by
  unfold escapeChar
  split_ifs with quote backslash newline carriage tab back feed control
  · subst quote
    exact .letter (fun _ => rfl) rest
  · subst backslash
    exact .letter (fun _ => rfl) rest
  · subst newline
    exact .letter (fun _ => rfl) rest
  · subst carriage
    exact .letter (fun _ => rfl) rest
  · subst tab
    exact .letter (fun _ => rfl) rest
  · rw [← Char.ofNat_toNat c, back]
    exact .letter (fun _ => rfl) rest
  · rw [← Char.ofNat_toNat c, feed]
    exact .letter (fun _ => rfl) rest
  · have zero : digitIn? 16 '0' = some 0 := by decide
    refine .unit zero zero (digitIn?_hex (by omega)) (digitIn?_hex (by omega)) (fun q => ?_) rest
    have value : (((0 * 16 + 0) * 16 + 0) * 16 + c.toNat / 16) * 16 + c.toNat % 16 = c.toNat := by
      omega
    rw [value, pushUnit_of_lt (by omega), Char.ofNat_toNat]
  · exact .plain quote backslash (Nat.not_lt.mp control) rest

theorem body_flatMap (text : List Char) : Body (text.flatMap escapeChar) text := by
  induction text with
  | nil => exact .nil
  | cons c text ih => exact ih.escape c

theorem spells_quoted (s : String) {text : List Char} {tokens : List Token} (rest : Spells text tokens) :
    Spells (quoted s ++ text) (.quoted (some s) :: tokens) := by
  have spells := Spells.quoted (body_flatMap s.toList) rest
  rw [String.ofList_toList] at spells
  simpa [quoted] using spells

theorem spells_newLine (level : Nat) {text : List Char} {tokens : List Token}
    (rest : Spells text tokens) : Spells (newLine level ++ text) tokens := by
  have blanks (n : Nat) : Spells (List.replicate n ' ' ++ text) tokens := by
    induction n with
    | zero => exact rest
    | succ n ih => exact .blank rfl ih
  exact .blank rfl (blanks _)

namespace Value

mutual

/-- The tokens of a value, however it is laid out. -/
def tokens : Value → List Token
  | null => [.bare ['n', 'u', 'l', 'l']]
  | bool true => [.bare ['t', 'r', 'u', 'e']]
  | bool false => [.bare ['f', 'a', 'l', 's', 'e']]
  | number n => [.bare n.text]
  | string s => [.quoted (some s)]
  | array [] => [.openArray, .closeArray]
  | array (item :: items) => .openArray :: (item.tokens ++ itemTokens items)
  | object [] => [.openObject, .closeObject]
  | object ((key, value) :: fields) =>
    .openObject :: .quoted (some key) :: .colon :: (value.tokens ++ fieldTokens fields)

def itemTokens : List Value → List Token
  | [] => [.closeArray]
  | item :: items => .comma :: (item.tokens ++ itemTokens items)

def fieldTokens : List (String × Value) → List Token
  | [] => [.closeObject]
  | (key, value) :: fields =>
    .comma :: .quoted (some key) :: .colon :: (value.tokens ++ fieldTokens fields)

end

end Value

theorem endsWord_nil : EndsWord [] := by
  intro c rest same
  exact nomatch same

theorem endsWord_of_cons {c : Char} (stops : Lexer.isBare c = false) (text : List Char) :
    EndsWord (c :: text) := by
  intro d rest same
  exact (List.cons.inj same).1 ▸ stops

theorem endsWord_compactItems (items : List Value) (text : List Char) :
    EndsWord (Value.compactItems items ++ text) := by
  cases items <;> exact endsWord_of_cons rfl _

theorem endsWord_compactFields (fields : List (String × Value)) (text : List Char) :
    EndsWord (Value.compactFields fields ++ text) := by
  cases fields <;> exact endsWord_of_cons rfl _

theorem endsWord_prettyItems (level : Nat) (items : List Value) (text : List Char) :
    EndsWord (Value.prettyItems level items ++ text) := by
  cases items <;> exact endsWord_of_cons rfl _

theorem endsWord_prettyFields (level : Nat) (fields : List (String × Value)) (text : List Char) :
    EndsWord (Value.prettyFields level fields ++ text) := by
  cases fields <;> exact endsWord_of_cons rfl _

mutual

theorem spells_compactChars (v : Value) {text : List Char} {tokens : List Token}
    (ends : EndsWord text) (rest : Spells text tokens) :
    Spells (v.compactChars ++ text) (v.tokens ++ tokens) := by
  match v with
  | .null => exact .word (isWord_of_all rfl) ends rest
  | .bool true => exact .word (isWord_of_all rfl) ends rest
  | .bool false => exact .word (isWord_of_all rfl) ends rest
  | .number n => exact .word n.isWord_text ends rest
  | .string s => exact spells_quoted s rest
  | .array [] => exact .mark rfl (.mark rfl rest)
  | .array (item :: items) =>
    have inner := spells_compactChars item (endsWord_compactItems items text)
      (spells_compactItems items rest)
    simpa [Value.compactChars, Value.tokens] using Spells.mark (c := '[') rfl inner
  | .object [] => exact .mark rfl (.mark rfl rest)
  | .object ((key, value) :: fields) =>
    have inner := spells_compactChars value (endsWord_compactFields fields text)
      (spells_compactFields fields rest)
    simpa [Value.compactChars, Value.tokens] using
      Spells.mark (c := '{') rfl (spells_quoted key (.mark (c := ':') rfl inner))

theorem spells_compactItems (items : List Value) {text : List Char} {tokens : List Token}
    (rest : Spells text tokens) :
    Spells (Value.compactItems items ++ text) (Value.itemTokens items ++ tokens) := by
  match items with
  | [] => exact .mark rfl rest
  | item :: items =>
    have inner := spells_compactChars item (endsWord_compactItems items text)
      (spells_compactItems items rest)
    simpa [Value.compactItems, Value.itemTokens] using Spells.mark (c := ',') rfl inner

theorem spells_compactFields (fields : List (String × Value)) {text : List Char}
    {tokens : List Token} (rest : Spells text tokens) :
    Spells (Value.compactFields fields ++ text) (Value.fieldTokens fields ++ tokens) := by
  match fields with
  | [] => exact .mark rfl rest
  | (key, value) :: fields =>
    have inner := spells_compactChars value (endsWord_compactFields fields text)
      (spells_compactFields fields rest)
    simpa [Value.compactFields, Value.fieldTokens] using
      Spells.mark (c := ',') rfl (spells_quoted key (.mark (c := ':') rfl inner))

end

mutual

theorem spells_prettyChars (level : Nat) (v : Value) {text : List Char} {tokens : List Token}
    (ends : EndsWord text) (rest : Spells text tokens) :
    Spells (v.prettyChars level ++ text) (v.tokens ++ tokens) := by
  match v with
  | .null => exact .word (isWord_of_all rfl) ends rest
  | .bool true => exact .word (isWord_of_all rfl) ends rest
  | .bool false => exact .word (isWord_of_all rfl) ends rest
  | .number n => exact .word n.isWord_text ends rest
  | .string s => exact spells_quoted s rest
  | .array [] => exact .mark rfl (.mark rfl rest)
  | .array (item :: items) =>
    have inner := spells_prettyChars (level + 1) item (endsWord_prettyItems level items text)
      (spells_prettyItems level items rest)
    simpa [Value.prettyChars, Value.tokens] using
      Spells.mark (c := '[') rfl (spells_newLine (level + 1) inner)
  | .object [] => exact .mark rfl (.mark rfl rest)
  | .object ((key, value) :: fields) =>
    have inner := spells_prettyChars (level + 1) value (endsWord_prettyFields level fields text)
      (spells_prettyFields level fields rest)
    simpa [Value.prettyChars, Value.tokens] using
      Spells.mark (c := '{') rfl (spells_newLine (level + 1)
        (spells_quoted key (.mark (c := ':') rfl (.blank (c := ' ') rfl inner))))

theorem spells_prettyItems (level : Nat) (items : List Value) {text : List Char}
    {tokens : List Token} (rest : Spells text tokens) :
    Spells (Value.prettyItems level items ++ text) (Value.itemTokens items ++ tokens) := by
  match items with
  | [] =>
    simpa [Value.prettyItems, Value.itemTokens] using
      spells_newLine level (.mark (c := ']') rfl rest)
  | item :: items =>
    have inner := spells_prettyChars (level + 1) item (endsWord_prettyItems level items text)
      (spells_prettyItems level items rest)
    simpa [Value.prettyItems, Value.itemTokens] using
      Spells.mark (c := ',') rfl (spells_newLine (level + 1) inner)

theorem spells_prettyFields (level : Nat) (fields : List (String × Value)) {text : List Char}
    {tokens : List Token} (rest : Spells text tokens) :
    Spells (Value.prettyFields level fields ++ text) (Value.fieldTokens fields ++ tokens) := by
  match fields with
  | [] =>
    simpa [Value.prettyFields, Value.fieldTokens] using
      spells_newLine level (.mark (c := '}') rfl rest)
  | (key, value) :: fields =>
    have inner := spells_prettyChars (level + 1) value (endsWord_prettyFields level fields text)
      (spells_prettyFields level fields rest)
    simpa [Value.prettyFields, Value.fieldTokens] using
      Spells.mark (c := ',') rfl (spells_newLine (level + 1)
        (spells_quoted key (.mark (c := ':') rfl (.blank (c := ' ') rfl inner))))

end

/-! ### The reader rebuilds the value -/

/-- A number as its text is read back. -/
def Number.tree (n : Number) : Tree :=
  (Tree.ofWord? n.text).getD .null

/-- No numeral is one of the three other words. -/
theorem ofWord?_numeral {n : Numeral} (wellFormed : n.WellFormed) :
    Tree.ofWord? n.chars = some (.number n.number?) := by
  have read := Numeral.ofWord?_chars wellFormed
  have other {word : List Char} (noNumeral : Numeral.ofWord? word = none) : n.chars ≠ word :=
    fun same => nomatch (same ▸ read).symm.trans noNumeral
  rw [Tree.ofWord?, if_neg (other rfl), if_neg (other rfl), if_neg (other rfl), read]
  rfl

theorem ofWord?_text (n : Number) : Tree.ofWord? n.text = some n.tree := by
  have readable : (Tree.ofWord? n.text).isSome := by
    rcases n.text_eq with null | ⟨numeral, wellFormed, same⟩
    · rw [null]
      rfl
    · rw [same, ofWord?_numeral wellFormed]
      rfl
  obtain ⟨tree, read⟩ := Option.isSome_iff_exists.mp readable
  rw [Number.tree, read, Option.getD_some]

namespace Value

mutual

/-- A value as it is read back: the same in everything but the numbers, which are read from
their texts. -/
def tree : Value → Tree
  | null => .null
  | bool b => .bool b
  | number n => n.tree
  | string s => .string (some s)
  | array items => .array (itemTrees items)
  | object fields => .object (fieldTrees fields)

def itemTrees : List Value → List Tree
  | [] => []
  | item :: items => item.tree :: itemTrees items

def fieldTrees : List (String × Value) → List (Option String × Tree)
  | [] => []
  | (key, value) :: fields => (some key, value.tree) :: fieldTrees fields

end

theorem itemTrees_eq_map (items : List Value) : itemTrees items = items.map tree := by
  induction items with
  | nil => rfl
  | cons item items ih => rw [itemTrees, ih, List.map_cons]

theorem fieldTrees_eq_map (fields : List (String × Value)) :
    fieldTrees fields = fields.map (Prod.map some tree) := by
  induction fields with
  | nil => rfl
  | cons field fields ih => rw [fieldTrees, ih, List.map_cons, Prod.map]

end Value

namespace Tree.Reader

/-- The first item of an array is read as any value is. -/
theorem run_firstItem (v : Value) (frames : List Frame) (more : List Token) :
    run (.firstItem frames) (v.tokens ++ more) = run (.value (.array [] :: frames)) (v.tokens ++ more) := by
  match v with
  | .null | .bool true | .bool false | .number _ | .string _ => rfl
  | .array [] | .array (_ :: _) | .object [] | .object ((_, _) :: _) => rfl

theorem run_bare {word : List Char} {tree : Tree} (read : ofWord? word = some tree)
    (frames : List Frame) (more : List Token) :
    run (.value frames) (.bare word :: more) = run (deliver tree frames) more := by
  rw [run, step, startValue, read]
  rfl

mutual

theorem run_tokens (v : Value) (frames : List Frame) (more : List Token) :
    run (.value frames) (v.tokens ++ more) = run (deliver v.tree frames) more := by
  match v with
  | .null => exact run_bare (by rfl) frames more
  | .bool true => exact run_bare (by rfl) frames more
  | .bool false => exact run_bare (by rfl) frames more
  | .number n => exact run_bare (ofWord?_text n) frames more
  | .string s => rfl
  | .array [] => rfl
  | .array (item :: items) =>
    calc run (.value frames) ((Value.array (item :: items)).tokens ++ more)
      _ = run (.firstItem frames) (item.tokens ++ (Value.itemTokens items ++ more)) := by
        rw [Value.tokens, List.cons_append, List.append_assoc]
        rfl
      _ = run (.afterItem [item.tree] frames) (Value.itemTokens items ++ more) := by
        rw [run_firstItem, run_tokens item]
        rfl
      _ = run (deliver (Value.array (item :: items)).tree frames) more := run_itemTokens items _ _ _
  | .object [] => rfl
  | .object ((key, inner) :: fields) =>
    calc run (.value frames) ((Value.object ((key, inner) :: fields)).tokens ++ more)
      _ = run (.value (.object [] (some key) :: frames))
          (inner.tokens ++ (Value.fieldTokens fields ++ more)) := by
        rw [Value.tokens, List.cons_append, List.cons_append, List.cons_append, List.append_assoc]
        rfl
      _ = run (.afterField [(some key, inner.tree)] frames) (Value.fieldTokens fields ++ more) :=
        run_tokens inner _ _
      _ = run (deliver (Value.object ((key, inner) :: fields)).tree frames) more :=
        run_fieldTokens fields _ _ _

theorem run_itemTokens (items : List Value) (read : List Tree) (frames : List Frame)
    (more : List Token) :
    run (.afterItem read frames) (Value.itemTokens items ++ more) =
      run (deliver (.array (read.reverse ++ Value.itemTrees items)) frames) more := by
  match items with
  | [] =>
    rw [Value.itemTrees, List.append_nil]
    rfl
  | item :: items =>
    calc run (.afterItem read frames) (Value.itemTokens (item :: items) ++ more)
      _ = run (.value (.array read :: frames)) (item.tokens ++ (Value.itemTokens items ++ more)) := by
        rw [Value.itemTokens, List.cons_append, List.append_assoc]
        rfl
      _ = run (.afterItem (item.tree :: read) frames) (Value.itemTokens items ++ more) :=
        run_tokens item _ _
      _ = _ := by
        rw [run_itemTokens items, List.reverse_cons, List.append_assoc]
        rfl

theorem run_fieldTokens (fields : List (String × Value)) (read : List (Option String × Tree))
    (frames : List Frame) (more : List Token) :
    run (.afterField read frames) (Value.fieldTokens fields ++ more) =
      run (deliver (.object (read.reverse ++ Value.fieldTrees fields)) frames) more := by
  match fields with
  | [] =>
    rw [Value.fieldTrees, List.append_nil]
    rfl
  | (key, inner) :: fields =>
    calc run (.afterField read frames) (Value.fieldTokens ((key, inner) :: fields) ++ more)
      _ = run (.value (.object read (some key) :: frames))
          (inner.tokens ++ (Value.fieldTokens fields ++ more)) := by
        rw [Value.fieldTokens, List.cons_append, List.cons_append, List.cons_append,
          List.append_assoc]
        rfl
      _ = run (.afterField ((some key, inner.tree) :: read) frames)
          (Value.fieldTokens fields ++ more) := run_tokens inner _ _
      _ = _ := by
        rw [run_fieldTokens fields, List.reverse_cons, List.append_assoc]
        rfl

end

end Tree.Reader

theorem ofTokens?_tokens (v : Value) : Tree.ofTokens? v.tokens = some v.tree := by
  have read := Tree.Reader.run_tokens v [] []
  rw [List.append_nil] at read
  rw [Tree.ofTokens?, read]
  rfl

/-- A text that spells the tokens of a value is read as that value. -/
theorem parse?_of_spells {text : List Char} {v : Value} (spells : Spells text v.tokens) :
    Tree.parse? (String.ofList text) = some v.tree := by
  rw [Tree.parse?, String.toList_ofList, tokens?_of_spells spells]
  exact ofTokens?_tokens v

theorem spells_compact (v : Value) : Spells v.compactChars v.tokens := by
  have spells := spells_compactChars v endsWord_nil .nil
  rwa [List.append_nil, List.append_nil] at spells

/-- The compact text of a value is read back as the value. -/
theorem parse?_compact (v : Value) : Tree.parse? v.compact = some v.tree :=
  parse?_of_spells (spells_compact v)

/-- So is the indented text on lines of its own. -/
theorem parse?_pretty (v : Value) : Tree.parse? (v.pretty ++ "\n") = some v.tree := by
  have spells := spells_prettyChars 0 v (endsWord_of_cons rfl []) (.blank (c := '\n') rfl .nil)
  rw [List.append_nil] at spells
  rw [Value.pretty, show "\n" = String.ofList ['\n'] from rfl, ← String.ofList_append]
  exact parse?_of_spells spells

end TestHistory.Json
