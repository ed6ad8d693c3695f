import Mathlib.Data.List.TakeWhile
import TestHistory.Proofs.Layers
import TestHistory.Proofs.WrittenTimes
import TestHistory.Settings.Config

/-!
# Which setting counts

Of several layers the highest one that has a key decides on it, with a blank value for the default.
`ofLayer_mergeAll` says what configuration comes of the layers and which number is the first to be
refused; both depend on the deciding values of the eight settings alone.
-/

namespace TestHistory

/-! ### Blank texts -/

namespace Text

theorem trimStart_eq_nil {text : List Char} : trimStart text = [] ↔ ∀ c ∈ text, isBlank c :=
  List.dropWhile_eq_nil_iff

theorem trim_eq_empty_iff {text : String} : trim text = "" ↔ isBlankText text := by
  have ends : trim text = "" ↔ trimStart (trimStart text.toList).reverse = [] := by
    rw [trim, trimChars, ← String.ofList_nil, String.ofList_inj, List.reverse_eq_nil_iff]
  rw [ends, trimStart_eq_nil, isBlankText, List.all_eq_true]
  constructor
  · intro blank
    rw [← trimStart_eq_nil]
    by_contra left
    -- What is left at the start begins with a character that is not blank.
    have first := List.head_dropWhile_not isBlank left
    have member := List.mem_reverse.mpr (List.head_mem left)
    exact Bool.false_ne_true (first.symm.trans (blank _ member))
  · intro blank
    rw [trimStart_eq_nil.mpr blank]
    exact List.forall_mem_nil _

end Text

/-! ### Numbers -/

namespace Decimal

/-- A number of 64 bits in decimal digits, perhaps after a plus sign. -/
def Writes (text : List Char) (n : Nat) : Prop :=
  ∃ digits, (text = digits ∨ text = '+' :: digits) ∧ digits ≠ [] ∧ Digits digits ∧
    Nat.ofDigitChars 10 digits 0 = n ∧ n < 2 ^ 64

theorem isDigit_iff {c : Char} : isDigit c ↔ 48 ≤ c.toNat ∧ c.toNat ≤ 57 := by
  simp only [isDigit, Bool.and_eq_true, decide_eq_true_eq, Char.le_def, UInt32.le_iff_toNat_le]
  exact Iff.rfl

theorem digitIn?_ten (c : Char) :
    digitIn? 10 c = if isDigit c then some (digitValue c) else none := by
  unfold digitIn?
  by_cases digit : isDigit c
  · have small : digitValue c < 10 := by
      have range := isDigit_iff.mp digit
      change c.toNat - 48 < 10
      omega
    simp [digit, small]
  · rw [if_neg digit, if_neg digit]
    refine if_neg (Nat.not_lt.mpr ?_)
    split_ifs <;> omega

theorem mapM_digitIn? (text : List Char) :
    text.mapM (digitIn? 10) = if text.all isDigit then some (text.map digitValue) else none := by
  induction text with
  | nil => rfl
  | cons c text ih =>
    rw [List.mapM_cons, ih, digitIn?_ten, List.all_cons]
    cases isDigit c <;> cases text.all isDigit <;> rfl

theorem naturalIn?_eq_some_iff {text : List Char} {n : Nat} :
    naturalIn? 10 text = some n ↔ text ≠ [] ∧ Digits text ∧ Nat.ofDigitChars 10 text 0 = n := by
  rw [naturalIn?, mapM_digitIn?, ← ofDecimal_eq, ofDecimal, Digits, ← List.all_eq_true]
  cases text with
  | nil => simp
  | cons c text => cases (c :: text).all isDigit <;> simp

theorem readNatural_eq_some_iff {text : List Char} {n : Nat} :
    readNatural text = some n ↔ Writes text n := by
  have noSign {digits : List Char} : ¬ Digits ('+' :: digits) := fun digits =>
    absurd (digits '+' List.mem_cons_self) (by decide)
  unfold readNatural Writes
  dsimp only
  rw [Option.filter_eq_some_iff, decide_eq_true_eq, naturalIn?_eq_some_iff]
  split
  · rename_i rest
    constructor
    · rintro ⟨⟨nonempty, digits, value⟩, small⟩
      exact ⟨rest, .inr rfl, nonempty, digits, value, small⟩
    · rintro ⟨digits, written, nonempty, allDigits, value, small⟩
      rcases written with rfl | same
      · exact absurd allDigits noSign
      · obtain rfl := (List.cons.inj same).2
        exact ⟨⟨nonempty, allDigits, value⟩, small⟩
  · rename_i unsigned
    constructor
    · rintro ⟨⟨nonempty, digits, value⟩, small⟩
      exact ⟨text, .inl rfl, nonempty, digits, value, small⟩
    · rintro ⟨digits, written, nonempty, allDigits, value, small⟩
      rcases written with rfl | rfl
      · exact ⟨⟨nonempty, allDigits, value⟩, small⟩
      · exact absurd rfl (unsigned digits)

theorem readNatural_eq_none_iff {text : List Char} :
    readNatural text = none ↔ ∀ n, ¬ Writes text n := by
  simp only [← readNatural_eq_some_iff]
  exact Option.eq_none_iff_forall_ne_some

end Decimal

/-! ### Keys in normal form -/

/-- Small letters and the hyphen, of which the keys of all settings are made. -/
def keyLetters : List Char :=
  "abcdefghijklmnopqrstuvwxyz-".toList

theorem keyLetter_stays {c : Char} (letter : c ∈ keyLetters) : c ≠ 'Σ' ∧ c ≠ 'İ' ∧
    Text.LowerCase.simple c = c ∧ Text.isBlank c = false ∧ Layer.hyphenate c = c := by
  have all : keyLetters.all fun c => c ≠ 'Σ' && c ≠ 'İ' && Text.LowerCase.simple c = c &&
      !Text.isBlank c && Layer.hyphenate c = c := by
    decide +kernel
  simpa [and_assoc] using List.all_eq_true.mp all c letter

theorem lowerCase_keyLetters {text : List Char} (letters : ∀ c ∈ text, c ∈ keyLetters)
    (cased : Bool) : Text.LowerCase.map cased text = text := by
  induction text generalizing cased with
  | nil => rfl
  | cons c rest ih =>
    obtain ⟨here, later⟩ := List.forall_mem_cons.mp letters
    obtain ⟨sigma, dotted, small, -, -⟩ := keyLetter_stays here
    rw [Text.LowerCase.map, if_neg sigma, if_neg dotted, small, ih later]

theorem normalizeKey_of_letters {key : String} (letters : ∀ c ∈ key.toList, c ∈ keyLetters) :
    Layer.normalizeKey key = key := by
  have plain : Text.trim key = key := by
    rw [Text.trim, Time.Timestamp.trimChars_of_plain, String.ofList_toList]
    simpa using fun c member => (keyLetter_stays (letters c member)).2.2.2.1
  have small : Text.lowerCase key = key := by
    rw [Text.lowerCase, lowerCase_keyLetters letters, String.ofList_toList]
  have hyphens : key.toList.map Layer.hyphenate = key.toList.map id :=
    List.map_congr_left fun c member => (keyLetter_stays (letters c member)).2.2.2.2
  rw [Layer.normalizeKey, plain, small, ← String.toList_inj, String.toList_map, hyphens, List.map_id]

/-! ### What the layers say -/

namespace Config

open Decimal (Writes)

/-- The value of a key in the highest layer that has it. -/
def deciding (layers : List Layer) (key : String) : Option String :=
  layers.reverse.findSome? (·.get? key)

/-- The deciding value is not blank; trimmed it is this text. -/
def Gives (layers : List Layer) (key text : String) : Prop :=
  ∃ value, deciding layers key = some value ∧ Text.isBlankText value = false ∧ Text.trim value = text

/-- No layer has the key, or the deciding value is blank. -/
def GivesNothing (layers : List Layer) (key : String) : Prop :=
  ∀ value, deciding layers key = some value → Text.isBlankText value = true

def GivesText (layers : List Layer) (key default text : String) : Prop :=
  Gives layers key text ∨ GivesNothing layers key ∧ text = default

def GivesNumber (layers : List Layer) (key : String) (default n : Nat) : Prop :=
  (∃ text, Gives layers key text ∧ Writes text.toList n) ∨ GivesNothing layers key ∧ n = default

/-- The text of the key is no number. -/
def Refuses (layers : List Layer) (key text : String) : Prop :=
  Gives layers key text ∧ ∀ n, ¬ Writes text.toList n

/-- What a failure says of a number that is refused. -/
def refusal (key text : String) : Failure :=
  .config (key ++ ": expected a non-negative integer, got '" ++ text ++ "'")

/-- In the order in which they are read. -/
def numberKeys : List String :=
  ["console-log-max-lines", "artifact-log-tail-lines", "resource-max-bytes", "resource-max-files"]

def keys : List String :=
  ["output", "title", "chart-js-url", "run-prefix"] ++ numberKeys

/-- The settings are looked up under keys in normal form. -/
theorem normalizeKey_keys : ∀ key ∈ keys, Layer.normalizeKey key = key := by
  have all : keys.all fun key => key.toList.all keyLetters.contains := by decide +kernel
  intro key member
  have letters := List.all_eq_true.mp (List.all_eq_true.mp all key member)
  exact normalizeKey_of_letters fun c inside => List.contains_iff_mem.mp (letters c inside)

/-- The key is refused with this text, and no key before it is refused. -/
def RefusesFirst (layers : List Layer) (order : List String) (key text : String) : Prop :=
  ∃ before after, order = before ++ key :: after ∧ Refuses layers key text ∧
    ∀ earlier ∈ before, ∀ text, ¬ Refuses layers earlier text

/-- The configuration has what the layers give, and the default for what they do not give. -/
structure Follows (layers : List Layer) (config : Config) : Prop where
  output : GivesText layers "output" "test_results_report.html" config.output.text
  title : GivesText layers "title" "E2E Test Results" config.title
  chartJsUrl : GivesText layers "chart-js-url" "https://cdn.jsdelivr.net/npm/chart.js" config.chartJsUrl
  runPrefix : GivesText layers "run-prefix" "run-" config.scan.runPrefix
  consoleLogMaxLines :
    GivesNumber layers "console-log-max-lines" 10000 config.scan.consoleLogMaxLines
  artifactLogTailLines :
    GivesNumber layers "artifact-log-tail-lines" 500 config.scan.artifactLogTailLines
  resourceMaxBytes : GivesNumber layers "resource-max-bytes" 51200 config.scan.resourceMaxBytes
  resourceMaxFiles : GivesNumber layers "resource-max-files" 10 config.scan.resourceMaxFiles

/-- What comes of the layers: a configuration that follows them, or the first refusal. -/
structure ComesOf (layers : List Layer) (outcome : Except Failure Config) : Prop where
  ok_iff : ∀ config, outcome = .ok config ↔ Follows layers config
  error_iff : ∀ f, outcome = .error f ↔
    ∃ key text, RefusesFirst layers numberKeys key text ∧ f = refusal key text

/-- The same settings of the configuration, whatever other keys there are. -/
def SameSettings (settings settings' : List (String × String)) : Prop :=
  ∀ key ∈ keys, (Layer.ofList settings).get? key = (Layer.ofList settings').get? key

/-! ### Single settings -/

theorem setting_eq_refusal (key text : String) :
    Failure.setting key ("expected a non-negative integer, got '" ++ text ++ "'") =
      refusal key text := by
  have joined : ": expected a non-negative integer, got '" =
      ": " ++ "expected a non-negative integer, got '" := rfl
  rw [Failure.setting, refusal, joined]
  simp only [String.append_assoc]

section

variable {layer : Layer} {layers : List Layer} {key text : String} {f : Failure}

theorem Gives.unique {text' : String} (first : Gives layers key text) (second : Gives layers key text') :
    text = text' := by
  obtain ⟨value, decides, -, rfl⟩ := first
  obtain ⟨value', decides', -, rfl⟩ := second
  rw [Option.some.inj (decides.symm.trans decides')]

theorem not_gives_iff : (∀ text, ¬ Gives layers key text) ↔ GivesNothing layers key := by
  constructor
  · intro none value decides
    by_contra filled
    exact none _ ⟨value, decides, Bool.eq_false_of_not_eq_true filled, rfl⟩
  · rintro nothing text ⟨value, decides, filled, -⟩
    exact nomatch filled.symm.trans (nothing value decides)

variable (decides : layer.get? key = deciding layers key)

include decides

theorem filled_eq_some_iff : filled layer key = some text ↔ Gives layers key text := by
  rw [filled, decides, Option.filter_eq_some_iff, Option.map_eq_some_iff, decide_eq_true_eq]
  constructor
  · rintro ⟨⟨value, decided, rfl⟩, nonempty⟩
    exact ⟨value, decided, Bool.eq_false_of_not_eq_true (mt Text.trim_eq_empty_iff.mpr nonempty), rfl⟩
  · rintro ⟨value, decided, filled, rfl⟩
    refine ⟨⟨value, decided, rfl⟩, fun empty => ?_⟩
    exact nomatch filled.symm.trans (Text.trim_eq_empty_iff.mp empty)

theorem filled_eq_none_iff : filled layer key = none ↔ GivesNothing layers key := by
  rw [Option.eq_none_iff_forall_ne_some, ← not_gives_iff]
  exact forall_congr' fun text => not_congr (filled_eq_some_iff decides)

theorem textSetting_eq_iff (default : String) :
    textSetting layer key default = text ↔ GivesText layers key default text := by
  rw [textSetting, GivesText, ← filled_eq_some_iff decides, ← filled_eq_none_iff decides]
  cases filled layer key with
  | none => simp [eq_comm]
  | some given => simp

theorem numberSetting_eq_ok_iff (default n : Nat) :
    numberSetting layer key default = .ok n ↔ GivesNumber layers key default n := by
  rw [numberSetting, GivesNumber, ← filled_eq_none_iff decides]
  simp only [← filled_eq_some_iff decides]
  cases filled layer key with
  | none => simp [eq_comm]
  | some given =>
    cases read : Decimal.readNatural given.toList with
    | none =>
      have refused := Decimal.readNatural_eq_none_iff.mp read
      simp [read, refused]
    | some m =>
      have written (n : Nat) : Writes given.toList n ↔ m = n := by
        rw [← Decimal.readNatural_eq_some_iff, read, Option.some.injEq]
      simp [read, written]

theorem numberSetting_eq_error_iff (default : Nat) :
    numberSetting layer key default = .error f ↔
      ∃ text, Refuses layers key text ∧ f = refusal key text := by
  simp only [numberSetting, setting_eq_refusal, Refuses, ← filled_eq_some_iff decides,
    ← Decimal.readNatural_eq_none_iff]
  cases filled layer key with
  | none => simp
  | some given =>
    cases read : Decimal.readNatural given.toList with
    | none => simp [read, eq_comm]
    | some m => simp [read]

end

/-! ### The first refusal -/

theorem not_refusesFirst_nil {layers : List Layer} {key text : String} :
    ¬ RefusesFirst layers [] key text := by
  rintro ⟨before, after, split, -⟩
  simp at split

theorem refusesFirst_cons {layers : List Layer} {first key text : String} {order : List String} :
    RefusesFirst layers (first :: order) key text ↔
      first = key ∧ Refuses layers key text ∨
        (∀ text, ¬ Refuses layers first text) ∧ RefusesFirst layers order key text := by
  constructor
  · rintro ⟨before, after, split, refuses, earlier⟩
    match before with
    | [] => exact .inl ⟨(List.cons.inj split).1, refuses⟩
    | _ :: before =>
      obtain ⟨rfl, rest⟩ := List.cons.inj split
      exact .inr ⟨earlier _ List.mem_cons_self, before, after, rest, refuses,
        fun key member => earlier key (List.mem_cons_of_mem _ member)⟩
  · rintro (⟨rfl, refuses⟩ | ⟨passes, before, after, rfl, refuses, earlier⟩)
    · exact ⟨[], order, rfl, refuses, nofun⟩
    · exact ⟨first :: before, after, rfl, refuses, List.forall_mem_cons.mpr ⟨passes, earlier⟩⟩

/-- The failure that the first refused key makes. -/
def FailsWith (layers : List Layer) (order : List String) (f : Failure) : Prop :=
  ∃ key text, RefusesFirst layers order key text ∧ f = refusal key text

theorem failsWith_bind {layer : Layer} {layers : List Layer} {key : String} {order : List String}
    {f : Failure} {default : Nat} {next : Nat → Except Failure Config}
    (decides : layer.get? key = deciding layers key)
    (rest : ∀ n, next n = .error f ↔ FailsWith layers order f) :
    numberSetting layer key default >>= next = .error f ↔ FailsWith layers (key :: order) f := by
  have refused (f : Failure) := numberSetting_eq_error_iff (f := f) decides default
  simp only [FailsWith, refusesFirst_cons]
  cases outcome : numberSetting layer key default with
  | error e =>
    obtain ⟨text, refuses, rfl⟩ := (refused e).mp outcome
    constructor
    · intro same
      exact ⟨key, text, .inl ⟨rfl, refuses⟩, (Except.error.inj same).symm⟩
    · rintro ⟨key', text', ⟨rfl, refuses'⟩ | ⟨passes, -⟩, rfl⟩
      · rw [refuses.1.unique refuses'.1]
        rfl
      · exact absurd refuses (passes text)
  | ok n =>
    have passes (text : String) : ¬ Refuses layers key text := fun refuses =>
      nomatch outcome.symm.trans ((refused _).mpr ⟨text, refuses, rfl⟩)
    have goesOn : (Except.ok n >>= next) = next n := rfl
    rw [goesOn, rest]
    constructor
    · rintro ⟨key', text, first, same⟩
      exact ⟨key', text, .inr ⟨passes, first⟩, same⟩
    · rintro ⟨key', text, ⟨rfl, refuses⟩ | ⟨-, first⟩, same⟩
      · exact absurd refuses (passes text)
      · exact ⟨key', text, first, same⟩

/-! ### Configurations -/

theorem bind_eq_ok_iff {ε α β : Type} {x : Except ε α} {next : α → Except ε β} {b : β} :
    x >>= next = .ok b ↔ ∃ a, x = .ok a ∧ next a = .ok b := by
  cases x with
  | error e => exact iff_of_false nofun fun ⟨_, failed, _⟩ => nomatch failed
  | ok a =>
    constructor
    · intro made
      exact ⟨a, rfl, made⟩
    · rintro ⟨_, same, made⟩
      exact Except.ok.inj same ▸ made

section

variable {layer : Layer} {layers : List Layer} (decides : ∀ key, layer.get? key = deciding layers key)

include decides

theorem ofLayer_eq_error_iff {f : Failure} :
    ofLayer layer = .error f ↔ FailsWith layers numberKeys f := by
  refine failsWith_bind (decides _) fun _ => failsWith_bind (decides _) fun _ =>
    failsWith_bind (decides _) fun _ => failsWith_bind (decides _) fun _ => ?_
  exact iff_of_false nofun fun ⟨_, _, first, _⟩ => not_refusesFirst_nil first

theorem ofLayer_eq_ok_iff {config : Config} : ofLayer layer = .ok config ↔ Follows layers config := by
  have number (key : String) := numberSetting_eq_ok_iff (decides key)
  have text (key default text : String) :
      textSetting layer key default = text ↔ GivesText layers key default text :=
    textSetting_eq_iff (decides key) default
  constructor
  · intro made
    unfold ofLayer at made
    obtain ⟨consoleLogMaxLines, first, made⟩ := bind_eq_ok_iff.mp made
    obtain ⟨artifactLogTailLines, second, made⟩ := bind_eq_ok_iff.mp made
    obtain ⟨resourceMaxBytes, third, made⟩ := bind_eq_ok_iff.mp made
    obtain ⟨resourceMaxFiles, fourth, made⟩ := bind_eq_ok_iff.mp made
    obtain rfl := Except.ok.inj made
    exact {
      output := (text ..).mp rfl
      title := (text ..).mp rfl
      chartJsUrl := (text ..).mp rfl
      runPrefix := (text ..).mp rfl
      consoleLogMaxLines := (number ..).mp first
      artifactLogTailLines := (number ..).mp second
      resourceMaxBytes := (number ..).mp third
      resourceMaxFiles := (number ..).mp fourth }
  · intro follows
    have first := (number ..).mpr follows.consoleLogMaxLines
    have second := (number ..).mpr follows.artifactLogTailLines
    have third := (number ..).mpr follows.resourceMaxBytes
    have fourth := (number ..).mpr follows.resourceMaxFiles
    obtain ⟨⟨output⟩, title, chartJsUrl, scan⟩ := config
    simp only [ofLayer, default, ScanOptions.default]
    rw [first, second, third, fourth, (text ..).mpr follows.output, (text ..).mpr follows.title,
      (text ..).mpr follows.chartJsUrl, (text ..).mpr follows.runPrefix]
    rfl

end

/-- Keys of no setting do not matter. -/
theorem ofLayer_congr {layer layer' : Layer}
    (same : ∀ key ∈ keys, layer.get? key = layer'.get? key) : ofLayer layer = ofLayer layer' := by
  have value (key : String) (setting : key ∈ keys) : filled layer key = filled layer' key := by
    rw [filled, filled, same key setting]
  simp only [ofLayer, numberSetting, textSetting, value "output" (by decide),
    value "title" (by decide), value "chart-js-url" (by decide), value "run-prefix" (by decide),
    value "console-log-max-lines" (by decide), value "artifact-log-tail-lines" (by decide),
    value "resource-max-bytes" (by decide), value "resource-max-files" (by decide)]

/-! ### The four layers -/

/-- From the lowest layer to the highest. -/
def stack (user project environment commandLine : List (String × String)) : List Layer :=
  [user, project, environment, commandLine].map Layer.ofList

section

variable (user project environment commandLine : List (String × String))

theorem get?_stack (key : String) :
    (Layer.mergeAll (stack user project environment commandLine)).get? key =
      deciding (stack user project environment commandLine) key := by
  refine Layer.get?_mergeAll (fun l member => ?_) key
  obtain ⟨settings, -, rfl⟩ := List.mem_map.mp member
  exact Layer.sorted_ofList settings

/-- The highest layer with a key decides on the setting, and the first number that is refused on the
failure. Other keys do not matter. -/
theorem ofLayer_mergeAll :
    ComesOf (stack user project environment commandLine)
        (ofLayer (Layer.mergeAll (stack user project environment commandLine))) ∧
      ∀ user' project' environment' commandLine', SameSettings user user' →
        SameSettings project project' → SameSettings environment environment' →
        SameSettings commandLine commandLine' →
        ofLayer (Layer.mergeAll (stack user' project' environment' commandLine')) =
          ofLayer (Layer.mergeAll (stack user project environment commandLine)) := by
  have decides := get?_stack user project environment commandLine
  refine ⟨⟨fun _ => ofLayer_eq_ok_iff decides, fun _ => ofLayer_eq_error_iff decides⟩, ?_⟩
  intro user' project' environment' commandLine' sameUser sameProject sameEnvironment sameCommandLine
  refine ofLayer_congr fun key setting => ?_
  rw [get?_stack, decides]
  simp only [deciding, stack, List.map_cons, List.map_nil, List.reverse_cons, List.reverse_nil,
    List.nil_append, List.cons_append, List.findSome?_cons, sameUser key setting,
    sameProject key setting, sameEnvironment key setting, sameCommandLine key setting]

end

end Config

end TestHistory
