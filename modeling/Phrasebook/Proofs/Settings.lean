import Phrasebook.Proofs.Locale
import Phrasebook.Proofs.Trimming
import Phrasebook.Proofs.Utf8
import Phrasebook.Settings

/-!
Settings are read as a whole or not at all. They are refused exactly when one of the two choices is
set to a text that is no name of it, and of the two the policy is named first; no other variable
matters for that. Settings that are read have a locale to fall back on that is not empty and has no
blank at its ends, no empty key, and the number that the variable for it says or else the standard
one.
-/
namespace Phrasebook

namespace Environment

variable (env : Environment) (name : String)

def Holds (text : String) : Prop := env.lookup name = some (Utf8.encode text)

theorem text?_eq_some_iff (text : String) :
    env.text? name = some text ↔ env.Holds name text := by
  rw [text?, Option.bind_eq_some_iff]
  simp only [Utf8.decode?_eq_some_iff]
  constructor
  · intro ⟨bytes, set, same⟩
    rw [Holds, set, same]
  · intro set
    exact ⟨_, set, rfl⟩

theorem text?_congr {env other : Environment} {name : String}
    (same : ∀ text, other.Holds name text ↔ env.Holds name text) :
    other.text? name = env.text? name := by
  apply Option.ext
  intro text
  rw [text?_eq_some_iff, text?_eq_some_iff, same]

/-- What a variable settles: what its text reads as, or else something standard. -/
def Settles {β : Type} (Reads : String → β → Prop) (standard value : β) : Prop :=
  (∃ text, env.Holds name text ∧ Reads text value) ∨
    value = standard ∧ ∀ text other, env.Holds name text → ¬Reads text other

theorem settles_getD {β : Type} {read? : String → Option β} {Reads : String → β → Prop}
    (reads : ∀ text value, read? text = some value ↔ Reads text value) (standard : β) :
    env.Settles name Reads standard (((env.text? name).bind read?).getD standard) := by
  cases found : (env.text? name).bind read? with
  | none =>
    refine .inr ⟨rfl, ?_⟩
    intro text other set given
    rw [(env.text?_eq_some_iff name text).2 set, Option.bind_some, (reads text other).2 given]
      at found
    cases found
  | some value =>
    obtain ⟨text, set, read⟩ := Option.bind_eq_some_iff.1 found
    exact .inl ⟨text, (env.text?_eq_some_iff name text).1 set, (reads text value).1 read⟩

/-- A variable is set to a text that spells none of the names. -/
def Misnames (names : List String) : Prop :=
  ∃ given, env.Holds name given ∧ ∀ known ∈ names, ¬Spells given known

end Environment

namespace Settings

/-- Digits of ASCII, at least one, and the number that they say. -/
inductive Digits : List Char → Nat → Prop where
  | one {c : Char} (digit : c.isDigit = true) : Digits [c] (c.toNat - '0'.toNat)
  | more {cs : List Char} {c : Char} {n : Nat} (front : Digits cs n) (digit : c.isDigit = true) :
      Digits (cs ++ [c]) (10 * n + (c.toNat - '0'.toNat))

def Numeral (text : String) (n : Nat) : Prop :=
  ∃ digits, (text.toList = digits ∨ text.toList = '+' :: digits) ∧ Digits digits n

theorem digits_iff (cs : List Char) (n : Nat) :
    Digits cs n ↔ cs ≠ [] ∧ (∀ c ∈ cs, c.isDigit = true) ∧ Nat.ofDigitChars 10 cs 0 = n := by
  constructor
  · intro said
    induction said with
    | one digit => simpa [Nat.ofDigitChars_cons] using digit
    | more front digit ih =>
      obtain ⟨-, digits, value⟩ := ih
      refine ⟨by simp, ?_, ?_⟩
      · intro d member
        rcases List.mem_append.1 member with before | last
        · exact digits d before
        · rw [List.mem_singleton.1 last]
          exact digit
      · rw [Nat.ofDigitChars_append, value, Nat.ofDigitChars_cons, Nat.ofDigitChars_nil]
  · intro ⟨filled, digits, value⟩
    -- A number grows by digits at its end, so the digits are taken from there.
    induction cs using List.reverseRecOn generalizing n with
    | nil => exact absurd rfl filled
    | append_singleton front c ih =>
      have digit : c.isDigit = true := digits c (by simp)
      rw [Nat.ofDigitChars_append, Nat.ofDigitChars_cons, Nat.ofDigitChars_nil] at value
      cases front with
      | nil =>
        rw [← value]
        simpa using Digits.one digit
      | cons first more =>
        rw [← value]
        refine .more (ih _ (List.cons_ne_nil first more) ?_ rfl) digit
        intro d member
        exact digits d (List.mem_append_left [c] member)

theorem Digits.ne_plus_cons {digits : List Char} {n : Nat} (said : Digits digits n)
    (rest : List Char) : digits ≠ '+' :: rest := by
  intro same
  have digit := ((digits_iff digits n).1 said).2.1 '+' (by simp [same])
  exact absurd digit (by decide)

def unsigned (text : String) : List Char :=
  match text.toList with
  | '+' :: rest => rest
  | cs => cs

theorem numeral_iff (text : String) (n : Nat) : Numeral text n ↔ Digits (unsigned text) n := by
  unfold unsigned
  constructor
  · intro ⟨digits, shape, said⟩
    rcases shape with plain | signed
    · rw [plain]
      split
      · exact absurd rfl (said.ne_plus_cons _)
      · exact said
    · rw [signed]
      exact said
  · intro said
    split at said
    · rename_i signed
      exact ⟨_, .inr signed, said⟩
    · exact ⟨_, .inl rfl, said⟩

theorem socketNumber?_eq (text : String) : socketNumber? text =
    if (unsigned text).isEmpty || !(unsigned text).all Char.isDigit ||
      65536 ≤ Nat.ofDigitChars 10 (unsigned text) 0 then none
    else some (Nat.ofDigitChars 10 (unsigned text) 0) := rfl

theorem socketNumber?_eq_some_iff (text : String) (n : Nat) :
    socketNumber? text = some n ↔ Numeral text n ∧ n ≤ 65535 := by
  rw [numeral_iff, digits_iff, socketNumber?_eq]
  generalize unsigned text = digits
  by_cases refused : (digits.isEmpty || !digits.all Char.isDigit ||
      decide (65536 ≤ Nat.ofDigitChars 10 digits 0)) = true
  · rw [if_pos refused]
    simp only [Bool.or_eq_true, Bool.not_eq_true', List.isEmpty_iff, decide_eq_true_eq,
      List.all_eq_false] at refused
    constructor
    · intro absent
      cases absent
    · intro ⟨⟨filled, plain, value⟩, within⟩
      rcases refused with (empty | ⟨c, member, other⟩) | beyond
      · exact absurd empty filled
      · exact absurd (plain c member) other
      · omega
  · rw [if_neg refused, Option.some.injEq]
    simp only [Bool.or_eq_true, Bool.not_eq_true', List.isEmpty_iff, decide_eq_true_eq, not_or,
      Bool.not_eq_false, List.all_eq_true] at refused
    obtain ⟨⟨filled, plain⟩, within⟩ := refused
    constructor
    · intro value
      exact ⟨⟨filled, plain, value⟩, by omega⟩
    · intro ⟨⟨_, _, value⟩, _⟩
      exact value

example : socketNumber? "+00080" = some 80 ∧ socketNumber? "65536" = none ∧
    socketNumber? "+" = none ∧ socketNumber? "8080 " = none := by decide

section Choices

variable {β : Type} (env : Environment) (name : String) (standard : β)
  (parse : String → Except UnknownChoice β) (blame : UnknownChoice → SettingsFault)

def choiceOf : Except SettingsFault β :=
  match env.text? name with
  | none => .ok standard
  | some given =>
    match parse given with
    | .ok choice => .ok choice
    | .error cause => .error (blame cause)

theorem choiceOf_eq_error_iff (fault : SettingsFault) :
    choiceOf env name standard parse blame = .error fault ↔
      ∃ given cause, env.Holds name given ∧ parse given = .error cause ∧ fault = blame cause := by
  simp only [← Environment.text?_eq_some_iff]
  unfold choiceOf
  cases text : env.text? name with
  | none => simp
  | some given =>
    cases choice : parse given with
    | ok chosen => simp [choice]
    | error cause => simp [choice, eq_comm]

theorem choiceOf_refused_iff {names : List String}
    (unknown : ∀ given, (∃ cause, parse given = .error cause) ↔
      ∀ known ∈ names, ¬Spells given known) :
    (∃ fault, choiceOf env name standard parse blame = .error fault) ↔
      env.Misnames name names := by
  simp only [choiceOf_eq_error_iff, Environment.Misnames, ← unknown]
  constructor
  · intro ⟨_, given, cause, set, failed, _⟩
    exact ⟨given, set, cause, failed⟩
  · intro ⟨given, set, cause, failed⟩
    exact ⟨blame cause, given, cause, set, failed, rfl⟩

end Choices

variable (env : Environment)

theorem policyOf_eq :
    policyOf env = choiceOf env "MISSING_LANGUAGE_POLICY" .reject Policy.parse .policy := by
  unfold policyOf choiceOf
  cases env.text? "MISSING_LANGUAGE_POLICY" with
  | none => rfl
  | some given =>
    dsimp only
    cases Policy.parse given <;> rfl

theorem strategyOf_eq :
    strategyOf env = choiceOf env "ASSEMBLY_STRATEGY" .flatten Strategy.parse .strategy := by
  unfold strategyOf choiceOf
  cases env.text? "ASSEMBLY_STRATEGY" with
  | none => rfl
  | some given =>
    dsimp only
    cases Strategy.parse given <;> rfl

theorem policyOf_refused_iff : (∃ fault, policyOf env = .error fault) ↔
    env.Misnames "MISSING_LANGUAGE_POLICY" ["reject", "fallback", "fallback-to-default"] := by
  rw [policyOf_eq]
  apply choiceOf_refused_iff
  intro given
  simp only [Policy.parse_eq_error_iff, exists_and_left, exists_eq, and_true]

theorem strategyOf_refused_iff : (∃ fault, strategyOf env = .error fault) ↔
    env.Misnames "ASSEMBLY_STRATEGY" ["flatten", "unimplemented", "todo"] := by
  rw [strategyOf_eq]
  apply choiceOf_refused_iff
  intro given
  simp only [Strategy.parse_eq_error_iff, exists_and_left, exists_eq, and_true]

theorem ofEnvironment_eq_error_iff (fault : SettingsFault) : ofEnvironment env = .error fault ↔
    policyOf env = .error fault ∨
      (¬∃ other, policyOf env = .error other) ∧ strategyOf env = .error fault := by
  unfold ofEnvironment
  cases policyOf env with
  | error cause => simp
  | ok policy =>
    cases strategyOf env with
    | error cause => simp
    | ok strategy => simp

theorem chain_of_policyOf {env : Environment} {fault : SettingsFault}
    (failed : policyOf env = .error fault) :
    fault.chain.head? = some "Invalid MISSING_LANGUAGE_POLICY" := by
  rw [policyOf_eq, choiceOf_eq_error_iff] at failed
  obtain ⟨given, cause, -, -, rfl⟩ := failed
  rfl

theorem chain_of_strategyOf {env : Environment} {fault : SettingsFault}
    (failed : strategyOf env = .error fault) :
    fault.chain.head? = some "Invalid ASSEMBLY_STRATEGY" := by
  rw [strategyOf_eq, choiceOf_eq_error_iff] at failed
  obtain ⟨given, cause, -, -, rfl⟩ := failed
  rfl

theorem ofEnvironment_eq_ok {env : Environment} {s : Settings} (read : ofEnvironment env = .ok s) :
    s.defaultLocale =
      (((env.text? "DEFAULT_LANGUAGE").bind notBlank?).map Locale.mk).getD .english ∧
    s.socket = ((env.text? "PORT").bind socketNumber?).getD standardSocket ∧
    s.key = (env.text? "API_KEY").filter (· ≠ "") := by
  unfold ofEnvironment at read
  split at read
  · cases read
  · split at read
    · cases read
    · cases read
      exact ⟨rfl, rfl, rfl⟩

theorem eq_ok_of_toOption {read : Except SettingsFault Settings} {s : Settings}
    (same : read.toOption = some s) : read = .ok s := by
  cases read with
  | error fault => cases same
  | ok other =>
    obtain rfl := Option.some.inj same
    rfl

theorem notBlank?_eq_some_iff (text code : String) :
    notBlank? text = some code ↔ Text.TrimsTo text code ∧ code ≠ "" := by
  rw [← Text.trim_eq_iff]
  unfold notBlank?
  dsimp only
  split
  · rename_i empty
    constructor
    · intro absent
      cases absent
    · intro ⟨same, filled⟩
      exact absurd (same ▸ empty) filled
  · rename_i filled
    rw [Option.some.injEq]
    constructor
    · intro same
      exact ⟨same, same ▸ filled⟩
    · exact And.left

end Settings

theorem Lookup.localeOf_filled {l : Lookup} (filled : l.defaultLocale.code ≠ "") (path : String) :
    (l.localeOf path).code ≠ "" := by
  unfold localeOf
  cases named : l.detected? path with
  | none => exact filled
  | some locale =>
    rw [detected?, Option.filter_eq_some_iff] at named
    simpa using named.2

namespace Settings

/-- What is true of settings that are read from variables, but for the folder and the choices. -/
structure ReadFrom (env : Environment) (s : Settings) : Prop where
  filled : s.defaultLocale.code ≠ ""
  bare : Text.Bare s.defaultLocale.code.toList
  located : ∀ l : Lookup, l.defaultLocale = s.defaultLocale → ∀ path, (l.localeOf path).code ≠ ""
  locale : env.Settles "DEFAULT_LANGUAGE" (fun text code => Text.TrimsTo text code ∧ code ≠ "")
    "en" s.defaultLocale.code
  keyed : s.key ≠ some ""
  key : ∀ key, s.key = some key ↔ env.Holds "API_KEY" key ∧ key ≠ ""
  socket : env.Settles "PORT" (fun text n => Numeral text n ∧ n ≤ 65535) 8080 s.socket

theorem readFrom_of_ok {env : Environment} {s : Settings} (read : ofEnvironment env = .ok s) :
    s.ReadFrom env := by
  obtain ⟨locale, socket, key⟩ := ofEnvironment_eq_ok read
  have code : s.defaultLocale.code = ((env.text? "DEFAULT_LANGUAGE").bind notBlank?).getD "en" := by
    rw [locale]
    cases (env.text? "DEFAULT_LANGUAGE").bind notBlank? <;> rfl
  have settled := env.settles_getD "DEFAULT_LANGUAGE" notBlank?_eq_some_iff "en"
  rw [← code] at settled
  have proper : s.defaultLocale.code ≠ "" ∧ Text.Bare s.defaultLocale.code.toList := by
    rcases settled with ⟨text, -, trims, filled⟩ | ⟨standard, -⟩
    · obtain ⟨-, -, -, -, bare⟩ := trims
      exact ⟨filled, bare⟩
    · rw [standard]
      exact ⟨by decide, by simp [Text.Bare, Text.isBlank, Text.blankRanges]⟩
  have held : ∀ given, s.key = some given ↔ env.Holds "API_KEY" given ∧ given ≠ "" := by
    intro given
    rw [key, Option.filter_eq_some_iff, Environment.text?_eq_some_iff]
    simp
  constructor
  · exact proper.1
  · exact proper.2
  · intro l standard path
    apply Lookup.localeOf_filled
    rw [standard]
    exact proper.1
  · exact settled
  · intro empty
    exact ((held "").1 empty).2 rfl
  · exact held
  · rw [socket]
    exact env.settles_getD "PORT" socketNumber?_eq_some_iff standardSocket

/-- When settings are refused and which variable is blamed for it, and what is true of all that are
not refused. -/
theorem ofEnvironment_all_or_nothing (env : Environment) :
    let badPolicy := env.Misnames "MISSING_LANGUAGE_POLICY"
      ["reject", "fallback", "fallback-to-default"]
    let badStrategy := env.Misnames "ASSEMBLY_STRATEGY" ["flatten", "unimplemented", "todo"]
    ((∃ fault, ofEnvironment env = .error fault) ↔ badPolicy ∨ badStrategy) ∧
    (∀ fault, ofEnvironment env = .error fault →
      (badPolicy → fault.chain.head? = some "Invalid MISSING_LANGUAGE_POLICY") ∧
      (¬badPolicy → fault.chain.head? = some "Invalid ASSEMBLY_STRATEGY")) ∧
    (∀ other : Environment,
      (∀ name ∈ ["MISSING_LANGUAGE_POLICY", "ASSEMBLY_STRATEGY"], ∀ text,
        other.Holds name text ↔ env.Holds name text) →
      ∀ fault, ofEnvironment other = .error fault ↔ ofEnvironment env = .error fault) ∧
    ∀ s, ofEnvironment env = .ok s → s.ReadFrom env := by
  intro badPolicy badStrategy
  have policy := policyOf_refused_iff env
  have strategy := strategyOf_refused_iff env
  refine ⟨?_, ?_, ?_, fun s read => readFrom_of_ok read⟩
  · simp only [ofEnvironment_eq_error_iff]
    rw [exists_or, policy, exists_and_left, strategy, or_and_left]
    exact and_iff_right (Classical.em badPolicy)
  · intro fault failed
    rw [ofEnvironment_eq_error_iff, policy] at failed
    constructor
    · intro bad
      rcases failed with first | ⟨good, -⟩
      · exact chain_of_policyOf first
      · exact absurd bad good
    · intro good
      rcases failed with first | ⟨-, second⟩
      · exact absurd (policy.1 ⟨fault, first⟩) good
      · exact chain_of_strategyOf second
  · intro other same fault
    have one := Environment.text?_congr (same "MISSING_LANGUAGE_POLICY" (by simp))
    have two := Environment.text?_congr (same "ASSEMBLY_STRATEGY" (by simp))
    simp only [ofEnvironment_eq_error_iff, policyOf_eq, strategyOf_eq, choiceOf, one, two]

def muddled : Environment :=
  [("MISSING_LANGUAGE_POLICY", Utf8.encode "shrug"), ("ASSEMBLY_STRATEGY", Utf8.encode "merge")]

def dressed : Environment :=
  [("DEFAULT_LANGUAGE", Utf8.encode "\u3000fr\t"), ("MISSING_LANGUAGE_POLICY", [0xFF]),
    ("ASSEMBLY_STRATEGY", Utf8.encode " TODO\n"), ("PORT", Utf8.encode "+00443"), ("API_KEY", [])]

theorem misnames_muddled : muddled.Misnames "MISSING_LANGUAGE_POLICY"
    ["reject", "fallback", "fallback-to-default"] := by
  refine ⟨"shrug", rfl, ?_⟩
  simp only [← plainName_eq_iff]
  decide +kernel

theorem ofEnvironment_dressed : ofEnvironment dressed =
    .ok ⟨"translations", ⟨"fr"⟩, .reject, .unimplemented, 443, none⟩ := by
  apply eq_ok_of_toOption
  decide +kernel

theorem ofEnvironment_all_or_nothing_dressed :
    (∃ fault, ofEnvironment muddled = .error fault ∧
      fault.chain.head? = some "Invalid MISSING_LANGUAGE_POLICY") ∧
    ∃ s, ofEnvironment dressed = .ok s ∧ s.socket = 443 ∧ s.ReadFrom dressed := by
  constructor
  · obtain ⟨fails, blames, -⟩ := ofEnvironment_all_or_nothing muddled
    obtain ⟨fault, failed⟩ := fails.2 (.inl misnames_muddled)
    exact ⟨fault, failed, (blames fault failed).1 misnames_muddled⟩
  · obtain ⟨-, -, -, reads⟩ := ofEnvironment_all_or_nothing dressed
    exact ⟨_, ofEnvironment_dressed, rfl, reads _ ofEnvironment_dressed⟩

end Settings
end Phrasebook
