import Mathlib.Data.List.TakeWhile
import Phrasebook.Lookup

/-!
Codes, and which paths name a locale. A code is two small letters, maybe with a hyphen and two
letters after them. A path is a run of slashes, its first part, and a rest that is empty or goes on
with a slash; there is one way only to see it so, and it names a locale just when its first part is a
code.
-/
namespace Phrasebook.Locale

theorem isSmallLetter_eq_isLower (c : Char) : isSmallLetter c = c.isLower := rfl

theorem isCapitalLetter_eq_isUpper (c : Char) : isCapitalLetter c = c.isUpper :=
  (Bool.decide_and ..).symm

theorem isLetter_eq_isAlpha (c : Char) : isLetter c = c.isAlpha := by
  rw [isLetter, isSmallLetter_eq_isLower, isCapitalLetter_eq_isUpper]
  exact Bool.or_comm ..

inductive Shaped : List Char → Prop where
  | short {a b : Char} (first : a.isLower = true) (second : b.isLower = true) : Shaped [a, b]
  | long {a b c d : Char} (first : a.isLower = true) (second : b.isLower = true)
      (third : c.isAlpha = true) (fourth : d.isAlpha = true) : Shaped [a, b, '-', c, d]

theorem isCode_iff_shaped (cs : List Char) : isCode cs = true ↔ Shaped cs := by
  constructor
  · intro code
    unfold isCode at code
    split at code
    · simp only [isSmallLetter_eq_isLower, Bool.and_eq_true] at code
      exact .short code.1 code.2
    · simp only [isSmallLetter_eq_isLower, isLetter_eq_isAlpha, Bool.and_eq_true,
        decide_eq_true_eq] at code
      obtain ⟨⟨⟨⟨first, second⟩, rfl⟩, third⟩, fourth⟩ := code
      exact .long first second third fourth
    · cases code
  · intro shaped
    cases shaped with
    | short first second =>
      simp [isCode, isSmallLetter_eq_isLower, first, second]
    | long first second third fourth =>
      simp [isCode, isSmallLetter_eq_isLower, isLetter_eq_isAlpha, first, second, third, fourth]

theorem Shaped.length_le {cs : List Char} (shaped : Shaped cs) : cs.length ≤ 5 := by
  cases shaped <;> simp

theorem Shaped.mem {cs : List Char} (shaped : Shaped cs) {c : Char} (member : c ∈ cs) :
    c.isAlpha = true ∨ c = '-' := by
  have small : ∀ {c : Char}, c.isLower = true → c.isAlpha = true := Bool.or_eq_true_iff.2 ∘ .inr
  cases shaped with
  | short first second =>
    simp only [List.mem_cons, List.not_mem_nil, or_false] at member
    rcases member with rfl | rfl
    · exact .inl (small first)
    · exact .inl (small second)
  | long first second third fourth =>
    simp only [List.mem_cons, List.not_mem_nil, or_false] at member
    rcases member with rfl | rfl | rfl | rfl | rfl
    · exact .inl (small first)
    · exact .inl (small second)
    · exact .inr rfl
    · exact .inl third
    · exact .inl fourth

theorem Shaped.toNat_of_mem {cs : List Char} (shaped : Shaped cs) {c : Char} (member : c ∈ cs) :
    c.toNat = 45 ∨ 65 ≤ c.toNat ∧ c.toNat ≤ 90 ∨ 97 ≤ c.toNat ∧ c.toNat ≤ 122 := by
  rcases shaped.mem member with letter | rfl
  · simp only [← isLetter_eq_isAlpha, isLetter, isSmallLetter, isCapitalLetter, Bool.or_eq_true,
      Bool.and_eq_true, decide_eq_true_eq] at letter
    exact .inr letter.symm
  · exact .inl rfl

theorem Shaped.ne_nil {cs : List Char} (shaped : Shaped cs) : cs ≠ [] := by
  cases shaped <;> nofun

/-- Slashes lead to the part, and the part ends with the path or at a slash. -/
def Begins (path part : List Char) : Prop :=
  ∃ slashes rest, path = slashes ++ part ++ rest ∧ (∀ c ∈ slashes, c = '/') ∧
    (rest = [] ∨ ∃ more, rest = '/' :: more)

theorem slash_not_mem_firstPart (path : List Char) : '/' ∉ firstPart path := by
  intro member
  have plain := List.mem_takeWhile_imp member
  simp at plain

theorem begins_firstPart (path : List Char) : Begins path (firstPart path) := by
  refine ⟨path.takeWhile (· = '/'), (path.dropWhile (· = '/')).dropWhile (· ≠ '/'), ?_, ?_, ?_⟩
  · rw [firstPart, List.append_assoc, List.takeWhile_append_dropWhile,
      List.takeWhile_append_dropWhile]
  · intro c member
    exact of_decide_eq_true (List.mem_takeWhile_imp (p := (· = '/')) member)
  · have stops := List.head?_dropWhile_not (· ≠ '/') (path.dropWhile (· = '/'))
    cases rest : (path.dropWhile (· = '/')).dropWhile (· ≠ '/') with
    | nil => exact .inl rfl
    | cons c more =>
      rw [rest] at stops
      have slash : c = '/' := by simpa using stops
      exact .inr ⟨more, by rw [slash]⟩

theorem firstPart_of_begins {path part : List Char} (filled : part ≠ []) (plain : '/' ∉ part)
    (begins : Begins path part) : firstPart path = part := by
  obtain ⟨slashes, rest, rfl, run, ends⟩ := begins
  obtain ⟨c, more, rfl⟩ := List.exists_cons_of_ne_nil filled
  have first : c ≠ '/' := fun same => plain (same ▸ List.mem_cons_self)
  have dropped : (slashes ++ (c :: more) ++ rest).dropWhile (· = '/') = (c :: more) ++ rest := by
    rw [List.append_assoc, List.dropWhile_append_of_pos]
    · rw [List.cons_append, List.dropWhile_cons_of_neg (by simpa using first)]
    · intro d member
      exact decide_eq_true (run d member)
  have taken : rest.takeWhile (· ≠ '/') = [] := by
    rcases ends with rfl | ⟨others, rfl⟩
    · rfl
    · exact List.takeWhile_cons_of_neg (by simp)
  rw [firstPart, dropped, List.takeWhile_append_of_pos, taken, List.append_nil]
  intro d member
  exact decide_eq_true fun same => plain (same ▸ member)

theorem firstPart_eq_nil_iff (path : List Char) : firstPart path = [] ↔ ∀ c ∈ path, c = '/' := by
  constructor
  · intro empty
    cases onward : path.dropWhile (· = '/') with
    | nil =>
      intro c member
      exact of_decide_eq_true (List.dropWhile_eq_nil_iff.1 onward c member)
    | cons c more =>
      have stops := List.head?_dropWhile_not (· = '/') path
      rw [onward] at stops
      have filled : c ≠ '/' := by simpa using stops
      rw [firstPart, onward] at empty
      simp [filled] at empty
  · intro run
    rw [firstPart, List.dropWhile_eq_nil_iff.2, List.takeWhile_nil]
    intro c member
    exact decide_eq_true (run c member)

theorem Shaped.slash_not_mem {part : List Char} (shaped : Shaped part) : '/' ∉ part := by
  intro member
  have code := shaped.toNat_of_mem member
  have slash : '/'.toNat = 47 := rfl
  omega

theorem Shaped.firstPart_eq {path part : List Char} (shaped : Shaped part)
    (begins : Begins path part) : firstPart path = part :=
  firstPart_of_begins shaped.ne_nil shaped.slash_not_mem begins

theorem ofPath?_of_shaped {path : String} (shaped : Shaped (firstPart path.toList)) :
    ofPath? path = some ⟨String.ofList (firstPart path.toList)⟩ :=
  if_pos ((isCode_iff_shaped _).2 shaped)

theorem ofPath?_of_not_shaped {path : String} (other : ¬Shaped (firstPart path.toList)) :
    ofPath? path = none :=
  if_neg fun code => other ((isCode_iff_shaped _).1 code)

theorem ofPath?_eq_some_iff (path : String) (locale : Locale) :
    ofPath? path = some locale ↔
      Shaped locale.code.toList ∧ Begins path.toList locale.code.toList := by
  constructor
  · intro named
    by_cases shaped : Shaped (firstPart path.toList)
    · rw [ofPath?_of_shaped shaped] at named
      obtain rfl := Option.some.inj named
      rw [String.toList_ofList]
      exact ⟨shaped, begins_firstPart path.toList⟩
    · rw [ofPath?_of_not_shaped shaped] at named
      cases named
  · rintro ⟨shaped, begins⟩
    have first := shaped.firstPart_eq begins
    rw [ofPath?_of_shaped (first ▸ shaped), first, String.ofList_toList]

theorem ofPath?_eq_none_iff (path : String) :
    ofPath? path = none ↔ (∀ c ∈ path.toList, c = '/') ∨
      ∃ part, part ≠ [] ∧ '/' ∉ part ∧ Begins path.toList part ∧ ¬Shaped part := by
  constructor
  · intro unnamed
    by_cases empty : firstPart path.toList = []
    · exact .inl ((firstPart_eq_nil_iff _).1 empty)
    · refine .inr ⟨_, empty, slash_not_mem_firstPart _, begins_firstPart _, fun shaped => ?_⟩
      rw [ofPath?_of_shaped shaped] at unnamed
      cases unnamed
  · rintro (slashes | ⟨part, filled, plain, begins, other⟩)
    · apply ofPath?_of_not_shaped
      rw [(firstPart_eq_nil_iff _).2 slashes]
      nofun
    · apply ofPath?_of_not_shaped
      rw [firstPart_of_begins filled plain begins]
      exact other

theorem shaped_of_ofPath? {path : String} {locale : Locale} (named : ofPath? path = some locale) :
    Shaped locale.code.toList :=
  ((ofPath?_eq_some_iff path locale).1 named).1

theorem ofPath?_root : ofPath? "/" = none := by decide

theorem ofPath?_slash {locale : Locale} (shaped : Shaped locale.code.toList) :
    ofPath? ("/" ++ locale.code) = some locale := by
  refine (ofPath?_eq_some_iff _ _).2 ⟨shaped, ['/'], [], ?_, ?_, .inl rfl⟩
  · simp
  · exact fun c member => List.mem_singleton.1 member

/-- The paths that name a locale, the one locale that each of them names, and all other paths: those
without a part and those whose first part is no code. -/
theorem ofPath?_grammar (path : String) :
    (∀ locale : Locale, ofPath? path = some locale ↔
      Shaped locale.code.toList ∧ Begins path.toList locale.code.toList) ∧
    (∀ locale locale' : Locale,
      Shaped locale.code.toList → Begins path.toList locale.code.toList →
      Shaped locale'.code.toList → Begins path.toList locale'.code.toList → locale = locale') ∧
    (ofPath? path = none ↔ (∀ c ∈ path.toList, c = '/') ∨
      ∃ part, part ≠ [] ∧ '/' ∉ part ∧ Begins path.toList part ∧ ¬Shaped part) ∧
    ∀ (catalog : Catalog Source) (strategy : Strategy),
      (Lookup.new catalog strategy).detect path = ofPath? path := by
  refine ⟨ofPath?_eq_some_iff path, ?_, ofPath?_eq_none_iff path, fun _ _ => rfl⟩
  intro locale locale' shaped begins shaped' begins'
  have same : locale.code.toList = locale'.code.toList :=
    (shaped.firstPart_eq begins).symm.trans (shaped'.firstPart_eq begins')
  cases locale
  cases locale'
  exact congrArg Locale.mk (String.toList_inj.1 same)

example : ofPath? "//pt-BR/a" = some ⟨"pt-BR"⟩ ∧ ofPath? "/en\n" = none ∧ ofPath? "/éé" = none := by
  decide

end Phrasebook.Locale
