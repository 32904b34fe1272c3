import Mathlib.Data.List.DropRight
import Mathlib.Data.List.Forall2
import Mathlib.Data.List.TakeWhile
import Phrasebook.Choice

/-!
Texts without the blanks around them, and texts in small letters. A text has one part only that
neither starts nor ends with a blank and has nothing but blanks before and after it; and it spells a
name just when this part is the name, but for capitals of ASCII.
-/
namespace Phrasebook

namespace Text

def Bare (cs : List Char) : Prop :=
  (∀ c ∈ cs.head?, isBlank c = false) ∧ ∀ c ∈ cs.getLast?, isBlank c = false

/-- The second text is the first one without the blanks around it. -/
def TrimsTo (given inner : String) : Prop :=
  ∃ left right, given.toList = left ++ inner.toList ++ right ∧
    (∀ c ∈ left ++ right, isBlank c = true) ∧ Bare inner.toList

theorem trimChars_eq_rdropWhile (cs : List Char) :
    trimChars cs = (cs.dropWhile isBlank).rdropWhile isBlank := rfl

theorem bare_trimChars (cs : List Char) : Bare (trimChars cs) := by
  rw [trimChars_eq_rdropWhile]
  constructor
  · intro c first
    obtain ⟨more, whole⟩ := List.rdropWhile_prefix isBlank (l := cs.dropWhile isBlank)
    have stops := List.head?_dropWhile_not isBlank cs
    rw [← whole, List.head?_append, Option.mem_def.1 first] at stops
    simpa using stops
  · intro c last
    have filled : (cs.dropWhile isBlank).rdropWhile isBlank ≠ [] := by
      intro empty
      rw [empty] at last
      cases last
    have stops := List.rdropWhile_last_not isBlank (cs.dropWhile isBlank) filled
    rw [List.getLast?_eq_some_getLast filled] at last
    rw [← Option.some.inj last]
    simpa using stops

theorem trimChars_of_bare {inner left right : List Char} (bare : Bare inner)
    (blank : ∀ c ∈ left ++ right, isBlank c = true) :
    trimChars (left ++ inner ++ right) = inner := by
  have front : ∀ c ∈ left, isBlank c = true := fun c member =>
    blank c (List.mem_append_left right member)
  have back : ∀ c ∈ right, isBlank c = true := fun c member =>
    blank c (List.mem_append_right left member)
  rw [trimChars_eq_rdropWhile, List.append_assoc, List.dropWhile_append_of_pos front]
  cases inner with
  | nil =>
    -- Nothing stops the blanks at the front, so they are dropped with those at the back.
    rw [List.nil_append, List.dropWhile_eq_nil_iff.2 back, List.rdropWhile_nil]
  | cons c more =>
    have first : ¬isBlank c = true := by simp [bare.1 c rfl]
    have ends : (c :: more).rdropWhile isBlank = c :: more := by
      rw [List.rdropWhile_eq_self_iff]
      intro filled
      simp [bare.2 _ (List.getLast?_eq_some_getLast filled)]
    rw [List.cons_append, List.dropWhile_cons_of_neg first, ← List.cons_append, List.rdropWhile,
      List.reverse_append, List.dropWhile_append_of_pos]
    · exact ends
    · intro d member
      exact back d (List.mem_reverse.1 member)

theorem trim_eq_iff (given inner : String) : trim given = inner ↔ TrimsTo given inner := by
  constructor
  · intro trimmed
    have middle : trimChars given.toList = inner.toList := by
      rw [← trimmed, trim, String.toList_ofList]
    refine ⟨given.toList.takeWhile isBlank, (given.toList.dropWhile isBlank).rtakeWhile isBlank,
      ?_, ?_, ?_⟩
    · rw [← middle, trimChars_eq_rdropWhile, List.append_assoc, List.rdropWhile_append_rtakeWhile,
        List.takeWhile_append_dropWhile]
    · intro c member
      rcases List.mem_append.1 member with before | after
      · exact List.mem_takeWhile_imp before
      · exact List.mem_rtakeWhile_imp after
    · rw [← middle]
      exact bare_trimChars given.toList
  · intro trims
    obtain ⟨left, right, whole, blank, bare⟩ := trims
    rw [trim, whole, trimChars_of_bare bare blank, String.ofList_toList]

/-- The second character is the first one, or its small letter if it is a capital of ASCII. -/
inductive Lowers : Char → Char → Prop where
  | capital {c d : Char} (above : 'A'.toNat ≤ c.toNat) (below : c.toNat ≤ 'Z'.toNat)
      (small : d.toNat = c.toNat + 32) : Lowers c d
  | other {c : Char} (outside : c.toNat < 'A'.toNat ∨ 'Z'.toNat < c.toNat) : Lowers c c

def LowersTo (given low : String) : Prop := List.Forall₂ Lowers given.toList low.toList

theorem toNat_toLower (c : Char) : c.toLower.toNat =
    if 'A'.toNat ≤ c.toNat ∧ c.toNat ≤ 'Z'.toNat then c.toNat + 32 else c.toNat := by
  have capital : (c.val ≥ 'A'.val ∧ c.val ≤ 'Z'.val) ↔
      'A'.toNat ≤ c.toNat ∧ c.toNat ≤ 'Z'.toNat := by
    simp only [ge_iff_le, UInt32.le_iff_toNat_le]
    exact Iff.rfl
  unfold Char.toLower
  split
  · rename_i within
    have below : c.toNat ≤ 90 := (capital.1 within).2
    rw [if_pos (capital.1 within)]
    have moved : (c.val + ('a'.val - 'A'.val)).toNat = (c.toNat + 32) % 2 ^ 32 :=
      UInt32.toNat_add c.val ('a'.val - 'A'.val)
    rw [Nat.mod_eq_of_lt (by omega)] at moved
    exact moved
  · rename_i outside
    rw [if_neg fun within => outside (capital.2 within)]

theorem toLower_eq_iff (c d : Char) : c.toLower = d ↔ Lowers c d := by
  have lowered := toNat_toLower c
  constructor
  · intro same
    rw [same] at lowered
    by_cases within : 'A'.toNat ≤ c.toNat ∧ c.toNat ≤ 'Z'.toNat
    · rw [if_pos within] at lowered
      exact .capital within.1 within.2 lowered
    · rw [if_neg within] at lowered
      obtain rfl := Char.toNat_inj.1 lowered
      exact .other (by omega)
  · intro lowers
    apply Char.toNat_inj.1
    cases lowers with
    | capital above below small => rw [lowered, if_pos ⟨above, below⟩, small]
    | other outside => rw [lowered, if_neg (by omega)]

theorem lowerAscii_eq_iff (given low : String) : lowerAscii given = low ↔ LowersTo given low := by
  have chars : lowerAscii given = low ↔ given.toList.map Char.toLower = low.toList := by
    rw [← String.toList_inj, lowerAscii, String.toList_ofList]
  rw [chars, LowersTo, ← List.forall₂_eq_eq_eq, List.forall₂_map_left_iff]
  simp only [toLower_eq_iff]

end Text

/-- A text is a name, but for blanks around it and capitals of ASCII. -/
def Spells (given name : String) : Prop :=
  ∃ inner, Text.TrimsTo given inner ∧ Text.LowersTo inner name

theorem plainName_eq_iff (given name : String) : plainName given = name ↔ Spells given name := by
  constructor
  · intro plain
    exact ⟨Text.trim given, (Text.trim_eq_iff given _).1 rfl, (Text.lowerAscii_eq_iff _ name).1 plain⟩
  · intro spells
    obtain ⟨inner, trims, lowers⟩ := spells
    rw [plainName, (Text.trim_eq_iff given inner).2 trims]
    exact (Text.lowerAscii_eq_iff inner name).2 lowers

example : plainName "\u2003ToDo\n" = "todo" ∧ plainName "\u212A" = "\u212A" := by decide

theorem choice_eq_error_iff {β : Type} {given first second third : String} {one other : β}
    {unknown : String → UnknownChoice} {cause : UnknownChoice} :
    (if plainName given = first then Except.ok one
      else if plainName given = second ∨ plainName given = third then .ok other
      else .error (unknown (plainName given))) = .error cause ↔
      (∀ name ∈ [first, second, third], ¬Spells given name) ∧
        cause = unknown (plainName given) := by
  simp only [← plainName_eq_iff, List.forall_mem_cons, List.not_mem_nil, false_implies,
    implies_true, and_true]
  split
  · simp_all
  · split
    · rename_i known
      rcases known with known | known
      · simp_all
      · simp_all
    · simp_all [eq_comm]

theorem Policy.parse_eq_error_iff (given : String) (cause : UnknownChoice) :
    parse given = .error cause ↔
      (∀ name ∈ ["reject", "fallback", "fallback-to-default"], ¬Spells given name) ∧
        cause = .policy (plainName given) := by
  rw [parse]
  exact choice_eq_error_iff

theorem Strategy.parse_eq_error_iff (given : String) (cause : UnknownChoice) :
    parse given = .error cause ↔
      (∀ name ∈ ["flatten", "unimplemented", "todo"], ¬Spells given name) ∧
        cause = .strategy (plainName given) := by
  rw [parse]
  exact choice_eq_error_iff

end Phrasebook
