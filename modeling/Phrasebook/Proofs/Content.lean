import Mathlib.Data.List.Basic
import Phrasebook.Proofs.ByteOrder
import Phrasebook.Proofs.Catalog
import Phrasebook.Proofs.Table
import Phrasebook.Proofs.Walk

/-!
What a glossary holds. A source without lists has a phrase for each string, number and boolean that
names lead to, under these names joined by points. Where several of them have one key, the one with
the greatest names stays.
-/
namespace Phrasebook

open Json

namespace Json.Value

def plain? : Value → Option String
  | .string s => some s
  | .number n => some n.text
  | .bool b => some (if b then "true" else "false")
  | .null | .array _ | .object _ => none

/-- Names lead, through objects, to a string, a number or a boolean with this text. -/
def Leaf (v : Value) (names : List String) (text : String) : Prop :=
  ∃ w, v.Leads names w ∧ w.plain? = some text

/-- The second value is the first without one member, at whatever depth, that is a null or an empty
object. -/
inductive Without : Value → Value → Prop where
  | here {front rest : List (String × Value)} {name : String} {v : Value}
      (hollow : v = .null ∨ v = .object []) :
      Without (.object (front ++ (name, v) :: rest)) (.object (front ++ rest))
  | inside {front rest : List (String × Value)} {name : String} {v w : Value}
      (less : Without v w) :
      Without (.object (front ++ (name, v) :: rest)) (.object (front ++ (name, w) :: rest))

def leaves (v : Value) : List (List String × String) :=
  v.ends.filterMap fun e => e.2.plain?.map (e.1, ·)

theorem not_object_of_plain {v : Value} {text : String} (plain : v.plain? = some text) :
    v.isObject = false := by
  cases v with
  | object members => cases plain
  | null | bool | number | string | array => rfl

theorem mem_leaves_iff {v : Value} {names : List String} {text : String} :
    (names, text) ∈ v.leaves ↔ v.Leaf names text := by
  unfold leaves Leaf
  rw [List.mem_filterMap]
  constructor
  · rintro ⟨⟨names', w⟩, member, made⟩
    obtain ⟨text', plain, same⟩ := Option.map_eq_some_iff.1 made
    simp only [Prod.mk.injEq] at same
    obtain ⟨rfl, rfl⟩ := same
    exact ⟨w, (mem_ends_iff.1 member).1, plain⟩
  · rintro ⟨w, leads, plain⟩
    refine ⟨(names, w), mem_ends_iff.2 ⟨leads, not_object_of_plain plain⟩, ?_⟩
    rw [plain]
    rfl

theorem Ordered.ascending_leaves {v : Value} (ordered : v.Ordered) :
    v.leaves.Pairwise fun a b => a.1 < b.1 := by
  apply List.Pairwise.filterMap _ _ ordered.ascending_ends
  intro e e' less leaf made leaf' made'
  obtain ⟨_, -, rfl⟩ := Option.map_eq_some_iff.1 made
  obtain ⟨_, -, rfl⟩ := Option.map_eq_some_iff.1 made'
  exact less

end Json.Value

namespace Flatten

/-- The key under which a glossary has what names lead to. -/
def keyOf (names : List String) : String := keyUnder "" names

theorem keyUnder_of_ne {key : String} (filled : key ≠ "") (names : List String) :
    keyUnder key names = ".".intercalate (key :: names) := by
  induction names generalizing key with
  | nil => exact String.intercalate_singleton.symm
  | cons name rest ih =>
    have joined : join key name = key ++ "." ++ name := if_neg filled
    have longer : key ++ "." ++ name ≠ "" := by simp
    rw [keyUnder, List.foldl_cons, joined]
    refine (ih longer).trans ?_
    rw [String.intercalate_cons_append, String.intercalate_cons_cons]

/-- A key is the names on the way with points between them, from the first name on that is not
empty. -/
theorem keyOf_eq_intercalate (names : List String) :
    keyOf names = ".".intercalate (names.dropWhile (· = "")) := by
  induction names with
  | nil => rfl
  | cons name rest ih =>
    by_cases filled : name = ""
    · subst filled
      rw [List.dropWhile_cons_of_pos (by simp), ← ih]
      rfl
    · rw [List.dropWhile_cons_of_neg (by simpa using filled)]
      exact keyUnder_of_ne filled rest

theorem phrases_of_end {key : String} {w : Value} (flat : w.isObject = false)
    (listless : ∀ items, w ≠ .array items) :
    phrases key w = .ok (w.plain?.map (key, ·)).toList := by
  cases w with
  | object members => cases flat
  | array items => exact absurd rfl (listless items)
  | null | bool | number | string => rw [phrases]; rfl

theorem phrases_of_listless {v : Value} (listless : v.Listless) (key : String) :
    phrases key v = .ok (v.leaves.map fun l => (keyUnder key l.1, l.2)) := by
  have each : ∀ e ∈ v.ends, phrases (keyUnder key e.1) e.2 =
      .ok (e.2.plain?.map (keyUnder key e.1, ·)).toList := by
    intro e member
    obtain ⟨leads, flat⟩ := Value.mem_ends_iff.1 member
    apply phrases_of_end flat
    rintro items same
    exact listless e.1 items (same ▸ leads)
  rw [phrases_eq_gather, gather_ok each, Value.leaves, List.map_filterMap,
    List.filterMap_eq_flatMap_toList]
  simp only [Option.map_map]
  rfl

theorem glossary_eq_of_listless (locale : Locale) {source : Source}
    (listless : source.toValue.Listless) :
    glossary locale source =
      .ok ⟨locale, Table.ofList (source.toValue.leaves.map fun l => (keyOf l.1, l.2))⟩ := by
  have all := phrases_of_listless listless ""
  rw [Source.toValue, phrases] at all
  rw [glossary, all]
  rfl

theorem memberPhrases_eq_gather_map (key : String) (members : List (String × Value)) :
    memberPhrases key members = gather (members.map fun m => phrases (join key m.1) m.2) := by
  induction members with
  | nil => rfl
  | cons m rest ih => rw [memberPhrases_cons, ih, List.map_cons, ← gather_cons]

theorem phrases_of_without {v w : Value} (less : v.Without w) (key : String) :
    phrases key w = phrases key v := by
  induction less generalizing key with
  | @here front rest name v hollow =>
    have nothing : phrases (join key name) v = .ok [] := by
      rcases hollow with rfl | rfl
      · rw [phrases]
      · rw [phrases, memberPhrases]
    simp only [phrases, memberPhrases_eq_gather_map, List.map_append, List.map_cons, nothing]
    rw [gather_append, gather_append, gather_cons_nothing]
  | inside less ih =>
    simp only [phrases, memberPhrases_eq_gather_map, List.map_append, List.map_cons, ih]

theorem glossary_of_without {source smaller : Source}
    (less : source.toValue.Without smaller.toValue) (locale : Locale) :
    glossary locale smaller = glossary locale source := by
  have same := phrases_of_without less ""
  simp only [Source.toValue, phrases] at same
  rw [glossary, glossary, same]

section Kept

variable {v : Value} (key : String)

theorem get?_leaves :
    (Table.ofList (v.leaves.map fun l => (keyOf l.1, l.2))).get? key =
      ((v.leaves.filter fun l => keyOf l.1 = key).getLast?).map Prod.snd := by
  rw [Table.get?_ofList, List.filter_map, List.getLast?_map, Option.map_map]
  rfl

theorem mem_keys_leaves_iff :
    key ∈ (Table.ofList (v.leaves.map fun l => (keyOf l.1, l.2))).keys ↔
      ∃ names text, v.Leaf names text ∧ keyOf names = key := by
  rw [Table.mem_keys_iff, get?_leaves, Option.isSome_map, List.getLast?_isSome]
  constructor
  · intro some_left
    obtain ⟨⟨names, text⟩, member⟩ := List.exists_mem_of_ne_nil _ some_left
    obtain ⟨leaf, same⟩ := List.mem_filter.1 member
    exact ⟨names, text, Value.mem_leaves_iff.1 leaf, of_decide_eq_true same⟩
  · rintro ⟨names, text, leaf, same⟩
    exact List.ne_nil_of_mem (List.mem_filter.2 ⟨Value.mem_leaves_iff.2 leaf, decide_eq_true same⟩)

theorem get?_leaves_eq_some_iff (ordered : v.Ordered) (text : String) :
    (Table.ofList (v.leaves.map fun l => (keyOf l.1, l.2))).get? key = some text ↔
      ∃ names, v.Leaf names text ∧ keyOf names = key ∧
        ∀ other text', v.Leaf other text' → keyOf other = key →
          other.map Utf8.encode ≤ names.map Utf8.encode := by
  have kept (names : List String) :
      (v.leaves.filter fun l => keyOf l.1 = key).getLast? = some (names, text) ↔
        v.Leaf names text ∧ keyOf names = key ∧
          ∀ other text', v.Leaf other text' → keyOf other = key →
            other.map Utf8.encode ≤ names.map Utf8.encode := by
    rw [getLast?_eq_some_iff_of_pairwise List.lt_asymm (ordered.ascending_leaves.filter _)]
    simp only [List.mem_filter, Value.mem_leaves_iff, decide_eq_true_eq, Prod.forall, and_imp,
      and_assoc, ← List.not_lt, Utf8.map_encode_lt_iff]
  rw [get?_leaves, Option.map_eq_some_iff]
  constructor
  · rintro ⟨⟨names, _⟩, last, rfl⟩
    exact ⟨names, (kept names).1 last⟩
  · rintro ⟨names, greatest⟩
    exact ⟨(names, text), (kept names).2 greatest, rfl⟩

end Kept

/-- A source without lists is made into a glossary that has a key for each leaf and no other. Under
a key it has the text of the leaf with the greatest names, name by name and byte by byte, of those
with that key. Nulls and empty objects make no difference. -/
theorem glossary_content (locale : Locale) (source : Source)
    (listless : source.toValue.Listless) :
    ∃ g, glossary locale source = .ok g ∧ g.locale = locale ∧
      (∀ key, key ∈ g.phrases.keys ↔
        ∃ names text, source.toValue.Leaf names text ∧ keyOf names = key) ∧
      (∀ key text, g.get? key = some text ↔
        ∃ names, source.toValue.Leaf names text ∧ keyOf names = key ∧
          ∀ other text', source.toValue.Leaf other text' → keyOf other = key →
            other.map Utf8.encode ≤ names.map Utf8.encode) ∧
      ∀ smaller : Source, source.toValue.Without smaller.toValue →
        glossary locale smaller = .ok g := by
  refine ⟨_, glossary_eq_of_listless locale listless, rfl, ?keys, ?texts, ?smaller⟩
  case keys => exact fun key => mem_keys_leaves_iff key
  case texts => exact fun key text => get?_leaves_eq_some_iff key source.ordered text
  case smaller =>
    intro smaller less
    rw [glossary_of_without less, glossary_eq_of_listless locale listless]

theorem glossary_content_shared :
    let mixed := Source.ofMembers [("a", .object [("b", .bool true), ("c", .null)]),
      ("a.b", .string "last"), ("", .object [("a", .string "first")])]
    let smaller := Source.ofMembers [("a", .object [("b", .bool true)]),
      ("a.b", .string "last"), ("", .object [("a", .string "first")])]
    mixed.toValue.Listless ∧ mixed.toValue.Without smaller.toValue ∧
      ∃ g, glossary ⟨"en"⟩ mixed = .ok g ∧ glossary ⟨"en"⟩ smaller = .ok g ∧
        "a" ∈ g.phrases.keys ∧ "a.c" ∉ g.phrases.keys ∧ g.get? "a.b" = some "last" := by
  intro mixed smaller
  have leaves : mixed.toValue.leaves =
      [(["", "a"], "first"), (["a", "b"], "true"), (["a.b"], "last")] := by rfl
  have leaf (names : List String) (text : String) : mixed.toValue.Leaf names text ↔
      names = ["", "a"] ∧ text = "first" ∨ names = ["a", "b"] ∧ text = "true" ∨
        names = ["a.b"] ∧ text = "last" := by
    rw [← Value.mem_leaves_iff, leaves]
    simp
  have listless : mixed.toValue.Listless := (exists_glossary_iff ⟨"en"⟩ mixed).1 ⟨_, rfl⟩
  have less : mixed.toValue.Without smaller.toValue :=
    @Value.Without.inside [("", .object [("a", .string "first")])] [("a.b", .string "last")] "a" _ _
      (@Value.Without.here [("b", .bool true)] [] "c" .null (.inl rfl))
  obtain ⟨g, made, -, keys, texts, without⟩ := glossary_content ⟨"en"⟩ mixed listless
  refine ⟨listless, less, g, made, without smaller less, ?_, ?_, ?_⟩
  · exact (keys "a").2 ⟨["", "a"], "first", (leaf _ _).2 (.inl ⟨rfl, rfl⟩), by decide⟩
  · rw [keys]
    rintro ⟨names, text, found, same⟩
    rcases (leaf names text).1 found with ⟨rfl, -⟩ | ⟨rfl, -⟩ | ⟨rfl, -⟩ <;> revert same <;> decide
  · refine (texts "a.b" "last").2 ⟨["a.b"], (leaf _ _).2 (.inr (.inr ⟨rfl, rfl⟩)), by decide, ?_⟩
    intro other text' found _
    rcases (leaf other text').1 found with ⟨rfl, -⟩ | ⟨rfl, -⟩ | ⟨rfl, -⟩ <;> decide

end Flatten
end Phrasebook
