import Mathlib.Data.List.Nodup
import Phrasebook.Proofs.Content

/-!
The keys of a glossary. Below a name that is not empty a key is the names on the way with points
between them; only an object with the empty name at the top leaves no trace in the keys below it.
Where there is none, and no name has a point, the names can be told from the key, so every leaf has
a key of its own and flattening loses nothing.
-/
namespace Phrasebook

open Json

namespace Table

variable {α : Type} {pairs : List (String × α)}

theorem nodup_keys (t : Table α) : t.keys.Nodup := by
  refine t.ascending_keys.imp ?_
  intro a b less same
  exact String.lt_irrefl b (same ▸ less)

theorem mem_keys_ofList_iff (key : String) :
    key ∈ (ofList pairs).keys ↔ key ∈ pairs.map Prod.fst := by
  rw [mem_keys_iff, get?_ofList, Option.isSome_map, List.getLast?_isSome, List.mem_map]
  constructor
  · intro some_left
    obtain ⟨pair, member⟩ := List.exists_mem_of_ne_nil _ some_left
    obtain ⟨inside, same⟩ := List.mem_filter.1 member
    exact ⟨pair, inside, of_decide_eq_true same⟩
  · rintro ⟨pair, inside, same⟩
    exact List.ne_nil_of_mem (List.mem_filter.2 ⟨inside, decide_eq_true same⟩)

theorem size_ofList (distinct : (pairs.map Prod.fst).Nodup) :
    (ofList pairs).size = pairs.length := by
  have same : (ofList pairs).keys.Perm (pairs.map Prod.fst) :=
    (List.perm_ext_iff_of_nodup (nodup_keys _) distinct).2 mem_keys_ofList_iff
  have lengths := same.length_eq
  rw [List.length_map] at lengths
  rw [← lengths, keys, List.length_map, size]

theorem get?_ofList_eq_some_iff (distinct : (pairs.map Prod.fst).Nodup) (key : String)
    (value : α) : (ofList pairs).get? key = some value ↔ (key, value) ∈ pairs := by
  rw [get?_ofList, Option.map_eq_some_iff]
  constructor
  · rintro ⟨pair, last, rfl⟩
    obtain ⟨inside, same⟩ := List.mem_filter.1 (List.mem_of_getLast? last)
    rw [← of_decide_eq_true same]
    exact inside
  · intro member
    have there : (key, value) ∈ pairs.filter fun p => p.1 = key :=
      List.mem_filter.2 ⟨member, decide_eq_true rfl⟩
    obtain ⟨pair, last⟩ :=
      Option.isSome_iff_exists.1 (List.getLast?_isSome.2 (List.ne_nil_of_mem there))
    obtain ⟨inside, same⟩ := List.mem_filter.1 (List.mem_of_getLast? last)
    have one : pair = (key, value) :=
      List.inj_on_of_nodup_map distinct inside member (of_decide_eq_true same)
    exact ⟨pair, last, congrArg Prod.snd one⟩

end Table

namespace Json.Value

mutual

def leafCount : Value → Nat
  | .object members => memberLeafCount members
  | .string _ | .number _ | .bool _ => 1
  | .null | .array _ => 0

def memberLeafCount : List (String × Value) → Nat
  | [] => 0
  | (_, v) :: rest => v.leafCount + memberLeafCount rest

end

theorem leaves_object_cons (name : String) (v : Value) (rest : List (String × Value)) :
    (object ((name, v) :: rest)).leaves =
      v.leaves.map (fun l => (name :: l.1, l.2)) ++ (object rest).leaves := by
  simp only [leaves, ends, memberEnds, List.filterMap_append, List.filterMap_map, List.map_filterMap]
  congr 2
  funext e
  dsimp only [Function.comp]
  cases e.2.plain? <;> rfl

mutual

theorem length_leaves : (v : Value) → v.leaves.length = v.leafCount
  | .null | .array _ | .bool _ | .number _ | .string _ => by
    rw [leafCount]; rfl
  | .object members => by rw [length_leaves_object members, leafCount]

theorem length_leaves_object :
    (members : List (String × Value)) → (object members).leaves.length = memberLeafCount members
  | [] => by
    rw [memberLeafCount]; rfl
  | (name, v) :: rest => by
    rw [leaves_object_cons, List.length_append, List.length_map, length_leaves v,
      length_leaves_object rest, memberLeafCount]

end

end Json.Value

/-- No object that stands at the top of a source has the empty name. -/
def Source.NamesObjects (s : Source) : Prop := ∀ members, ("", Value.object members) ∉ s.members

namespace Flatten

theorem names_ne_nil {source : Source} {names : List String} {v : Value}
    (leads : source.toValue.Leads names v) (flat : v.isObject = false) : names ≠ [] := by
  rintro rfl
  cases leads
  cases flat

theorem keyOf_of_leads {source : Source} {names : List String} {v : Value}
    (named : source.NamesObjects) (leads : source.toValue.Leads names v) :
    keyOf names = ".".intercalate names := by
  rw [Source.toValue] at leads
  cases leads with
  | here => rfl
  | @inside _ name u _ rest member onward =>
    by_cases filled : name = ""
    · subst filled
      cases onward with
      | here => exact String.intercalate_singleton.symm
      | inside => exact absurd member (named _)
    · rw [keyOf_eq_intercalate, List.dropWhile_cons_of_neg (by simpa using filled)]

theorem intercalate_inj {names other : List String} (some_name : names ≠ [])
    (some_other : other ≠ []) (plain : ∀ name ∈ names, '.' ∉ name.toList)
    (plain' : ∀ name ∈ other, '.' ∉ name.toList)
    (same : ".".intercalate names = ".".intercalate other) : names = other := by
  have parted (texts : List String) (some_text : texts ≠ [])
      (noPoint : ∀ text ∈ texts, '.' ∉ text.toList) :
      Text.parts '.' (".".intercalate texts).toList = texts.map String.toList := by
    rw [String.toList_intercalate]
    refine Text.parts_intercalate (by simpa using some_text) ?_
    intro part member
    obtain ⟨text, inside, rfl⟩ := List.mem_map.1 member
    exact noPoint text inside
  have parts := parted names some_name plain
  rw [same, parted other some_other plain'] at parts
  exact (List.map_injective_iff.2 fun _ _ => String.toList_inj.1) parts.symm

/-- No name on the way to anything in a value has a point in it. -/
def PointFree (v : Value) : Prop :=
  ∀ names w, v.Leads names w → ∀ name ∈ names, '.' ∉ name.toList

theorem pointFree_of_not_object {v : Value} (flat : v.isObject = false) : PointFree v := by
  intro names w leads name member
  cases leads with
  | here => cases member
  | inside => cases flat

theorem pointFree_object {members : List (String × Value)}
    (each : ∀ m ∈ members, '.' ∉ m.1.toList ∧ PointFree m.2) : PointFree (.object members) := by
  intro names w leads name member
  cases leads with
  | here => cases member
  | inside here onward =>
    rcases List.mem_cons.1 member with rfl | later
    · exact (each _ here).1
    · exact (each _ here).2 _ _ onward name later

section Lossless

variable {source : Source} (named : source.NamesObjects) (pointFree : PointFree source.toValue)
include named pointFree

theorem eq_of_keyOf_eq {names other : List String} {text text' : String}
    (leaf : source.toValue.Leaf names text) (leaf' : source.toValue.Leaf other text')
    (same : keyOf names = keyOf other) : names = other := by
  obtain ⟨v, leads, plain⟩ := leaf
  obtain ⟨w, leads', plain'⟩ := leaf'
  have some_name := names_ne_nil leads (Value.not_object_of_plain plain)
  have some_other := names_ne_nil leads' (Value.not_object_of_plain plain')
  rw [keyOf_of_leads named leads, keyOf_of_leads named leads'] at same
  exact intercalate_inj some_name some_other (pointFree names v leads) (pointFree other w leads')
    same

theorem nodup_keys_leaves :
    ((source.toValue.leaves.map fun l => (keyOf l.1, l.2)).map Prod.fst).Nodup := by
  rw [List.map_map, List.Nodup, List.pairwise_map]
  refine source.ordered.ascending_leaves.imp_of_mem ?_
  rintro ⟨names, text⟩ ⟨other, text'⟩ member member' less same
  have one := eq_of_keyOf_eq named pointFree (Value.mem_leaves_iff.1 member)
    (Value.mem_leaves_iff.1 member') same
  exact List.lt_irrefl other (one ▸ less)

end Lossless

/-- Flattening loses nothing of a source without lists whose names have no points, and in which no
object at the top has the empty name: there are as many phrases as leaves, and each leaf is found
under its names with points between them. -/
theorem glossary_lossless (locale : Locale) (source : Source) (listless : source.toValue.Listless)
    (pointFree : PointFree source.toValue) (named : source.NamesObjects) :
    (∀ names text other text', source.toValue.Leaf names text → source.toValue.Leaf other text' →
      keyOf names = keyOf other → names = other) ∧
    ∃ g, glossary locale source = .ok g ∧ g.size = source.toValue.leafCount ∧
      ∀ key text, g.get? key = some text ↔
        ∃ names, source.toValue.Leaf names text ∧ ".".intercalate names = key := by
  refine ⟨?_, _, glossary_eq_of_listless locale listless, ?_, ?_⟩
  · intro names text other text' leaf leaf' same
    exact eq_of_keyOf_eq named pointFree leaf leaf' same
  · rw [Glossary.size, Table.size_ofList (nodup_keys_leaves named pointFree), List.length_map,
      Value.length_leaves]
  · intro key text
    rw [Glossary.get?, Table.get?_ofList_eq_some_iff (nodup_keys_leaves named pointFree),
      List.mem_map]
    constructor
    · rintro ⟨⟨names, text'⟩, member, same⟩
      obtain ⟨rfl, rfl⟩ := Prod.mk.inj same
      have leaf := Value.mem_leaves_iff.1 member
      have ⟨v, leads, _⟩ := leaf
      exact ⟨names, leaf, (keyOf_of_leads named leads).symm⟩
    · rintro ⟨names, leaf, rfl⟩
      have ⟨v, leads, _⟩ := leaf
      rw [← keyOf_of_leads named leads]
      exact ⟨(names, text), Value.mem_leaves_iff.2 leaf, rfl⟩

theorem glossary_lossless_unnamed :
    let source := Source.ofMembers [("", .string "all"), ("a", .object [("", .number (.integer 1)),
      ("b", .bool true), ("c", .null)]), ("b", .object [])]
    source.toValue.Listless ∧ PointFree source.toValue ∧ source.NamesObjects ∧
      ∃ g, glossary ⟨"en"⟩ source = .ok g ∧ g.size = 3 ∧ g.get? "" = some "all" ∧
        g.get? "a." = some "1" ∧ g.get? "a.b" = some "true" := by
  intro source
  have members : source.members = [("", .string "all"), ("a", .object [
      ("", .number (.integer 1)), ("b", .bool true), ("c", .null)]), ("b", .object [])] := by rfl
  have listless : source.toValue.Listless := (exists_glossary_iff ⟨"en"⟩ source).1 ⟨_, rfl⟩
  have pointFree : PointFree source.toValue := by
    rw [Source.toValue, members]
    refine pointFree_object ?_
    simp only [List.mem_cons, List.not_mem_nil, or_false, forall_eq_or_imp, forall_eq]
    refine ⟨⟨by decide, pointFree_of_not_object rfl⟩, ⟨by decide, pointFree_object ?_⟩,
      by decide, pointFree_object (List.forall_mem_nil _)⟩
    simp only [List.mem_cons, List.not_mem_nil, or_false, forall_eq_or_imp, forall_eq]
    exact ⟨⟨by decide, pointFree_of_not_object rfl⟩, ⟨by decide, pointFree_of_not_object rfl⟩,
      by decide, pointFree_of_not_object rfl⟩
  have named : source.NamesObjects := by
    intro inner member
    rw [members] at member
    simp at member
  obtain ⟨-, g, made, size, texts⟩ := glossary_lossless ⟨"en"⟩ source listless pointFree named
  have leaf (names : List String) (text : String)
      (member : (names, text) ∈ [([""], "all"), (["a", ""], "1"), (["a", "b"], "true")]) :
      g.get? (".".intercalate names) = some text :=
    (texts _ text).2 ⟨names, Value.mem_leaves_iff.1 member, rfl⟩
  refine ⟨listless, pointFree, named, g, made, size, ?_, ?_, ?_⟩
  · exact leaf [""] "all" (by decide)
  · exact leaf ["a", ""] "1" (by decide)
  · exact leaf ["a", "b"] "true" (by decide)

end Flatten
end Phrasebook
