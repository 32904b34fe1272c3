import Phrasebook.Proofs.Content

/-!
Which list flattening fails for. It is the first one that is met, and that is the one with the least
names, compared name by name and byte by byte: neither the one that is least deep nor the one with
the least key.
-/
namespace Phrasebook

open Json

namespace Flatten

theorem gather_of_first {front rest : List (Except AssemblyFault (List (String × String)))}
    {fault : AssemblyFault} (before : ∀ met ∈ front, ∃ phrases, met = .ok phrases) :
    gather (front ++ .error fault :: rest) = .error fault := by
  induction front with
  | nil => rfl
  | cons met front ih =>
    obtain ⟨⟨phrases, rfl⟩, others⟩ := List.forall_mem_cons.1 before
    show (gather (front ++ .error fault :: rest)).map (phrases ++ ·) = .error fault
    rw [ih others]
    rfl

theorem exists_first_of_gather {met : List (Except AssemblyFault (List (String × String)))}
    {fault : AssemblyFault} (failed : gather met = .error fault) :
    ∃ front rest, met = front ++ .error fault :: rest ∧
      ∀ earlier ∈ front, ∃ phrases, earlier = .ok phrases := by
  induction met with
  | nil => cases failed
  | cons first others ih =>
    cases first with
    | error _ =>
      cases failed
      exact ⟨[], others, rfl, List.forall_mem_nil _⟩
    | ok phrases =>
      have onward : gather others = .error fault := by
        change (gather others).map (phrases ++ ·) = .error fault at failed
        cases later : gather others with
        | error _ =>
          rw [later] at failed
          cases failed
          rfl
        | ok _ =>
          rw [later] at failed
          cases failed
      obtain ⟨front, rest, rfl, before⟩ := ih onward
      exact ⟨.ok phrases :: front, rest, rfl, List.forall_mem_cons.2 ⟨⟨phrases, rfl⟩, before⟩⟩

theorem phrases_end_eq_error_iff {key : String} {v : Value} (flat : v.isObject = false)
    (fault : AssemblyFault) :
    phrases key v = .error fault ↔ (∃ items, v = .array items) ∧ fault = .unsupported key "array" := by
  cases v with
  | object members => cases flat
  | array items => simp [phrases, eq_comm]
  | null | bool | number | string => simp [phrases]

theorem glossary_eq_error_iff (locale : Locale) (source : Source) (fault : AssemblyFault) :
    glossary locale source = .error fault ↔
      gather (source.toValue.ends.map fun e => phrases (keyOf e.1) e.2) = .error fault := by
  rw [glossary_eq_map, phrases_eq_gather]
  show Except.map _ (gather (source.toValue.ends.map fun e => phrases (keyOf e.1) e.2)) = _ ↔ _
  cases gather (source.toValue.ends.map fun e => phrases (keyOf e.1) e.2) <;> simp [Except.map]

theorem glossary_eq_error_iff_first (locale : Locale) (source : Source) (fault : AssemblyFault) :
    glossary locale source = .error fault ↔
      ∃ front names items rest, source.toValue.ends = front ++ (names, .array items) :: rest ∧
        fault = .unsupported (keyOf names) "array" ∧ ∀ e ∈ front, ∀ items, e.2 ≠ .array items := by
  have flat : ∀ e ∈ source.toValue.ends, e.2.isObject = false := by
    intro e member
    exact (Value.mem_ends_iff.1 member).2
  rw [glossary_eq_error_iff]
  constructor
  · intro failed
    obtain ⟨front', rest', whole, before⟩ := exists_first_of_gather failed
    obtain ⟨front, others, split, rfl, tail⟩ := List.map_eq_append_iff.1 whole
    obtain ⟨⟨names, v⟩, rest, rfl, here, -⟩ := List.map_eq_cons_iff.1 tail
    rw [split] at flat
    have flatHere := flat (names, v) (by simp)
    obtain ⟨⟨items, rfl⟩, same⟩ := (phrases_end_eq_error_iff flatHere fault).1 here
    refine ⟨front, names, items, rest, split, same, ?_⟩
    intro e member items' list
    obtain ⟨phrases', ok⟩ := before _ (List.mem_map_of_mem member)
    rw [list, phrases] at ok
    cases ok
  · rintro ⟨front, names, items, rest, split, rfl, before⟩
    rw [split, List.map_append, List.map_cons, phrases]
    refine gather_of_first ?_
    intro met member
    obtain ⟨e, inside, rfl⟩ := List.mem_map.1 member
    have flatThere := flat e (split ▸ List.mem_append_left _ inside)
    cases there : phrases (keyOf e.1) e.2 with
    | ok found => exact ⟨found, rfl⟩
    | error fault =>
      obtain ⟨⟨items', list⟩, -⟩ := (phrases_end_eq_error_iff flatThere fault).1 there
      exact absurd list (before e inside items')

/-- The lists are met in the order of their names. -/
theorem first_list_iff (source : Source) (names : List String) :
    (∃ front items rest, source.toValue.ends = front ++ (names, .array items) :: rest ∧
      ∀ e ∈ front, ∀ items, e.2 ≠ .array items) ↔
    ∃ items, source.toValue.Leads names (.array items) ∧
      ∀ other items', source.toValue.Leads other (.array items') → ¬other < names := by
  have ascending := source.ordered.ascending_ends
  change source.toValue.ends.Pairwise _ at ascending
  constructor
  · rintro ⟨front, items, rest, split, before⟩
    have here : (names, Value.array items) ∈ source.toValue.ends := by simp [split]
    refine ⟨items, (Value.mem_ends_iff.1 here).1, ?_⟩
    intro other items' leads less
    have there := Value.mem_ends_of_leads leads rfl
    rw [split] at there ascending
    rcases List.mem_append.1 there with earlier | there
    · exact before _ earlier items' rfl
    · rcases List.mem_cons.1 there with same | later
      · rw [(Prod.mk.inj same).1] at less
        exact List.lt_irrefl names less
      · have after := (List.pairwise_append.1 ascending).2.1
        exact List.lt_asymm less (List.rel_of_pairwise_cons after later)
  · rintro ⟨items, leads, least⟩
    obtain ⟨front, rest, split⟩ := List.append_of_mem (Value.mem_ends_of_leads leads rfl)
    refine ⟨front, items, rest, split, ?_⟩
    intro e member items' list
    have there : e ∈ source.toValue.ends := split ▸ List.mem_append_left _ member
    rw [split] at ascending
    have less := (List.pairwise_append.1 ascending).2.2 e member _ List.mem_cons_self
    exact least e.1 items' (list ▸ (Value.mem_ends_iff.1 there).1) less

/-- Flattening fails exactly when names lead to a list, and then for the list with the least names,
name by name and byte by byte, under the key that these names are joined to. -/
theorem glossary_rejects_least (locale : Locale) (source : Source) :
    ((∃ fault, glossary locale source = .error fault) ↔
      ∃ names items, source.toValue.Leads names (.array items)) ∧
    ∀ fault, glossary locale source = .error fault ↔
      ∃ names items, source.toValue.Leads names (.array items) ∧
        fault = .unsupported (keyOf names) "array" ∧
        ∀ other items', source.toValue.Leads other (.array items') →
          names.map Utf8.encode ≤ other.map Utf8.encode := by
  have which (fault : AssemblyFault) : glossary locale source = .error fault ↔
      ∃ names items, source.toValue.Leads names (.array items) ∧
        fault = .unsupported (keyOf names) "array" ∧
        ∀ other items', source.toValue.Leads other (.array items') →
          names.map Utf8.encode ≤ other.map Utf8.encode := by
    simp only [← List.not_lt, Utf8.map_encode_lt_iff]
    rw [glossary_eq_error_iff_first]
    constructor
    · rintro ⟨front, names, items, rest, split, same, before⟩
      obtain ⟨items', leads, least⟩ :=
        (first_list_iff source names).1 ⟨front, items, rest, split, before⟩
      exact ⟨names, items', leads, same, least⟩
    · rintro ⟨names, items, leads, same, least⟩
      obtain ⟨front, items', rest, split, before⟩ :=
        (first_list_iff source names).2 ⟨items, leads, least⟩
      exact ⟨front, names, items', rest, split, same, before⟩
  refine ⟨⟨?_, ?_⟩, which⟩
  · rintro ⟨fault, failed⟩
    obtain ⟨names, items, leads, -⟩ := (which fault).1 failed
    exact ⟨names, items, leads⟩
  · rintro ⟨names, items, leads⟩
    cases made : glossary locale source with
    | error fault => exact ⟨fault, rfl⟩
    | ok g =>
      have listless := (exists_glossary_iff locale source).1 ⟨g, made⟩
      exact absurd leads (listless names items)

example : glossary ⟨"en"⟩ (Source.ofMembers
    [("a!", .array []), ("a", .object [("b", .array []), ("a", .null)])]) =
      .error (.unsupported "a.b" "array") ∧ "a!" < "a.b" :=
  ⟨rfl, by decide⟩

end Flatten
end Phrasebook
