import Phrasebook.Proofs.Keys

/-!
A source as the only member of another one. Flattening the outer source puts the name of the member
and a point in front of every key of the inner one, those of faults too. It does so as long as no
object at the top of the inner source has the empty name: such an object has no part in the keys
below it there, but has one as soon as it stands below a name.
-/
namespace Phrasebook

open Json

namespace Entries

variable {α : Type} {f : String → String}

theorem insert_map (less : ∀ a b, f a < f b ↔ a < b) (key : String) (value : α)
    (es : List (String × α)) :
    insert (f key) value (es.map fun e => (f e.1, e.2)) =
      (insert key value es).map fun e => (f e.1, e.2) := by
  induction es with
  | nil => rfl
  | cons e rest ih =>
    simp only [List.map_cons, insert, less]
    split
    · rfl
    · split
      · rw [ih]
        rfl
      · rfl

theorem ofList_map (less : ∀ a b, f a < f b ↔ a < b) (pairs : List (String × α)) :
    ofList (pairs.map fun p => (f p.1, p.2)) = (ofList pairs).map fun p => (f p.1, p.2) := by
  have each (es : List (String × α)) :
      (pairs.map fun p => (f p.1, p.2)).foldl (fun es p => insert p.1 p.2 es)
          (es.map fun e => (f e.1, e.2)) =
        (pairs.foldl (fun es p => insert p.1 p.2 es) es).map fun e => (f e.1, e.2) := by
    induction pairs generalizing es with
    | nil => rfl
    | cons p rest ih =>
      rw [List.map_cons, List.foldl_cons, List.foldl_cons, insert_map less, ih]
  exact each []

end Entries

/-- The source whose only member is another source. -/
def Source.wrap (name : String) (s : Source) : Source where
  members := [(name, s.toValue)]
  ordered := by
    refine .object (List.pairwise_singleton _ _) ?_
    intro m member
    rw [List.mem_singleton.1 member]
    exact s.ordered

namespace Flatten

def below (name key : String) : String := name ++ "." ++ key

theorem below_lt_iff (name a b : String) : below name a < below name b ↔ a < b := by
  have longer {a b : String} (less : a < b) : below name a < below name b := by
    simp only [below, String.lt_iff, String.toList_append]
    exact List.append_left_lt (String.lt_iff.1 less)
  constructor
  · intro less
    by_cases smaller : a < b
    · exact smaller
    · by_cases greater : b < a
      · exact absurd (longer greater) (String.lt_asymm less)
      · obtain rfl := Entries.eq_of_not_lt smaller greater
        exact absurd less (String.lt_irrefl _)
  · exact longer

theorem keyUnder_eq_below {name : String} (filled : name ≠ "") {names : List String}
    (some_name : names ≠ []) (joined : keyOf names = ".".intercalate names) :
    keyUnder name names = below name (keyOf names) := by
  obtain ⟨first, rest, rfl⟩ := List.exists_cons_of_ne_nil some_name
  rw [keyUnder_of_ne filled, String.intercalate_cons_cons, joined, below]

def shifted (name : String) :
    Except AssemblyFault (List (String × String)) → Except AssemblyFault (List (String × String))
  | .ok phrases => .ok (phrases.map fun p => (below name p.1, p.2))
  | .error (.unsupported key kind) => .error (.unsupported (below name key) kind)
  | .error .unimplemented => .error .unimplemented

theorem gather_shifted (name : String)
    (met : List (Except AssemblyFault (List (String × String)))) :
    gather (met.map (shifted name)) = shifted name (gather met) := by
  induction met with
  | nil => rfl
  | cons first rest ih =>
    match first with
    | .error (.unsupported key kind) => rfl
    | .error .unimplemented => rfl
    | .ok phrases =>
      show (gather (rest.map (shifted name))).map _ = shifted name ((gather rest).map (phrases ++ ·))
      rw [ih]
      match gather rest with
      | .error (.unsupported key kind) => rfl
      | .error .unimplemented => rfl
      | .ok more => exact congrArg Except.ok List.map_append.symm

theorem phrases_below (name key : String) {v : Value} (flat : v.isObject = false) :
    phrases (below name key) v = shifted name (phrases key v) := by
  cases v with
  | object members => cases flat
  | null | bool | number | string | array => simp only [phrases, shifted, List.map]

theorem phrases_eq_shifted {source : Source} (named : source.NamesObjects) {name : String}
    (filled : name ≠ "") :
    phrases name source.toValue = shifted name (phrases "" source.toValue) := by
  rw [phrases_eq_gather name, phrases_eq_gather "", ← gather_shifted, List.map_map]
  congr 1
  refine List.map_congr_left fun e member => ?_
  obtain ⟨leads, flat⟩ := Value.mem_ends_iff.1 member
  rw [keyUnder_eq_below filled (names_ne_nil leads flat) (keyOf_of_leads named leads),
    phrases_below name _ flat]
  rfl

theorem glossary_wrap_eq (locale : Locale) (source : Source) (name : String) :
    glossary locale (source.wrap name) =
      (phrases name source.toValue).map fun all => ⟨locale, Table.ofList all⟩ := by
  rw [glossary_eq_map, Source.toValue, phrases, memberPhrases_eq_gather_map]
  exact congrArg (Except.map _) (gather_singleton _)

theorem listless_wrap_iff (source : Source) (name : String) :
    (source.wrap name).toValue.Listless ↔ source.toValue.Listless := by
  rw [Source.toValue, Value.listless_object_iff]
  exact List.forall_mem_singleton

/-- A source is flattened as the only member of another one exactly when it is on its own. If no
object at its top has the empty name, its keys, and those of its faults, get the name of the member
and a point in front of them. -/
theorem glossary_wrap (locale : Locale) (source : Source) (name : String) (filled : name ≠ "") :
    ((∃ g, glossary locale (source.wrap name) = .ok g) ↔ ∃ g, glossary locale source = .ok g) ∧
    (source.NamesObjects →
      (∀ g, glossary locale source = .ok g → ∃ wrapped,
        glossary locale (source.wrap name) = .ok wrapped ∧ wrapped.locale = g.locale ∧
          wrapped.phrases.entries = g.phrases.entries.map fun p => (name ++ "." ++ p.1, p.2)) ∧
      ∀ key kind, glossary locale source = .error (.unsupported key kind) →
        glossary locale (source.wrap name) = .error (.unsupported (name ++ "." ++ key) kind)) := by
  refine ⟨?_, fun named => ?_⟩
  · rw [exists_glossary_iff, exists_glossary_iff, listless_wrap_iff]
  · rw [glossary_wrap_eq, phrases_eq_shifted named filled, glossary_eq_map locale source]
    cases phrases "" source.toValue with
    | error fault =>
      refine ⟨nofun, ?_⟩
      rintro key kind ⟨⟩
      rfl
    | ok all =>
      refine ⟨?_, nofun⟩
      rintro g ⟨⟩
      exact ⟨_, rfl, rfl, Entries.ofList_map (below_lt_iff name) all⟩

theorem glossary_wrap_nav :
    let source := Source.ofMembers [("home", .string "Home"), ("", .string "all")]
    "nav" ≠ "" ∧ source.NamesObjects ∧ ∃ g wrapped, glossary ⟨"en"⟩ source = .ok g ∧
      glossary ⟨"en"⟩ (source.wrap "nav") = .ok wrapped ∧
      wrapped.phrases.entries = [("nav.", "all"), ("nav.home", "Home")] := by
  intro source
  have filled : "nav" ≠ "" := by decide
  have named : source.NamesObjects := by
    intro inner member
    have members : source.members = [("", .string "all"), ("home", .string "Home")] := by rfl
    rw [members] at member
    simp at member
  obtain ⟨-, law⟩ := glossary_wrap ⟨"en"⟩ source "nav" filled
  obtain ⟨found, -⟩ := law named
  obtain ⟨wrapped, made, -, entries⟩ := found _ rfl
  exact ⟨filled, named, _, wrapped, rfl, made, entries⟩

/-- An object with the empty name is passed over at the top, and counts as soon as it is not there. -/
theorem glossary_wrap_unnamed :
    ∃ source : Source, ∃ g wrapped : Glossary,
      source.members = [("", .object [("a", .string "x")])] ∧
      glossary ⟨"en"⟩ source = .ok g ∧ g.phrases.entries = [("a", "x")] ∧
      glossary ⟨"en"⟩ (source.wrap "n") = .ok wrapped ∧
      wrapped.phrases.entries = [("n..a", "x")] ∧
      wrapped.phrases.entries ≠ g.phrases.entries.map fun p => ("n" ++ "." ++ p.1, p.2) :=
  ⟨Source.ofMembers [("", .object [("a", .string "x")])], _, _, rfl, rfl, rfl, rfl, rfl, by decide⟩

end Flatten
end Phrasebook
