import Phrasebook.Catalog
import Phrasebook.Proofs.Table

/-!
What a catalog holds of the sources it is made from: for each locale the last of those whose path
names it, and nothing else.
-/
namespace Phrasebook

namespace Table

variable {α : Type}

theorem mem_keys_iff (t : Table α) (key : String) : key ∈ t.keys ↔ (t.get? key).isSome = true := by
  unfold keys get?
  induction t.entries with
  | nil => simp [Entries.find?]
  | cons first rest ih =>
    obtain ⟨k, v⟩ := first
    by_cases same : k = key
    · simp [Entries.find?, same]
    · simp only [List.map_cons, List.mem_cons, Ne.symm same, false_or, ih, Entries.find?]
      rw [if_neg same]

end Table

namespace Catalog

variable {α : Type}

def names (locale : Locale) (found : String × α) : Bool := localeOf? found.1 = some locale

theorem get?_step (d : Draft α) (found : String × α) (locale : Locale) :
    (d.step found).catalog.get? locale =
      if names locale found then some found.2 else d.catalog.get? locale := by
  unfold Draft.step names
  cases named : localeOf? found.1 with
  | none => simp
  | some other =>
    simp only [get?, Table.get?_insert, Option.some.injEq, decide_eq_true_eq]
    by_cases same : other = locale
    · simp [same]
    · have differs : other.code ≠ locale.code :=
        fun h => same (by cases other; cases locale; simp_all)
      rw [if_neg differs, if_neg same]

theorem get?_ofFound (found : List (String × α)) (locale : Locale) :
    (ofFound found).get? locale = ((found.filter (names locale)).getLast?).map Prod.snd := by
  have kept := foldl_eq_last (fun d : Draft α => d.catalog.get? locale) (names locale) Prod.snd
    (fun d found => get?_step d found locale) ⟨empty, Table.empty, []⟩ found
  exact kept.trans Option.or_none

theorem mem_locales_iff (c : Catalog α) (locale : Locale) :
    locale ∈ c.locales ↔ (c.get? locale).isSome = true := by
  unfold locales get?
  rw [← Table.mem_keys_iff, List.mem_map]
  constructor
  · rintro ⟨code, member, rfl⟩
    exact member
  · exact fun member => ⟨locale.code, member, rfl⟩

/-- When each later path is greater, the source for a locale is the one of its greatest path. -/
theorem get?_ofFound_of_greatest {found : List (String × α)} {locale : Locale} {path : String}
    {content : α} (ascending : Entries.Ascending found) (member : (path, content) ∈ found)
    (named : localeOf? path = some locale)
    (greatest : ∀ other ∈ found, localeOf? other.1 = some locale → other.1 ≤ path) :
    (ofFound found).get? locale = some content := by
  have last : (found.filter (names locale)).getLast? = some (path, content) := by
    refine (getLast?_eq_some_iff_of_pairwise String.lt_asymm (ascending.filter _)).2 ⟨?_, ?_⟩
    · exact List.mem_filter.2 ⟨member, decide_eq_true named⟩
    · intro other there
      obtain ⟨there, named⟩ := List.mem_filter.1 there
      exact String.not_lt.2 (greatest other there (of_decide_eq_true named))
  rw [get?_ofFound, last]
  rfl

theorem mem_foldl_events {d : Draft α} {found : List (String × α)} {e : Event}
    (h : e ∈ (found.foldl Draft.step d).events) :
    e ∈ d.events ∨ (∃ pair ∈ found, e = .noLocale pair.1 ∧ localeOf? pair.1 = none) ∨
      ∃ locale previous replacement, e = .replaced locale previous replacement := by
  induction found generalizing d with
  | nil => exact .inl h
  | cons first rest ih =>
    obtain before | ⟨pair, member, rest⟩ | replaced := ih h
    · unfold Draft.step at before
      split at before
      · rename_i unnamed
        rcases List.mem_append.1 before with before | now
        · exact .inl before
        · obtain rfl := List.mem_singleton.1 now
          exact .inr (.inl ⟨first, List.mem_cons_self, rfl, unnamed⟩)
      · dsimp only at before
        split at before
        · exact .inl before
        · rcases List.mem_append.1 before with before | now
          · exact .inl before
          · exact .inr (.inr ⟨_, _, _, List.mem_singleton.1 now⟩)
    · exact .inr (.inl ⟨pair, List.mem_cons_of_mem _ member, rest⟩)
    · exact .inr (.inr replaced)

theorem mem_warnings {found : List (String × α)} {e : Event} (h : e ∈ warnings found) :
    (∃ pair ∈ found, e = .noLocale pair.1 ∧ localeOf? pair.1 = none) ∨
      ∃ locale previous replacement, e = .replaced locale previous replacement :=
  (mem_foldl_events h).resolve_left List.not_mem_nil

end Catalog
end Phrasebook
