import Phrasebook.Proofs.Catalog
import Phrasebook.Proofs.Session

/-!
Locales apart from each other. For a page a lookup reads the source of the locale that is asked for
and, when there is none and the policy is to fall back, that of the default locale. Lookups that
differ only in what they do not read cannot be told apart by their results, their logs or their
counters, however long they are used.
-/
namespace Phrasebook

namespace Catalog

variable {α : Type}

def SameBut (apart : Locale) (c d : Catalog α) : Prop :=
  ∀ locale, locale ≠ apart → c.get? locale = d.get? locale

theorem filter_names_of_ne {locale apart : Locale} (ne : locale ≠ apart)
    (found : List (String × α)) :
    (found.filter fun pair => !names apart pair).filter (names locale) =
      found.filter (names locale) := by
  rw [List.filter_filter]
  apply List.filter_congr
  intro pair _
  by_cases named : names locale pair = true
  · have other : names apart pair = false := by
      simp only [names, decide_eq_true_eq, decide_eq_false_iff_not] at named ⊢
      intro same
      exact ne (Option.some.inj (named.symm.trans same))
    simp [named, other]
  · simp [named]

theorem sameBut_ofFound {apart : Locale} {found other : List (String × α)}
    (same : (found.filter fun pair => !names apart pair) =
      other.filter fun pair => !names apart pair) :
    SameBut apart (ofFound found) (ofFound other) := by
  intro locale ne
  rw [get?_ofFound, get?_ofFound, ← filter_names_of_ne ne found, ← filter_names_of_ne ne other,
    same]

end Catalog

namespace Lookup

def holding (l : Lookup) (catalog : Catalog Source) : Lookup := { l with catalog }

/-- Two catalogs have the same of what is read for a page. -/
structure Alike (l : Lookup) (c d : Catalog Source) (path : String) : Prop where
  own : c.get? (l.localeOf path) = d.get? (l.localeOf path)
  standIn : c.get? (l.localeOf path) = none → l.policy = .fallback →
    c.get? l.defaultLocale = d.get? l.defaultLocale

/-- A page is of a locale or falls back to it. -/
def Draws (l : Lookup) (locale : Locale) (path : String) : Prop :=
  l.localeOf path = locale ∨ l.fallsBack (l.localeOf path) = true ∧ l.defaultLocale = locale

theorem not_draws {l : Lookup} {locale : Locale} {path : String} (own : l.localeOf path ≠ locale)
    (standIn : l.defaultLocale ≠ locale) : ¬l.Draws locale path := by
  rintro (asked | ⟨-, default⟩)
  · exact own asked
  · exact standIn default

def browse (l : Lookup) (paths : List String) : Session String (Outcome Glossary) :=
  Desk.serve ⟨fun _ => l.run, Outcome.bumps⟩ .zero paths

section Two

variable {l : Lookup} {c d : Catalog Source}

theorem find_holding_of_alike {path : String} (alike : l.Alike c d path) :
    (l.holding c).find (l.localeOf path) = (l.holding d).find (l.localeOf path) := by
  obtain ⟨own, standIn⟩ := alike
  simp only [find, holding]
  rw [← own]
  cases here : c.get? (l.localeOf path) with
  | some source => rfl
  | none =>
    cases policy : l.policy with
    | reject => rfl
    | fallback => rw [standIn here policy]

theorem run_holding_of_alike {path : String} (alike : l.Alike c d path) :
    (l.holding c).run path = (l.holding d).run path := by
  have found : (l.holding c).find ((l.holding c).localeOf path) =
      (l.holding d).find ((l.holding d).localeOf path) := find_holding_of_alike alike
  unfold run
  rw [found]
  rfl

theorem serve_holding_of_alike {paths : List String} (alike : ∀ path ∈ paths, l.Alike c d path)
    (t : Tally) :
    Desk.serve ⟨fun _ => (l.holding c).run, Outcome.bumps⟩ t paths =
      Desk.serve ⟨fun _ => (l.holding d).run, Outcome.bumps⟩ t paths := by
  induction paths generalizing t with
  | nil => rfl
  | cons path rest ih =>
    have first := run_holding_of_alike (alike path List.mem_cons_self)
    have others := fun other member => alike other (List.mem_cons_of_mem path member)
    simp only [Desk.serve]
    rw [first, ih others]

theorem fallsBack_holding_iff (path : String) :
    (l.holding c).fallsBack ((l.holding c).localeOf path) = true ↔
      l.policy = .fallback ∧ c.get? (l.localeOf path) = none ∧ c.get? l.defaultLocale ≠ none := by
  simp only [fallsBack, Bool.and_eq_true, decide_eq_true_eq, Option.isNone_iff_eq_none,
    Option.isSome_iff_ne_none, and_assoc]
  rfl

theorem alike_of_sameBut {apart : Locale} {path : String} (same : c.SameBut apart d)
    (first : ¬(l.holding c).Draws apart path) (second : ¬(l.holding d).Draws apart path) :
    l.Alike c d path := by
  simp only [Draws, fallsBack_holding_iff, not_or, not_and] at first second
  obtain ⟨elsewhere, kept⟩ := first
  have own := same _ elsewhere
  refine ⟨own, fun absent policy => ?_⟩
  by_cases isApart : l.defaultLocale = apart
  · -- Neither lookup falls back to the locale that is apart, so neither has a source for it.
    have here : c.get? l.defaultLocale = none := by
      by_contra there
      exact kept ⟨policy, absent, there⟩ isApart
    have there : d.get? l.defaultLocale = none := by
      by_contra there
      exact second.2 ⟨policy, own ▸ absent, there⟩ isApart
    rw [here, there]
  · exact same _ isApart

end Two

/-- Two lookups over catalogs that may differ: any pages for which they find the same, and all pages
that do not draw on the one locale in which they differ. -/
theorem browse_holding_of_alike (l : Lookup) (c d : Catalog Source) :
    (∀ paths : List String, (∀ path ∈ paths, l.Alike c d path) →
      ((l.holding c).browse paths).turns = ((l.holding d).browse paths).turns ∧
        ((l.holding c).browse paths).tally = ((l.holding d).browse paths).tally) ∧
    ∀ apart, c.SameBut apart d → ∀ path, ¬(l.holding c).Draws apart path →
      ¬(l.holding d).Draws apart path → (l.holding c).run path = (l.holding d).run path := by
  constructor
  · intro paths alike
    have same : (l.holding c).browse paths = (l.holding d).browse paths :=
      serve_holding_of_alike alike .zero
    rw [same]
    exact ⟨rfl, rfl⟩
  · intro apart same path first second
    exact run_holding_of_alike (alike_of_sameBut same first second)

theorem browse_holding_of_alike_french :
    let english := ("./en/translations.json", Source.ofMembers [("title", .string "Hello")])
    let french := ("./fr/translations.json", Source.ofMembers [("title", .string "Bonjour")])
    let listed := ("./fr/translations.json", Source.ofMembers [("menu", .array [])])
    let without := Catalog.ofFound [english]
    let added := Catalog.ofFound [english, french]
    let broken := Catalog.ofFound [english, listed]
    let pages := ["/de/start", "/"]
    let first := (greeting.holding added).browse pages
    let second := (greeting.holding broken).browse pages
    (∀ path ∈ pages, greeting.Alike added broken path) ∧
      first.turns = second.turns ∧ first.tally = second.tally ∧
      without.SameBut ⟨"fr"⟩ added ∧
      (greeting.holding without).run "/de/start" = (greeting.holding added).run "/de/start" ∧
      ((greeting.holding broken).run "/fr").result.isOk = false := by
  intro english french listed without added broken pages first second
  have named : Catalog.localeOf? "./fr/translations.json" = some ⟨"fr"⟩ := by decide +kernel
  have breaks : added.SameBut ⟨"fr"⟩ broken := by
    apply Catalog.sameBut_ofFound
    simp [Catalog.names, List.filter_cons, english, french, listed, named]
  have adds : without.SameBut ⟨"fr"⟩ added := by
    apply Catalog.sameBut_ofFound
    simp [Catalog.names, List.filter_cons, english, french, named]
  have default : greeting.defaultLocale ≠ ⟨"fr"⟩ := by decide
  have falls : ∀ c, ¬(greeting.holding c).Draws ⟨"fr"⟩ "/de/start" := fun c =>
    not_draws (show greeting.localeOf "/de/start" ≠ ⟨"fr"⟩ by decide) default
  have root : ∀ c, ¬(greeting.holding c).Draws ⟨"fr"⟩ "/" := fun c =>
    not_draws (show greeting.localeOf "/" ≠ ⟨"fr"⟩ by decide) default
  have alike : ∀ path ∈ pages, greeting.Alike added broken path := by
    intro path member
    simp only [pages, List.mem_cons, List.not_mem_nil, or_false] at member
    obtain rfl | rfl := member
    · exact alike_of_sameBut breaks (falls added) (falls broken)
    · exact alike_of_sameBut breaks (root added) (root broken)
  obtain ⟨together, -⟩ := greeting.browse_holding_of_alike added broken
  obtain ⟨-, single⟩ := greeting.browse_holding_of_alike without added
  obtain ⟨turns, tally⟩ := together pages alike
  exact ⟨alike, turns, tally, adds, single _ adds _ (falls without) (falls added),
    by decide +kernel⟩

end Lookup
end Phrasebook
