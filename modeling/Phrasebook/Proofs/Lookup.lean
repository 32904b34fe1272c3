import Phrasebook.Lookup
import Phrasebook.Proofs.Locale

/-!
What a lookup comes to, and what it counts on the way. A lookup counts itself first and its outcome
last, one outcome each; between the two it counts that no locale was named and that the default
source was taken, if so. Everything that is said about many lookups rests on these laws.
-/
namespace Phrasebook

namespace Tally

theorem count_bump (t : Tally) (c d : Counter) :
    (t.bump c).count d = if d = c then t.count d + 1 else t.count d :=
  count_add t c d 1

theorem count_bumpAll (t : Tally) (cs : List Counter) (c : Counter) :
    (t.bumpAll cs).count c = t.count c + UInt64.ofNat (cs.count c) := by
  induction cs generalizing t with
  | nil => simp [bumpAll]
  | cons first rest ih =>
    have step : (t.bumpAll (first :: rest)).count c = ((t.bump first).bumpAll rest).count c := rfl
    rw [step, ih, count_bump]
    by_cases same : c = first
    · rw [if_pos same, same, List.count_cons_self, Nat.add_comm, UInt64.ofNat_add, UInt64.add_assoc]
      rfl
    · rw [if_neg same, List.count_cons_of_ne (Ne.symm same)]

theorem count_zero (c : Counter) : zero.count c = 0 := by
  cases c <;> rfl

theorem bumpAll_append (t : Tally) (cs ds : List Counter) :
    t.bumpAll (cs ++ ds) = (t.bumpAll cs).bumpAll ds :=
  List.foldl_append

theorem bumpAll_perm (t : Tally) {cs ds : List Counter} (h : cs.Perm ds) :
    t.bumpAll cs = t.bumpAll ds := by
  apply ext_count
  intro c
  rw [count_bumpAll, count_bumpAll, h.count_eq]

def shown (t : Tally) (c : Counter) : Nat := (t.count c).toNat

theorem shown_bumpAll {cs : List Counter} {c : Counter} (few : cs.count c < UInt64.size) :
    (zero.bumpAll cs).shown c = cs.count c := by
  rw [shown, count_bumpAll, count_zero, UInt64.zero_add, UInt64.toNat_ofNat_of_lt' few]

theorem countP_flatMap_of_each {E A : Type} {events : List E} {yields : E → List A} {q : A → Bool}
    {p : E → Bool} (each : ∀ e ∈ events, (yields e).countP q = if p e then 1 else 0) :
    (events.flatMap yields).countP q = events.countP p := by
  induction events with
  | nil => rfl
  | cons e rest ih =>
    have first := each e List.mem_cons_self
    have others := ih fun other member => each other (List.mem_cons_of_mem e member)
    rw [List.flatMap_cons, List.countP_append, List.countP_cons, first, others, Nat.add_comm]

theorem count_events {E : Type} {events : List E} {bumps : E → List Counter} {c : Counter}
    {p : E → Bool} (each : ∀ e ∈ events, (bumps e).count c = if p e then 1 else 0) :
    (events.flatMap bumps).count c = events.countP p :=
  countP_flatMap_of_each each

theorem count_flatMap_le {E : Type} {events : List E} {bumps : E → List Counter} {c : Counter}
    (once : ∀ e ∈ events, (bumps e).count c ≤ 1) :
    (events.flatMap bumps).count c ≤ events.length := by
  induction events with
  | nil => exact Nat.le_refl 0
  | cons e rest ih =>
    have first := once e List.mem_cons_self
    have others := ih fun other member => once other (List.mem_cons_of_mem e member)
    rw [List.flatMap_cons, List.count_append, List.length_cons]
    omega

theorem shown_events {E : Type} {events : List E} {bumps : E → List Counter} {c : Counter}
    {p : E → Bool} (few : events.length < UInt64.size)
    (each : ∀ e ∈ events, (bumps e).count c = if p e then 1 else 0) :
    (zero.bumpAll (events.flatMap bumps)).shown c = events.countP p := by
  have total := count_events each
  have bound : events.countP p ≤ events.length := List.countP_le_length
  rw [shown_bumpAll (by omega), total]

/-- Bumps that lookups can leave together: every request has one outcome, and only a request whose
outcome is not that data is missing can have fallen back. -/
structure Balanced (cs : List Counter) : Prop where
  outcomes : cs.count .requests = cs.count .successes + cs.count .missing + cs.count .failures
  fallbacks : cs.count .fallbacks + cs.count .missing ≤ cs.count .requests
  defaultUsed : cs.count .defaultUsed ≤ cs.count .requests

theorem Balanced.nil : Balanced [] := ⟨rfl, Nat.le_refl 0, Nat.le_refl 0⟩

theorem Balanced.append {cs ds : List Counter} (first : Balanced cs) (second : Balanced ds) :
    Balanced (cs ++ ds) := by
  obtain ⟨o, f, d⟩ := first
  obtain ⟨o', f', d'⟩ := second
  constructor <;> simp only [List.count_append] <;> omega

theorem Balanced.flatMap {E : Type} {events : List E} {bumps : E → List Counter}
    (each : ∀ e ∈ events, Balanced (bumps e)) : Balanced (events.flatMap bumps) := by
  induction events with
  | nil => exact .nil
  | cons e rest ih =>
    rw [List.flatMap_cons]
    exact (each e List.mem_cons_self).append (ih fun e he => each e (List.mem_cons_of_mem _ he))

/-- Counters left by balanced bumps stand in the same relations while requests fit in a word. -/
theorem Balanced.shown {cs : List Counter} {t : Tally} (balanced : Balanced cs)
    (few : cs.count .requests < UInt64.size) (left : t = zero.bumpAll cs) :
    t.shown .requests = t.shown .successes + t.shown .missing + t.shown .failures ∧
      t.shown .fallbacks ≤ t.shown .successes + t.shown .failures ∧
      t.shown .defaultUsed ≤ t.shown .requests := by
  obtain ⟨outcomes, fallbacks, defaultUsed⟩ := balanced
  have same : ∀ c, cs.count c < UInt64.size → t.shown c = cs.count c := fun c h => by
    rw [left, shown_bumpAll h]
  rw [same .requests few, same .successes (by omega), same .missing (by omega),
    same .failures (by omega), same .fallbacks (by omega), same .defaultUsed (by omega)]
  exact ⟨outcomes, by omega, defaultUsed⟩

end Tally

def Counter.ofResult {α : Type} : Except LookupFault α → Counter
  | .ok _ => .successes
  | .error (.noData _) => .missing
  | .error (.assembly _) => .failures

namespace Lookup

def detecting (l : Lookup) (detect : String → Option Locale) : Lookup := { l with detect }

theorem localeOf_of_detect {l : Lookup} (byPath : l.detect = Locale.ofPath?) (path : String) :
    l.localeOf path = (Locale.ofPath? path).getD l.defaultLocale := by
  unfold localeOf detected?
  rw [byPath]
  cases named : Locale.ofPath? path with
  | none => rfl
  | some locale =>
    have filled : locale.code ≠ "" := by
      intro empty
      exact (Locale.shaped_of_ofPath? named).ne_nil (by rw [empty]; rfl)
    simp [Option.filter, filled]

/-- Whether a lookup for `locale` takes the source of the default locale in its place. -/
def fallsBack (l : Lookup) (locale : Locale) : Bool :=
  l.policy = .fallback && (l.catalog.get? locale).isNone && (l.catalog.get? l.defaultLocale).isSome

theorem find_cases (l : Lookup) (locale : Locale) :
    (∃ source, l.catalog.get? locale = some source ∧ l.find locale = ⟨.ok (locale, source), [], []⟩) ∨
    (l.catalog.get? locale = none ∧ l.policy = .reject ∧
      l.find locale = ⟨.error (.noData locale), [.missing], [.noData locale]⟩) ∨
    (∃ source, l.catalog.get? locale = none ∧ l.policy = .fallback ∧
      l.catalog.get? l.defaultLocale = some source ∧
      l.find locale =
        ⟨.ok (l.defaultLocale, source), [.fallbacks], [.fellBack locale l.defaultLocale]⟩) ∨
    (l.catalog.get? locale = none ∧ l.policy = .fallback ∧ l.catalog.get? l.defaultLocale = none ∧
      l.find locale =
        ⟨.error (.noData l.defaultLocale), [.missing], [.noFallback locale l.defaultLocale]⟩) := by
  unfold find
  cases here : l.catalog.get? locale with
  | some source => exact .inl ⟨source, rfl, rfl⟩
  | none =>
    cases policy : l.policy with
    | reject => exact .inr (.inl ⟨rfl, rfl, rfl⟩)
    | fallback =>
      cases there : l.catalog.get? l.defaultLocale with
      | some source => exact .inr (.inr (.inl ⟨source, rfl, rfl, rfl, rfl⟩))
      | none => exact .inr (.inr (.inr ⟨rfl, rfl, rfl, rfl⟩))

theorem find_of_some {l : Lookup} {locale : Locale} {source : Source}
    (here : l.catalog.get? locale = some source) :
    l.find locale = ⟨.ok (locale, source), [], []⟩ := by
  unfold find
  rw [here]

def opening (l : Lookup) (path : String) : List Counter :=
  if (l.detected? path).isSome then [.requests] else [.requests, .defaultUsed]

theorem assemble_result (l : Lookup) (locale : Locale) (source : Source) :
    (l.assemble locale source).result =
      (l.strategy.assemble locale source).mapError LookupFault.assembly := by
  unfold assemble
  cases l.strategy.assemble locale source <;> rfl

theorem assemble_bumps (l : Lookup) (locale : Locale) (source : Source) :
    (l.assemble locale source).bumps = [Counter.ofResult (l.assemble locale source).result] := by
  unfold assemble
  cases l.strategy.assemble locale source <;> rfl

theorem run_of_found {l : Lookup} {path : String} {locale : Locale} {source : Source}
    {bumps : List Counter} {events : List Event}
    (found : l.find (l.localeOf path) = ⟨.ok (locale, source), bumps, events⟩) :
    (l.run path).result = (l.assemble locale source).result ∧
      (l.run path).bumps =
        l.opening path ++ bumps ++ [Counter.ofResult (l.assemble locale source).result] := by
  rw [← assemble_bumps]
  unfold run opening
  rw [found]
  cases l.detected? path <;> exact ⟨rfl, rfl⟩

theorem run_of_not_found {l : Lookup} {path : String} {fault : LookupFault} {bumps : List Counter}
    {events : List Event} (absent : l.find (l.localeOf path) = ⟨.error fault, bumps, events⟩) :
    (l.run path).result = .error fault ∧ (l.run path).bumps = l.opening path ++ bumps := by
  unfold run opening
  rw [absent]
  cases l.detected? path <;> exact ⟨rfl, rfl⟩

theorem run_of_some {l : Lookup} {path : String} {source : Source}
    (here : l.catalog.get? (l.localeOf path) = some source) :
    (l.run path).result = (l.assemble (l.localeOf path) source).result :=
  (run_of_found (find_of_some here)).1

theorem exists_of_run_ok {l : Lookup} {path : String} {g : Glossary}
    (made : (l.run path).result = .ok g) :
    ∃ locale source, (locale = l.localeOf path ∨ locale = l.defaultLocale) ∧
      l.catalog.get? locale = some source ∧ l.strategy.assemble locale source = .ok g := by
  have assembled : ∀ locale source, (l.assemble locale source).result = .ok g →
      l.strategy.assemble locale source = .ok g := by
    intro locale source made
    rw [assemble_result] at made
    cases result : l.strategy.assemble locale source <;> rw [result] at made <;> cases made
    rfl
  obtain ⟨source, here, found⟩ | ⟨-, -, absent⟩ | ⟨source, -, -, there, found⟩ | ⟨-, -, -, absent⟩ :=
    l.find_cases (l.localeOf path)
  · exact ⟨_, source, .inl rfl, here, assembled _ _ ((run_of_found found).1 ▸ made)⟩
  · cases (run_of_not_found absent).1.symm.trans made
  · exact ⟨_, source, .inr rfl, there, assembled _ _ ((run_of_found found).1 ▸ made)⟩
  · cases (run_of_not_found absent).1.symm.trans made

theorem run_bumps (l : Lookup) (path : String) :
    (l.run path).bumps =
      l.opening path ++ (if l.fallsBack (l.localeOf path) then [.fallbacks] else []) ++
        [Counter.ofResult (l.run path).result] := by
  obtain ⟨source, here, found⟩ | ⟨here, policy, absent⟩ | ⟨source, here, policy, there, found⟩ |
    ⟨here, policy, there, absent⟩ := l.find_cases (l.localeOf path)
  · obtain ⟨result, bumps⟩ := run_of_found found
    simp [result, bumps, fallsBack, here]
  · obtain ⟨result, bumps⟩ := run_of_not_found absent
    simp [result, bumps, fallsBack, policy, Counter.ofResult]
  · obtain ⟨result, bumps⟩ := run_of_found found
    simp [result, bumps, fallsBack, here, policy, there]
  · obtain ⟨result, bumps⟩ := run_of_not_found absent
    simp [result, bumps, fallsBack, there, Counter.ofResult]

/-- A lookup fails for want of a source exactly when there is none for its locale and the policy
gives none in its place; the fault names the locale that was looked for last. -/
theorem run_eq_noData_iff (l : Lookup) (path : String) (locale : Locale) :
    (l.run path).result = .error (.noData locale) ↔
      l.catalog.get? (l.localeOf path) = none ∧
        (l.policy = .reject ∧ locale = l.localeOf path ∨
          l.policy = .fallback ∧ l.catalog.get? l.defaultLocale = none ∧
            locale = l.defaultLocale) := by
  have never : ∀ at_ source, (l.assemble at_ source).result ≠ .error (.noData locale) := by
    intro at_ source
    rw [assemble_result]
    cases l.strategy.assemble at_ source <;> nofun
  obtain ⟨source, here, found⟩ | ⟨here, policy, absent⟩ | ⟨source, here, policy, there, found⟩ |
    ⟨here, policy, there, absent⟩ := l.find_cases (l.localeOf path)
  · rw [(run_of_found found).1]
    simp [never, here]
  · rw [(run_of_not_found absent).1]
    simp [here, policy, eq_comm]
  · rw [(run_of_found found).1]
    simp [never, policy, there]
  · rw [(run_of_not_found absent).1]
    simp [here, policy, there, eq_comm]

theorem comesToNothing_iff (l : Lookup) (path : String) :
    (∃ locale, (l.run path).result = .error (.noData locale)) ↔
      l.catalog.get? (l.localeOf path) = none ∧
        (l.policy = .fallback → l.catalog.get? l.defaultLocale = none) := by
  simp only [run_eq_noData_iff]
  cases l.policy <;> simp

theorem outcome_of_result {α : Type} (result : Except LookupFault α) :
    Counter.ofResult result = .successes ∨ Counter.ofResult result = .missing ∨
      Counter.ofResult result = .failures := by
  match result with
  | .ok _ => exact .inl rfl
  | .error (.noData _) => exact .inr (.inl rfl)
  | .error (.assembly _) => exact .inr (.inr rfl)

section Counts

variable (l : Lookup) (path : String)

theorem count_requests_run : (l.run path).bumps.count .requests = 1 := by
  rw [run_bumps, opening]
  obtain h | h | h := outcome_of_result (l.run path).result <;> rw [h] <;> split <;> split <;> rfl

theorem count_defaultUsed_run :
    (l.run path).bumps.count .defaultUsed = if (l.detected? path).isNone then 1 else 0 := by
  rw [run_bumps, opening]
  generalize l.fallsBack (l.localeOf path) = back
  obtain h | h | h := outcome_of_result (l.run path).result <;> rw [h] <;>
    cases l.detected? path <;> cases back <;> rfl

theorem count_fallbacks_run :
    (l.run path).bumps.count .fallbacks = if l.fallsBack (l.localeOf path) then 1 else 0 := by
  rw [run_bumps, opening]
  obtain h | h | h := outcome_of_result (l.run path).result <;> rw [h] <;> split <;> split <;> rfl

theorem count_outcome_run {c : Counter} (outcome : c = .successes ∨ c = .missing ∨ c = .failures) :
    (l.run path).bumps.count c = if Counter.ofResult (l.run path).result = c then 1 else 0 := by
  rw [run_bumps, opening]
  obtain h | h | h := outcome_of_result (l.run path).result <;> rw [h] <;>
    obtain rfl | rfl | rfl := outcome <;> split <;> split <;> rfl

theorem count_run_le_one (c : Counter) :
    (l.run path).bumps.count c ≤ 1 := by
  cases c with
  | requests => exact Nat.le_of_eq (l.count_requests_run path)
  | defaultUsed => rw [count_defaultUsed_run]; split <;> omega
  | fallbacks => rw [count_fallbacks_run]; split <;> omega
  | missing => rw [count_outcome_run l path (.inr (.inl rfl))]; split <;> omega
  | failures => rw [count_outcome_run l path (.inr (.inr rfl))]; split <;> omega
  | successes => rw [count_outcome_run l path (.inl rfl)]; split <;> omega

theorem result_of_fallsBack (h : l.fallsBack (l.localeOf path) = true) (locale : Locale) :
    (l.run path).result ≠ .error (.noData locale) := by
  simp only [fallsBack, Bool.and_eq_true, decide_eq_true_eq, Option.isNone_iff_eq_none,
    Option.isSome_iff_exists] at h
  obtain ⟨⟨policy, -⟩, source, there⟩ := h
  rw [Ne, run_eq_noData_iff]
  simp [policy, there]

theorem balanced_run : Tally.Balanced (l.run path).bumps := by
  have requests := l.count_requests_run path
  have successes := l.count_outcome_run path (.inl rfl)
  have missing := l.count_outcome_run path (.inr (.inl rfl))
  have failures := l.count_outcome_run path (.inr (.inr rfl))
  have fallbacks := l.count_fallbacks_run path
  have defaultUsed := l.count_defaultUsed_run path
  have found := l.result_of_fallsBack path
  match result : (l.run path).result with
  | .ok _ =>
    simp only [result, Counter.ofResult] at successes missing failures
    constructor <;> grind
  | .error (.noData locale) =>
    simp only [result, Counter.ofResult] at successes missing failures found
    constructor <;> grind
  | .error (.assembly _) =>
    simp only [result, Counter.ofResult] at successes missing failures
    constructor <;> grind

end Counts

def greeting : Lookup :=
  { Lookup.new
      (Catalog.ofFound
        [("./en/translations.json", Source.ofMembers [("title", Json.Value.string "Hello")])])
      .flatten with
    policy := .fallback }

example : (greeting.run "/de/start").bumps = [.requests, .fallbacks, .successes] := by rfl

end Lookup
end Phrasebook
