import Phrasebook.Proofs.Lookup

/-!
What the policy changes. A lookup that rejects and one that falls back come to the same, counters
and log included, unless the locale that is asked for has no source; then the one says so, and the
other does what it does for a page that names no locale.
-/
namespace Phrasebook

namespace Lookup

def under (l : Lookup) (policy : Policy) : Lookup := { l with policy }

section Found

variable {l : Lookup} {path : String} {source : Source}

theorem run_under_of_some (here : l.catalog.get? (l.localeOf path) = some source)
    (policy other : Policy) : (l.under policy).run path = (l.under other).run path := by
  have found : ∀ p, (l.under p).find (l.localeOf path) = ⟨.ok (l.localeOf path, source), [], []⟩ :=
    fun p => find_of_some (l := l.under p) here
  have same : (l.under policy).find ((l.under policy).localeOf path) =
      (l.under other).find ((l.under other).localeOf path) := (found policy).trans (found other).symm
  unfold run
  rw [same]
  rfl

theorem run_of_undetected (undetected : l.detected? path = none)
    (there : l.catalog.get? l.defaultLocale = some source) :
    (l.run path).result = (l.assemble l.defaultLocale source).result := by
  have locale : l.localeOf path = l.defaultLocale := by
    rw [localeOf, undetected]
    rfl
  rw [← locale] at there ⊢
  exact run_of_some there

theorem run_fallback_of_none (absent : l.catalog.get? (l.localeOf path) = none)
    (there : l.catalog.get? l.defaultLocale = some source) :
    ((l.under .fallback).run path).result = (l.assemble l.defaultLocale source).result := by
  obtain ⟨source', here, -⟩ | ⟨-, policy, -⟩ | ⟨source', -, -, there', found⟩ | ⟨-, -, nowhere, -⟩ :=
    (l.under .fallback).find_cases (l.localeOf path)
  · cases absent.symm.trans here
  · cases policy
  · cases there.symm.trans there'
    exact (run_of_found found).1
  · cases there.symm.trans nowhere

theorem run_fallback_of_neither (absent : l.catalog.get? (l.localeOf path) = none)
    (nowhere : l.catalog.contains l.defaultLocale = false) :
    ((l.under .fallback).run path).result = .error (.noData l.defaultLocale) := by
  have none : l.catalog.get? l.defaultLocale = none := by
    simpa [Catalog.contains, Catalog.get?, Table.contains] using nowhere
  exact ((l.under .fallback).run_eq_noData_iff path _).2 ⟨absent, .inr ⟨rfl, none, rfl⟩⟩

theorem run_reject_of_none (absent : l.catalog.get? (l.localeOf path) = none) :
    ((l.under .reject).run path).result = .error (.noData (l.localeOf path)) :=
  ((l.under .reject).run_eq_noData_iff path _).2 ⟨absent, .inl ⟨rfl, rfl⟩⟩

end Found

/-- A lookup that falls back next to one that rejects and is the same otherwise, for every page. -/
theorem run_under_fallback (l : Lookup) (path : String) :
    let requested := l.localeOf path
    let strict := (l.under .reject).run path
    let lenient := (l.under .fallback).run path
    (lenient = strict ∨ strict.result = .error (.noData requested)) ∧
    (strict.result = .error (.noData requested) →
      (l.catalog.contains l.defaultLocale = true → ∀ detect policy other,
        (l.detecting detect).detected? other = none →
        lenient.result = (((l.detecting detect).under policy).run other).result) ∧
      (l.catalog.contains l.defaultLocale = false →
        lenient.result = .error (.noData l.defaultLocale))) ∧
    (∀ g, strict.result = .ok g → lenient = strict) ∧
    (∀ fault, strict.result = .error (.assembly fault) → lenient = strict) ∧
    ∀ locale, lenient.result = .error (.noData locale) →
      strict.result = .error (.noData requested) := by
  intro requested strict lenient
  cases here : l.catalog.get? requested with
  | some source =>
    have same : lenient = strict := run_under_of_some here .fallback .reject
    have found : ∀ locale, strict.result ≠ .error (.noData locale) := by
      intro locale missing
      obtain ⟨absent, -⟩ := ((l.under .reject).run_eq_noData_iff path locale).1 missing
      cases here.symm.trans absent
    refine ⟨.inl same, fun missing => absurd missing (found _), fun _ _ => same, fun _ _ => same, ?_⟩
    intro locale missing
    exact absurd (same ▸ missing) (found locale)
  | none =>
    have missing : strict.result = .error (.noData requested) := run_reject_of_none here
    refine ⟨.inr missing, fun _ => ⟨?_, run_fallback_of_neither here⟩, ?_, ?_, fun _ _ => missing⟩
    · intro indexed detect policy other undetected
      obtain ⟨source, there⟩ := Option.isSome_iff_exists.1 indexed
      have plain := run_of_undetected (l := (l.detecting detect).under policy) undetected there
      exact (run_fallback_of_none here there).trans plain.symm
    · intro g made
      cases missing.symm.trans made
    · intro fault failed
      cases missing.symm.trans failed

theorem run_under_fallback_greeting :
    let lost := { greeting with defaultLocale := ⟨"fr"⟩ }
    let idle := { greeting with strategy := .unimplemented }
    (greeting.under .fallback).run "/en" = (greeting.under .reject).run "/en" ∧
      ((greeting.under .reject).run "/de").result = .error (.noData ⟨"de"⟩) ∧
      ((greeting.under .fallback).run "/de").result = ((greeting.under .reject).run "/").result ∧
      ((lost.under .fallback).run "/de").result = .error (.noData ⟨"fr"⟩) ∧
      ((lost.under .reject).run "/de").result = .error (.noData ⟨"de"⟩) ∧
      (idle.under .fallback).run "/en" = (idle.under .reject).run "/en" := by
  intro lost idle
  obtain ⟨-, -, agree, -⟩ := greeting.run_under_fallback "/en"
  obtain ⟨-, rescued, -⟩ := greeting.run_under_fallback "/de"
  obtain ⟨-, nowhere, -, -, both⟩ := lost.run_under_fallback "/de"
  obtain ⟨-, -, -, failed, -⟩ := idle.run_under_fallback "/en"
  obtain ⟨g, made⟩ : ∃ g, ((greeting.under .reject).run "/en").result = .ok g := ⟨_, rfl⟩
  have missing : ((greeting.under .reject).run "/de").result = .error (.noData ⟨"de"⟩) := rfl
  have neither : ((lost.under .fallback).run "/de").result = .error (.noData ⟨"fr"⟩) :=
    (nowhere rfl).2 rfl
  exact ⟨agree g made, missing, (rescued missing).1 rfl greeting.detect .reject "/" rfl, neither,
    both _ neither, failed .unimplemented rfl⟩

end Lookup
end Phrasebook
