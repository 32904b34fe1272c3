import Phrasebook.Proofs.Flatten
import Phrasebook.Proofs.Lookup
import Phrasebook.Proofs.Survey

/-!
From a tree of files to the glossary for the path of a page. The catalog of what is found in a tree
serves the locale that a path names if its folder has a file, or else what the policy says; the
glossary is made from the preferred file of the one folder that is served.
-/
namespace Phrasebook

open Utf8 (Bytes)

namespace Pipeline

def hasData (top : Tree) (home : List Name) (path : Bytes) (locale : Locale) : Bool :=
  Survey.extensions.any fun e => (Survey.moduleFile? top home path locale.code e).isSome

/-- Whether a result is the assembly of the file that is preferred in the folder of a locale: the
glossary of that locale with the phrases of the file, or the fault of a list in it. -/
def Assembles (read : Readers) (top : Tree) (home : List Name) (path : Bytes) (locale : Locale)
    (result : Except LookupFault Glossary) : Prop :=
  ∃ source, Survey.winner? read (Survey.moduleFile? top home path locale.code) = some source ∧
    ((∃ phrases, Flatten.memberPhrases "" source.members = .ok phrases ∧
        result = .ok ⟨locale, Table.ofList phrases⟩) ∨
      ∃ key, Flatten.memberPhrases "" source.members = .error (.unsupported key "array") ∧
        result = .error (.assembly (.unsupported key "array")))

/-- The lookup over a catalog that detects locales from paths and flattens sources. -/
def flattening (catalog : Catalog Source) (defaultLocale : Locale) (policy : Policy) : Lookup :=
  { Lookup.new catalog .flatten with defaultLocale, policy }

theorem localeOf_flattening (catalog : Catalog Source) (defaultLocale : Locale) (policy : Policy)
    (pathname : String) :
    (flattening catalog defaultLocale policy).localeOf pathname =
      (Locale.ofPath? pathname).getD defaultLocale :=
  Lookup.localeOf_of_detect rfl pathname

variable {read : Readers} {top : Tree} {home : List Name} {path : Bytes}

theorem assemble_flattening (l : Lookup) (flattens : l.strategy = .flatten) {locale : Locale}
    {source : Source}
    (wins : Survey.winner? read (Survey.moduleFile? top home path locale.code) = some source) :
    Assembles read top home path locale (l.assemble locale source).result := by
  refine ⟨source, wins, ?_⟩
  have made := l.assemble_result locale source
  rw [flattens, Strategy.assemble, Flatten.glossary] at made
  cases flat : Flatten.memberPhrases "" source.members with
  | ok phrases =>
    rw [flat] at made
    exact .inl ⟨phrases, rfl, made⟩
  | error fault =>
    obtain ⟨key, rfl⟩ := Flatten.memberPhrases_eq_error "" fault _ flat
    rw [flat] at made
    exact .inr ⟨key, rfl, made⟩

section Served

variable {root : String} {found : List (String × Source)} (proper : top.Proper)
  (ok : (Survey.ofTree read top home path root).result = .ok found)
include proper ok

theorem hasData_iff (locale : Locale) :
    hasData top home path locale = true ↔ ((Catalog.ofFound found).get? locale).isSome = true := by
  rw [Survey.get?_isSome_of_ofTree proper ok, hasData, List.any_eq_true]

theorem get?_of_not_hasData {locale : Locale} (none : hasData top home path locale = false) :
    (Catalog.ofFound found).get? locale = .none := by
  rw [← Option.not_isSome_iff_eq_none, ← hasData_iff proper ok, none]
  nofun

theorem get?_of_hasData {locale : Locale} (some : hasData top home path locale = true) :
    ∃ source, (Catalog.ofFound found).get? locale = .some source ∧
      Survey.winner? read (Survey.moduleFile? top home path locale.code) = .some source := by
  obtain ⟨source, here⟩ := Option.isSome_iff_exists.1 ((hasData_iff proper ok locale).1 some)
  exact ⟨source, here, Survey.get?_of_ofTree proper ok locale ▸ here⟩

end Served

/-- What a lookup over all that is found in a tree comes to, for every path of a page. -/
theorem run_flattening (read : Readers) (top : Tree) (proper : top.Proper) (home : List Name)
    (path : Bytes) (root : String) (found : List (String × Source))
    (ok : (Survey.ofTree read top home path root).result = .ok found) (defaultLocale : Locale)
    (policy : Policy) (pathname : String) :
    let l := flattening (Catalog.ofFound found) defaultLocale policy
    let requested := l.localeOf pathname
    let result := (l.run pathname).result
    requested = (Locale.ofPath? pathname).getD defaultLocale ∧
    (hasData top home path requested = true → Assembles read top home path requested result) ∧
    (hasData top home path requested = false → policy = .fallback →
      hasData top home path defaultLocale = true →
      Assembles read top home path defaultLocale result) ∧
    (hasData top home path requested = false → policy = .fallback →
      hasData top home path defaultLocale = false → result = .error (.noData defaultLocale)) ∧
    (hasData top home path requested = false → policy = .reject →
      result = .error (.noData requested)) := by
  intro l requested result
  refine ⟨localeOf_flattening _ _ _ pathname, fun here => ?_, fun absent fallback there => ?_,
    fun absent fallback nowhere => ?_, fun absent reject => ?_⟩
  · obtain ⟨source, get, wins⟩ := get?_of_hasData proper ok here
    have found : l.find requested = ⟨.ok (requested, source), [], []⟩ := by
      rw [Lookup.find, show l.catalog.get? requested = some source from get]
    show Assembles read top home path requested (l.run pathname).result
    rw [(Lookup.run_of_found found).1]
    exact assemble_flattening l rfl wins
  · obtain ⟨source, get, wins⟩ := get?_of_hasData proper ok there
    have found : l.find requested =
        ⟨.ok (defaultLocale, source), [.fallbacks], [.fellBack requested defaultLocale]⟩ := by
      rw [Lookup.find, show l.catalog.get? requested = none from get?_of_not_hasData proper ok absent,
        show l.policy = .fallback from fallback,
        show l.catalog.get? l.defaultLocale = some source from get]
      rfl
    show Assembles read top home path defaultLocale (l.run pathname).result
    rw [(Lookup.run_of_found found).1]
    exact assemble_flattening l rfl wins
  · refine (l.run_eq_noData_iff pathname defaultLocale).2
      ⟨get?_of_not_hasData proper ok absent, .inr ⟨fallback, ?_, rfl⟩⟩
    exact get?_of_not_hasData proper ok nowhere
  · exact (l.run_eq_noData_iff pathname requested).2
      ⟨get?_of_not_hasData proper ok absent, .inl ⟨reject, rfl⟩⟩

theorem run_flattening_phrases :
    Survey.phrases.Proper ∧ ∃ found,
      (Survey.ofTree Format.read Survey.phrases [] (Utf8.encode ".") "").result = .ok found ∧
      hasData Survey.phrases [] (Utf8.encode ".") ⟨"en"⟩ = true ∧
      hasData Survey.phrases [] (Utf8.encode ".") ⟨"de"⟩ = false ∧
      Assembles Format.read Survey.phrases [] (Utf8.encode ".") ⟨"en"⟩
        ((flattening (Catalog.ofFound found) ⟨"en"⟩ .fallback).run "/de/start").result ∧
      ((flattening (Catalog.ofFound found) ⟨"en"⟩ .reject).run "/de/start").result =
        .error (.noData ⟨"de"⟩) := by
  obtain ⟨found, ok⟩ := Survey.ofTree_phrases
  have english : hasData Survey.phrases [] (Utf8.encode ".") ⟨"en"⟩ = true := by decide +kernel
  have german : hasData Survey.phrases [] (Utf8.encode ".") ⟨"de"⟩ = false := by decide +kernel
  have run := fun policy => run_flattening _ _ Survey.proper_phrases _ _ _ found ok ⟨"en"⟩ policy
    "/de/start"
  have requested : (Locale.ofPath? "/de/start").getD ⟨"en"⟩ = ⟨"de"⟩ := by decide
  refine ⟨Survey.proper_phrases, found, ok, english, german, ?_, ?_⟩
  · obtain ⟨locale, -, serves, -, -⟩ := run .fallback
    rw [requested] at locale
    rw [locale] at serves
    exact serves german rfl english
  · obtain ⟨locale, -, -, -, rejects⟩ := run .reject
    rw [requested] at locale
    rw [locale] at rejects
    exact rejects german rfl

end Pipeline
end Phrasebook
