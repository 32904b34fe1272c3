import Phrasebook.Catalog
import Phrasebook.Tally

/-!
Looking up the glossary for the path of a page. The locale that the path names, or else the default
one, is looked for in the catalog; when it is not there the policy decides; what was found is
assembled. A lookup changes nothing: its outcome carries the counters that it bumps, in the order
in which it does, and the events that it logs.
-/
namespace Phrasebook

inductive LookupFault where
  | noData (locale : Locale)
  | assembly (fault : AssemblyFault)
  deriving DecidableEq, Repr

def LookupFault.message : LookupFault → String
  | .noData locale => "no translation data for language '" ++ locale.code ++ "'"
  | .assembly fault => fault.message

structure Lookup where
  catalog : Catalog Source
  strategy : Strategy
  detect : String → Option Locale
  defaultLocale : Locale
  policy : Policy

/-- What one step of a lookup comes to, with the counters it bumps and the events it logs. -/
structure Outcome (α : Type) where
  result : Except LookupFault α
  bumps : List Counter
  events : List Event

namespace Lookup

def new (catalog : Catalog Source) (strategy : Strategy) : Lookup where
  catalog := catalog
  strategy := strategy
  detect := Locale.ofPath?
  defaultLocale := .english
  policy := .reject

/-- The locale that a path names; one with an empty code counts as none. -/
def detected? (l : Lookup) (path : String) : Option Locale :=
  (l.detect path).filter fun locale => locale.code ≠ ""

def localeOf (l : Lookup) (path : String) : Locale := (l.detected? path).getD l.defaultLocale

/-- The source for a locale, with the locale that it was found for. -/
def find (l : Lookup) (locale : Locale) : Outcome (Locale × Source) :=
  match l.catalog.get? locale with
  | some source => ⟨.ok (locale, source), [], []⟩
  | none =>
    match l.policy with
    | .reject => ⟨.error (.noData locale), [.missing], [.noData locale]⟩
    | .fallback =>
      match l.catalog.get? l.defaultLocale with
      | some source =>
        ⟨.ok (l.defaultLocale, source), [.fallbacks], [.fellBack locale l.defaultLocale]⟩
      | none =>
        ⟨.error (.noData l.defaultLocale), [.missing], [.noFallback locale l.defaultLocale]⟩

def assemble (l : Lookup) (locale : Locale) (source : Source) : Outcome Glossary :=
  match l.strategy.assemble locale source with
  | .ok g => ⟨.ok g, [.successes], if g.isEmpty then [.emptyGlossary locale] else []⟩
  | .error fault => ⟨.error (.assembly fault), [.failures], [.notAssembled locale fault]⟩

def run (l : Lookup) (path : String) : Outcome Glossary :=
  let start : List Counter :=
    match l.detected? path with
    | some _ => [.requests]
    | none => [.requests, .defaultUsed]
  let found := l.find (l.localeOf path)
  match found.result with
  | .error fault => ⟨.error fault, start ++ found.bumps, found.events⟩
  | .ok (locale, source) =>
    let made := l.assemble locale source
    ⟨made.result, start ++ found.bumps ++ made.bumps, found.events ++ made.events⟩

end Lookup
end Phrasebook
