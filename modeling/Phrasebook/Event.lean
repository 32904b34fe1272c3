import Phrasebook.Flatten
import Phrasebook.Text.Quoted

/-!
What the program says in its log. An event has a level, the part of the program that it comes from,
a message, and named fields in the order in which they are written.
-/
namespace Phrasebook

inductive Level where
  | info
  | warn
  deriving DecidableEq, Repr

def Level.name : Level → String
  | .info => "INFO"
  | .warn => "WARN"

inductive Event where
  | starting
  | surveyed (root : String) (count : Nat)
  | unnamedFolder (shown : String)
  | unsupportedFile (shown : String)
  | noLocale (path : String)
  | replaced (locale : Locale) (previous replacement : String)
  | indexed (locales : List Locale)
  | nothingFound (root : String)
  | defaultAbsent (locale : Locale)
  | ready (strategy : Strategy) (policy : Policy)
  | noData (locale : Locale)
  | fellBack (locale fallback : Locale)
  | noFallback (locale fallback : Locale)
  | emptyGlossary (locale : Locale)
  | notAssembled (locale : Locale) (fault : AssemblyFault)
  | keyRejected
  deriving DecidableEq, Repr

namespace Event

def level : Event → Level
  | starting | surveyed .. | indexed _ | ready .. => .info
  | _ => .warn

def message : Event → String
  | starting => "Starting translation resolver"
  | surveyed .. => "Discovered translation modules"
  | unnamedFolder _ => "Skipping directory with non UTF-8 name"
  | unsupportedFile _ => "Skipping translation module with unsupported format"
  | noLocale _ => "Skipping translation module without a language segment"
  | replaced .. => "Duplicate translation module, keeping the later one"
  | indexed locales =>
    "Indexed " ++ toString locales.length ++ " languages: [" ++
      ", ".intercalate (locales.map fun l => "LanguageCode(" ++ Text.quoted l.code ++ ")") ++ "]"
  | nothingFound _ => "No translation modules found"
  | defaultAbsent _ => "Default language has no translation module"
  | ready strategy policy =>
    "Resolver ready (strategy: " ++ strategy.title ++ ", missing language policy: " ++
      policy.title ++ ")"
  | noData _ => "No translation data for language"
  | fellBack .. => "No translation data for language, using default language"
  | noFallback .. => "No translation data for language or default language"
  | emptyGlossary _ => "Assembled an empty translation dictionary"
  | notAssembled .. => "Failed to assemble translations"
  | keyRejected => "Rejected metrics request with missing or invalid API key"

def fields : Event → List (String × String)
  | surveyed root count => [("root", root), ("count", toString count)]
  | unnamedFolder shown => [("dir", shown)]
  | unsupportedFile shown => [("file", shown)]
  | noLocale path => [("path", path)]
  | replaced locale previous replacement =>
    [("language", locale.code), ("previous", previous), ("replacement", replacement)]
  | nothingFound root => [("dir", root)]
  | defaultAbsent locale => [("language", locale.code)]
  | noData locale => [("language", locale.code)]
  | fellBack locale fallback | noFallback locale fallback =>
    [("language", locale.code), ("fallback", fallback.code)]
  | emptyGlossary locale => [("language", locale.code)]
  | notAssembled locale fault => [("language", locale.code), ("error", fault.message)]
  | starting | indexed _ | ready .. | keyRejected => []

def origin : Event → String
  | starting | indexed _ | nothingFound _ | defaultAbsent _ | ready .. => "translation_resolver"
  | surveyed .. | unnamedFolder _ | unsupportedFile _ => "translation_resolver::i18n::discovery"
  | noLocale _ | replaced .. => "translation_resolver::i18n::registry"
  | noData _ | fellBack .. | noFallback .. | emptyGlossary _ | notAssembled .. =>
    "translation_resolver::i18n::resolver"
  | keyRejected => "translation_resolver::server"

end Event
end Phrasebook
