import Phrasebook.Choice
import Phrasebook.Glossary
import Phrasebook.Text.Utf8

/-!
Settings, from the variables of the environment. A variable whose value is not text counts as not
set. Only the two choices can be wrong; everything else has a value to fall back on.
-/
namespace Phrasebook

open Utf8 (Bytes)

/-- The values of variables by name; of several with one name the first counts. -/
abbrev Environment := List (String × Bytes)

def Environment.text? (env : Environment) (name : String) : Option String :=
  (env.lookup name).bind Utf8.decode?

structure Settings where
  folder : String
  defaultLocale : Locale
  policy : Policy
  strategy : Strategy
  socket : Nat
  key : Option String
  deriving DecidableEq, Repr

inductive SettingsFault where
  | policy (cause : UnknownChoice)
  | strategy (cause : UnknownChoice)
  deriving DecidableEq, Repr

def SettingsFault.chain : SettingsFault → List String
  | .policy cause => ["Invalid MISSING_LANGUAGE_POLICY", cause.message]
  | .strategy cause => ["Invalid ASSEMBLY_STRATEGY", cause.message]

namespace Settings

def standardSocket : Nat := 8080

def socketNumber? (text : String) : Option Nat :=
  let digits :=
    match text.toList with
    | '+' :: rest => rest
    | cs => cs
  let n := Nat.ofDigitChars 10 digits 0
  if digits.isEmpty || !digits.all Char.isDigit || 65536 ≤ n then none else some n

def notBlank? (text : String) : Option String :=
  let trimmed := Text.trim text
  if trimmed = "" then none else some trimmed

def policyOf (env : Environment) : Except SettingsFault Policy :=
  match env.text? "MISSING_LANGUAGE_POLICY" with
  | none => .ok .reject
  | some given =>
    match Policy.parse given with
    | .ok policy => .ok policy
    | .error cause => .error (.policy cause)

def strategyOf (env : Environment) : Except SettingsFault Strategy :=
  match env.text? "ASSEMBLY_STRATEGY" with
  | none => .ok .flatten
  | some given =>
    match Strategy.parse given with
    | .ok strategy => .ok strategy
    | .error cause => .error (.strategy cause)

def ofEnvironment (env : Environment) : Except SettingsFault Settings :=
  match policyOf env with
  | .error fault => .error fault
  | .ok policy =>
    match strategyOf env with
    | .error fault => .error fault
    | .ok strategy =>
      .ok {
        folder := (env.text? "TRANSLATIONS_DIR").getD "translations"
        defaultLocale :=
          (((env.text? "DEFAULT_LANGUAGE").bind notBlank?).map Locale.mk).getD .english
        policy
        strategy
        socket := ((env.text? "PORT").bind socketNumber?).getD standardSocket
        key := (env.text? "API_KEY").filter (· ≠ "") }

end Settings
end Phrasebook
