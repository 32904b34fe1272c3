import Phrasebook.Choice
import Phrasebook.Glossary

/-!
Making a source into a glossary. Flattening visits the members of the source in order, objects
before what follows them: strings, numbers and booleans become phrases under the names on the way
to them, joined by points; nulls are dropped; a list cannot be made into a phrase and ends it.
-/
namespace Phrasebook

open Json

inductive AssemblyFault where
  | unimplemented
  | unsupported (key kind : String)
  deriving DecidableEq, Repr

def AssemblyFault.message : AssemblyFault → String
  | .unimplemented => "todo"
  | .unsupported key kind =>
    "translation entry '" ++ key ++ "' has unsupported value type " ++ kind

namespace Flatten

/-- The key of a member `name` of the object under `key`; the source itself has the empty key. -/
def join (key name : String) : String := if key = "" then name else key ++ "." ++ name

mutual

def phrases (key : String) : Value → Except AssemblyFault (List (String × String))
  | .string s => .ok [(key, s)]
  | .number n => .ok [(key, n.text)]
  | .bool b => .ok [(key, if b then "true" else "false")]
  | .null => .ok []
  | .object members => memberPhrases key members
  | .array _ => .error (.unsupported key "array")

def memberPhrases (key : String) :
    List (String × Value) → Except AssemblyFault (List (String × String))
  | [] => .ok []
  | (name, v) :: rest =>
    match phrases (join key name) v with
    | .error e => .error e
    | .ok first =>
      match memberPhrases key rest with
      | .error e => .error e
      | .ok more => .ok (first ++ more)

end

/-- Of several phrases with one key the one met last is kept. -/
def glossary (locale : Locale) (source : Source) : Except AssemblyFault Glossary :=
  match memberPhrases "" source.members with
  | .error e => .error e
  | .ok all => .ok ⟨locale, Table.ofList all⟩

end Flatten

def Strategy.assemble : Strategy → Locale → Source → Except AssemblyFault Glossary
  | .flatten, locale, source => Flatten.glossary locale source
  | .unimplemented, _, _ => .error .unimplemented

end Phrasebook
