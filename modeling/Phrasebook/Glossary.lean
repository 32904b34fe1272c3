import Phrasebook.Json.Record

/-!
Locales, sources and glossaries. A code is two small ASCII letters, or these, a hyphen and two ASCII
letters of any case; the path of a page names the locale whose code is its first part that is not
empty, if that part is a code. A source is what the authors of one locale write, an object tree of
any shape with its names in order. A glossary has the phrases of one locale, each a display text
under a flat key.
-/
namespace Phrasebook

open Json

/-- A locale, known by its code. Not every text that can stand here is a code that a path can name:
a folder may be called anything. -/
structure Locale where
  code : String
  deriving DecidableEq, Repr

namespace Locale

def english : Locale := ⟨"en"⟩

def isSmallLetter (c : Char) : Bool := 97 ≤ c.toNat && c.toNat ≤ 122

def isCapitalLetter (c : Char) : Bool := 65 ≤ c.toNat && c.toNat ≤ 90

def isLetter (c : Char) : Bool := isSmallLetter c || isCapitalLetter c

def isCode : List Char → Bool
  | [a, b] => isSmallLetter a && isSmallLetter b
  | [a, b, hyphen, c, d] =>
    isSmallLetter a && isSmallLetter b && hyphen = '-' && isLetter c && isLetter d
  | _ => false

def firstPart (path : List Char) : List Char :=
  (path.dropWhile (· = '/')).takeWhile (· ≠ '/')

def ofPath? (path : String) : Option Locale :=
  let part := firstPart path.toList
  if isCode part then some ⟨String.ofList part⟩ else none

def sorted (locales : List Locale) : List Locale :=
  (locales.mergeSort fun a b => decide (a.code ≤ b.code)).eraseDups

def toValue (l : Locale) : Value := .string l.code

def ofValue? : Value → Option Locale
  | .string code => some ⟨code⟩
  | _ => none

def ofJson (text : String) : Except Fault Locale :=
  readAll (Json.text.into "a string" ofValue?) text

end Locale

structure Source where
  members : List (String × Value)
  ordered : (Value.object members).Ordered

namespace Source

/-- The source with these members; of several with one name the last counts, at every level. -/
def ofMembers (members : List (String × Value)) : Source where
  members := Entries.ofList (Value.orderedMembers members)
  ordered := by
    have h := Value.ordered_ordered (.object members)
    rwa [Value.ordered] at h

def ofValue? : Value → Option Source
  | .object members => some (ofMembers members)
  | _ => none

def toValue (s : Source) : Value := .object s.members

def text (s : Source) : String := s.toValue.text

def reader : Reader Source := (tableOf anything).into "a map" ofValue?

def ofJson (text : String) : Except Fault Source := readAll reader text

end Source

structure Glossary where
  locale : Locale
  phrases : Table String

namespace Glossary

def get? (g : Glossary) (key : String) : Option String := g.phrases.get? key

def size (g : Glossary) : Nat := g.phrases.size

def isEmpty (g : Glossary) : Bool := g.phrases.isEmpty

def phrasesValue (phrases : Table String) : Value :=
  .object (phrases.entries.map fun (key, text) => (key, .string text))

def toValue (g : Glossary) : Value :=
  .object [("language", g.locale.toValue), ("entries", phrasesValue g.phrases)]

def ofValue? : Value → Option Glossary
  | .object [(_, .string code), (_, phrases)] =>
    (texts? phrases).map fun pairs => ⟨⟨code⟩, Table.ofList pairs⟩
  | _ => none

def reader : Reader Value :=
  record "a glossary" [⟨"language", text, none⟩, ⟨"entries", tableOf text, none⟩]

def ofJson (text : String) : Except Fault Glossary :=
  readAll (reader.into "a glossary" ofValue?) text

end Glossary
end Phrasebook
