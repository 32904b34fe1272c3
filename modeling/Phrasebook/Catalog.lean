import Phrasebook.Event
import Phrasebook.Table
import Phrasebook.Text.Parts

/-!
The catalog of sources by locale. It is made from a list of paths with their contents: the second
part of a path is the code of the locale, a path without one is left out with a warning, and of
several with one code the last is kept, each later one with a warning that names the one before.
-/
namespace Phrasebook

structure Catalog (α : Type) where
  byCode : Table α

namespace Catalog

variable {α : Type}

def empty : Catalog α := ⟨Table.empty⟩

def get? (c : Catalog α) (locale : Locale) : Option α := c.byCode.get? locale.code

def contains (c : Catalog α) (locale : Locale) : Bool := c.byCode.contains locale.code

def locales (c : Catalog α) : List Locale := c.byCode.keys.map Locale.mk

def contents (c : Catalog α) : List α := c.byCode.values

def size (c : Catalog α) : Nat := c.byCode.size

def isEmpty (c : Catalog α) : Bool := c.byCode.isEmpty

/-- The locale of a path: its second part, if that is not empty. -/
def localeOf? (path : String) : Option Locale :=
  match (Text.parts '/' path.toList)[1]? with
  | none => none
  | some part => if part.isEmpty then none else some ⟨String.ofList part⟩

/-- A catalog in the making, with the path of each entry and the warnings so far. -/
structure Draft (α : Type) where
  catalog : Catalog α
  paths : Table String
  events : List Event

def Draft.step (d : Draft α) (found : String × α) : Draft α :=
  match localeOf? found.1 with
  | none => { d with events := d.events ++ [.noLocale found.1] }
  | some locale =>
    { catalog := ⟨d.catalog.byCode.insert locale.code found.2⟩
      paths := d.paths.insert locale.code found.1
      events :=
        match d.paths.get? locale.code with
        | none => d.events
        | some previous => d.events ++ [.replaced locale previous found.1] }

def draft (found : List (String × α)) : Draft α :=
  found.foldl Draft.step ⟨empty, Table.empty, []⟩

def ofFound (found : List (String × α)) : Catalog α := (draft found).catalog

def warnings (found : List (String × α)) : List Event := (draft found).events

end Catalog

inductive CellFault where
  | notInstalled
  | alreadyInstalled
  deriving DecidableEq, Repr

def CellFault.message : CellFault → String
  | .notInstalled => "translation module index has not been initialized"
  | .alreadyInstalled => "translation module index is already initialized"

structure Cell (α : Type) where
  held : Option α

namespace Cell

variable {α : Type}

def empty : Cell α := ⟨none⟩

def get (c : Cell α) : Except CellFault α :=
  match c.held with
  | none => .error .notInstalled
  | some a => .ok a

def install (c : Cell α) (a : α) : Except CellFault (Cell α) :=
  match c.held with
  | none => .ok ⟨some a⟩
  | some _ => .error .alreadyInstalled

end Cell
end Phrasebook
