import Phrasebook.Event
import Phrasebook.Text.Characters
import Phrasebook.Text.Parts

/-!
Which events are written to the log. A filter is a list of directives, each with a target, a level,
and maybe a field. A directive covers the events whose origin starts with its target and which have
its field. Of those that cover an event the most particular one counts: the one with the longest
target, of these one with a field, of these the last by the name of the field, and of several that
have all this in common the last one given. Directives that name a span, or ask for the value of a
field, are about spans; they are passed over, as no event stands within a span.
-/
namespace Phrasebook

def Level.rank : Level → Nat
  | .warn => 2
  | .info => 3

def Event.fieldNames (e : Event) : List String := "message" :: e.fields.map Prod.fst

structure Directive where
  target : List Char
  field : Option String
  level : Nat
  deriving DecidableEq, Repr

namespace Directive

def levelNames : List String := ["off", "error", "warn", "info", "debug", "trace"]

def trace : Nat := 5

def level? (cs : List Char) : Option Nat :=
  match cs with
  | [c] => if '0' ≤ c && c ≤ '5' then some (c.toNat - '0'.toNat) else none
  | cs => levelNames.idxOf? (Text.lowerAscii (String.ofList cs))

def isTargetChar (c : Char) : Bool := c.isAlphanum || "_:-".toList.contains c

/-- The field that is asked for between brackets and braces, and what follows these. Where no
bracket opens, no field is asked for. -/
def field? (cs : List Char) : Option (Option String × List Char) :=
  match cs with
  | '[' :: '{' :: rest =>
    let name := rest.takeWhile (· ≠ '}')
    match rest.drop name.length with
    | '}' :: ']' :: rest =>
      if name.isEmpty || name.contains '=' then none else some (some (String.ofList name), rest)
    | _ => none
  | cs => some (none, cs)

def ofChars? (cs : List Char) : Option Directive :=
  match level? cs with
  | some level => some ⟨[], none, level⟩
  | none => do
    let target := cs.takeWhile isTargetChar
    let (field, rest) ← field? (cs.drop target.length)
    if target.isEmpty && field.isNone then none
    else
      match rest with
      | [] | ['='] => some ⟨target, field, trace⟩
      | '=' :: rest => (level? rest).map fun level => ⟨target, field, level⟩
      | _ => none

def own : Directive := ⟨"translation_resolver".toList, none, Level.info.rank⟩

def covers (d : Directive) (e : Event) : Bool :=
  d.target.isPrefixOf e.origin.toList && d.field.all e.fieldNames.contains

/-- Whether a directive counts that comes after another one, for the events that both cover. -/
def counts (before d : Directive) : Bool :=
  before.target.length < d.target.length ||
    before.target.length = d.target.length &&
      match before.field, d.field with
      | none, _ => true
      | some _, none => false
      | some one, some other => one ≤ other

def better (e : Event) (best d : Directive) : Directive :=
  if d.covers e && best.counts d then d else best

end Directive

abbrev LogFilter := List Directive

namespace LogFilter

def ofText (text : String) : LogFilter :=
  (Text.parts ',' text.toList).filterMap Directive.ofChars? ++ [.own]

def levelFor (filter : LogFilter) (e : Event) : Nat :=
  (filter.foldl (Directive.better e) ⟨[], none, 0⟩).level

def shows (filter : LogFilter) (e : Event) : Bool := e.level.rank ≤ filter.levelFor e

end LogFilter
end Phrasebook
