import Phrasebook.Text.Characters

/-!
What a deployment chooses by name: what to do for a locale that has no source, and how a source is
made into a glossary. Names are read without regard to blanks around them and to the case of ASCII
letters.
-/
namespace Phrasebook

inductive UnknownChoice where
  | policy (given : String)
  | strategy (given : String)
  deriving DecidableEq, Repr

def UnknownChoice.message : UnknownChoice → String
  | .policy given => "Unknown missing language policy: '" ++ given ++ "'"
  | .strategy given => "Unknown assembly strategy: '" ++ given ++ "'"

/-- What to do when a locale has no source. -/
inductive Policy where
  | reject
  | fallback
  deriving DecidableEq, Repr

inductive Strategy where
  | flatten
  | unimplemented
  deriving DecidableEq, Repr

def plainName (given : String) : String := Text.lowerAscii (Text.trim given)

namespace Policy

def parse (given : String) : Except UnknownChoice Policy :=
  let name := plainName given
  if name = "reject" then .ok .reject
  else if name = "fallback" ∨ name = "fallback-to-default" then .ok .fallback
  else .error (.policy name)

def name : Policy → String
  | .reject => "reject"
  | .fallback => "fallback"

def title : Policy → String
  | .reject => "Reject"
  | .fallback => "FallbackToDefault"

end Policy

namespace Strategy

def parse (given : String) : Except UnknownChoice Strategy :=
  let name := plainName given
  if name = "flatten" then .ok .flatten
  else if name = "unimplemented" ∨ name = "todo" then .ok .unimplemented
  else .error (.strategy name)

def name : Strategy → String
  | .flatten => "flatten"
  | .unimplemented => "unimplemented"

def title : Strategy → String
  | .flatten => "Flatten"
  | .unimplemented => "Unimplemented"

end Strategy
end Phrasebook
