import Phrasebook.Settings
import Phrasebook.Text.Characters

/-!
Files of settings. A line is `NAME=VALUE`, maybe after `export`, or blank or a comment; a value may
be quoted in part and go on over lines, and a name after a dollar sign stands for its value. The
lines are read one after the other up to the first that is malformed, and none of them replaces a
variable that is set to a text.
-/
namespace Phrasebook.EnvFile

open Utf8 (Bytes)

def rawLines : Bytes → List Bytes
  | [] => []
  | b :: rest =>
    if b = 10 then [b] :: rawLines rest
    else
      match rawLines rest with
      | [] => [[b]]
      | first :: more => (b :: first) :: more

inductive Within where
  | nothing
  | gap
  | escape
  | strong
  | strongEscape
  | weak
  | weakEscape
  deriving DecidableEq

def isBreak (c : Char) : Bool := c = '\n' || c = '\r'

def apostrophe : Char := '\x27'

def Within.opened (c : Char) (other : Within) : Within :=
  if c = '\\' then .escape else if c = '"' then .weak else if c = apostrophe then .strong else other

def Within.step (w : Within) (c : Char) : Within :=
  match w with
  | .nothing => opened c (if Text.isBlank c && !isBreak c then .gap else .nothing)
  | .gap => opened c .nothing
  | .escape => .nothing
  | .weak => if c = '\\' then .weakEscape else if c = '"' then .nothing else .weak
  | .weakEscape => .weak
  | .strong => if c = '\\' then .strongEscape else if c = apostrophe then .nothing else .strong
  | .strongEscape => .strong

/-- Reads a line: what it is within at its end, and its characters up to a comment if it has one,
which is a `#` after a gap. -/
def scanLine (w : Within) : List Char → Within × List Char × Bool
  | [] => (w, [], false)
  | c :: rest =>
    if w = .gap && c = '#' then (.nothing, [], true)
    else
      let (end_, taken, comment) := scanLine (w.step c) rest
      (end_, c :: taken, comment)

def dropBreak (cs : List Char) : List Char :=
  match cs.reverse with
  | '\n' :: '\r' :: rest => rest.reverse
  | '\n' :: rest => rest.reverse
  | _ => cs

def isComment (cs : List Char) : Bool := (cs.dropWhile Text.isBlank).head? = some '#'

/-- Joins lines that go on: the texts of the entries, and none for what cannot be read. -/
def entries (w : Within) (before : List Char) : List Bytes → List (Option (List Char))
  | [] => if w = .nothing then [] else [none]
  | line :: rest =>
    match Utf8.decode? line with
    | none => [none]
    | some text =>
      let all := before ++ text.toList
      if isComment all then entries .nothing [] rest
      else
        let (w, taken, comment) := scanLine w text.toList
        if comment then some (before ++ taken) :: entries .nothing [] rest
        else if w = .nothing then some (dropBreak all) :: entries .nothing [] rest
        else entries w all rest

inductive Quote where
  | none
  | strong
  | weak
  deriving DecidableEq

structure Naming where
  braced : Bool
  name : List Char

structure Reading where
  quote : Quote
  escaped : Bool
  ended : Bool
  naming : Option Naming

def Reading.start : Reading := ⟨.none, false, false, none⟩

def value? (known : List Char → List Char) (r : Reading) : List Char → Option (List Char)
  | [] =>
    match r.naming with
    | some n => if n.braced || r.quote ≠ .none then none else some (known n.name)
    | none => if r.quote ≠ .none then none else some []
  | c :: rest =>
    let go (r : Reading) (out : List Char) := (value? known r rest).map (out ++ ·)
    if r.ended then
      if c = ' ' || c = '\t' then go r [] else if c = '#' then some [] else none
    else if r.escaped then
      if c = '\\' || c = apostrophe || c = '"' || c = '$' || c = ' ' then
        go { r with escaped := false } [c]
      else if c = 'n' then go { r with escaped := false } ['\n']
      else none
    else if r.quote = .strong then
      if c = apostrophe then go { r with quote := .none } [] else go r [c]
    else
      match r.naming with
      | some n =>
        if Text.isAlphanumeric c then go { r with naming := some { n with name := n.name ++ [c] } } []
        else if n.braced then
          if c = '}' then go { r with naming := none } (known n.name)
          else go { r with naming := some { n with name := n.name ++ [c] } } []
        else if c = '{' && n.name.isEmpty then go { r with naming := some ⟨true, []⟩ } []
        else if c = '$' then go { r with naming := some ⟨false, []⟩ } (known n.name)
        else go { r with naming := none } (known n.name ++ [c])
      | none =>
        if c = '$' then go { r with naming := some ⟨false, []⟩ } []
        else if r.quote = .weak then
          if c = '"' then go { r with quote := .none } []
          else if c = '\\' then go { r with escaped := true } []
          else go r [c]
        else if c = apostrophe then go { r with quote := .strong } []
        else if c = '"' then go { r with quote := .weak } []
        else if c = '\\' then go { r with escaped := true } []
        else if c = ' ' || c = '\t' then go { r with ended := true } []
        else go r [c]

def skipBlank (cs : List Char) : List Char := cs.dropWhile Text.isBlank

def isNameChar (c : Char) : Bool := c.isAlphanum || c = '_' || c = '.'

def name? (cs : List Char) : Option (List Char × List Char) :=
  if cs.head?.any fun c => c.isAlpha || c = '_' then
    some (cs.takeWhile isNameChar, skipBlank (cs.dropWhile isNameChar))
  else none

def equals? (cs : List Char) : Option (List Char) :=
  match cs with
  | '=' :: rest => some rest
  | _ => none

def assignment? (cs : List Char) : Option (List Char × List Char) := do
  let (name, rest) ← name? cs
  match equals? rest with
  | some value => return (name, value)
  | none =>
    if name = "export".toList then
      let (name, rest) ← name? rest
      return (name, ← equals? rest)
    else none

def known (env : Environment) (name : List Char) : List Char :=
  ((env.text? (String.ofList name)).getD "").toList

def setNew (env : Environment) (name : String) (value : String) : Environment :=
  if (env.text? name).isSome then env else (name, Utf8.encode value) :: env

def loadEntries (env : Environment) : List (Option (List Char)) → Environment
  | [] => env
  | none :: _ => env
  | some text :: rest =>
    let text := Text.trimChars text
    if text.isEmpty || text.head? = some '#' then loadEntries env rest
    else
      match assignment? text with
      | none => env
      | some (name, value) =>
        let value := skipBlank value
        let read := if value.head? = some '#' then some [] else value? (known env) .start value
        match read with
        | none => env
        | some value => loadEntries (setNew env (String.ofList name) (String.ofList value)) rest

def withoutMark (content : Bytes) : Bytes :=
  match content with
  | 0xEF :: 0xBB :: 0xBF :: rest => rest
  | _ => content

def load (env : Environment) (content : Bytes) : Environment :=
  loadEntries env (entries .nothing [] (rawLines (withoutMark content)))

end Phrasebook.EnvFile
