import Phrasebook.Json.Value
import Phrasebook.Yaml.Anchor

/-!
The object that a YAML text stands for, with JSON values. A plain text is a null, a boolean, a
number or a string by its form, any other a string, unless a tag says what it is. Aliases are
followed, at most a hundred times for each step in which the text is read, and collections may be
nested to a given depth, counted through aliases.
-/
namespace Phrasebook.Yaml

open Json
open Utf8 (Bytes)

def isNull (s : List Char) : Bool :=
  s = "null".toList || s = "Null".toList || s = "NULL".toList || s = ['~']

def bool? (s : List Char) : Option Bool :=
  if s = "true".toList || s = "True".toList || s = "TRUE".toList then some true
  else if s = "false".toList || s = "False".toList || s = "FALSE".toList then some false
  else none

def digits? (base : Nat) (cs : List Char) : Option Nat :=
  match cs.mapM Text.hexValue? with
  | some (d :: ds) =>
    if (d :: ds).all (· < base) then some ((d :: ds).foldl (fun n d => base * n + d) 0) else none
  | _ => none

/-- Digits with a mark of their base before them, or decimal ones that do not start with a zero
that is not alone. -/
def unsigned? (cs : List Char) : Option Nat :=
  match cs with
  | '0' :: 'x' :: rest => digits? 16 rest
  | '0' :: 'o' :: rest => digits? 8 rest
  | '0' :: 'b' :: rest => digits? 2 rest
  | ['0'] => some 0
  | '0' :: _ => none
  | cs => digits? 10 cs

def sign (cs : List Char) : Bool × List Char :=
  match cs with
  | '+' :: rest => (false, rest)
  | '-' :: rest => (true, rest)
  | cs => (false, cs)

inductive Whole where
  | number (n : Int)
  | tooLarge
  | none

def whole (cs : List Char) : Whole :=
  let (negative, rest) := sign cs
  match unsigned? rest with
  | .none => .none
  | some n =>
    let (fits, limit) :=
      if negative then (Nat.pow 2 63, Nat.pow 2 127) else (Nat.pow 2 64 - 1, Nat.pow 2 128 - 1)
    if n ≤ fits then .number (if negative then -n else n)
    else if n ≤ limit then .tooLarge
    else .none

def isPadded (cs : List Char) : Bool :=
  let (_, rest) := sign cs
  1 < rest.length && rest.head? = some '0' && rest.all Char.isDigit

def real? (cs : List Char) : Option Binary64 := do
  let (negative, rest) := sign cs
  let before := rest.takeWhile Char.isDigit
  let rest := rest.dropWhile Char.isDigit
  let (after, rest) :=
    match rest with
    | '.' :: rest => (rest.takeWhile Char.isDigit, rest.dropWhile Char.isDigit)
    | rest => ([], rest)
  if before.isEmpty && after.isEmpty then none
  else
    let e ←
      match rest with
      | [] => some (0 : Int)
      | c :: rest =>
        if c = 'e' || c = 'E' then
          let (down, rest) := sign rest
          if rest.isEmpty || !rest.all Char.isDigit then none
          else
            let n : Int := Nat.ofDigitChars 10 rest 0
            some (if down then -n else n)
        else none
    let significand := Nat.ofDigitChars 10 (before ++ after) 0
    if significand = 0 then some (.zero negative)
    else
      let e := e - after.length
      let order := e + (Nat.toDigits 10 significand).length
      -- Beyond these orders no exact arithmetic is needed.
      if order < -400 then some (.zero negative)
      else if 400 < order then none
      else Binary64.ofDecimal? negative significand e

def isNotFinite (cs : List Char) : Bool :=
  let (_, rest) := sign cs
  rest = ".inf".toList || rest = ".Inf".toList || rest = ".INF".toList ||
    cs = ".nan".toList || cs = ".NaN".toList || cs = ".NAN".toList

def realValue? (cs : List Char) : Option Value :=
  if isNotFinite cs then some .null else (real? cs).map fun x => .number (.real x)

def plainValue? (text : String) : Option Value :=
  let cs := text.toList
  if cs.isEmpty || isNull cs then some .null
  else
    match bool? cs with
    | some b => some (.bool b)
    | none =>
      match whole cs with
      | .number n => some (.number (.integer n))
      | .tooLarge => none
      | .none =>
        if isPadded cs then some (.string text) else some ((realValue? cs).getD (.string text))

def isLocalTag (tag : Bytes) : Bool := tag.head? = some 33

/-- A tag of the text's own kind, which no value here can have, a scalar no more than a collection:
one that starts with an exclamation mark and has a name, as text, behind it. The mark alone is its
own name, so `! foo` is refused like `!x foo`. -/
def isOwnTag (tag : Bytes) : Bool :=
  isLocalTag tag && (Utf8.decode? (if tag.length = 1 then tag else tag.tail)).isSome

def scalarValue? (tag : Option Bytes) (text : String) (plain : Bool) : Option Value :=
  match tag with
  | none => if plain then plainValue? text else some (.string text)
  | some tag =>
    if isOwnTag tag then none
    else if tag = coreTag "bool".toList then (bool? text.toList).map .bool
    else if tag = coreTag "int".toList then
      match whole text.toList with
      | .number n => some (.number (.integer n))
      | _ => none
    else if tag = coreTag "float".toList then realValue? text.toList
    else if tag = coreTag "null".toList then
      if isNull text.toList then some .null else none
    else if isLocalTag tag && plain then plainValue? text
    else some (.string text)

structure Scope where
  targets : List (Nat × Node.Numbered)
  jumpLimit : Nat

/-- The node itself or the one that it stands for, and the count of aliases followed so far. -/
def Scope.node? (s : Scope) (node : Node.Numbered) (jumps : Nat) : Option (Node.Numbered × Nat) :=
  match node with
  | .alias n =>
    if s.jumpLimit < jumps + 1 then none
    else (s.targets.lookup n).map fun node => (node, jumps + 1)
  | node => some (node, jumps)

def Scope.keyText? (s : Scope) (node : Node.Numbered) (jumps : Nat) : Option (String × Nat) :=
  match s.node? node jumps with
  | some (.scalar _ text _, jumps) => some (text, jumps)
  | _ => none

def readItems (read : Node.Numbered → Nat → Option (Value × Nat)) :
    List Node.Numbered → Nat → Option (List Value × Nat)
  | [], jumps => some ([], jumps)
  | item :: rest, jumps => do
    let (v, jumps) ← read item jumps
    let (vs, jumps) ← readItems read rest jumps
    return (v :: vs, jumps)

def readPairs (s : Scope) (read : Node.Numbered → Nat → Option (Value × Nat)) :
    List (Node.Numbered × Node.Numbered) → Nat → Option (List (String × Value) × Nat)
  | [], jumps => some ([], jumps)
  | (k, v) :: rest, jumps => do
    let (name, jumps) ← s.keyText? k jumps
    let (v, jumps) ← read v jumps
    let (members, jumps) ← readPairs s read rest jumps
    return ((name, v) :: members, jumps)

def Scope.value? (s : Scope) : (depth : Nat) → Node.Numbered → Nat → Option (Value × Nat)
  | depth, node, jumps => do
    let (node, jumps) ← s.node? node jumps
    match node with
    | .alias _ => none
    | .scalar label text plain => return (← scalarValue? label.tag text plain, jumps)
    | .sequence label items =>
      match depth with
      | 0 => none
      | depth + 1 =>
        if label.tag.any isOwnTag then none
        else
          let (vs, jumps) ← readItems (s.value? depth) items jumps
          return (.array vs, jumps)
    | .mapping label pairs =>
      match depth with
      | 0 => none
      | depth + 1 =>
        if label.tag.any isOwnTag then none
        else
          let (members, jumps) ← readPairs s (s.value? depth) pairs jumps
          return (.object members, jumps)

def depthLimit : Nat := 128

/-- The members of the mapping that a text is. A text without a document, or with an empty one, is
an empty mapping. -/
def members? (text : String) : Option (List (String × Value)) := do
  let tokens ← tokens? text.toList
  match ← Node.ofTokens? tokens with
  | none => return []
  | some named =>
    let (node, _) ← Node.number [] named
    let s : Scope := ⟨node.targets, 100 * node.steps⟩
    match node with
    | .scalar _ text plain => if plain && text.isEmpty then some [] else none
    | .mapping _ pairs => (readPairs s (s.value? (depthLimit - 1)) pairs 0).map (·.1)
    | _ => none

end Phrasebook.Yaml
