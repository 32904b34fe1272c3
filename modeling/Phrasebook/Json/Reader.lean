import Phrasebook.Json.Fault
import Phrasebook.Json.Value
import Phrasebook.Text.Characters

/-!
Reading JSON text from left to right. A reader takes characters off the front and answers with what
it read and the rest, or with the first fault. Brackets may be nested to a given depth, which is
what the reading of values recurs on; lists recur on the length of the text.
-/
namespace Phrasebook.Json

abbrev Reader (α : Type) := List Char → Except Fault (α × List Char)

def failAt {α : Type} (cause : Cause) (rest : List Char) : Except Fault α :=
  .error ⟨cause, rest, true⟩

def failAfter {α : Type} (cause : Cause) (rest : List Char) : Except Fault α :=
  .error ⟨cause, rest, false⟩

def isSpace (c : Char) : Bool := c = ' ' || c = '\n' || c = '\t' || c = '\r'

def skipSpace (cs : List Char) : List Char := cs.dropWhile isSpace

def Reader.map {α β : Type} (f : α → β) (read : Reader α) : Reader β := fun cs =>
  match read cs with
  | .error e => .error e
  | .ok (a, rest) => .ok (f a, rest)

def word : List Char → Reader Unit
  | [], cs => .ok ((), cs)
  | _ :: _, [] => failAfter .endedInValue []
  | w :: more, c :: rest => if w = c then word more rest else failAfter .badWord rest

def hexWord? (a b c d : Char) : Option Nat :=
  Text.hexNumber? [a, b, c, d]

/-- The fault of `\u` before `cs`, where four hexadecimal digits are not found: four bytes are
needed, whatever they are. -/
def hexFault (cs : List Char) : Fault :=
  if (String.ofList cs).utf8ByteSize < 4 then ⟨.endedInString, [], false⟩
  else ⟨.badEscape, cs.drop 4, false⟩

def pairFault : List Char → Fault
  | [] => ⟨.endedInString, [], false⟩
  | s :: rest =>
    if s ≠ '\\' then ⟨.unpairedSurrogate, rest, false⟩
    else
      match rest with
      | [] => ⟨.endedInString, [], false⟩
      | u :: digits =>
        if u ≠ 'u' then ⟨.unpairedSurrogate, digits, false⟩ else hexFault digits

def isFirstHalf (n : Nat) : Bool := 0xD800 ≤ n && n < 0xDC00
def isSecondHalf (n : Nat) : Bool := 0xDC00 ≤ n && n < 0xE000

def joinHalves (first second : Nat) : Char :=
  Char.ofNat (0x10000 + (first - 0xD800) * 1024 + (second - 0xDC00))

def shortEscape? (c : Char) : Option Char :=
  if c = '"' || c = '\\' || c = '/' then some c
  else if c = 'b' then some '\x08'
  else if c = 'f' then some '\x0c'
  else if c = 'n' then some '\n'
  else if c = 'r' then some '\r'
  else if c = 't' then some '\t'
  else none

def putChar (c : Char) (r : Except Fault (List Char × List Char)) :
    Except Fault (List Char × List Char) :=
  match r with
  | .error e => .error e
  | .ok (cs, rest) => .ok (c :: cs, rest)

def stringBody : Reader (List Char)
  | [] => failAfter .endedInString []
  | c :: rest =>
    if c = '"' then .ok ([], rest)
    else if c = '\\' then
      match rest with
      | [] => failAfter .endedInString []
      | e :: more =>
        if e = 'u' then
          match more with
          | h₁ :: h₂ :: h₃ :: h₄ :: after =>
            match hexWord? h₁ h₂ h₃ h₄ with
            | none => .error (hexFault (h₁ :: h₂ :: h₃ :: h₄ :: after))
            | some n =>
              if isSecondHalf n then failAfter .loneSurrogate after
              else if isFirstHalf n then
                match after with
                | s :: u :: g₁ :: g₂ :: g₃ :: g₄ :: next =>
                  if s = '\\' ∧ u = 'u' then
                    match hexWord? g₁ g₂ g₃ g₄ with
                    | none => .error (hexFault (g₁ :: g₂ :: g₃ :: g₄ :: next))
                    | some m =>
                      if isSecondHalf m then putChar (joinHalves n m) (stringBody next)
                      else failAfter .loneSurrogate next
                  else .error (pairFault (s :: u :: g₁ :: g₂ :: g₃ :: g₄ :: next))
                | short => .error (pairFault short)
              else putChar (Char.ofNat n) (stringBody after)
          | short => .error (hexFault short)
        else
          match shortEscape? e with
          | some k => putChar k (stringBody more)
          | none => failAfter .badEscape more
    else if c.toNat < 0x20 then failAfter .controlInString rest
    else putChar c (stringBody rest)

def stringTail : Reader String := Reader.map String.ofList stringBody

def skipString : List Char → Except Fault (List Char)
  | [] => failAfter .endedInString []
  | c :: rest =>
    if c = '"' then .ok rest
    else if c = '\\' then
      match rest with
      | [] => failAfter .endedInString []
      | e :: more =>
        if e = 'u' then
          match more with
          | h₁ :: h₂ :: h₃ :: h₄ :: after =>
            if (hexWord? h₁ h₂ h₃ h₄).isSome then skipString after
            else .error (hexFault (h₁ :: h₂ :: h₃ :: h₄ :: after))
          | short => .error (hexFault short)
        else if (shortEscape? e).isSome then skipString more
        else failAfter .badEscape more
    else if c.toNat < 0x20 then failAfter .controlInString (c :: rest)
    else skipString rest

def greatestWord : Nat := Nat.pow 2 64 - 1

/-- Appends digits to a number as long as it does not exceed `limit`; answers with the digits that
were left over. -/
def absorb (limit n : Nat) : List Char → Nat × List Char
  | [] => (n, [])
  | c :: rest =>
    let longer := 10 * n + (c.toNat - '0'.toNat)
    if longer ≤ limit then absorb limit longer rest else (n, c :: rest)

def stepPlaces : Nat := 308

def tenTo (places : Nat) : Option Binary64 := Binary64.ofDecimal? false 1 places

def lower : (steps : Nat) → Binary64 → Option Binary64
  | 0, x => some x
  | steps + 1, x =>
    if x.isZero then some x else ((tenTo stepPlaces).bind x.div?).bind (lower steps)

/-- `x * 10 ^ e`, rounded in each step; nothing when it grows too large. -/
def shift (x : Binary64) (e : Int) : Option Binary64 :=
  let places := e.natAbs
  if 0 ≤ e then
    if places ≤ stepPlaces then (tenTo places).bind x.mul? else if x.isZero then some x else none
  else
    let steps := (places - 1) / stepPlaces
    (lower steps x).bind fun y => (tenTo (places - steps * stepPlaces)).bind y.div?

def realOf (negative : Bool) (significand : Nat) (e : Int) : Option Number :=
  ((Binary64.ofNat? significand).bind (shift · e)).map fun x =>
    .real (if negative then x.neg else x)

def greatestExponent : Nat := Nat.pow 2 31 - 1

def exponentPart (negative : Bool) (significand : Nat) (start : Int) : Reader Number := fun cs =>
  let (down, cs) :=
    match cs with
    | '+' :: rest => (false, rest)
    | '-' :: rest => (true, rest)
    | _ => (false, cs)
  match cs with
  | [] => failAfter .endedInValue []
  | c :: after =>
    if !c.isDigit then failAfter .badNumber after
    else
      let rest := cs.dropWhile Char.isDigit
      match absorb greatestExponent 0 (cs.takeWhile Char.isDigit) with
      | (written, []) =>
        let e := if down then start - written else start + written
        match realOf negative significand e with
        | some n => .ok (n, rest)
        | none => failAfter .numberOutOfRange rest
      | (_, _ :: left) =>
        if significand ≠ 0 && !down then failAfter .numberOutOfRange (left ++ rest)
        else .ok (.real (.zero negative), rest)

def realEnd (negative : Bool) (significand : Nat) (start : Int) : Reader Number := fun cs =>
  match cs with
  | 'e' :: rest => exponentPart negative significand start rest
  | 'E' :: rest => exponentPart negative significand start rest
  | _ =>
    match realOf negative significand start with
    | some n => .ok (n, cs)
    | none => failAfter .numberOutOfRange cs

def fractionPart (negative : Bool) (significand : Nat) (start : Int) : Reader Number := fun cs =>
  let places := cs.takeWhile Char.isDigit
  let rest := cs.dropWhile Char.isDigit
  if places.isEmpty then
    if rest.isEmpty then failAt .endedInValue [] else failAt .badNumber rest
  else
    let (longer, left) := absorb greatestWord significand places
    realEnd negative longer (start - (places.length - left.length : Nat)) rest

/-- A number of 64 bits, or a real when it does not fit. The minus sign before zero makes a real,
since no whole number keeps it. -/
def wholeNumber (negative : Bool) (n : Nat) : Option Number :=
  if !negative then some (.integer n)
  else if n = 0 || Nat.pow 2 63 < n then realOf true n 0
  else some (.integer (-n))

def number (negative : Bool) : Reader Number := fun cs =>
  match cs with
  | [] => failAfter .endedInValue []
  | c :: after =>
    let digits := if c = '0' then ['0'] else cs.takeWhile Char.isDigit
    let rest := cs.drop digits.length
    if !c.isDigit then failAfter .badNumber after
    else if c = '0' && (rest.head?.any Char.isDigit) then failAt .badNumber rest
    else
      let (significand, left) := absorb greatestWord 0 digits
      match rest with
      | '.' :: places => fractionPart negative significand left.length places
      | 'e' :: more => exponentPart negative significand left.length more
      | 'E' :: more => exponentPart negative significand left.length more
      | _ =>
        let whole :=
          if left.isEmpty then wholeNumber negative significand
          else realOf negative significand left.length
        match whole with
        | some n => .ok (n, rest)
        | none => failAfter .numberOutOfRange rest

def skipExponent (cs : List Char) : Except Fault (List Char) :=
  let cs :=
    match cs with
    | '+' :: rest => rest
    | '-' :: rest => rest
    | _ => cs
  match cs with
  | [] => failAfter .badNumber []
  | c :: after =>
    if c.isDigit then .ok (cs.dropWhile Char.isDigit) else failAfter .badNumber after

def skipNumberEnd (cs : List Char) : Except Fault (List Char) :=
  match cs with
  | 'e' :: rest => skipExponent rest
  | 'E' :: rest => skipExponent rest
  | _ => .ok cs

def skipNumber (cs : List Char) : Except Fault (List Char) :=
  match cs with
  | [] => failAfter .badNumber []
  | c :: after =>
    let rest := if c = '0' then after else cs.dropWhile Char.isDigit
    if !c.isDigit then failAfter .badNumber after
    else if c = '0' && (rest.head?.any Char.isDigit) then failAt .badNumber rest
    else
      match rest with
      | '.' :: places =>
        if places.head?.any Char.isDigit then skipNumberEnd (places.dropWhile Char.isDigit)
        else failAt .badNumber places
      | _ => skipNumberEnd rest

def afterListComma (cs : List Char) : Except Fault (List Char) :=
  match skipSpace cs with
  | [] => failAt .endedInValue []
  | c :: rest => if c = ']' then failAt .trailingComma (c :: rest) else .ok (c :: rest)

def moreItems {α : Type} (item : Reader α) : (bound : Nat) → Reader (List α)
  | 0, cs => failAt .endedInList cs
  | bound + 1, cs =>
    match skipSpace cs with
    | [] => failAt .endedInList []
    | c :: rest =>
      if c = ']' then .ok ([], rest)
      else if c = ',' then do
        let (a, rest) ← item (← afterListComma rest)
        let (more, rest) ← moreItems item bound rest
        return (a :: more, rest)
      else failAt .noListCommaOrEnd (c :: rest)

/-- Items after the opening bracket. Each takes a character, so the text bounds their number. -/
def items {α : Type} (item : Reader α) : Reader (List α) := fun cs =>
  match skipSpace cs with
  | [] => failAt .endedInList []
  | c :: rest =>
    if c = ']' then .ok ([], rest)
    else do
      let (a, after) ← item (c :: rest)
      let (more, after) ← moreItems item (after.length + 1) after
      return (a :: more, after)

def afterMemberComma (cs : List Char) : Except Fault (List Char) :=
  match skipSpace cs with
  | [] => failAt .endedInValue []
  | c :: rest =>
    if c = '"' then .ok rest
    else if c = '}' then failAt .trailingComma (c :: rest)
    else failAt .nameNotString (c :: rest)

def colon (cs : List Char) : Except Fault (List Char) :=
  match skipSpace cs with
  | [] => failAt .endedInObject []
  | c :: rest => if c = ':' then .ok rest else failAt .noColon (c :: rest)

def member {α : Type} (name : Reader String) (item : Reader α) : Reader (String × α) := fun cs => do
  let (n, rest) ← name cs
  let (a, rest) ← item (← colon rest)
  return ((n, a), rest)

def moreMembers {α : Type} (name : Reader String) (item : Reader α) :
    (bound : Nat) → Reader (List (String × α))
  | 0, cs => failAt .endedInObject cs
  | bound + 1, cs =>
    match skipSpace cs with
    | [] => failAt .endedInObject []
    | c :: rest =>
      if c = '}' then .ok ([], rest)
      else if c = ',' then do
        let (m, rest) ← member name item (← afterMemberComma rest)
        let (more, rest) ← moreMembers name item bound rest
        return (m :: more, rest)
      else failAt .noObjectCommaOrEnd (c :: rest)

def members {α : Type} (name : Reader String) (item : Reader α) :
    Reader (List (String × α)) := fun cs =>
  match skipSpace cs with
  | [] => failAt .endedInObject []
  | c :: rest =>
    if c = '}' then .ok ([], rest)
    else if c = '"' then do
      let (m, rest) ← member name item rest
      let (more, rest) ← moreMembers name item (rest.length + 1) rest
      return (m :: more, rest)
    else failAt .nameNotString (c :: rest)

def scalar (c : Char) : Reader Value := fun rest =>
  if c = 'n' then (word ['u', 'l', 'l']).map (fun _ => .null) rest
  else if c = 't' then (word ['r', 'u', 'e']).map (fun _ => .bool true) rest
  else if c = 'f' then (word ['a', 'l', 's', 'e']).map (fun _ => .bool false) rest
  else if c = '-' then (number true).map .number rest
  else if c.isDigit then (number false).map .number (c :: rest)
  else if c = '"' then stringTail.map .string rest
  else failAt .noValue (c :: rest)

/-- A value whose brackets are nested at most `depth` deep. -/
def value : (depth : Nat) → Reader Value
  | depth, cs =>
    match skipSpace cs with
    | [] => failAt .endedInValue []
    | c :: rest =>
      if c = '[' then
        match depth with
        | 0 => failAt .tooDeep (c :: rest)
        | depth + 1 => (items (value depth)).map .array rest
      else if c = '{' then
        match depth with
        | 0 => failAt .tooDeep (c :: rest)
        | depth + 1 => (members stringTail (value depth)).map .object rest
      else scalar c rest

def skipScalar (c : Char) : Reader Unit := fun rest =>
  let past (r : Except Fault (List Char)) : Except Fault (Unit × List Char) :=
    match r with
    | .error e => .error e
    | .ok rest => .ok ((), rest)
  if c = '-' then past (skipNumber rest)
  else if c.isDigit then past (skipNumber (c :: rest))
  else if c = '"' then past (skipString rest)
  else (scalar c).map (fun _ => ()) rest

def skipName : Reader String := fun cs =>
  match skipString cs with
  | .error e => .error e
  | .ok rest => .ok ("", rest)

def skipNested : (depth : Nat) → Reader Unit
  | depth, cs =>
    match skipSpace cs with
    | [] => failAt .endedInValue []
    | c :: rest =>
      if c = '[' then
        match depth with
        | 0 => failAt .tooDeep (c :: rest)
        | depth + 1 => (items (skipNested depth)).map (fun _ => ()) rest
      else if c = '{' then
        match depth with
        | 0 => failAt .tooDeep (c :: rest)
        | depth + 1 => (members skipName (skipNested depth)).map (fun _ => ()) rest
      else skipScalar c rest

def skipValue : Reader Unit := fun cs => skipNested cs.length cs

def depthLimit : Nat := 127

def readAll {α : Type} (read : Reader α) (text : String) : Except Fault α := do
  let (a, rest) ← read text.toList
  match skipSpace rest with
  | [] => return a
  | rest => failAt .trailingCharacters rest

end Phrasebook.Json
