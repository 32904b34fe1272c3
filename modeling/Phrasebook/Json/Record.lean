import Phrasebook.Json.Reader
import Phrasebook.Json.Value

/-!
Reading values of a wanted shape. A value of another shape is a fault as soon as its kind is known:
for a list or an object at its bracket, for anything else after it has been read. A record is an
object with known fields, or the list of their values; fields that are not known are skipped.
-/
namespace Phrasebook.Json

def kindOf : Value → String
  | .null => "null"
  | .bool b => "boolean `" ++ toString b ++ "`"
  | .number (.integer n) => "integer `" ++ toString n ++ "`"
  | .number (.real x) => "floating point `" ++ (Number.real x).text ++ "`"
  | .string s => "string " ++ String.ofList (stringChars s)
  | .array _ => "sequence"
  | .object _ => "map"

def mismatch {α : Type} (wanted : String) : Reader α
  | [] => failAt .endedInValue []
  | c :: rest =>
    if c = '[' then failAfter (.wrongShape "sequence" wanted) (c :: rest)
    else if c = '{' then failAfter (.wrongShape "map" wanted) (c :: rest)
    else
      match scalar c rest with
      | .error e => .error e
      | .ok (v, rest) => failAfter (.wrongShape (kindOf v) wanted) rest

def anything : Reader Value := value (depthLimit - 1)

def text : Reader Value := fun cs =>
  match skipSpace cs with
  | '"' :: rest => stringTail.map .string rest
  | cs => mismatch "a string" cs

def word16 : Reader Value := fun cs =>
  match skipSpace cs with
  | [] => failAt .endedInValue []
  | c :: rest =>
    if c = '-' || c.isDigit then
      match if c = '-' then number true rest else number false (c :: rest) with
      | .error e => .error e
      | .ok (n, rest) =>
        match n with
        | .integer i =>
          if 0 ≤ i ∧ i < 65536 then .ok (.number n, rest)
          else failAfter (.wrongShape (kindOf (.number n)) "a whole number below 65536") rest
        | .real _ => failAfter (.wrongShape (kindOf (.number n)) "a whole number below 65536") rest
    else mismatch "a whole number below 65536" (c :: rest)

def listOf (item : Reader Value) : Reader Value := fun cs =>
  match skipSpace cs with
  | '[' :: rest => (items item).map .array rest
  | cs => mismatch "a sequence" cs

def tableOf (item : Reader Value) : Reader Value := fun cs =>
  match skipSpace cs with
  | '{' :: rest => (members stringTail item).map .object rest
  | cs => mismatch "a map" cs

def nullable (read : Reader Value) : Reader Value := fun cs =>
  match skipSpace cs with
  | 'n' :: rest => (word ['u', 'l', 'l']).map (fun _ => .null) rest
  | cs => read cs

/-- A field of a record, and what stands for it when it is missing, if it may be. -/
structure Field where
  name : String
  read : Reader Value
  absent : Option Value

def fieldMember (fields : List Field) (seen : List (String × Value)) :
    Reader (List (String × Value)) := fun cs => do
  let (name, rest) ← stringTail cs
  match fields.find? (·.name = name) with
  | none =>
    let ((), rest) ← skipValue (← colon rest)
    return (seen, rest)
  | some f =>
    if (Entries.find? name seen).isSome then failAfter (.duplicateField name) rest
    else
      let (v, rest) ← f.read (← colon rest)
      return ((name, v) :: seen, rest)

/-- The values of all fields, in their order, once the object has ended before `rest`. -/
def collect (seen : List (String × Value)) (rest : List Char) :
    List Field → Except Fault (List (String × Value))
  | [] => .ok []
  | f :: fields =>
    match (Entries.find? f.name seen).or f.absent with
    | none => failAfter (.missingField f.name) rest
    | some v => do
      let more ← collect seen rest fields
      return (f.name, v) :: more

def moreFields (fields : List Field) :
    (bound : Nat) → List (String × Value) → Reader (List (String × Value))
  | 0, _, cs => failAt .endedInObject cs
  | bound + 1, seen, cs =>
    match skipSpace cs with
    | [] => failAt .endedInObject []
    | c :: rest =>
      if c = '}' then do
        let all ← collect seen (c :: rest) fields
        return (all, rest)
      else if c = ',' then do
        let (seen, rest) ← fieldMember fields seen (← afterMemberComma rest)
        moreFields fields bound seen rest
      else failAt .noObjectCommaOrEnd (c :: rest)

def fieldMembers (fields : List Field) : Reader (List (String × Value)) := fun cs =>
  match skipSpace cs with
  | [] => failAt .endedInObject []
  | c :: rest =>
    if c = '}' then do
      let all ← collect [] (c :: rest) fields
      return (all, rest)
    else if c = '"' then do
      let (seen, rest) ← fieldMember fields [] rest
      moreFields fields (rest.length + 1) seen rest
    else failAt .nameNotString (c :: rest)

def listEnd (cs : List Char) : Except Fault (List Char) :=
  match skipSpace cs with
  | [] => failAt .endedInList []
  | c :: rest =>
    if c = ']' then .ok rest
    else if c = ',' then
      match skipSpace rest with
      | ']' :: rest => failAt .trailingComma (']' :: rest)
      | rest => failAt .trailingCharacters rest
    else failAt .trailingCharacters (c :: rest)

def fieldItems (wanted : String) : (found : Nat) → List Field → Reader (List (String × Value))
  | _, [], cs => do
    let rest ← listEnd cs
    return ([], rest)
  | found, f :: fields, cs =>
    match skipSpace cs with
    | [] => failAt .endedInList []
    | c :: rest =>
      if c = ']' then failAfter (.tooFewItems found wanted) (c :: rest)
      else if found ≠ 0 ∧ c ≠ ',' then failAt .noListCommaOrEnd (c :: rest)
      else do
        let start ← if found = 0 then .ok (c :: rest) else afterListComma rest
        let (v, rest) ← f.read start
        let (more, rest) ← fieldItems wanted (found + 1) fields rest
        return ((f.name, v) :: more, rest)

def record (wanted : String) (fields : List Field) : Reader Value := fun cs =>
  match skipSpace cs with
  | '[' :: rest =>
    (fieldItems (wanted ++ " of " ++ toString fields.length ++ " items") 0 fields).map .object rest
  | '{' :: rest => (fieldMembers fields).map .object rest
  | cs => mismatch wanted cs

def Reader.into {α : Type} (wanted : String) (f : Value → Option α) (read : Reader Value) :
    Reader α := fun cs =>
  match read cs with
  | .error e => .error e
  | .ok (v, rest) =>
    match f v with
    | some a => .ok (a, rest)
    | none => failAfter (.wrongShape (kindOf v) wanted) rest

def texts? (v : Value) : Option (List (String × String)) :=
  match v with
  | .object ms => ms.mapM fun m =>
    match m.2 with
    | .string s => some (m.1, s)
    | _ => none
  | _ => none

def strings? (v : Value) : Option (List String) :=
  match v with
  | .array vs => vs.mapM fun v =>
    match v with
    | .string s => some s
    | _ => none
  | _ => none

end Phrasebook.Json
