import Phrasebook.Text.Characters
import Phrasebook.Yaml.Cursor

/-!
The texts of YAML scalars. A plain or a quoted text is made of words with gaps between them, and a
gap with line breaks is folded: one break is a space, each further one a line feed. A block text
keeps its lines or folds them, and the end of it is kept or cut off as its header says.

Functions that go on until the text ends recur on a bound on the number of characters left.
-/
namespace Phrasebook.Yaml

structure Gap where
  blanks : List Char
  breaks : List Char
  broken : Bool

def Gap.folded (g : Gap) (escaped : Bool) : List Char :=
  if escaped then g.breaks
  else if !g.broken then g.blanks
  else
    match g.breaks with
    | ['\n'] => [' ']
    | '\n' :: more => more
    | breaks => breaks

/-- Takes a gap. Left of the column `limit` no line may start with a tabulator. -/
def takeGap (limit : Nat) : (bound : Nat) → Gap → Cursor → Option (Gap × Cursor)
  | 0, g, c => some (g, c)
  | bound + 1, g, c =>
    match c.rest with
    | [] => some (g, c)
    | ch :: _ =>
      if isBlank ch then
        if !g.broken then takeGap limit bound { g with blanks := g.blanks ++ [ch] } (c.skip 1)
        else if ch = '\t' && c.column < limit then none
        else takeGap limit bound g (c.skip 1)
      else
        match c.takeBreak? with
        | none => some (g, c)
        | some (b, c) => takeGap limit bound ⟨[], g.breaks ++ [b], true⟩ c

def gap (limit : Nat) (c : Cursor) : Option (Gap × Cursor) :=
  takeGap limit c.rest.length ⟨[], [], false⟩ c

def isFlowIndicator (c : Char) : Bool := c = ',' || c = '[' || c = ']' || c = '{' || c = '}'

def plainWord (flow : Bool) : List Char → Option (List Char)
  | [] => some []
  | c :: rest =>
    if isGap c then some []
    else if flow && c = ':' && rest.head?.any (fun n => isFlowIndicator n || n = '?') then none
    else if c = ':' && startsGap rest then some []
    else if flow && isFlowIndicator c then some []
    else (plainWord flow rest).map (c :: ·)

structure Plain where
  text : List Char
  after : Cursor
  broken : Bool

def plainFrom (flow : Bool) (limit : Nat) :
    (bound : Nat) → (pending : List Char) → (broken : Bool) → Cursor → Option Plain
  | 0, _, broken, c => some ⟨[], c, broken⟩
  | bound + 1, pending, broken, c =>
    if c.atDocumentMark || c.rest.head? = some '#' then some ⟨[], c, broken⟩
    else do
      let word ← plainWord flow c.rest
      let c := c.skip word.length
      let broken := broken && word.isEmpty
      let here := if word.isEmpty then [] else pending ++ word
      if !c.rest.head?.any isGap then return ⟨here, c, broken⟩
      let (g, c) ← gap limit c
      if !flow && c.column < limit then return ⟨here, c, g.broken⟩
      let more ← plainFrom flow limit bound (g.folded false) g.broken c
      return { more with text := here ++ more.text }

def plain (flow : Bool) (limit : Nat) (c : Cursor) : Option Plain :=
  plainFrom flow limit (c.rest.length + 1) [] false c

def apostrophe : Char := '\x27'

def escape? (c : Char) : Option Char :=
  match c with
  | '0' => some '\x00'
  | 'a' => some '\x07'
  | 'b' => some '\x08'
  | 't' | '\t' => some '\t'
  | 'n' => some '\n'
  | 'v' => some '\x0b'
  | 'f' => some '\x0c'
  | 'r' => some '\r'
  | 'e' => some '\x1b'
  | ' ' | '"' | '/' | '\\' => some c
  | 'N' => some '\u0085'
  | '_' => some '\u00a0'
  | 'L' => some '\u2028'
  | 'P' => some '\u2029'
  | _ => none

def escapeDigits? (c : Char) : Option Nat :=
  match c with
  | 'x' => some 2
  | 'u' => some 4
  | 'U' => some 8
  | _ => none

def escapedCode? (count : Nat) (cs : List Char) : Option Char :=
  if cs.length < count then none
  else
    match Text.hexNumber? (cs.take count) with
    | none => none
    | some n => if n.isValidChar then some (Char.ofNat n) else none

/-- A word of a quoted text: what it stands for, how many characters it takes, and whether it ends
before an escaped line break. -/
structure QuotedWord where
  text : List Char
  taken : Nat
  escapedBreak : Bool

def QuotedWord.put (c : Char) (taken : Nat) (w : QuotedWord) : QuotedWord :=
  ⟨c :: w.text, taken + w.taken, w.escapedBreak⟩

def quotedWord (single : Bool) : (bound : Nat) → List Char → Option QuotedWord
  | 0, _ => some ⟨[], 0, false⟩
  | _, [] => some ⟨[], 0, false⟩
  | bound + 1, c :: rest =>
    if isGap c then some ⟨[], 0, false⟩
    else if single then
      if c = apostrophe then
        if rest.head? = some apostrophe then
          (quotedWord single bound rest.tail).map (·.put c 2)
        else some ⟨[], 0, false⟩
      else (quotedWord single bound rest).map (·.put c 1)
    else if c = '"' then some ⟨[], 0, false⟩
    else if c = '\\' then
      match rest with
      | [] => none
      | e :: more =>
        if isBreak e then some ⟨[], 0, true⟩
        else
          match escapeDigits? e with
          | some count => do
            let k ← escapedCode? count more
            let w ← quotedWord single bound (more.drop count)
            return w.put k (2 + count)
          | none => do
            let k ← escape? e
            let w ← quotedWord single bound more
            return w.put k 2
    else (quotedWord single bound rest).map (·.put c 1)

def quotedFrom (single : Bool) : (bound : Nat) → Cursor → Option (List Char × Cursor)
  | 0, _ => none
  | bound + 1, c =>
    if c.atDocumentMark || c.rest.isEmpty then none
    else do
      let word ← quotedWord single c.rest.length c.rest
      let c := c.skip word.taken
      let c := if word.escapedBreak then (c.skip 1).skipBreak else c
      if c.rest.head? = some (if single then apostrophe else '"') then
        return (word.text, c.skip 1)
      let (g, c) ← takeGap 0 c.rest.length ⟨[], [], word.escapedBreak⟩ c
      let (more, c) ← quotedFrom single bound c
      return (word.text ++ g.folded word.escapedBreak ++ more, c)

def quoted (single : Bool) (c : Cursor) : Option (List Char × Cursor) :=
  quotedFrom single (c.rest.length + 1) c

inductive Chomp where
  | strip
  | clip
  | keep
  deriving DecidableEq

/-- Takes indentation and empty lines. Without a known indentation all spaces are indentation.
Answers with the breaks and the greatest column that was reached. -/
def blockBreaks (indent : Nat) :
    (bound : Nat) → (most : Nat) → Cursor → Option (List Char × Nat × Cursor)
  | 0, most, c => some ([], most, c)
  | bound + 1, most, c =>
    let spaces := (c.rest.takeWhile (· = ' ')).length
    let c := c.skip (if indent = 0 then spaces else min spaces (indent - c.column))
    let most := max most c.column
    if (indent = 0 || c.column < indent) && c.rest.head? = some '\t' then none
    else
      match c.takeBreak? with
      | none => some ([], most, c)
      | some (b, c) => do
        let (breaks, most, c) ← blockBreaks indent bound most c
        return (b :: breaks, most, c)

structure Pending where
  first : List Char
  more : List Char
  afterBlank : Bool

def blockLines (literal : Bool) (indent : Nat) :
    (bound : Nat) → Pending → Cursor → Option (List Char × Pending × Cursor)
  | 0, p, c => some ([], p, c)
  | bound + 1, p, c =>
    match c.rest with
    | [] => some ([], p, c)
    | head :: _ =>
      if c.column ≠ indent then some ([], p, c)
      else do
        let joined :=
          if !literal && p.first = ['\n'] && !p.afterBlank && !isBlank head then
            if p.more.isEmpty then [' '] else []
          else p.first
        let line := c.rest.takeWhile fun ch => !isBreak ch
        let c := c.skip line.length
        let (first, c) :=
          match c.takeBreak? with
          | some (b, c) => ([b], c)
          | none => ([], c)
        let (more, _, c) ← blockBreaks indent (c.rest.length + 1) 0 c
        let (text, last, c) ← blockLines literal indent bound ⟨first, more, isBlank head⟩ c
        return (joined ++ p.more ++ line ++ text, last, c)

def chomp? (c : Char) : Option Chomp :=
  if c = '+' then some .keep else if c = '-' then some .strip else none

def indentDigit? (c : Char) : Option Nat :=
  if c.isDigit && c ≠ '0' then some (c.toNat - '0'.toNat) else none

def blockHeader (c : Cursor) : Option (Chomp × Option Nat × Cursor) :=
  let zero := c.rest.head? = some '0'
  match c.rest.head?.bind chomp? with
  | some chomp =>
    let c := c.skip 1
    if c.rest.head? = some '0' then none
    else
      match c.rest.head?.bind indentDigit? with
      | some n => some (chomp, some n, c.skip 1)
      | none => some (chomp, none, c)
  | none =>
    if zero then none
    else
      match c.rest.head?.bind indentDigit? with
      | none => some (.clip, none, c)
      | some n =>
        let c := c.skip 1
        match c.rest.head?.bind chomp? with
        | some chomp => some (chomp, some n, c.skip 1)
        | none => some (.clip, some n, c)

def block (literal : Bool) (parent : Int) (c : Cursor) : Option (List Char × Cursor) := do
  let (chomp, stated, c) ← blockHeader c
  let c ← c.finishLine?
  let base := (max parent 0).toNat
  let (breaks, most, c) ← blockBreaks ((stated.map (base + ·)).getD 0) (c.rest.length + 1) 0 c
  let indent := (stated.map (base + ·)).getD (max (max most (parent + 1).toNat) 1)
  let (text, last, c) ←
    blockLines literal indent (c.rest.length + 1) ⟨[], breaks, false⟩ c
  let tail :=
    match chomp with
    | .strip => []
    | .clip => last.first
    | .keep => last.first ++ last.more
  return (text ++ tail, c)

end Phrasebook.Yaml
