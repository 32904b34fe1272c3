import Phrasebook.Text.Utf8
import Phrasebook.Yaml.Text

/-!
The tokens of a YAML text. Indentation is turned into tokens that open and close block collections.
That something is a key is only known at the colon behind it, so a token keeps a slot before itself
where the opening of a mapping and the key indicator are put afterwards.
-/
namespace Phrasebook.Yaml

open Utf8 (Bytes)

inductive Token where
  | versionDirective (major minor : Nat)
  | tagDirective (handle expansion : Bytes)
  | documentStart
  | documentEnd
  | blockSequence
  | blockMapping
  | blockEnd
  | flowSequence
  | flowSequenceEnd
  | flowMapping
  | flowMappingEnd
  | blockEntry
  | flowEntry
  | key
  | value
  | anchor (name : List Char)
  | alias (name : List Char)
  | tag (handle suffix : Bytes)
  | scalar (text : List Char) (plain : Bool)
  deriving DecidableEq, Repr

def anchorName (c : Cursor) : Option (List Char × Cursor) :=
  let name := c.rest.takeWhile isWordChar
  let c := c.skip name.length
  let ends := startsGap c.rest || (c.rest.head?.any fun ch => "?:,]\x7d%@\x60".toList.contains ch)
  if name.isEmpty || !ends then none else some (name, c)

def sequenceLength? (b : Nat) : Option Nat :=
  if b < 0x80 then some 1
  else if 0xC0 ≤ b && b < 0xE0 then some 2
  else if 0xE0 ≤ b && b < 0xF0 then some 3
  else if 0xF0 ≤ b && b < 0xF8 then some 4
  else none

def escapedByte? (cs : List Char) : Option Nat :=
  match cs with
  | '%' :: a :: b :: _ => Text.hexNumber? [a, b]
  | _ => none

def escapedTail : (count : Nat) → List Char → Option Bytes
  | 0, _ => some []
  | count + 1, cs => do
    let b ← escapedByte? cs
    if b / 64 ≠ 2 then none
    else
      let more ← escapedTail count (cs.drop 3)
      return b.toUInt8 :: more

def escapedSequence (cs : List Char) : Option (Bytes × Nat) := do
  let b ← escapedByte? cs
  let count ← sequenceLength? b
  let more ← escapedTail (count - 1) (cs.drop 3)
  return (b.toUInt8 :: more, count)

def isTagChar (verbatim : Bool) (c : Char) : Bool :=
  isWordChar c || ";/?:@&=+$.%!~*()\x27".toList.contains c ||
    (verbatim && (c = ',' || c = '[' || c = ']'))

def tagChars (verbatim : Bool) : (bound : Nat) → List Char → Option (Bytes × Nat)
  | 0, _ => some ([], 0)
  | _, [] => some ([], 0)
  | bound + 1, c :: rest =>
    if !isTagChar verbatim c then some ([], 0)
    else if c = '%' then do
      let (bytes, count) ← escapedSequence (c :: rest)
      let (more, taken) ← tagChars verbatim bound (rest.drop (3 * count - 1))
      return (bytes ++ more, 3 * count + taken)
    else do
      let (more, taken) ← tagChars verbatim bound rest
      return (Utf8.encodeChar c ++ more, taken + 1)

def takeTagChars (verbatim : Bool) (c : Cursor) : Option (Bytes × Cursor) := do
  let (bytes, taken) ← tagChars verbatim c.rest.length c.rest
  return (bytes, c.skip taken)

def tagHandle (c : Cursor) : Option (List Char × Cursor) :=
  match c.rest with
  | '!' :: rest =>
    let name := rest.takeWhile isWordChar
    let closing := if (rest.drop name.length).head? = some '!' then ['!'] else []
    let handle := '!' :: (name ++ closing)
    some (handle, c.skip handle.length)
  | _ => none

def bytesOf (cs : List Char) : Bytes := cs.flatMap Utf8.encodeChar

def untilZero (bytes : Bytes) : Bytes := bytes.takeWhile (· ≠ 0)

/-- A tag in full, behind a named handle, or behind the exclamation mark alone, which by itself is
a tag too. -/
def tagToken (flow : Bool) (c : Cursor) : Option (Token × Cursor) := do
  let (token, c) ←
    if c.rest.take 2 = ['!', '<'] then do
      let (suffix, c) ← takeTagChars true (c.skip 2)
      if suffix.isEmpty || c.rest.head? ≠ some '>' then none
      else some (Token.tag [] (untilZero suffix), c.skip 1)
    else do
      let (handle, c) ← tagHandle c
      let (more, c) ← takeTagChars false c
      if 2 ≤ handle.length && handle.getLast? = some '!' then
        if more.isEmpty then none else some (Token.tag (bytesOf handle) (untilZero more), c)
      else
        let suffix := untilZero (bytesOf (handle.drop 1) ++ more)
        if suffix.isEmpty then some (Token.tag [] (bytesOf ['!']), c)
        else some (Token.tag (bytesOf ['!']) suffix, c)
  if startsGap c.rest || (flow && c.rest.head? = some ',') then some (token, c) else none

def versionNumber (c : Cursor) : Option (Nat × Cursor) :=
  let digits := c.rest.takeWhile Char.isDigit
  if digits.isEmpty || 9 < digits.length then none
  else some (Nat.ofDigitChars 10 digits 0, c.skip digits.length)

def directive (c : Cursor) : Option (Token × Cursor) := do
  let name := c.rest.takeWhile isWordChar
  let c := c.skip name.length
  if name.isEmpty || !startsGap c.rest then none
  else if name = ['Y', 'A', 'M', 'L'] then
    let (major, c) ← versionNumber (c.skipWhile isBlank)
    if c.rest.head? ≠ some '.' then none
    else
      let (minor, c) ← versionNumber (c.skip 1)
      return (.versionDirective major minor, ← c.finishLine?)
  else if name = ['T', 'A', 'G'] then
    let (handle, c) ← tagHandle (c.skipWhile isBlank)
    if handle ≠ ['!'] && (handle.length < 2 || handle.getLast? ≠ some '!') then none
    else if !c.rest.head?.any isBlank then none
    else
      let (expansion, c) ← takeTagChars true (c.skipWhile isBlank)
      if expansion.isEmpty || !startsGap c.rest then none
      else return (.tagDirective (bytesOf handle) (untilZero expansion), ← c.finishLine?)
  else none

/-- A place where a key may have begun: the slot of its first token and its place in the text. A
required one has to turn out to be a key, as it stands where the keys of a block mapping do. -/
structure Candidate where
  slot : Nat
  line : Nat
  column : Nat
  index : Nat
  required : Bool

structure Slot where
  before : List Token
  token : Token

structure Scan where
  cursor : Cursor
  indent : Int
  outer : List Int
  candidates : List (Option Candidate)
  keyAllowed : Bool
  slots : Array Slot

namespace Scan

def start (text : List Char) : Scan := ⟨.start text, -1, [], [none], true, #[]⟩

def flow (s : Scan) : Bool := 1 < s.candidates.length

def push (s : Scan) (t : Token) : Scan := { s with slots := s.slots.push ⟨[], t⟩ }

def setCandidate (s : Scan) (k : Option Candidate) : Scan :=
  { s with candidates := k :: s.candidates.tail }

def candidate? (s : Scan) : Option Candidate := s.candidates.head?.join

def dropCandidate (s : Scan) : Option Scan :=
  if s.candidate?.any (·.required) then none else some (s.setCandidate none)

def noteCandidate (s : Scan) : Option Scan :=
  if !s.keyAllowed then some s
  else do
    let s ← s.dropCandidate
    let c := s.cursor
    let required := !s.flow && s.indent = c.column
    return s.setCandidate (some ⟨s.slots.size, c.line, c.column, c.index, required⟩)

/-- Whether a key that began here is too far behind: it has to fit on a line and in 1024
bytes. -/
def isStale (c : Cursor) (k : Candidate) : Bool := k.line < c.line || k.index + 1024 < c.index

def dropStale (s : Scan) : Option Scan := do
  let candidates ← s.candidates.mapM fun k? =>
    match k? with
    | none => some none
    | some k =>
      if !isStale s.cursor k then some (some k) else if k.required then none else some none
  return { s with candidates }

def roll (s : Scan) (column : Nat) (slot : Option Nat) (token : Token) : Scan :=
  if s.flow || (column : Int) ≤ s.indent then s
  else
    let s := { s with indent := column, outer := s.indent :: s.outer }
    match slot with
    | none => s.push token
    | some k =>
      { s with slots := s.slots.modify k fun slot => { slot with before := token :: slot.before } }

def unrollFrom (column : Int) (s : Scan) : (outer : List Int) → Scan
  | [] => s
  | indent :: outer =>
    if s.indent ≤ column then s
    else unrollFrom column { s.push .blockEnd with indent, outer } outer

def unroll (s : Scan) (column : Int) : Scan := if s.flow then s else unrollFrom column s s.outer

def skip (s : Scan) (n : Nat) : Scan := { s with cursor := s.cursor.skip n }

def allowKey (s : Scan) (b : Bool) : Scan := { s with keyAllowed := b }

/-- Past blanks, comments and line breaks. A tabulator is blank only where no key may begin. -/
def toToken : (bound : Nat) → Scan → Scan
  | 0, s => s
  | bound + 1, s =>
    let c := s.cursor
    let c := if c.column = 0 && c.rest.head? = some '\uFEFF' then c.skip 1 else c
    let c := c.skipWhile fun ch => ch = ' ' || (ch = '\t' && (s.flow || !s.keyAllowed))
    let c := if c.rest.head? = some '#' then c.skipWhile (fun ch => !isBreak ch) else c
    match c.takeBreak? with
    | none => { s with cursor := c }
    | some (_, c) => toToken bound { s with cursor := c, keyAllowed := s.keyAllowed || !s.flow }

def markKey (s : Scan) (k : Candidate) : Scan :=
  let s := { s with slots := s.slots.modify k.slot fun slot => { slot with before := [.key] } }
  ((s.roll k.column (some k.slot) .blockMapping).setCandidate none).allowKey false

def openFlow (s : Scan) (token : Token) : Option Scan := do
  let s ← s.noteCandidate
  return (({ s with candidates := none :: s.candidates }.allowKey true).skip 1).push token

def closeFlow (s : Scan) (token : Token) : Option Scan := do
  let s ← s.dropCandidate
  let s := if s.flow then { s with candidates := s.candidates.tail } else s
  return ((s.allowKey false).skip 1).push token

def entry (s : Scan) : Option Scan := do
  let s ←
    if s.flow then some s
    else if !s.keyAllowed then none
    else some (s.roll s.cursor.column none .blockSequence)
  let s ← s.dropCandidate
  return ((s.allowKey true).skip 1).push .blockEntry

def explicitKey (s : Scan) : Option Scan := do
  let s ←
    if s.flow then some s
    else if !s.keyAllowed then none
    else some (s.roll s.cursor.column none .blockMapping)
  let s ← s.dropCandidate
  return ((s.allowKey (!s.flow)).skip 1).push .key

def valueIndicator (s : Scan) : Option Scan := do
  let s ←
    match s.candidate? with
    | some k => some (s.markKey k)
    | none =>
      if s.flow then some (s.allowKey false)
      else if !s.keyAllowed then none
      else some ((s.roll s.cursor.column none .blockMapping).allowKey true)
  return (s.skip 1).push .value

def part (s : Scan) (read : Cursor → Option (Token × Cursor)) : Option Scan := do
  let s ← s.noteCandidate
  let (token, c) ← read s.cursor
  return ({ s with cursor := c, keyAllowed := false }).push token

def plainScalar (s : Scan) : Option Scan := do
  let s ← s.noteCandidate
  let p ← plain s.flow (s.indent + 1).toNat s.cursor
  return ({ s with cursor := p.after, keyAllowed := p.broken }).push (.scalar p.text true)

def quotedScalar (s : Scan) (single : Bool) : Option Scan :=
  s.part fun c => (quoted single (c.skip 1)).map fun (text, c) => (.scalar text false, c)

def blockScalar (s : Scan) (literal : Bool) : Option Scan := do
  let s ← s.dropCandidate
  let (text, c) ← block literal s.indent (s.cursor.skip 1)
  return ({ s with cursor := c, keyAllowed := true }).push (.scalar text false)

def between (s : Scan) (read : Cursor → Option (Token × Cursor)) : Option Scan := do
  let s ← (s.unroll (-1)).dropCandidate
  let (token, c) ← read s.cursor
  return ({ s with cursor := c, keyAllowed := false }).push token

def isIndicator (c : Char) : Bool := "-?:,[]\x7b\x7d#&*!|>\x27\"%@\x60".toList.contains c

def token (s : Scan) (ch : Char) (rest : List Char) : Option Scan :=
  let c := s.cursor
  let before := startsGap rest
  if c.column = 0 && ch = '%' then s.between fun c => directive (c.skip 1)
  else if c.atMark '-' then s.between fun c => some (.documentStart, c.skip 3)
  else if c.atMark '.' then s.between fun c => some (.documentEnd, c.skip 3)
  else if ch = '[' then s.openFlow .flowSequence
  else if ch = '{' then s.openFlow .flowMapping
  else if ch = ']' then s.closeFlow .flowSequenceEnd
  else if ch = '}' then s.closeFlow .flowMappingEnd
  else if ch = ',' then do
    let s ← s.dropCandidate
    return ((s.allowKey true).skip 1).push .flowEntry
  else if ch = '-' && before then s.entry
  else if ch = '?' && (s.flow || before) then s.explicitKey
  else if ch = ':' && (s.flow || before) then s.valueIndicator
  else if ch = '*' then
    s.part fun c => (anchorName (c.skip 1)).map fun (name, c) => (.alias name, c)
  else if ch = '&' then
    s.part fun c => (anchorName (c.skip 1)).map fun (name, c) => (.anchor name, c)
  else if ch = '!' then s.part (tagToken s.flow)
  else if ch = '|' && !s.flow then s.blockScalar true
  else if ch = '>' && !s.flow then s.blockScalar false
  else if ch = apostrophe then s.quotedScalar true
  else if ch = '"' then s.quotedScalar false
  else if !(isGap ch || isIndicator ch) then s.plainScalar
  else if ch = '-' && !rest.head?.any isBlank then s.plainScalar
  else if !s.flow && (ch = '?' || ch = ':') && !before then s.plainScalar
  else none

def run : (bound : Nat) → Scan → Option Scan
  | 0, _ => none
  | bound + 1, s => do
    let s ← (s.toToken (s.cursor.rest.length + 1)).dropStale
    let s := s.unroll s.cursor.column
    match s.cursor.rest with
    | [] => (s.unroll (-1)).dropCandidate
    | ch :: rest => run bound (← s.token ch rest)

end Scan

def tokens? (text : List Char) : Option (List Token) :=
  if !text.all isAllowed then none
  else do
    let s ← Scan.run (text.length + 1) (.start text)
    return s.slots.toList.flatMap fun slot => slot.before ++ [slot.token]

end Phrasebook.Yaml
