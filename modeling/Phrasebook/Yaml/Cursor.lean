/-!
A place in a YAML text: the characters from there on, with line and column counted from zero and
the number of bytes before it. The classes of characters that part words and lines are here.
-/
namespace Phrasebook.Yaml

def isAllowed (c : Char) : Bool :=
  let n := c.toNat
  n = 0x09 || n = 0x0A || n = 0x0D || (0x20 ≤ n && n ≤ 0x7E) || n = 0x85 ||
    (0xA0 ≤ n && n ≤ 0xFFFD) || 0x10000 ≤ n

def isBlank (c : Char) : Bool := c = ' ' || c = '\t'

def isBreak (c : Char) : Bool :=
  c = '\r' || c = '\n' || c = '\u0085' || c = '\u2028' || c = '\u2029'

def isGap (c : Char) : Bool := isBlank c || isBreak c

def startsGap (cs : List Char) : Bool := cs.head?.all isGap

def isWordChar (c : Char) : Bool := c.isAlphanum || c = '_' || c = '-'

structure Cursor where
  rest : List Char
  line : Nat
  column : Nat
  index : Nat

namespace Cursor

def start (text : List Char) : Cursor := ⟨text, 0, 0, 0⟩

def skip (c : Cursor) (n : Nat) : Cursor :=
  { c with
    rest := c.rest.drop n
    column := c.column + n
    index := (c.rest.take n).foldl (fun index ch => index + ch.utf8Size) c.index }

def skipWhile (c : Cursor) (p : Char → Bool) : Cursor := c.skip (c.rest.takeWhile p).length

/-- Takes a line break. A line feed stands for the breaks of one kind or another, but the line and
paragraph separators stand for themselves. -/
def takeBreak? (c : Cursor) : Option (Char × Cursor) :=
  match c.rest with
  | '\r' :: '\n' :: rest => some ('\n', ⟨rest, c.line + 1, 0, c.index + 2⟩)
  | b :: rest =>
    if isBreak b then
      let kept := if b = '\u2028' || b = '\u2029' then b else '\n'
      some (kept, ⟨rest, c.line + 1, 0, c.index + b.utf8Size⟩)
    else none
  | [] => none

def skipBreak (c : Cursor) : Cursor :=
  match c.takeBreak? with
  | some (_, c) => c
  | none => c

def atMark (c : Cursor) (mark : Char) : Bool :=
  c.column = 0 && c.rest.take 3 = [mark, mark, mark] && startsGap (c.rest.drop 3)

def atDocumentMark (c : Cursor) : Bool := c.atMark '-' || c.atMark '.'

def finishLine? (c : Cursor) : Option Cursor :=
  let c := c.skipWhile isBlank
  let c := if c.rest.head? = some '#' then c.skipWhile (fun ch => !isBreak ch) else c
  if c.rest.head?.all isBreak then some c.skipBreak else none

end Cursor
end Phrasebook.Yaml
