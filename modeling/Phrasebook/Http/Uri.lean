import Phrasebook.Text.Characters
import Phrasebook.Text.Parts
import Phrasebook.Text.Utf8

/-!
Addresses of pages, and their queries as forms. An address is a path with maybe a query, or a scheme
and an authority before them, or an authority alone, or a star. What follows a `#` is dropped, and
escapes are left as they are. A form is pairs of a name and a value, parted by `&`; in both a plus
is a space and a per cent sign with two hexadecimal digits is a byte, and bytes that are no text
become U+FFFD.
-/
namespace Phrasebook.Http

open Utf8 (Bytes)

structure Uri where
  scheme : Option String
  authority : Option String
  path : String
  query : Option String
  deriving DecidableEq, Repr

namespace Uri

def lengthLimit : Nat := 65534

def schemeLimit : Nat := 64

def isIn (ranges : List (Nat × Nat)) (c : Char) : Bool :=
  ranges.any fun (low, high) => low ≤ c.toNat && c.toNat ≤ high

def isPathChar (c : Char) : Bool :=
  isIn [(0x21, 0x22), (0x24, 0x3B), (0x3D, 0x3D), (0x40, 0x5F), (0x61, 0x7E)] c || 0x80 ≤ c.toNat

def isQueryChar (c : Char) : Bool :=
  isIn [(0x21, 0x21), (0x24, 0x3B), (0x3D, 0x3D), (0x3F, 0x7E)] c || 0x80 ≤ c.toNat

def isSchemeChar (c : Char) : Bool := c.isAlphanum || "+-.~".toList.contains c

def isAuthorityChar (c : Char) : Bool :=
  c.isAlphanum || "!$&()*+,-.:;=@[]_~\x27".toList.contains c

def endsAuthority (c : Char) : Bool := c = '/' || c = '?' || c = '#'

def pathAndQuery? (cs : List Char) : Option (List Char × Option (List Char)) :=
  let path := cs.takeWhile fun c => c ≠ '?' && c ≠ '#'
  let rest := cs.drop path.length
  if !path.all isPathChar then none
  else
    match rest with
    | '?' :: rest =>
      let query := rest.takeWhile (· ≠ '#')
      if query.all isQueryChar then some (path, some query) else none
    | _ => some (path, none)

/-- What has been seen of an authority: colons that may mark a socket, brackets, and a per cent sign
that stands in no user name. -/
structure Seen where
  colons : Nat
  opened : Bool
  closed : Bool
  percent : Bool

def colonLimit : Nat := 8

def Seen.step (s : Seen) (c : Char) : Option Seen :=
  if c = ':' then if colonLimit ≤ s.colons then none else some { s with colons := s.colons + 1 }
  else if c = '[' then if s.percent || s.opened then none else some { s with opened := true }
  else if c = ']' then
    if !s.opened || s.closed then none else some ⟨0, s.opened, true, false⟩
  else if c = '@' then some { s with colons := 0, percent := false }
  else if c = '%' then some { s with percent := true }
  else if isAuthorityChar c then some s
  else none

def isAuthority (cs : List Char) : Bool :=
  match cs.foldlM Seen.step ⟨0, false, false, false⟩ with
  | none => false
  | some s =>
    s.opened = s.closed && s.colons ≤ 1 && cs.getLast? ≠ some '@' && !s.percent

def splitScheme? (cs : List Char) : Option (Option (List Char) × List Char) :=
  let scheme := cs.takeWhile isSchemeChar
  let rest := cs.drop scheme.length
  if rest.take 3 = [':', '/', '/'] then
    if schemeLimit < scheme.length then none else some (some scheme, rest.drop 3)
  else some (none, cs)

def ofChars? (cs : List Char) : Option Uri :=
  match cs with
  | [] => none
  | ['*'] => some ⟨none, none, "*", none⟩
  | '/' :: _ => do
    let (path, query) ← pathAndQuery? cs
    return ⟨none, none, String.ofList path, query.map String.ofList⟩
  | _ => do
    let (scheme, rest) ← splitScheme? cs
    let authority := rest.takeWhile fun c => !endsAuthority c
    let after := rest.drop authority.length
    if !isAuthority authority then none
    else
      match scheme with
      | none =>
        if after.isEmpty then some ⟨none, some (String.ofList authority), "", none⟩ else none
      | some scheme =>
        if authority.isEmpty then none
        else
          let (path, query) ← pathAndQuery? after
          let path := if path.isEmpty then ['/'] else path
          return ⟨some (String.ofList scheme), some (String.ofList authority), String.ofList path,
            query.map String.ofList⟩

def parse? (text : String) : Option Uri :=
  if lengthLimit < text.utf8ByteSize then none else ofChars? text.toList

end Uri

namespace Form

def ampersand : UInt8 := 38
def equals : UInt8 := 61
def plus : UInt8 := 43
def percent : UInt8 := 37
def space : UInt8 := 32

def hexByte? (a b : UInt8) : Option UInt8 :=
  (Text.hexNumber? [Char.ofNat a.toNat, Char.ofNat b.toNat]).map Nat.toUInt8

def unescape : Bytes → Bytes
  | [] => []
  | b :: rest =>
    if b = plus then space :: unescape rest
    else if b = percent then
      match rest with
      | x :: y :: more =>
        match hexByte? x y with
        | some v => v :: unescape more
        | none => b :: unescape (x :: y :: more)
      | short => b :: unescape short
    else b :: unescape rest

def decode (piece : Bytes) : String := Utf8.decodeLossy (unescape piece)

/-- The name up to the first `=`, and the value after it; without one the value is empty. -/
def pair (piece : Bytes) : String × String :=
  let name := piece.takeWhile (· ≠ equals)
  (decode name, decode (piece.drop (name.length + 1)))

def pairs (query : Bytes) : List (String × String) :=
  ((Text.parts ampersand query).filter fun piece => !piece.isEmpty).map pair

end Form
end Phrasebook.Http
