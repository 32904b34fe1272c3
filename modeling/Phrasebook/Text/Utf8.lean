/-!
Text as bytes. `pieces` reads a byte string left to right and yields a character for each well
formed sequence and `none` for each longest run of bytes that starts a sequence and cannot go on.
A byte string is text when no piece is missing; read leniently, each missing piece is U+FFFD.
-/
namespace Phrasebook.Utf8

abbrev Bytes := List UInt8

def encodeChar (c : Char) : Bytes :=
  let n := c.toNat
  if n < 0x80 then [n.toUInt8]
  else if n < 0x800 then [(0xC0 + n / 64).toUInt8, (0x80 + n % 64).toUInt8]
  else if n < 0x10000 then
    [(0xE0 + n / 4096).toUInt8, (0x80 + n / 64 % 64).toUInt8, (0x80 + n % 64).toUInt8]
  else
    [(0xF0 + n / 262144).toUInt8, (0x80 + n / 4096 % 64).toUInt8, (0x80 + n / 64 % 64).toUInt8,
      (0x80 + n % 64).toUInt8]

def encode (s : String) : Bytes := s.toList.flatMap encodeChar

def isTail (b : UInt8) : Bool := 0x80 ≤ b.toNat && b.toNat < 0xC0

/-- Whether `b` may come second after the lead byte `lead`: a tail byte, less those that would
spell a character in too many bytes, a surrogate, or a value above U+10FFFF. -/
def fits (lead : Nat) (b : UInt8) : Bool :=
  isTail b &&
    (if lead = 0xE0 then 0xA0 ≤ b.toNat
      else if lead = 0xED then b.toNat < 0xA0
      else if lead = 0xF0 then 0x90 ≤ b.toNat
      else if lead = 0xF4 then b.toNat < 0x90
      else true)

def low (b : UInt8) : Nat := b.toNat - 0x80

def pieces : Bytes → List (Option Char)
  | [] => []
  | a :: rest =>
    let n := a.toNat
    if n < 0x80 then some (Char.ofNat n) :: pieces rest
    else if n < 0xC2 || 0xF5 ≤ n then none :: pieces rest
    else
      match rest with
      | [] => [none]
      | b :: rest₂ =>
        if !fits n b then none :: pieces (b :: rest₂)
        else if n < 0xE0 then some (Char.ofNat ((n - 0xC0) * 64 + low b)) :: pieces rest₂
        else
          match rest₂ with
          | [] => [none]
          | c :: rest₃ =>
            if !isTail c then none :: pieces (c :: rest₃)
            else if n < 0xF0 then
              some (Char.ofNat ((n - 0xE0) * 4096 + low b * 64 + low c)) :: pieces rest₃
            else
              match rest₃ with
              | [] => [none]
              | d :: rest₄ =>
                if !isTail d then none :: pieces (d :: rest₄)
                else
                  some (Char.ofNat ((n - 0xF0) * 262144 + low b * 4096 + low c * 64 + low d)) ::
                    pieces rest₄

def decode? (bs : Bytes) : Option String := ((pieces bs).mapM id).map String.ofList

def decodeLossy (bs : Bytes) : String :=
  String.ofList ((pieces bs).map fun p => p.getD '\uFFFD')

end Phrasebook.Utf8
