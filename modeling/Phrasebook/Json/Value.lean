import Phrasebook.Binary64
import Phrasebook.Table
import Phrasebook.Text.Characters

/-!
The values of JSON and their compact texts. An object is a list of members in the order in which it
is written; as a table from names to values it is put in order by `Value.ordered`, which keeps the
last member of a name.

A text has no blanks, and members in the order in which they stand. In a string only the quote, the
backslash and characters below U+0020 are escaped. A real has the fewest digits that read back. It
stands positionally, with a digit on each side of the point, while its leading digit is worth
`10 ^ -5` to `10 ^ 15`; beyond that it has a signed exponent, and a point only between digits.
-/
namespace Phrasebook.Json

inductive Number where
  | integer (n : Int)
  | real (x : Binary64)
  deriving DecidableEq, Repr

inductive Value where
  | null
  | bool (b : Bool)
  | number (n : Number)
  | string (s : String)
  | array (items : List Value)
  | object (members : List (String × Value))
  deriving Repr, Inhabited

namespace Value

/-- Members stand in ascending order of their names, one a name, here and in all values within. -/
inductive Ordered : Value → Prop where
  | null : Ordered .null
  | bool (b : Bool) : Ordered (.bool b)
  | number (n : Number) : Ordered (.number n)
  | string (s : String) : Ordered (.string s)
  | array {items : List Value} (each : ∀ v ∈ items, Ordered v) : Ordered (.array items)
  | object {members : List (String × Value)} (ascending : Entries.Ascending members)
      (each : ∀ m ∈ members, Ordered m.2) : Ordered (.object members)

mutual

def ordered : Value → Value
  | .array items => .array (orderedItems items)
  | .object members => .object (Entries.ofList (orderedMembers members))
  | v => v

def orderedItems : List Value → List Value
  | [] => []
  | v :: rest => v.ordered :: orderedItems rest

def orderedMembers : List (String × Value) → List (String × Value)
  | [] => []
  | (name, v) :: rest => (name, v.ordered) :: orderedMembers rest

end

mutual

theorem ordered_ordered : (v : Value) → v.ordered.Ordered
  | .null => .null
  | .bool b => .bool b
  | .number n => .number n
  | .string s => .string s
  | .array items => by
    rw [ordered]; exact .array (ordered_orderedItems items)
  | .object members => by
    rw [ordered]
    exact .object (Entries.ascending_ofList _) fun m hm =>
      ordered_orderedMembers members m (Entries.mem_ofList hm)

theorem ordered_orderedItems : (items : List Value) → ∀ v ∈ orderedItems items, v.Ordered
  | [] => by simp [orderedItems]
  | v :: rest => by
    simp only [orderedItems, List.mem_cons]
    rintro w (rfl | h)
    · exact ordered_ordered v
    · exact ordered_orderedItems rest w h

theorem ordered_orderedMembers :
    (members : List (String × Value)) → ∀ m ∈ orderedMembers members, m.2.Ordered
  | [] => by simp [orderedMembers]
  | (name, v) :: rest => by
    simp only [orderedMembers, List.mem_cons]
    rintro m (rfl | h)
    · exact ordered_ordered v
    · exact ordered_orderedMembers rest m h

end

end Value

structure RealFormat where
  least : Int
  greatest : Int

def realFormat : RealFormat := ⟨-5, 15⟩

def positional (digits : List Char) (order : Int) : List Char :=
  if order < 0 then
    '0' :: '.' :: (List.replicate (-order - 1).toNat '0' ++ digits)
  else
    let whole := order.toNat + 1
    let padded := digits ++ List.replicate (whole - digits.length) '0'
    let places := padded.drop whole
    padded.take whole ++ '.' :: (if places.isEmpty then ['0'] else places)

def scientific (digits : List Char) (order : Int) : List Char :=
  let places := digits.drop 1
  digits.take 1 ++ (if places.isEmpty then [] else '.' :: places) ++
    'e' :: (if order < 0 then '-' else '+') :: Nat.toDigits 10 order.natAbs

def realChars (x : Binary64) : List Char :=
  let sign := if x.negative then ['-'] else []
  if x.isZero then sign ++ ['0', '.', '0']
  else
    let d := x.shortest
    let digits := Nat.toDigits 10 d.digits
    if realFormat.least ≤ d.order ∧ d.order ≤ realFormat.greatest then
      sign ++ positional digits d.order
    else sign ++ scientific digits d.order

def integerChars (n : Int) : List Char :=
  if n < 0 then '-' :: Nat.toDigits 10 n.natAbs else Nat.toDigits 10 n.natAbs

namespace Number

def chars : Number → List Char
  | .integer n => integerChars n
  | .real x => realChars x

def text (n : Number) : String := String.ofList n.chars

end Number

def escaped (c : Char) : List Char :=
  if c = '"' then ['\\', '"']
  else if c = '\\' then ['\\', '\\']
  else if c = '\x08' then ['\\', 'b']
  else if c = '\x0c' then ['\\', 'f']
  else if c = '\n' then ['\\', 'n']
  else if c = '\r' then ['\\', 'r']
  else if c = '\t' then ['\\', 't']
  else if c.toNat < 0x20 then
    ['\\', 'u', '0', '0', Text.hexDigit (c.toNat / 16), Text.hexDigit (c.toNat % 16)]
  else [c]

def stringChars (s : String) : List Char := '"' :: (s.toList.flatMap escaped ++ ['"'])

namespace Value

mutual

def chars : Value → List Char
  | .null => ['n', 'u', 'l', 'l']
  | .bool true => ['t', 'r', 'u', 'e']
  | .bool false => ['f', 'a', 'l', 's', 'e']
  | .number n => n.chars
  | .string s => stringChars s
  | .array [] => ['[', ']']
  | .array (v :: rest) => '[' :: (v.chars ++ moreItems rest)
  | .object [] => ['{', '}']
  | .object ((name, v) :: rest) => '{' :: (stringChars name ++ ':' :: (v.chars ++ moreMembers rest))

def moreItems : List Value → List Char
  | [] => [']']
  | v :: rest => ',' :: (v.chars ++ moreItems rest)

def moreMembers : List (String × Value) → List Char
  | [] => ['}']
  | (name, v) :: rest => ',' :: (stringChars name ++ ':' :: (v.chars ++ moreMembers rest))

end

def text (v : Value) : String := String.ofList v.chars

end Value
end Phrasebook.Json
