/-!
Numbers of 64-bit binary floating point, as a sign, a whole mantissa and a power of two. Every
result is the exact quotient of two natural numbers, rounded once by `ofRatio?`: to the nearest
number of the format, and of two equally near ones to the one with the even mantissa.

The way back is `shortest`, the shortest decimal that rounds to a number. On the grid of decimals
with one digit, then two, and so on up to 17, the two neighbours of the number are tried; the first
grid with a neighbour that rounds back wins, of two such neighbours the nearer, and of two equally
near the even one.
-/
namespace Phrasebook

/-- A finite number: `mantissa * 2 ^ exponent`, with a minus sign or without. The mantissa has at
most 53 binary digits, exactly 53 unless the exponent is the least one, -1074. -/
structure Binary64 where
  negative : Bool
  mantissa : Nat
  exponent : Int
  deriving DecidableEq, Repr

namespace Binary64

def leastExponent : Int := -1074
def greatestExponent : Int := 971

def zero (negative : Bool) : Binary64 := ⟨negative, 0, leastExponent⟩

def isZero (x : Binary64) : Bool := x.mantissa = 0

def roundDiv (num den : Nat) : Nat :=
  let floor := num / den
  let twice := 2 * (num % den)
  if twice < den then floor else if den < twice then floor + 1 else floor + floor % 2

def scaled (base num den : Nat) (e : Int) : Nat × Nat :=
  if 0 ≤ e then (num, den * Nat.pow base e.toNat) else (num * Nat.pow base (-e).toNat, den)

def binaryOrder (num den : Nat) : Int :=
  let guess : Int := num.log2 - den.log2
  let (n, d) := scaled 2 num den guess
  if n < d then guess - 1 else guess

def gridExponent (num den : Nat) : Int := max leastExponent (binaryOrder num den - 52)

def ofRatio? (negative : Bool) (num den : Nat) : Option Binary64 :=
  if num = 0 then some (zero negative)
  else
    let e := gridExponent num den
    let (n, d) := scaled 2 num den e
    let m := roundDiv n d
    let (m, e) := if m = Nat.pow 2 53 then (Nat.pow 2 52, e + 1) else (m, e)
    if greatestExponent < e then none else some ⟨negative, m, e⟩

def ratio (x : Binary64) : Nat × Nat := scaled 2 x.mantissa 1 (-x.exponent)

def ofNat? (n : Nat) : Option Binary64 := ofRatio? false n 1

def neg (x : Binary64) : Binary64 := { x with negative := !x.negative }

def mul? (x y : Binary64) : Option Binary64 :=
  let (a, b) := x.ratio
  let (c, d) := y.ratio
  ofRatio? (x.negative != y.negative) (a * c) (b * d)

def div? (x y : Binary64) : Option Binary64 :=
  let (a, b) := x.ratio
  let (c, d) := y.ratio
  if c = 0 then none else ofRatio? (x.negative != y.negative) (a * d) (b * c)

def ofDecimal? (negative : Bool) (digits : Nat) (e : Int) : Option Binary64 :=
  let (n, d) := scaled 10 digits 1 (-e)
  ofRatio? negative n d

end Binary64

structure Decimal where
  digits : Nat
  exponent : Int
  deriving DecidableEq, Repr

namespace Decimal

def strip : (places : Nat) → Decimal → Decimal
  | 0, d => d
  | places + 1, d =>
    if d.digits % 10 = 0 then strip places ⟨d.digits / 10, d.exponent + 1⟩ else d

def order (d : Decimal) : Int := d.exponent + ((Nat.toDigits 10 d.digits).length - 1 : Nat)

end Decimal

namespace Binary64

def decimalOrder (num den : Nat) : Int :=
  if den ≤ num then ((Nat.toDigits 10 (num / den)).length : Int) - 1
  else
    let places := (Nat.toDigits 10 (den / num)).length
    if den ≤ num * Nat.pow 10 (places - 1) then 1 - (places : Int) else -(places : Int)

/-- The decimals that round to a number lie between `low` and `high`, all in fourths of the
number's last binary place; the ends belong to it when the mantissa is even. -/
structure Interval where
  low : Nat
  value : Nat
  high : Nat
  closed : Bool

/-- Half a place up and half a place down, but a quarter down from a power of two, whose lower
neighbour is nearer. -/
def interval (x : Binary64) : Interval :=
  let m := x.mantissa
  { low := if m = Nat.pow 2 52 && leastExponent < x.exponent then 4 * m - 1 else 4 * m - 2
    value := 4 * m
    high := 4 * m + 2
    closed := m % 2 = 0 }

def Interval.contains (i : Interval) (unit p : Nat) : Bool :=
  if i.closed then i.low * unit ≤ p && p ≤ i.high * unit
  else i.low * unit < p && p < i.high * unit

def onGrid? (x : Binary64) (e : Int) : Option Decimal :=
  let i := x.interval
  -- A fourth of a place is `unit / step` steps of the decimal grid.
  let (num, den) := scaled 2 1 1 (2 - x.exponent)
  let (unit, step) := scaled 10 num den e
  let value := i.value * unit
  let below := value / step
  let above := below + 1
  let nearBelow := value - below * step
  let nearAbove := above * step - value
  match i.contains unit (below * step), i.contains unit (above * step) with
  | true, true =>
    if nearBelow < nearAbove || (nearBelow = nearAbove && below % 2 = 0) then some ⟨below, e⟩
    else some ⟨above, e⟩
  | true, false => some ⟨below, e⟩
  | false, true => some ⟨above, e⟩
  | false, false => none

def shortest (x : Binary64) : Decimal :=
  if x.isZero then ⟨0, 0⟩
  else
    let (num, den) := x.ratio
    let order := decimalOrder num den
    let exact : Decimal := ⟨num / den, 0⟩
    ((List.range 17).findSome? fun (more : Nat) => x.onGrid? (order - more)).getD exact |>.strip 17

end Binary64

end Phrasebook
