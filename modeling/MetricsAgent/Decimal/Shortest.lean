/-!
# The fewest digits that read back

A finite double is `mantissa · 2 ^ exponent`.  The reals that round to it form an interval, from
halfway to the neighbour below to halfway to the neighbour above, the ends included exactly when the
mantissa is even.  `Binary.shortest` is the decimal with the fewest digits in that interval, and of
those the nearest to the value.

* `FloatParts.ofFloat` takes a double apart, from its bits: no number, an infinity, a zero, or a
  sign and a `Binary`.
* `Binary.grid` is the scale on which the multiples of `10 ^ e` and the quarters of the last binary
  place of the double are both whole numbers.  The ends of the interval are whole numbers of such
  quarters (`Binary.low`, `Binary.high`), and below a power of two the interval is narrower.
* `Binary.nearestOn` is the point of one grid that reads back, if there is one.
* `Binary.search` goes from a grid that is too coarse to ever finer ones, and stops at the first
  that has such a point.

The search is exact: everything is compared after multiplying out to natural numbers.  On the grid
of multiples of `10 ^ e` only the two neighbours of the value matter, because if any point of the
grid lies in the interval then one of these two does.  Twenty grids are more than enough for a
double, which has at most seventeen digits; beyond them the exact value would be written.
-/

set_option autoImplicit false

namespace MetricsAgent

/-- The decimal number `digits · 10 ^ exponent`. -/
structure Decimal where
  digits : Nat
  exponent : Int
  deriving DecidableEq, Repr, Inhabited

/-- The positive binary number `mantissa · 2 ^ exponent`, and whether the gap to the double below is
half of the gap to the double above. -/
structure Binary where
  mantissa : Nat
  exponent : Int
  narrowBelow : Bool
  deriving DecidableEq, Repr, Inhabited

namespace Decimal

/-- The number of digits of `n`; zero has one. -/
def digitCount (n : Nat) : Nat := (Nat.toDigits 10 n).length

/-- Move trailing zeros of the digits into the exponent, at most `fuel` of them. -/
def stripZeros : Nat → Decimal → Decimal
  | 0, d => d
  | fuel + 1, d =>
    if d.digits ≠ 0 ∧ d.digits % 10 = 0 then stripZeros fuel ⟨d.digits / 10, d.exponent + 1⟩ else d

/-- The same number without trailing zeros in the digits. -/
def normalize (d : Decimal) : Decimal := stripZeros (digitCount d.digits) d

end Decimal

namespace Binary

/-- The grid of multiples of `10 ^ e` seen from a value whose quarter units are
`2 ^ (exponent - 2)`: a point `c` of the grid and a number `x` of quarter units are compared as
`c * point` and `x * quarter`. -/
structure Grid where
  point : Nat
  quarter : Nat

/-- The scale that makes multiples of `10 ^ e` and quarter units of `b` comparable. -/
def grid (b : Binary) (e : Int) : Grid :=
  let u := b.exponent - 2
  ⟨Nat.pow 10 e.toNat * Nat.pow 2 (-u).toNat, Nat.pow 2 u.toNat * Nat.pow 10 (-e).toNat⟩

/-- The lower end of the rounding interval, in quarter units. -/
def low (b : Binary) : Nat := if b.narrowBelow then 4 * b.mantissa - 1 else 4 * b.mantissa - 2

/-- The upper end of the rounding interval, in quarter units. -/
def high (b : Binary) : Nat := 4 * b.mantissa + 2

/-- Whether `c` points of the grid round to the value. -/
def readsBack (b : Binary) (g : Grid) (c : Nat) : Bool :=
  let x := c * g.point
  let lo := b.low * g.quarter
  let hi := b.high * g.quarter
  if b.mantissa % 2 = 0 then lo ≤ x && x ≤ hi else lo < x && x < hi

/-- The grid point nearest to the value among the value's two neighbours that read back. -/
def nearestOn (b : Binary) (e : Int) : Option Nat :=
  let g := b.grid e
  let v := 4 * b.mantissa * g.quarter
  let c := v / g.point
  match b.readsBack g c, b.readsBack g (c + 1) with
  | true, true => if 2 * v ≤ (2 * c + 1) * g.point then some c else some (c + 1)
  | true, false => some c
  | false, true => some (c + 1)
  | false, false => none

/-- The exact decimal value. -/
def exact (b : Binary) : Decimal :=
  if 0 ≤ b.exponent then ⟨b.mantissa * Nat.pow 2 b.exponent.toNat, 0⟩
  else ⟨b.mantissa * Nat.pow 5 (-b.exponent).toNat, b.exponent⟩

/-- Try ever finer grids, from `10 ^ e` downwards. -/
def search (b : Binary) : Nat → Int → Decimal
  | 0, _ => b.exact
  | n + 1, e =>
    match b.nearestOn e with
    | some c => ⟨c, e⟩
    | none => b.search n (e - 1)

/-- An exponent of ten that is at least that of the leading digit. -/
def leadingExponent (b : Binary) : Int :=
  ((Nat.log2 b.mantissa : Int) + b.exponent) * 30103 / 100000 + 1

/-- The decimal with the fewest digits that rounds to the value, and of those the nearest. -/
def shortest (b : Binary) : Decimal := (b.search 20 b.leadingExponent).normalize

end Binary

/-- A double taken apart: what kind of number it is, and its sign. -/
inductive FloatParts where
  | nan
  | infinite (negative : Bool)
  | zero (negative : Bool)
  | finite (negative : Bool) (magnitude : Binary)
  deriving DecidableEq, Repr

/-- Read sign, exponent and fraction off the bits of a double. -/
def FloatParts.ofFloat (x : Float) : FloatParts :=
  if x.isNaN then .nan
  else
    let bits := x.toBits.toNat
    let negative := decide (Nat.pow 2 63 ≤ bits)
    let biased : Nat := bits / Nat.pow 2 52 % 2048
    let fraction : Nat := bits % Nat.pow 2 52
    if biased = 2047 then .infinite negative
    else if biased = 0 then
      if fraction = 0 then .zero negative else .finite negative ⟨fraction, -1074, false⟩
    else .finite negative ⟨Nat.pow 2 52 + fraction, biased - 1075, fraction = 0 && 1 < biased⟩

end MetricsAgent
