import MetricsAgent.Text.Blank

/-!
# Reading decimals

A decimal has digits with a point before, between or after them, and possibly a signed power of ten
behind.  `Decimal.read?` reads it as the nearest double, and answers `none` for a text that is no
decimal; a sign other than a minus in front is none either.

`Decimal.nearest` is where the digits become a double.  A number whose leading digit is far beyond
the range of doubles, on either side, is zero or infinite at once.  Between these bounds the
rounding is that of `Float.ofScientific`, which computes with whole numbers of any size and rounds
once, to the nearest double and to the even one of two that are equally near.  The bounds keep those
numbers small without changing any result.
-/

set_option autoImplicit false

namespace MetricsAgent.Decimal

/-- The power of ten at the end of a decimal. -/
def power? (cs : List Char) : Option Int :=
  match cs with
  | [] => some 0
  | c :: cs =>
    if c ≠ 'e' && c ≠ 'E' then none
    else
      match cs with
      | '-' :: ds => (decimalNat? ds).map fun n ↦ -(n : Int)
      | '+' :: ds => (decimalNat? ds).map fun n ↦ (n : Int)
      | ds => (decimalNat? ds).map fun n ↦ (n : Int)

/-- The nearest double of `digits · 10 ^ power`. Beyond the given bounds it is zero or infinite. -/
def nearest (digits : Nat) (power : Int) : Float :=
  let size := (Nat.toDigits 10 digits).length
  if digits = 0 || power + size < -400 then 0.0
  else if 400 < power + size then 1.0 / 0.0
  else Float.ofScientific digits (power < 0) power.natAbs

/-- Read a decimal without a sign. -/
def readUnsigned? (cs : List Char) : Option Float := do
  let whole := cs.takeWhile Char.isDigit
  let rest := cs.drop whole.length
  let fraction := if rest.head? = some '.' then (rest.drop 1).takeWhile Char.isDigit else []
  let tail := if rest.head? = some '.' then rest.drop (fraction.length + 1) else rest
  let digits ← decimalNat? (whole ++ fraction)
  return nearest digits ((← power? tail) - fraction.length)

/-- Read a decimal, possibly behind a minus sign. -/
def read? (cs : List Char) : Option Float :=
  match cs with
  | '-' :: cs => (readUnsigned? cs).map fun x ↦ -x
  | cs => readUnsigned? cs

end MetricsAgent.Decimal
