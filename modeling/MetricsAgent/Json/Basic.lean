import MetricsAgent.Text.Blank
import MetricsAgent.Decimal.Layout

/-!
# JSON values

Numbers keep their text, objects keep their members in order, repeated keys included.  What a number
means is decided when it is asked for: as an unsigned or a signed word, or as a double.  A value
that is read and written again is therefore the same text, up to blanks.

The readers of numbers differ in what they accept.  `toUInt64?` and `toInt64?` want a literal
without a fraction and an exponent, and a negative zero is no integer to them.  `toFloat?` takes
every literal whose value is in the range of doubles.

The double of a literal is not always the nearest one.  The digits go into a significand of 64 bits
while they fit (`absorb`), and the significand is scaled by powers of ten with a rounding at each of
a few operations (`scale?`).  For the literals that this library writes itself the result is
nevertheless the double that was written, as far as that is needed
(`MetricsAgent.Proofs.Json.Literal`, `MetricsAgent.Proofs.Json.Double`).

In the other direction `ofFloat` writes the fewest digits that read back.  There is no text for what
is not finite, which becomes `null`.
-/

set_option autoImplicit false

namespace MetricsAgent

/-- A JSON value. -/
inductive Json where
  | null
  | bool (b : Bool)
  | number (literal : String)
  | string (text : String)
  | array (items : List Json)
  | object (members : List (String × Json))
  /-- Well formed, but with an escape in it that stands for no character. -/
  | broken
  deriving Inhabited

namespace Json

/-- A number literal taken apart. -/
structure NumberParts where
  negative : Bool
  whole : List Nat
  fraction : List Nat
  exponent : Int
  /-- Without a point and without an exponent. -/
  integral : Bool
  deriving DecidableEq

/-- The digits in front, and the rest. -/
def digits (cs : List Char) : List Nat × List Char :=
  ((cs.takeWhile (digitValue? · |>.isSome)).filterMap digitValue?,
    cs.dropWhile (digitValue? · |>.isSome))

/-- The number with the given digits. -/
def ofDigits (ds : List Nat) : Nat := ds.foldl (fun n d ↦ 10 * n + d) 0

/-- The exponent at the end of a literal. -/
def exponent? (cs : List Char) : Option Int :=
  let read (cs : List Char) : Option Nat :=
    match digits cs with
    | ([], _) => none
    | (ds, []) => some (ofDigits ds)
    | _ => none
  match cs with
  | '+' :: rest => (read rest).map fun n ↦ (n : Int)
  | '-' :: rest => (read rest).map fun n ↦ -(n : Int)
  | rest => (read rest).map fun n ↦ (n : Int)

/-- What follows the whole part of a literal. -/
def tail? (negative : Bool) (whole : List Nat) (cs : List Char) : Option NumberParts :=
  let close (fraction : List Nat) (integral : Bool) (cs : List Char) : Option NumberParts :=
    match cs with
    | [] => some ⟨negative, whole, fraction, 0, integral⟩
    | 'e' :: rest | 'E' :: rest =>
      (exponent? rest).map fun e ↦ ⟨negative, whole, fraction, e, false⟩
    | _ => none
  match cs with
  | '.' :: rest =>
    match digits rest with
    | ([], _) => none
    | (ds, rest) => close ds false rest
  | rest => close [] true rest

/-- Take a literal apart. A whole part of several digits does not start with zero. -/
def NumberParts.parse? (literal : List Char) : Option NumberParts :=
  let unsigned (negative : Bool) (cs : List Char) : Option NumberParts :=
    match digits cs with
    | ([], _) => none
    | (0 :: _ :: _, _) => none
    | (ds, rest) => tail? negative ds rest
  match literal with
  | '-' :: rest => unsigned true rest
  | rest => unsigned false rest

/-- Take digits into a 64-bit significand while they fit. Answers the significand and the number of
digits taken. -/
def absorb (significand : Nat) : List Nat → Nat × Nat
  | [] => (significand, 0)
  | d :: ds =>
    if 10 * significand + d < UInt64.size then
      let (s, n) := absorb (10 * significand + d) ds
      (s, n + 1)
    else (significand, 0)

/-- A power of ten as a double. -/
def powerOfTen (n : Nat) : Float := Float.ofScientific 1 false n

/-- `significand · 10 ^ exponent`, rounded after each of at most a few operations; `none` beyond the
range of doubles. -/
def scale? (significand : Nat) (exponent : Int) : Option Float :=
  let f := significand.toUInt64.toFloat
  if 0 ≤ exponent then
    if significand = 0 then some f
    else if 308 < exponent then none
    else
      let y := f * powerOfTen exponent.toNat
      if y.isInf then none else some y
  else
    let e := exponent.natAbs
    let steps := (e - 1) / 308
    some (Nat.repeat (· / powerOfTen 308) (min steps 4) f / powerOfTen (e - 308 * steps))

/-- The double that a literal stands for. -/
def NumberParts.toFloat? (p : NumberParts) : Option Float := do
  let (s, taken) := absorb 0 p.whole
  let dropped := p.whole.length - taken
  let magnitude ←
    if p.integral && dropped = 0 then some s.toUInt64.toFloat
    else
      let (s, places) := absorb s p.fraction
      scale? s (dropped - places + p.exponent)
  return if p.negative then -magnitude else magnitude

/-- The double that a value stands for. -/
def toFloat? : Json → Option Float
  | number literal => (NumberParts.parse? literal.toList).bind NumberParts.toFloat?
  | _ => none

/-- The integer that a value stands for; a negative zero is no integer. -/
def toInt? : Json → Option Int
  | number literal => do
    let p ← NumberParts.parse? literal.toList
    let n := ofDigits p.whole
    if ¬p.integral then none
    else if p.negative then if n = 0 then none else some (-(n : Int))
    else some n
  | _ => none

/-- An unsigned 64-bit word. -/
def toUInt64? (j : Json) : Option UInt64 := do
  let n ← j.toInt?
  if 0 ≤ n ∧ n < UInt64.size then some n.toNat.toUInt64 else none

/-- A signed 64-bit word. -/
def toInt64? (j : Json) : Option Int := do
  let n ← j.toInt?
  if -9223372036854775808 ≤ n ∧ n < 9223372036854775808 then some n else none

/-- A text. -/
def toText? : Json → Option String
  | string s => some s
  | _ => none

/-- A list. -/
def toList? : Json → Option (List Json)
  | array items => some items
  | _ => none

/-- Numbers in JSON texts are positional for leading exponents from -5 to 15, always with a
fraction, and otherwise have a signed exponent; there is no text for what is not finite. -/
def numberText : NumberText :=
  { positionalWhen := fun e ↦ -5 ≤ e && e ≤ 15, wholeSuffix := ".0", nan := "null",
    infinite := "null", negativeInfinite := "null" }

/-- A double as a value; what is not finite becomes `null`. -/
def ofFloat (x : Float) : Json :=
  match FloatParts.ofFloat x with
  | .nan | .infinite _ => null
  | _ => number (numberText.render x)

/-- An integer as a value. -/
def ofInt (n : Int) : Json := number (toString n)

/-- A word as a value. -/
def ofUInt64 (n : UInt64) : Json := number (toString n.toNat)

end Json

end MetricsAgent
