import MetricsAgent.Decimal.Shortest

/-!
# How digits are laid out

The same digits can be written in several ways.  `Decimal.positional` writes all places, with zeros
where there is no digit; `Decimal.scientific` writes one digit before the point and a signed
exponent.  The formats of the agent differ in when they use which, in what follows a whole number,
and in what they call the numbers that have no digits at all.

`NumberText` is the record of these decisions.  `NumberText.render` applies it to a double: the
digits are always the fewest that read back (`MetricsAgent.Decimal.Shortest`), and the record
decides on everything else.  An exposition, a JSON text and a message about a rate are written by
three such records, each in the module of its format, and what is known of the digits holds of all
of them.
-/

set_option autoImplicit false

namespace MetricsAgent

namespace Decimal

/-- The digits as characters, most significant first. -/
def digitChars (d : Decimal) : List Char := Nat.toDigits 10 d.digits

/-- The exponent of the leading digit: the number is `d.ddd · 10 ^ leading`. -/
def leading (d : Decimal) : Int := d.digitChars.length + d.exponent - 1

/-- All places written out; `wholeSuffix` follows a number without a fraction. -/
def positional (d : Decimal) (wholeSuffix : List Char) : List Char :=
  let ds := d.digitChars
  if 0 ≤ d.exponent then ds ++ List.replicate d.exponent.toNat '0' ++ wholeSuffix
  else
    let places := (-d.exponent).toNat
    if places < ds.length then ds.take (ds.length - places) ++ '.' :: ds.drop (ds.length - places)
    else '0' :: '.' :: List.replicate (places - ds.length) '0' ++ ds

/-- One digit before the point, a signed exponent, and no point where no digit follows. -/
def scientific (d : Decimal) : List Char :=
  let power := (if 0 ≤ d.leading then '+' else '-') :: Nat.toDigits 10 d.leading.natAbs
  match d.digitChars with
  | [] => 'e' :: power
  | [c] => c :: 'e' :: power
  | c :: cs => c :: '.' :: cs ++ 'e' :: power

end Decimal

/-- The decisions of a number format. -/
structure NumberText where
  /-- Leading exponents in this range are written positionally. -/
  positionalWhen : Int → Bool
  /-- What follows a positional number without a fraction. -/
  wholeSuffix : String
  nan : String
  infinite : String
  negativeInfinite : String

namespace NumberText

/-- A minus sign in front, where asked for. -/
def signed (negative : Bool) (cs : List Char) : List Char := if negative then '-' :: cs else cs

/-- The text of a positive decimal. -/
def magnitude (f : NumberText) (d : Decimal) : List Char :=
  if f.positionalWhen d.leading then d.positional f.wholeSuffix.toList else d.scientific

/-- The text of a double: the fewest digits that read back, in the layout of the format. -/
def render (f : NumberText) (x : Float) : String :=
  match FloatParts.ofFloat x with
  | .nan => f.nan
  | .infinite true => f.negativeInfinite
  | .infinite false => f.infinite
  | .zero negative => String.ofList (signed negative ('0' :: f.wholeSuffix.toList))
  | .finite negative b => String.ofList (signed negative (f.magnitude b.shortest))

end NumberText

end MetricsAgent
