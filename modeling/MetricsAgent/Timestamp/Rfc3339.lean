import MetricsAgent.Timestamp.Basic
import MetricsAgent.Text.Blank

/-!
# Timestamps as RFC 3339 text

`Timestamp.render` writes universal time with a `Z`, and as many decimal places of the second as are
needed in groups of three.  `Timestamp.parse?` is more generous: blanks around the numbers,
one-digit months, a blank in place of the `T`, signed years, any offset of hours and minutes, and a
leap second, which is the first second of the next minute.

The reader is a chain of small ones, each of which takes a part off the front of the text and
answers the part and the rest: `year?`, `number?`, `mark?`, `fraction?`, `offset?`.  None of them
looks back, so reading a timestamp is reading its parts one after the other, and a proof about it is
a lemma for each part (`MetricsAgent.Proofs.Timestamp.ReadBack`).

Years have four digits from 0 to 9999 and a sign outside of that.  The years that a timestamp may
lie in are bounded (`yearInRange`), both as the text gives them and in universal time, after the
offset is taken off; a text with any other year is no timestamp.
-/

set_option autoImplicit false

namespace MetricsAgent

namespace Timestamp

/-- The nanoseconds of a second as decimal places, in groups of three. -/
def fractionText (n : Nat) : List Char :=
  if n = 0 then []
  else if n % 1000000 = 0 then '.' :: padded 3 (n / 1000000)
  else if n % 1000 = 0 then '.' :: padded 6 (n / 1000)
  else '.' :: padded 9 n

/-- Four digits; years outside of 0 to 9999 have a sign. -/
def yearText (y : Int) : List Char :=
  if 0 ≤ y ∧ y ≤ 9999 then padded 4 y.toNat
  else (if y < 0 then '-' else '+') :: padded 4 y.natAbs

/-- The characters of the timestamp in universal time. -/
def renderChars (t : Timestamp) : List Char :=
  let seconds := t.nanos.fdiv 1000000000
  let nanos := (t.nanos - seconds * 1000000000).toNat
  let days := seconds.fdiv 86400
  let ofDay := (seconds - days * 86400).toNat
  let d := Date.ofDays days
  yearText d.year ++ '-' :: padded 2 d.month ++ '-' :: padded 2 d.day ++ 'T' ::
    padded 2 (ofDay / 3600) ++ ':' :: padded 2 (ofDay / 60 % 60) ++ ':' ::
    padded 2 (ofDay % 60) ++ fractionText nanos ++ ['Z']

/-- The timestamp in universal time. -/
def render (t : Timestamp) : String := String.ofList t.renderChars

/-- Leave out the blanks in front. -/
def skipBlank (cs : List Char) : List Char := cs.dropWhile isBlank

/-- At least one and at most `width` digits, and the rest. -/
def takeDigits? (width : Nat) (cs : List Char) : Option (Nat × List Char) := do
  let ds := (cs.take width).takeWhile (digitValue? · |>.isSome)
  return (← decimalNat? ds, cs.drop ds.length)

/-- A number of at most `width` digits, blanks in front of it ignored. -/
def number? (width : Nat) (cs : List Char) : Option (Nat × List Char) :=
  takeDigits? width (skipBlank cs)

/-- A year: four digits, or any number of digits after a sign. -/
def year? (cs : List Char) : Option (Int × List Char) := do
  match skipBlank cs with
  | '-' :: rest => let (n, rest) ← takeDigits? rest.length rest; return (-(n : Int), rest)
  | '+' :: rest => let (n, rest) ← takeDigits? rest.length rest; return ((n : Int), rest)
  | rest => let (n, rest) ← takeDigits? 4 rest; return ((n : Int), rest)

/-- The given character, blanks in front of it ignored. -/
def mark? (c : Char) (cs : List Char) : Option (List Char) :=
  match skipBlank cs with
  | d :: rest => if d = c then some rest else none
  | [] => none

/-- The decimal places of a second in nanoseconds; places beyond the ninth are cut off. -/
def fraction? (cs : List Char) : Option (Nat × List Char) :=
  match cs with
  | '.' :: rest => do
    let (n, after) ← takeDigits? 9 rest
    let places := rest.length - after.length
    return (n * Nat.pow 10 (9 - places), after.dropWhile (digitValue? · |>.isSome))
  | _ => some (0, cs)

/-- Two digits. -/
def twoDigits? : List Char → Option (Nat × List Char)
  | a :: b :: rest => do return (10 * (← digitValue? a) + (← digitValue? b), rest)
  | _ => none

/-- An offset from universal time in seconds: `Z`, `UTC`, or hours and minutes after a sign. -/
def offset? (cs : List Char) : Option (Int × List Char) :=
  match cs with
  | [] => none
  | c :: rest =>
    if (cs.take 3).map Char.toUpper = ['U', 'T', 'C'] then some (0, cs.drop 3)
    else if c = 'Z' ∨ c = 'z' then some (0, rest)
    else if c = '+' ∨ c = '-' ∨ c = '−' then do
      let (hours, rest) ← twoDigits? rest
      let (minutes, rest) ← twoDigits? (rest.dropWhile fun c ↦ c = ':' || isBlank c)
      let seconds : Int := hours * 3600 + minutes * 60
      if minutes < 60 then return (if c = '+' then seconds else -seconds, rest) else none
    else none

/-- The years that a timestamp can lie in. -/
def yearInRange (y : Int) : Bool := -262143 ≤ y && y ≤ 262142

/-- Read a date, a time and an offset. -/
def parse? (text : String) : Option Timestamp := do
  let (year, cs) ← year? text.toList
  let (month, cs) ← number? 2 (← mark? '-' cs)
  let (day, cs) ← number? 2 (← mark? '-' cs)
  let cs ← match cs with
    | 'T' :: rest | 't' :: rest | ' ' :: rest => some rest
    | _ => none
  let (hour, cs) ← number? 2 cs
  let (minute, cs) ← number? 2 (← mark? ':' cs)
  let (second, cs) ← number? 2 (← mark? ':' cs)
  let (nanos, cs) ← fraction? cs
  let (offset, cs) ← offset? (skipBlank cs)
  let date : Date := ⟨year, month, day⟩
  if (skipBlank cs).isEmpty ∧ date.isValid ∧ yearInRange year ∧ hour < 24 ∧
    minute < 60 ∧ second ≤ 60
      ∧ offset.natAbs < 86400 then
    let seconds := date.toDays * 86400 + hour * 3600 + minute * 60 + second - offset
    if yearInRange (Date.ofDays (seconds.fdiv 86400)).year then
      return ⟨seconds * 1000000000 + nanos⟩
    else none
  else none

end Timestamp

end MetricsAgent
