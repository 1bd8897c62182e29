import MetricsAgent.Duration.Basic
import MetricsAgent.Text.Blank

/-!
# Durations as text

Three forms.  `Duration.parse` reads what people write, such as `1h 30m` or `2.5 seconds`;
`Duration.render` writes the same language with the largest units first; `Duration.compact` writes
one unit with a decimal fraction, such as `1.5ms`, for use inside messages.

The reader goes through the text one character at a time.  Its state is a `Reader`: a phase, the
number of bytes read, and the sum of the amounts that are finished.  The phases are those of an
amount — before it, in its whole part, behind its point, in the name of its unit — and `Reader.step`
is one case for each of them.

What is read is more than what is written.

* Amounts may come in any order and any number, with or without blanks between them, and are added.
* A unit has several names, and a month is 30.44 days, a year 365.25 days.
* A fraction has to be a whole number of nanoseconds, or of seconds for units longer than a minute
  (`TimeUnit.fractionGrain?`): `0.5h` is read, a fraction of an hour that is no whole second is not.
* A lone zero needs no unit; every other number does.

The errors say where in the text something is wrong, counted in bytes, and their wording is
`ParseError.message`.  Numbers are bounded by 64 bits on the way, so that an amount that would fit
only after a later division is refused as too large.
-/

set_option autoImplicit false

namespace MetricsAgent

/-- The units of time a text may use. -/
inductive TimeUnit where
  | nanosecond | microsecond | millisecond | second | minute | hour | day | week | month | year
  deriving DecidableEq, Repr

namespace TimeUnit

/-- The unit named by a text. -/
def ofName? : String → Option TimeUnit
  | "nanos" | "nsec" | "ns" => some nanosecond
  | "usec" | "us" | "µs" => some microsecond
  | "millis" | "msec" | "ms" => some millisecond
  | "seconds" | "second" | "secs" | "sec" | "s" => some second
  | "minutes" | "minute" | "min" | "mins" | "m" => some minute
  | "hours" | "hour" | "hrs" | "hr" | "h" => some hour
  | "days" | "day" | "d" => some day
  | "weeks" | "week" | "wk" | "wks" | "w" => some week
  | "months" | "month" | "M" => some month
  | "years" | "year" | "yr" | "yrs" | "y" => some year
  | _ => none

/-- The length of the unit in nanoseconds. A month is 30.44 days and a year 365.25 days. -/
def nanos : TimeUnit → Nat
  | nanosecond => 1
  | microsecond => 1000
  | millisecond => 1000000
  | second => nanosPerSecond
  | minute => 60 * nanosPerSecond
  | hour => 3600 * nanosPerSecond
  | day => 86400 * nanosPerSecond
  | week => 604800 * nanosPerSecond
  | month => 2630016 * nanosPerSecond
  | year => 31557600 * nanosPerSecond

/-- Amounts of this unit are counted in nanoseconds, those of longer units in seconds. -/
def isSubsecond : TimeUnit → Bool
  | nanosecond | microsecond | millisecond => true
  | _ => false

/-- The grain to which a fraction of the unit has to be whole, in nanoseconds; a nanosecond has no
fractions. -/
def fractionGrain? : TimeUnit → Option Nat
  | nanosecond => none
  | microsecond | millisecond | second | minute => some 1
  | _ => some nanosPerSecond

end TimeUnit

namespace Duration

/-- Why a text is no duration. Offsets count bytes. -/
inductive ParseError where
  | empty
  | numberExpected (offset : Nat)
  | invalidCharacter (offset : Nat)
  | unitNeeded (amount : Nat)
  | unknownUnit (name : String)
  | outOfRange
  deriving DecidableEq, Repr

/-- The wording of a parse error. -/
def ParseError.message : ParseError → String
  | empty => "duration string is empty"
  | numberExpected offset => s!"expected number at {offset}"
  | invalidCharacter offset => s!"invalid character at {offset}"
  | unitNeeded amount => s!"time unit needed, for example {amount}sec or {amount}ms"
  | unknownUnit name =>
    "unknown time unit \"" ++ name ++ "\", supported units: ns, us/µs, ms, sec, min, hours, days, "
      ++ "weeks, months, years (and few variations)"
  | outOfRange =>
    "number is too large or cannot be represented without a lack of precision "
      ++ "(values below 1ns are not supported)"

/-- The digits after a decimal point: `numerator / denominator`. -/
structure Fraction where
  numerator : Nat
  denominator : Nat

/-- What the reader is in the middle of. -/
inductive Phase where
  /-- Before a number. -/
  | between
  /-- In the whole part of a number. -/
  | whole (amount : Nat)
  /-- After a decimal point; `mark` is where a complaint about the next character points to. -/
  | fraction (amount : Nat) (fraction : Fraction) (mark : Nat)
  /-- In the name of a unit, its characters in reverse order. -/
  | unit (amount : Nat) (fraction : Option Fraction) (name : List Char)

/-- The reader's state: the phase, the number of bytes read, and the sum of the finished amounts. -/
structure Reader where
  phase : Phase
  offset : Nat
  total : Nat

/-- A number of the size of a machine word, or a complaint. -/
def word (n : Nat) : Except ParseError Nat := if n < UInt64.size then .ok n else .error .outOfRange

/-- A character that may be part of the name of a unit. -/
def isUnitChar (c : Char) : Bool := isAsciiLetter c || c = 'µ'

/-- Add an amount in nanoseconds, given as whole seconds or as nanoseconds below the second. -/
def addAmount (total seconds nanos : Nat) : Except ParseError Nat := do
  let sub ← word (total % nanosPerSecond + nanos)
  let sum := total / nanosPerSecond * nanosPerSecond + seconds * nanosPerSecond + sub
  if sum < limit then .ok sum else .error .outOfRange

/-- Add `amount` units to the total. -/
def addWhole (total amount : Nat) (unit : TimeUnit) : Except ParseError Nat := do
  if unit.isSubsecond then addAmount total 0 (← word (amount * unit.nanos))
  else addAmount total (← word (amount * (unit.nanos / nanosPerSecond))) 0

/-- Add a fraction of a unit to the total. It must be a whole number of grains. -/
def addFraction (total : Nat) (f : Fraction) (unit : TimeUnit) : Except ParseError Nat := do
  match unit.fractionGrain? with
  | none => .error .outOfRange
  | some grain =>
    let scaled ← word (f.numerator * (unit.nanos / grain))
    if scaled % f.denominator ≠ 0 then .error .outOfRange
    else if grain = 1 then addAmount total 0 (scaled / f.denominator)
    else addAmount total (scaled / f.denominator) 0

/-- Close an amount when its unit has been read. -/
def finishUnit (total amount : Nat) (f : Option Fraction) (name : List Char) :
    Except ParseError Nat := do
  match TimeUnit.ofName? (String.ofList name) with
  | none => .error (if name.isEmpty then .unitNeeded amount else .unknownUnit (String.ofList name))
  | some unit =>
    let total ← addWhole total amount unit
    match f with
    | none => .ok total
    | some f => addFraction total f unit

/-- A fraction needs at least one digit. -/
def checkFraction (f : Fraction) (mark : Nat) : Except ParseError Unit :=
  if f.denominator = 1 then .error (.invalidCharacter mark) else .ok ()

/-- One digit more of a fraction. -/
def Fraction.push (f : Fraction) (digit : Nat) : Except ParseError Fraction := do
  return ⟨← word (10 * f.numerator + digit), ← word (10 * f.denominator)⟩

/-- Read one character. -/
def Reader.step (r : Reader) (c : Char) : Except ParseError Reader := do
  let offset := r.offset + c.utf8Size
  match r.phase with
  | .between =>
    match digitValue? c with
    | some d => .ok ⟨.whole d, offset, r.total⟩
    | none =>
      if isBlank c then .ok ⟨.between, offset, r.total⟩ else .error (.numberExpected r.offset)
  | .whole n =>
    match digitValue? c with
    | some d => .ok ⟨.whole (← word (10 * n + d)), offset, r.total⟩
    | none =>
      if isBlank c then .ok ⟨.whole n, offset, r.total⟩
      else if isUnitChar c then .ok ⟨.unit n none [c], offset, r.total⟩
      else if c = '.' then .ok ⟨.fraction n ⟨0, 1⟩ r.offset, offset, r.total⟩
      else .error (.invalidCharacter r.offset)
  | .fraction n f mark =>
    match digitValue? c with
    | some d => .ok ⟨.fraction n (← f.push d) offset, offset, r.total⟩
    | none =>
      if isBlank c then .ok ⟨.fraction n f offset, offset, r.total⟩
      else if isUnitChar c then do
        checkFraction f mark
        .ok ⟨.unit n (some f) [c], offset, r.total⟩
      else .error (.invalidCharacter mark)
  | .unit n f name =>
    match digitValue? c with
    | some d => .ok ⟨.whole d, offset, ← finishUnit r.total n f name.reverse⟩
    | none =>
      if isBlank c then .ok ⟨.between, offset, ← finishUnit r.total n f name.reverse⟩
      else if isUnitChar c then .ok ⟨.unit n f (c :: name), offset, r.total⟩
      else .error (.invalidCharacter r.offset)

/-- Close the last amount. -/
def Reader.finish (r : Reader) : Except ParseError Nat := do
  match r.phase with
  | .between => .ok r.total
  | .whole n => finishUnit r.total n none []
  | .fraction n f mark => do
    checkFraction f mark
    finishUnit r.total n (some f) []
  | .unit n f name => finishUnit r.total n f name.reverse

/-- Read a duration: amounts with units, in any order and number, blanks before and between them
ignored. A lone zero needs no unit. -/
def parseChars (cs : List Char) : Except ParseError Duration := do
  if cs = ['0'] then .ok zero
  else if cs.all isBlank then .error .empty
  else
    let total ← (← cs.foldlM Reader.step ⟨.between, 0, 0⟩).finish
    if h : total < limit then .ok ⟨total, h⟩ else .error .outOfRange

/-- Read a duration with blanks around it. -/
def parse (text : String) : Except ParseError Duration := parseChars (trimBlank text.toList)

/-- An amount of a unit spelled as a word, with a plural. -/
def wordItem (n : Nat) (unit : String) : List String :=
  if n = 0 then [] else [s!"{n}{unit}" ++ if n = 1 then "" else "s"]

/-- An amount of a unit that is abbreviated. -/
def shortItem (n : Nat) (unit : String) : List String := if n = 0 then [] else [s!"{n}{unit}"]

/-- The duration in units from years to nanoseconds, those with amount zero left out. -/
def render (d : Duration) : String :=
  if d.nanos = 0 then "0s"
  else
    let s := d.seconds
    let inYear := s % 31557600
    let inMonth := inYear % 2630016
    let inDay := inMonth % 86400
    let n := d.subsecond
    " ".intercalate (wordItem (s / 31557600) "year" ++ wordItem (inYear / 2630016) "month"
      ++ wordItem (inMonth / 86400) "day" ++ shortItem (inDay / 3600) "h"
      ++ shortItem (inDay % 3600 / 60) "m" ++ shortItem (inDay % 60) "s"
      ++ shortItem (n / 1000000) "ms" ++ shortItem (n / 1000 % 1000) "us"
      ++ shortItem (n % 1000) "ns")

/-- A number of `places` decimal digits after the point, without trailing zeros. -/
def fractionChars (places n : Nat) : List Char :=
  let ds := ((padded places n).reverse.dropWhile (· = '0')).reverse
  if ds.isEmpty then [] else '.' :: ds

/-- The duration in its largest unit among seconds, milliseconds, microseconds and nanoseconds that
has a positive whole part. -/
def compact (d : Duration) : String :=
  let write (scale places : Nat) (unit : String) : String :=
    String.ofList
      (Nat.toDigits 10 (d.nanos / scale) ++ fractionChars places (d.nanos % scale)) ++ unit
  if nanosPerSecond ≤ d.nanos then write nanosPerSecond 9 "s"
  else if 1000000 ≤ d.nanos then write 1000000 6 "ms"
  else if 1000 ≤ d.nanos then write 1000 3 "µs"
  else write 1 0 "ns"

end Duration

end MetricsAgent
