import MetricsAgent.Text.Blank

/-!
# Punycode

A text is written in ASCII: its ASCII characters come first, and then, as numbers of variable
length, the places and codes of the others, in the order of their codes.

A number says how far to go from the last insertion to the next, through all places of the text and
all codes at once.  Its digits have base 36, and a digit below the threshold of its place ends the
number (`threshold`); the thresholds depend on a bias, which is fitted to the numbers seen so far
(`adapt`).  `Punycode.encode` and `Punycode.decode?` keep the same account of it, from the two
sides.

Numbers that leave the range of 32 bits are refused, as is a text that stands for no characters.
The budgets are lengths: every turn writes or reads at least one character.
-/

set_option autoImplicit false

namespace MetricsAgent.Punycode

/-- How long the next number is expected to be, after a number that was the `count`-th. -/
def adapt (delta count : Nat) (first : Bool) : Nat :=
  let delta := if first then delta / 700 else delta / 2
  go 16 (delta + delta / count) 0
where
  /-- Take the factor out that stands for more digits. -/
  go : Nat → Nat → Nat → Nat
    | 0, delta, k => k + 36 * delta / (delta + 38)
    | n + 1, delta, k =>
      if 455 < delta then go n (delta / 35) (k + 36) else k + 36 * delta / (delta + 38)

/-- The threshold of the digit at a place. -/
def threshold (bias k : Nat) : Nat := min 26 (max 1 (k - bias))

/-- The character of a digit. -/
def digitChar (d : Nat) : Char := Char.ofNat (if d < 26 then 97 + d else 22 + d)

/-- The digit of a character. -/
def digit? (c : Char) : Option Nat :=
  if c.isDigit then some (c.toNat - 22)
  else if isAsciiLetter c then some (c.toLower.toNat - 97)
  else none

/-- The digits of a number, of which the next one stands at place `k`. -/
def digits (bias : Nat) : Nat → Nat → Nat → List Char
  | 0, _, _ => []
  | n + 1, q, k =>
    let t := threshold bias k
    if q < t then [digitChar q]
    else digitChar (t + (q - t) % (36 - t)) :: digits bias n ((q - t) / (36 - t)) (k + 36)

/-- What is known while the other characters are written. -/
structure State where
  delta : Nat
  bias : Nat
  /-- The number of characters written. -/
  done : Nat
  output : List Char

/-- Write the characters with code `n`. -/
def writeCode (basic n : Nat) (s : State) (c : Char) : State :=
  if c.toNat < n then { s with delta := s.delta + 1 }
  else if c.toNat = n then
    ⟨0, adapt s.delta (s.done + 1) (s.done = basic), s.done + 1,
      s.output ++ digits s.bias 16 s.delta 36⟩
  else s

/-- Write the characters whose codes are `n` or more. -/
def writeFrom (cs : List Char) (basic : Nat) : Nat → Nat → State → List Char
  | 0, _, s => s.output
  | fuel + 1, n, s =>
    match ((cs.map Char.toNat).filter (n ≤ ·)).min? with
    | none => s.output
    | some m =>
      let s := cs.foldl (writeCode basic m) { s with delta := s.delta + (m - n) * (s.done + 1) }
      writeFrom cs basic fuel (m + 1) { s with delta := s.delta + 1 }

/-- A text in ASCII. -/
def encode (cs : List Char) : List Char :=
  let basic := cs.filter (·.toNat < 128)
  let lead := if basic.isEmpty then [] else basic ++ ['-']
  writeFrom cs basic.length (cs.length + 1) 128 ⟨0, 72, basic.length, lead⟩

/-- Read a number, of which the next digit stands at place `k` and counts `weight`. -/
def number? (bias : Nat) : List Char → Nat → Nat → Nat → Option (Nat × List Char)
  | [], _, _, _ => none
  | c :: cs, value, weight, k => do
    let d ← digit? c
    let value := value + d * weight
    let t := threshold bias k
    if d < t then return (value, cs) else number? bias cs value (weight * (36 - t)) (k + 36)

/-- The text that is written in ASCII. -/
def decode? (cs : List Char) : Option (List Char) :=
  let tail := (cs.reverse.takeWhile (· ≠ '-')).reverse
  let basic := (cs.take (cs.length - tail.length)).dropLast
  if cs.any (127 < ·.toNat) then none
  else read (tail.length + 1) tail 128 0 72 basic true
where
  /-- Read the other characters, the first one of which is treated apart. -/
  read : Nat → List Char → Nat → Nat → Nat → List Char → Bool → Option (List Char)
    | 0, _, _, _, _, _, _ => none
    | fuel + 1, cs, n, i, bias, text, first =>
      if cs.isEmpty then some text
      else do
        let (delta, rest) ← number? bias cs 0 1 36
        let count := text.length + 1
        let place := i + delta
        let n := n + place / count
        if n.isValidChar then
          read fuel rest n (place % count + 1) (adapt delta count first)
            (text.insertIdx (place % count) (Char.ofNat n)) false
        else none

end MetricsAgent.Punycode
