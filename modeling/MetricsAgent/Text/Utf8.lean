/-!
# Reading bytes as UTF-8

The answer of a remote end is bytes, and the message about it is text.  `Utf8.decode` reads any
bytes.  Those that belong to no character are read as replacement characters: one for each longest
stretch that a character could begin with, and one for each byte that no character begins with.

* `Begun` is a character of which some bytes are read: their bits, the number of bytes that are
  missing, and the limits between which the next byte has to lie.
* `first` looks at the first byte of a character.  Its limits for the second byte exclude the
  surrogates, the numbers beyond the last character, and the characters that are written longer than
  they need, so that no later check is necessary.
* `next` takes one byte more.  A byte outside of the limits ends the begun character, which is
  replaced, and is looked at again as a first byte.

The reader never looks ahead, and a text of characters is read back as it was.
-/

set_option autoImplicit false

namespace MetricsAgent.Utf8

/-- The character that stands for bytes that are none. -/
def replacement : Char := '\uFFFD'

/-- A character of which some bytes are read: their bits, how many bytes are missing, and between
which limits the next one has to lie. -/
structure Begun where
  bits : Nat
  missing : Nat
  low : Nat
  high : Nat
  deriving DecidableEq, Repr

/-- What a byte yields: characters, and one that is begun. -/
abbrev Step := List Char × Option Begun

/-- The first byte of a character. The limits exclude surrogates, numbers beyond the last character,
and characters that are written longer than they need. -/
def first (b : Nat) : Step :=
  if b < 0x80 then ([Char.ofNat b], none)
  else if 0xC2 ≤ b && b ≤ 0xDF then ([], some ⟨b - 0xC0, 1, 0x80, 0xBF⟩)
  else if 0xE0 ≤ b && b ≤ 0xEF then
    ([], some ⟨b - 0xE0, 2, if b = 0xE0 then 0xA0 else 0x80, if b = 0xED then 0x9F else 0xBF⟩)
  else if 0xF0 ≤ b && b ≤ 0xF4 then
    ([], some ⟨b - 0xF0, 3, if b = 0xF0 then 0x90 else 0x80, if b = 0xF4 then 0x8F else 0xBF⟩)
  else ([replacement], none)

/-- A byte behind a character that is begun, if there is one. -/
def next : Option Begun → Nat → Step
  | none, b => first b
  | some c, b =>
    if c.low ≤ b && b ≤ c.high then
      let bits := 64 * c.bits + (b - 0x80)
      if c.missing ≤ 1 then ([Char.ofNat bits], none)
      else ([], some ⟨bits, c.missing - 1, 0x80, 0xBF⟩)
    else
      let (cs, c) := first b
      (replacement :: cs, c)

/-- The characters of bytes that follow a character that is begun. -/
def decodeFrom (c : Option Begun) : List UInt8 → List Char
  | [] => if c.isSome then [replacement] else []
  | b :: bs =>
    let (cs, c) := next c b.toNat
    cs ++ decodeFrom c bs

/-- The text of some bytes. -/
def decode (bytes : List UInt8) : String := String.ofList (decodeFrom none bytes)

end MetricsAgent.Utf8
