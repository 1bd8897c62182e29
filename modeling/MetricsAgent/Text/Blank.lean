/-!
# Blank characters and letter case

The small tests on characters that the readers of this library share, and nothing about any format.

* `isBlank` is the Unicode property White_Space, and `trimBlank` takes such characters off both ends
  of a text.  Durations are trimmed by it, and so are the fields of the kernel's files.
* `asciiLower` lowers the letters of ASCII and leaves every other character alone.  The names of
  kinds, statuses, modes and headers are compared in this way, never by full case folding.
* `digitValue?` and `hexValue?` are the values of digits, and `decimalNat?` is the number that a
  text of decimal digits writes.  It answers `none` for the empty text: a number has at least one
  digit.
* `padded` writes a number with leading zeros, for the fields of dates and times.

Everything here works on lists of characters.  Readers take a text apart from the front, and a list
is what their recursion, and every proof about it, follows.
-/

set_option autoImplicit false

namespace MetricsAgent

/-- The Unicode property White_Space. -/
def isBlank (c : Char) : Bool :=
  let n := c.toNat
  (9 ≤ n && n ≤ 13) || n = 0x20 || n = 0x85 || n = 0xA0 || n = 0x1680 || (0x2000 ≤ n && n ≤ 0x200A)
    || n = 0x2028 || n = 0x2029 || n = 0x202F || n = 0x205F || n = 0x3000

/-- Characters without the blanks at both ends. -/
def trimBlank (cs : List Char) : List Char :=
  ((cs.dropWhile isBlank).reverse.dropWhile isBlank).reverse

/-- Lower-case ASCII letters; every other character stays. -/
def asciiLower (s : String) : String := String.ofList (s.toList.map Char.toLower)

/-- A decimal digit's value. -/
def digitValue? (c : Char) : Option Nat :=
  if '0' ≤ c ∧ c ≤ '9' then some (c.toNat - '0'.toNat) else none

/-- A hexadecimal digit's value, in either case. -/
def hexValue? (c : Char) : Option Nat :=
  if '0' ≤ c ∧ c ≤ '9' then some (c.toNat - '0'.toNat)
  else if 'a' ≤ c ∧ c ≤ 'f' then some (c.toNat - 'a'.toNat + 10)
  else if 'A' ≤ c ∧ c ≤ 'F' then some (c.toNat - 'A'.toNat + 10)
  else none

/-- An ASCII letter or digit. -/
def isAsciiAlnum (c : Char) : Bool :=
  ('0' ≤ c && c ≤ '9') || ('a' ≤ c && c ≤ 'z') || ('A' ≤ c && c ≤ 'Z')

/-- An ASCII letter. -/
def isAsciiLetter (c : Char) : Bool := ('a' ≤ c && c ≤ 'z') || ('A' ≤ c && c ≤ 'Z')

/-- A decimal number, at least `width` digits wide. -/
def padded (width n : Nat) : List Char :=
  let ds := Nat.toDigits 10 n
  List.replicate (width - ds.length) '0' ++ ds

/-- The number written by decimal digits; `none` when the text is empty or holds anything else. -/
def decimalNat? (cs : List Char) : Option Nat :=
  match cs with
  | [] => none
  | _ => cs.foldl (fun acc c ↦ do return 10 * (← acc) + (← digitValue? c)) (some 0)

end MetricsAgent
