import MetricsAgent.Text.Blank

/-!
# Percent encoding

A byte is written as a percent sign and two digits where it is not ASCII, is a control character, or
belongs to a set that depends on the part of the URL: user names and passwords keep the fewest
characters as they are, fragments the most.

`Percent.encode` works on characters and encodes the bytes that UTF-8 writes them with, so that the
result is ASCII whatever the set.  `Percent.decode?` reads a text back: percent signs without two
digits behind them stand for themselves, and the bytes have to be UTF-8 in the end.  A percent sign
belongs to none of the sets, and so what is encoded already is not encoded twice.
-/

set_option autoImplicit false

namespace MetricsAgent.Percent

/-- The characters that are encoded in a fragment, beside those that always are. -/
def fragmentSet : List Char := [' ', '"', '<', '>', '\x60']

/-- The characters that are encoded in a query. -/
def querySet : List Char := [' ', '"', '#', '<', '>']

/-- The characters that are encoded in the query of a URL with a special scheme. -/
def specialQuerySet : List Char := '\'' :: querySet

/-- The characters that are encoded in a path. -/
def pathSet : List Char := ['?', '^', '\x60', '{', '}'] ++ querySet

/-- The characters that are encoded in user names and passwords. -/
def userSet : List Char := ['/', ':', ';', '=', '@', '[', '\\', ']', '|'] ++ pathSet

/-- A hexadecimal digit. -/
def hexDigit (n : Nat) : Char := (Nat.digitChar n).toUpper

/-- An encoded byte. -/
def encodeByte (b : UInt8) : List Char := ['%', hexDigit (b.toNat / 16), hexDigit (b.toNat % 16)]

/-- A character, encoded where it has to be. -/
def encodeChar (set : List Char) (c : Char) : List Char :=
  if c.toNat < 32 || 126 < c.toNat || set.contains c then
    (String.ofList [c]).toUTF8.toList.flatMap encodeByte
  else [c]

/-- A text, encoded where it has to be. -/
def encode (set : List Char) (cs : List Char) : String :=
  String.ofList (cs.flatMap (encodeChar set))

/-- The bytes of a text, with encoded ones decoded. -/
def decodeBytes : List UInt8 → List UInt8
  | [] => []
  | [a] => [a]
  | [a, b] => [a, b]
  | a :: b :: c :: rest =>
    match hexValue? (Char.ofNat b.toNat), hexValue? (Char.ofNat c.toNat) with
    | some x, some y =>
      if a = 37 then (16 * x + y).toUInt8 :: decodeBytes rest else a :: decodeBytes (b :: c :: rest)
    | _, _ => a :: decodeBytes (b :: c :: rest)

/-- The text that an encoded text stands for; `none` when its bytes are none. -/
def decode? (cs : List Char) : Option String :=
  String.fromUTF8? (ByteArray.mk (decodeBytes (String.ofList cs).toUTF8.toList).toArray)

end MetricsAgent.Percent
