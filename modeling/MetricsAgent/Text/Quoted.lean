/-!
# Quoted text in messages

The report of a cycle quotes a text that someone else wrote: what a collector said when it panicked.
`quotedText` puts it between double quotes and writes what would be unclear in another way.  The
quote and the backslash are escaped, and so are control characters, those with a short name by that
name and the others by their code in hexadecimal digits.

Nothing reads such a text back.  It is part of a message for people, and all that matters about it
is that the same text is always written in the same way.
-/

set_option autoImplicit false

namespace MetricsAgent

/-- A character between quotes. -/
def quotedChar (c : Char) : List Char :=
  if c = '"' then ['\\', '"']
  else if c = '\\' then ['\\', '\\']
  else if c = '\n' then ['\\', 'n']
  else if c = '\r' then ['\\', 'r']
  else if c = '\t' then ['\\', 't']
  else if c = '\x00' then ['\\', '0']
  else if c.toNat < 0x20 ∨ (0x7F ≤ c.toNat ∧ c.toNat < 0xA0) then
    '\\' :: 'u' :: '{' :: Nat.toDigits 16 c.toNat ++ ['}']
  else [c]

/-- A text between quotes. -/
def quotedText (s : String) : String := String.ofList ('"' :: s.toList.flatMap quotedChar ++ ['"'])

end MetricsAgent
