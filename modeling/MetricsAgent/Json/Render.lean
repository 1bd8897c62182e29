import MetricsAgent.Json.Basic

/-!
# Writing JSON

Texts have no blanks between tokens.  Strings escape the quote, the backslash and the control
characters below the blank, those with a letter of their own by it and the others by four digits;
every other character stands for itself, also beyond ASCII.

The three functions follow the three kinds of lists in a value — the characters of a text, the items
of an array, the members of an object — and are structural on the value.  That the result is read
back as the value it was made of, for every value whose numbers and texts are in order, is the
subject of `MetricsAgent.Proofs.Json.Codec`.
-/

set_option autoImplicit false

namespace MetricsAgent.Json

/-- A lower-case hexadecimal digit. -/
def hexDigit (n : Nat) : Char := Nat.digitChar n

/-- A character inside of quotes. -/
def escapeChar (c : Char) : List Char :=
  if c = '"' then ['\\', '"']
  else if c = '\\' then ['\\', '\\']
  else if c = '\n' then ['\\', 'n']
  else if c = '\r' then ['\\', 'r']
  else if c = '\t' then ['\\', 't']
  else if c = '\x08' then ['\\', 'b']
  else if c = '\x0c' then ['\\', 'f']
  else if c.toNat < 0x20 then
    ['\\', 'u', '0', '0', hexDigit (c.toNat / 16), hexDigit (c.toNat % 16)]
  else [c]

/-- A text in quotes. -/
def quoted (s : String) : List Char := '"' :: s.toList.flatMap escapeChar ++ ['"']

mutual

/-- The characters of a value. -/
def chars : Json → List Char
  | null => "null".toList
  | bool true => "true".toList
  | bool false => "false".toList
  | number literal => literal.toList
  | string s => quoted s
  | array items => '[' :: charsItems items ++ [']']
  | object members => '{' :: charsMembers members ++ ['}']
  | broken => "null".toList

/-- Items with commas between them. -/
def charsItems : List Json → List Char
  | [] => []
  | [x] => chars x
  | x :: y :: rest => chars x ++ ',' :: charsItems (y :: rest)

/-- Members with commas between them. -/
def charsMembers : List (String × Json) → List Char
  | [] => []
  | [(k, v)] => quoted k ++ ':' :: chars v
  | (k, v) :: m :: rest => quoted k ++ ':' :: chars v ++ ',' :: charsMembers (m :: rest)

end

/-- The text of a value. -/
def render (j : Json) : String := String.ofList j.chars

end MetricsAgent.Json
