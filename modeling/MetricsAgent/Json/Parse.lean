import MetricsAgent.Json.Basic

/-!
# Reading JSON

Reading takes two passes, each a fold.  `Lexer.step` takes one character and keeps the tokens found
so far; `Builder.step` takes one token and keeps the open arrays and objects.  Neither looks ahead,
so both are structural.

* The lexer is between tokens, in a word, in a number, or in a string.  A number ends with the
  character behind it, which is then looked at again as the beginning of something else.
* In a string it may be in an escape.  The four digits of an escape are one unit of sixteen bits,
  and a high surrogate waits for its partner.  An escape that stands for no character does not end
  the reading; it only takes the string its text (`Quoted.broken`), so that a value that nobody asks
  for may hold one.
* The builder keeps its frames innermost first, each with its parts in reverse order, and what may
  come next (`Expect`).

`Json.parse?` is one pass after the other.  It accepts a text that holds one value with blanks
around it, and nothing else.
-/

set_option autoImplicit false

namespace MetricsAgent.Json

/-- A token. The text of a string is absent when an escape in it stands for no character. -/
inductive Token where
  | openArray | closeArray | openObject | closeObject | comma | colon
  | null | bool (b : Bool) | number (literal : String) | string (text : Option String)
  deriving DecidableEq

/-- A string that is being read: its characters in reverse order, whether an escape was no
character, and a high surrogate that waits for its partner. -/
structure Quoted where
  chars : List Char
  broken : Bool
  high : Option Nat

/-- What the lexer is in the middle of. -/
inductive LexState where
  | between
  | word (chars : List Char)
  | number (chars : List Char)
  | string (q : Quoted)
  /-- After a backslash. -/
  | escape (q : Quoted)
  /-- In the digits of a `\u` escape: the number of digits to come and the value so far. -/
  | unicode (q : Quoted) (missing value : Nat)

/-- The lexer: what it is in, and the finished tokens in reverse order. -/
structure Lexer where
  state : LexState
  tokens : List Token

/-- A blank between tokens. -/
def isSpace (c : Char) : Bool := c = ' ' || c = '\n' || c = '\t' || c = '\r'

/-- A character that may be part of a number. -/
def isNumberChar (c : Char) : Bool :=
  (digitValue? c).isSome || c = '-' || c = '+' || c = '.' || c = 'e' || c = 'E'

namespace Quoted

/-- Nothing read yet. -/
def start : Quoted := ⟨[], false, none⟩

/-- A high surrogate without a partner is no character. -/
def settle (q : Quoted) : Quoted := if q.high.isSome then ⟨q.chars, true, none⟩ else q

/-- A character that stands for itself. -/
def push (q : Quoted) (c : Char) : Quoted :=
  let q := q.settle
  { q with chars := c :: q.chars }

/-- A 16-bit unit given by an escape: a character, or half of a surrogate pair. -/
def pushUnit (q : Quoted) (n : Nat) : Quoted :=
  if 0xD800 ≤ n ∧ n < 0xDC00 then { q.settle with high := some n }
  else if 0xDC00 ≤ n ∧ n < 0xE000 then
    match q.high with
    | some h =>
      ⟨Char.ofNat (0x10000 + (h - 0xD800) * 0x400 + (n - 0xDC00)) :: q.chars, q.broken, none⟩
    | none => { q with broken := true }
  else q.push (Char.ofNat n)

/-- The text, unless an escape in it was no character. -/
def text? (q : Quoted) : Option String :=
  let q := q.settle
  if q.broken then none else some (String.ofList q.chars.reverse)

end Quoted

/-- The character that a one-letter escape stands for. -/
def escaped? : Char → Option Char
  | '"' => some '"'
  | '\\' => some '\\'
  | '/' => some '/'
  | 'b' => some '\x08'
  | 'f' => some '\x0c'
  | 'n' => some '\n'
  | 'r' => some '\r'
  | 't' => some '\t'
  | _ => none

/-- The token of a word. -/
def wordToken? (cs : List Char) : Option Token :=
  if cs = "null".toList then some .null
  else if cs = "true".toList then some (.bool true)
  else if cs = "false".toList then some (.bool false)
  else none

/-- The token of a number. -/
def numberToken? (cs : List Char) : Option Token :=
  (NumberParts.parse? cs).map fun _ ↦ .number (String.ofList cs)

namespace Lexer

/-- A character between tokens. -/
def begin? (tokens : List Token) (c : Char) : Option Lexer :=
  if isSpace c then some ⟨.between, tokens⟩
  else if c = '"' then some ⟨.string .start, tokens⟩
  else if isAsciiLetter c then some ⟨.word [c], tokens⟩
  else if isNumberChar c then some ⟨.number [c], tokens⟩
  else match c with
    | '[' => some ⟨.between, .openArray :: tokens⟩
    | ']' => some ⟨.between, .closeArray :: tokens⟩
    | '{' => some ⟨.between, .openObject :: tokens⟩
    | '}' => some ⟨.between, .closeObject :: tokens⟩
    | ',' => some ⟨.between, .comma :: tokens⟩
    | ':' => some ⟨.between, .colon :: tokens⟩
    | _ => none

/-- Read one character. -/
def step (l : Lexer) (c : Char) : Option Lexer :=
  match l.state with
  | .between => begin? l.tokens c
  | .word cs =>
    if isAsciiLetter c then some ⟨.word (c :: cs), l.tokens⟩
    else do begin? ((← wordToken? cs.reverse) :: l.tokens) c
  | .number cs =>
    if isNumberChar c then some ⟨.number (c :: cs), l.tokens⟩
    else do begin? ((← numberToken? cs.reverse) :: l.tokens) c
  | .string q =>
    if c = '"' then some ⟨.between, .string q.text? :: l.tokens⟩
    else if c = '\\' then some ⟨.escape q, l.tokens⟩
    else if c.toNat < 0x20 then none
    else some ⟨.string (q.push c), l.tokens⟩
  | .escape q =>
    if c = 'u' then some ⟨.unicode q 4 0, l.tokens⟩
    else (escaped? c).map fun d ↦ ⟨.string (q.push d), l.tokens⟩
  | .unicode q missing value => do
    let n := 16 * value + (← hexValue? c)
    if missing = 1 then return ⟨.string (q.pushUnit n), l.tokens⟩
    else return ⟨.unicode q (missing - 1) n, l.tokens⟩

/-- The tokens, once the text is at its end. -/
def finish (l : Lexer) : Option (List Token) :=
  match l.state with
  | .between => some l.tokens.reverse
  | .word cs => do return ((← wordToken? cs.reverse) :: l.tokens).reverse
  | .number cs => do return ((← numberToken? cs.reverse) :: l.tokens).reverse
  | _ => none

end Lexer

/-- The tokens of a text. -/
def tokens? (cs : List Char) : Option (List Token) :=
  (cs.foldlM Lexer.step ⟨.between, []⟩).bind Lexer.finish

/-- An open array or object, its parts in reverse order. An object with an unreadable key is
broken. -/
inductive Frame where
  | array (items : List Json)
  | object (members : List (String × Json)) (broken : Bool)
  | member (members : List (String × Json)) (broken : Bool) (key : Option String)

/-- What may come next. -/
inductive Expect where
  | value | valueOrClose | key | keyOrClose | colon | separator
  | finished (value : Json)

/-- The builder: the open frames, innermost first, and what may come next. -/
structure Builder where
  frames : List Frame
  expect : Expect

namespace Builder

/-- A value is complete. -/
def complete (frames : List Frame) (v : Json) : Option Builder :=
  match frames with
  | [] => some ⟨[], .finished v⟩
  | .array items :: rest => some ⟨.array (v :: items) :: rest, .separator⟩
  | .member members isBroken (some key) :: rest =>
    some ⟨.object ((key, v) :: members) isBroken :: rest, .separator⟩
  | .member members _ none :: rest => some ⟨.object members true :: rest, .separator⟩
  | .object .. :: _ => none

/-- The object is complete. -/
def closeObject (frames : List Frame) (members : List (String × Json)) (isBroken : Bool) :
    Option Builder :=
  complete frames (if isBroken then .broken else .object members.reverse)

/-- A token where a value may start. -/
def beginValue (frames : List Frame) : Token → Option Builder
  | .null => complete frames .null
  | .bool b => complete frames (.bool b)
  | .number literal => complete frames (.number literal)
  | .string (some s) => complete frames (.string s)
  | .string none => complete frames .broken
  | .openArray => some ⟨.array [] :: frames, .valueOrClose⟩
  | .openObject => some ⟨.object [] false :: frames, .keyOrClose⟩
  | _ => none

/-- A token where a key may start. -/
def beginKey (frames : List Frame) (t : Token) : Option Builder :=
  match t, frames with
  | .string key, .object members isBroken :: rest =>
    some ⟨.member members isBroken key :: rest, .colon⟩
  | _, _ => none

/-- Read one token. -/
def step (b : Builder) (t : Token) : Option Builder :=
  match b.expect with
  | .value => beginValue b.frames t
  | .valueOrClose =>
    match t, b.frames with
    | .closeArray, .array items :: rest => complete rest (.array items.reverse)
    | t, frames => beginValue frames t
  | .key => beginKey b.frames t
  | .keyOrClose =>
    match t, b.frames with
    | .closeObject, .object members isBroken :: rest => closeObject rest members isBroken
    | t, frames => beginKey frames t
  | .colon => if t = .colon then some ⟨b.frames, .value⟩ else none
  | .separator =>
    match t, b.frames with
    | .comma, .array items :: rest => some ⟨.array items :: rest, .value⟩
    | .comma, .object members isBroken :: rest => some ⟨.object members isBroken :: rest, .key⟩
    | .closeArray, .array items :: rest => complete rest (.array items.reverse)
    | .closeObject, .object members isBroken :: rest => closeObject rest members isBroken
    | _, _ => none
  | .finished _ => none

/-- The value, once the tokens are at their end. -/
def finish (b : Builder) : Option Json :=
  match b.expect with
  | .finished v => some v
  | _ => none

end Builder

/-- The value of a sequence of tokens. -/
def ofTokens? (ts : List Token) : Option Json :=
  (ts.foldlM Builder.step ⟨[], .value⟩).bind Builder.finish

/-- Read a text that holds one value. -/
def parse? (text : String) : Option Json := (tokens? text.toList).bind ofTokens?

end MetricsAgent.Json
