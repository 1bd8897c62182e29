import MetricsAgent.Pattern.CharSet
import MetricsAgent.Pattern.Error

/-!
# Flags and escapes of patterns

A backslash and what follows it stand for a character, a set of characters, or a place between
characters, and `escape` reads it as an `Escape`.  What that is depends on the flags that are on at
this point of the pattern (`PatternFlags`): whether case counts, whether characters beyond ASCII are
meant, and whether blanks and comments are skipped.

* A character may be written by its code, in two, four or eight hexadecimal digits or in braces
  (`hexEscape`).  Two digits below 256 are a byte where characters beyond ASCII are not meant.
* A property of characters is named by one letter or in braces (`propertyEscape`).
* An end of a word may be asked for in full, or at one side alone (`wordEscape`).
* Punctuation may always be escaped, and letters never, so that letters without a meaning stay free
  (`isEscapable`).

Readers take the rest of the pattern and answer what is left, or an error.
-/

set_option autoImplicit false

namespace MetricsAgent

/-- How a part of a pattern is read. -/
structure PatternFlags where
  ignoreCase : Bool
  /-- The anchors for the ends of the text hold at the ends of lines too. -/
  multiLine : Bool
  /-- The dot takes line ends too. -/
  dotAll : Bool
  /-- Classes go over all characters, not over ASCII alone. -/
  unicode : Bool
  /-- Blanks and comments between the parts do not count. -/
  extended : Bool
  /-- Lines may end with a carriage return. -/
  crlf : Bool
  deriving DecidableEq, Repr

namespace PatternFlags

/-- Over all characters, and nothing else. -/
def default : PatternFlags := ⟨false, false, false, true, false, false⟩

/-- Turn a flag on or off. The flag that swaps greed changes nothing about which texts match. -/
def set (f : PatternFlags) (letter : Char) (on : Bool) : Except PatternError PatternFlags :=
  match letter with
  | 'i' => .ok { f with ignoreCase := on }
  | 'm' => .ok { f with multiLine := on }
  | 's' => .ok { f with dotAll := on }
  | 'u' => .ok { f with unicode := on }
  | 'x' => .ok { f with extended := on }
  | 'R' => .ok { f with crlf := on }
  | 'U' => .ok f
  | _ => .error .badFlags

end PatternFlags

namespace Pattern

/-- A property of the characters before and after a place. -/
abbrev Anchor := Option Char → Option Char → Bool

/-- What an escape stands for. A byte is a character below 256 that is written by its two digits. -/
inductive Escape where
  | literal (c : Char) (byte : Bool)
  | set (s : CharSet)
  | anchor (a : Anchor)

/-- What is left of a pattern that is to be read. -/
abbrev Rest := List Char

/-- Drop blanks, and comments up to the ends of their lines. -/
def skipBlanks (inComment : Bool) : Rest → Rest
  | [] => []
  | c :: cs =>
    if inComment then skipBlanks (c ≠ '\n') cs
    else if isBlank c then skipBlanks false cs
    else if c = '#' then skipBlanks true cs
    else c :: cs

/-- Drop what does not count under the flags. -/
def skip (f : PatternFlags) (cs : Rest) : Rest := if f.extended then skipBlanks false cs else cs

/-- Whether a character may stand after a backslash for itself. -/
def isEscapable (c : Char) : Bool := c.toNat < 128 && !isAsciiAlnum c && c ≠ '<' && c ≠ '>'

/-- The character with a code. -/
def charOf (n : Nat) : Except PatternError Char :=
  if n.isValidChar then .ok (Char.ofNat n) else .error .badEscape

/-- The value of so many hexadecimal digits. -/
def fixedHex (f : PatternFlags) : Nat → Nat → Rest → Except PatternError (Nat × Rest)
  | 0, n, cs => .ok (n, cs)
  | k + 1, n, c :: cs =>
    match hexValue? c with
    | some d => fixedHex f k (16 * n + d) (skip f cs)
    | none => .error .badEscape
  | _ + 1, _, [] => .error .badEscape

/-- The characters up to a closing brace, and what follows it. -/
def untilBrace (cs : Rest) : Except PatternError (List Char × Rest) :=
  match cs.dropWhile (· ≠ '}') with
  | _ :: rest => .ok (cs.takeWhile (· ≠ '}'), rest)
  | [] => .error .badEscape

/-- A character written by its code: so many digits, or any number in braces. -/
def hexEscape (f : PatternFlags) (count : Nat) (cs : Rest) :
    Except PatternError (Escape × Rest) := do
  match skip f cs with
  | '{' :: cs =>
    let (digits, rest) ← untilBrace cs
    let digits := if f.extended then digits.filter (!isBlank ·) else digits
    if digits.isEmpty || 8 < digits.length || digits.any
      (hexValue? · |>.isNone) then .error .badEscape
    else
      let c ← charOf (digits.foldl (fun n d ↦ 16 * n + (hexValue? d).getD 0) 0)
      return (.literal c false, skip f rest)
  | cs =>
    let (n, rest) ← fixedHex f count 0 cs
    return (.literal (← charOf n) (count = 2), rest)

/-- A character property, named by one letter or in braces. -/
def propertyEscape (f : PatternFlags) (negated : Bool) (cs : Rest) :
    Except PatternError (Escape × Rest) := do
  let (name, rest) ← match skip f cs with
    | '{' :: cs => untilBrace cs
    | '\\' :: _ | [] => .error .unknownProperty
    | c :: cs => .ok ([c], cs)
  if !f.unicode then .error .partOfCharacter
  else
    let key := name.takeWhile fun c ↦ c ≠ '=' && c ≠ ':' && c ≠ '!'
    let (found, differs) := match name.drop key.length with
      | '!' :: '=' :: value => (CharSet.ofValue? (String.ofList key) (String.ofList value), true)
      | '=' :: value | ':' :: value =>
        (CharSet.ofValue? (String.ofList key) (String.ofList value), false)
      | _ => (CharSet.ofName? (String.ofList name), false)
    match found with
    | none => .error .unknownProperty
    | some s =>
      let s := if f.ignoreCase then s.foldCase else s
      return (.set (if negated != differs then s.complement else s), rest)

/-- Whether there is a word character. -/
def isWord (f : PatternFlags) (c : Option Char) : Bool :=
  c.any (if f.unicode then isWordChar else CharSet.asciiWord)

/-- The place before or after a word, in full or looking at one side alone. -/
def wordAnchor? (f : PatternFlags) : String → Option Anchor
  | "start" => some fun a b ↦ !isWord f a && isWord f b
  | "end" => some fun a b ↦ isWord f a && !isWord f b
  | "start-half" => some fun a _ ↦ !isWord f a
  | "end-half" => some fun _ b ↦ !isWord f b
  | _ => none

/-- An end of a word. A name in braces may follow; if what follows is a count, it is left alone. -/
def wordEscape (f : PatternFlags) (cs : Rest) : Except PatternError (Escape × Rest) := do
  let both : Escape := .anchor fun a b ↦ isWord f a != isWord f b
  match cs with
  | '{' :: inner =>
    match skip f inner with
    | [] => .error .unclosedCount
    | c :: _ =>
      if !(isAsciiLetter c || c = '-') then return (both, cs)
      else
        let (name, rest) ← untilBrace inner
        let name := if f.extended then name.filter (!isBlank ·) else name
        match wordAnchor? f (String.ofList name) with
        | some a => return (.anchor a, rest)
        | none => .error .badEscape
  | _ => return (both, cs)

/-- Read what follows a backslash. -/
def escape (f : PatternFlags) (cs : Rest) : Except PatternError (Escape × Rest) := do
  match cs with
  | [] => .error .badEscape
  | c :: rest =>
    let literal (n : Nat) : Except PatternError (Escape × Rest) :=
      .ok (.literal (Char.ofNat n) false, rest)
    if c.isDigit then .error .backReference
    else
      match c with
      | 'x' => hexEscape f 2 rest
      | 'u' => hexEscape f 4 rest
      | 'U' => hexEscape f 8 rest
      | 'p' => propertyEscape f false rest
      | 'P' => propertyEscape f true rest
      | 'a' => literal 7
      | 'f' => literal 12
      | 't' => literal 9
      | 'n' => literal 10
      | 'r' => literal 13
      | 'v' => literal 11
      | 'A' => return (.anchor fun a _ ↦ a.isNone, rest)
      | 'z' => return (.anchor fun _ b ↦ b.isNone, rest)
      | 'b' => wordEscape f rest
      | 'B' => return (.anchor fun a b ↦ isWord f a == isWord f b, rest)
      | '<' => return (.anchor fun a b ↦ !isWord f a && isWord f b, rest)
      | '>' => return (.anchor fun a b ↦ isWord f a && !isWord f b, rest)
      | c =>
        match CharSet.ofLetter? f.unicode c with
        | some s =>
          if f.unicode || s.isAscii then return (.set s, rest) else .error .partOfCharacter
        | none => if isEscapable c then literal c.toNat else .error .badEscape

end Pattern

end MetricsAgent
