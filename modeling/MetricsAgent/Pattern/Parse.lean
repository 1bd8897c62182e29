import MetricsAgent.Pattern.Basic
import MetricsAgent.Pattern.Class

/-!
# Reading patterns

A text is read from left to right, and what is read is a `Pattern`.  Open groups stand on a stack,
each with its finished alternatives and the parts of the current one (`Level`), so that `parseLoop`
needs no recursion into groups; every turn takes at least one character of a budget that is the
length of the text.

* A repetition takes the latest part.  There has to be one, and the mark that makes a repetition
  lazy changes nothing about which texts match.
* An opening parenthesis begins a group, with or without a name, or turns flags on and off, for the
  rest of the group or for a group of its own (`opening`).  Groups may be nested up to `maxDepth`.
* Looking ahead and behind is refused.  What is described is then regular, and whether a text
  matches can be decided by following sets of places.

`Pattern.parse` reads the whole text, closes the outermost level and refuses a pattern that is too
large.
-/

set_option autoImplicit false

namespace MetricsAgent

namespace Pattern

/-- An open group, or the whole pattern. -/
structure Level where
  /-- The finished alternatives, the last one first. -/
  alternatives : List Pattern
  /-- The parts of the current alternative, the last one first; `none` is a change of flags. -/
  parts : List (Option Pattern)
  /-- The flags that hold again after the group. -/
  outer : PatternFlags

namespace Level

/-- A group with nothing in it. -/
def new (outer : PatternFlags) : Level := ⟨[], [], outer⟩

/-- Add a part. -/
def add (l : Level) (p : Pattern) : Level := { l with parts := some p :: l.parts }

/-- The current alternative. -/
def current (l : Level) : Pattern := .sequence (l.parts.reverse.filterMap id)

/-- Begin the next alternative. -/
def alternate (l : Level) : Level :=
  { l with alternatives := l.current :: l.alternatives, parts := [] }

/-- The pattern of the group. -/
def close (l : Level) : Pattern := .anyOf (l.current :: l.alternatives).reverse

/-- Repeat the latest part. -/
def repeatLast (l : Level) (least : Nat) (most : Option Nat) : Except PatternError Level :=
  match l.parts with
  | some p :: parts => .ok { l with parts := some (.repeated p least most) :: parts }
  | _ => .error .nothingToRepeat

end Level

/-- The dot. -/
def dot (f : PatternFlags) : Except PatternError Pattern :=
  if !f.unicode then .error .partOfCharacter
  else if f.dotAll then .ok (.char fun _ ↦ true)
  else if f.crlf then .ok (.char fun c ↦ c ≠ '\n' && c ≠ '\r')
  else .ok (.char (· ≠ '\n'))

/-- The start of the text or of a line. -/
def caret (f : PatternFlags) : Pattern :=
  .anchor fun a b ↦
    a.isNone || (f.multiLine && (a = some '\n' || (f.crlf && a = some '\r' && b ≠ some '\n')))

/-- The end of the text or of a line. -/
def dollar (f : PatternFlags) : Pattern :=
  .anchor fun a b ↦
    b.isNone || (f.multiLine &&
      (if f.crlf then b = some '\r' || (b = some '\n' && a ≠ some '\r') else b = some '\n'))

/-- A character that stands for itself. -/
def literal (f : PatternFlags) (c : Char) (byte : Bool) : Except PatternError Pattern :=
  if !f.unicode && byte && 128 ≤ c.toNat then .error .partOfCharacter
  else .ok (.char (OpenClass.fold f (· = c)))

/-- What an escape stands for, as a pattern. -/
def ofEscape (f : PatternFlags) : Escape → Except PatternError Pattern
  | .literal c byte => literal f c byte
  | .set s => .ok (.char s)
  | .anchor a => .ok (.anchor a)

/-- Drop the mark that makes a repetition lazy, which changes nothing about which texts match. -/
def dropLazy : Rest → Rest
  | '?' :: rest => rest
  | cs => cs

/-- A number in a count, with blanks around it. -/
def count (f : PatternFlags) (cs : Rest) : Except PatternError (Nat × Rest) := do
  let cs := cs.dropWhile isBlank
  let digits := cs.takeWhile fun c ↦ c.isDigit || (f.extended && isBlank c)
  let rest := (cs.drop digits.length).dropWhile isBlank
  match decimalNat? (digits.filter Char.isDigit) with
  | some n => if n < 4294967296 then return (n, skip f rest) else .error .badCount
  | none => .error .badCount

/-- The bounds of a counted repetition, behind the brace. -/
def bounds (f : PatternFlags) (cs : Rest) : Except PatternError (Nat × Option Nat × Rest) := do
  let (least, rest) ← count f (skip f cs)
  match rest with
  | ',' :: rest =>
    match skip f rest with
    | '}' :: rest => return (least, none, skip f rest)
    | rest =>
      let (most, rest) ← count f rest
      match rest with
      | '}' :: rest =>
        if most < least then .error .badCount else return (least, some most, skip f rest)
      | _ => .error .unclosedCount
  | '}' :: rest => return (least, some least, skip f rest)
  | _ => .error .unclosedCount

/-- Read flags up to the character that ends them. -/
def flags (f : PatternFlags) (seen : List Char) :
    Rest → Except PatternError (PatternFlags × List Char × Rest)
  | [] => .error .badFlags
  | c :: rest =>
    if c = ')' || c = ':' then
      if seen.head? = some '-' then .error .badFlags else .ok (f, seen, c :: rest)
    else if seen.contains c then .error .badFlags
    else if c = '-' then flags f (c :: seen) rest
    else do flags (← f.set c (!seen.contains '-')) (c :: seen) rest

/-- The name of a group, and what follows it. -/
def groupName (names : List String) (cs : Rest) : Except PatternError (String × Rest) :=
  let name := cs.takeWhile (· ≠ '>')
  let isFine (c : Char) (first : Bool) : Bool :=
    c = '_' || isAlphabetic c || (!first && (c = '.' || c = '[' || c = ']' || hasMajor c 'N'))
  match name, cs.drop name.length with
  | c :: more, _ :: rest =>
    if isFine c true && more.all (isFine · false) && !names.contains (String.ofList name) then
      .ok (String.ofList name, rest)
    else .error .badGroupName
  | _, _ => .error .badGroupName

/-- What an opening parenthesis begins. -/
inductive Opening where
  /-- A group under the given flags, with its name if it has one. -/
  | group (inner : PatternFlags) (name : Option String)
  | change (f : PatternFlags)

/-- Read what follows an opening parenthesis. -/
def opening (f : PatternFlags) (names : List String) (cs : Rest) :
    Except PatternError (Opening × Rest) := do
  match skip f cs with
  | '?' :: '=' :: _ | '?' :: '!' :: _ | '?' :: '<' :: '=' :: _ | '?' :: '<' :: '!' :: _ =>
    .error .lookAround
  | '?' :: 'P' :: '<' :: rest | '?' :: '<' :: rest =>
    let (name, rest) ← groupName names rest
    return (.group f (some name), rest)
  | '?' :: [] => .error .unclosedGroup
  | '?' :: rest =>
    let (inner, seen, rest) ← flags f [] rest
    match rest with
    | ')' :: rest => if seen.isEmpty then .error .nothingToRepeat else return (.change inner, rest)
    | rest => return (.group inner none, rest.drop 1)
  | rest => return (.group f none, rest)

/-- The number of groups that may stand around a part. -/
def maxDepth : Nat := 250

/-- Read a pattern to its end. Around the level `l` stand the levels of the stack. Every turn takes
at least one character of the budget. -/
def parseLoop :
    Nat → PatternFlags → List String → List Level → Level → Rest → Except PatternError Pattern
  | 0, _, _, _, _, _ => .error .tooLarge
  | n + 1, f, names, stack, l, cs => do
    let read (p : Pattern) (rest : Rest) : Except PatternError Pattern :=
      parseLoop n f names stack (l.add p) rest
    let again (least : Nat) (most : Option Nat) (rest : Rest) : Except PatternError Pattern := do
      parseLoop n f names stack (← l.repeatLast least most) (dropLazy rest)
    match skip f cs with
    | [] => if stack.isEmpty then return l.close else .error .unclosedGroup
    | '(' :: rest =>
      let (o, rest) ← opening f names rest
      match o with
      | .change f' => parseLoop n f' names stack { l with parts := none :: l.parts } rest
      | .group inner name =>
        if maxDepth ≤ stack.length then .error .tooDeep
        else parseLoop n inner (name.toList ++ names) (l :: stack) (.new f) rest
    | ')' :: rest =>
      match stack with
      | [] => .error .unopenedGroup
      | outer :: stack => parseLoop n l.outer names stack (outer.add l.close) rest
    | '|' :: rest => parseLoop n f names stack l.alternate rest
    | '[' :: rest =>
      let (s, rest) ← bracketed f rest
      read (.char s) rest
    | '?' :: rest => again 0 (some 1) rest
    | '*' :: rest => again 0 none rest
    | '+' :: rest => again 1 none rest
    | '{' :: rest =>
      if (l.parts.head?.join).isNone then .error .nothingToRepeat
      else
        let (least, most, rest) ← bounds f rest
        again least most rest
    | '\\' :: rest =>
      let (e, rest) ← escape f rest
      read (← ofEscape f e) rest
    | '.' :: rest => do read (← dot f) rest
    | '^' :: rest => read (caret f) rest
    | '$' :: rest => read (dollar f) rest
    | c :: rest => do read (← literal f c false) rest

/-- The pattern that a text writes. -/
def parse (text : String) : Except PatternError Pattern := do
  let p ← parseLoop (text.length + 1) .default [] [] (.new .default) text.toList
  if p.isTooLarge then .error .tooLarge else return p

end Pattern

end MetricsAgent
