import MetricsAgent.Pattern.Escape

/-!
# Bracketed classes of characters

A class is a union of characters, ranges, escapes, named ASCII sets and further classes, possibly
combined with other unions by intersection, difference and symmetric difference, from left to right.

`OpenClass` is a class that is being read: whether it is negated, what stands before the latest
operation, and the union since then.  Operations have no order of precedence.  Beginning one
(`OpenClass.operate`) combines what is there, and the union begins anew.

`classLoop` reads a class to its end.  Around the class stand the classes that hold it, on a stack,
so that nesting needs no recursion, and every turn takes at least one character of a budget that is
the length of the text.  Three places are special: a closing bracket and hyphens at the very start
stand for themselves, and a hyphen that no end of a range can follow does too.
-/

set_option autoImplicit false

namespace MetricsAgent

namespace Pattern

/-- How two sets are combined. -/
inductive SetOperation where
  | intersection
  | difference
  | symmetricDifference
  deriving DecidableEq, Repr

/-- The combination of two sets. -/
def SetOperation.apply (o : SetOperation) (a b : CharSet) : CharSet :=
  match o with
  | intersection => fun c ↦ a c && b c
  | difference => fun c ↦ a c && !b c
  | symmetricDifference => fun c ↦ a c != b c

/-- An open class: whether it is negated, what stands before the latest operation, and the union
since then. -/
structure OpenClass where
  negated : Bool
  left : Option (CharSet × SetOperation)
  union : CharSet

namespace OpenClass

/-- A class with nothing in it. -/
def new (negated : Bool) : OpenClass := ⟨negated, none, .none⟩

/-- Add to the union. -/
def add (k : OpenClass) (s : CharSet) : OpenClass := { k with union := k.union.union s }

/-- A set with what is equal to its characters where case is ignored. -/
def fold (f : PatternFlags) (s : CharSet) : CharSet :=
  if !f.ignoreCase then s else if f.unicode then s.foldCase else s.foldAsciiCase

/-- The set so far. -/
def combined (f : PatternFlags) (k : OpenClass) : CharSet :=
  match k.left with
  | none => k.union
  | some (left, o) => o.apply (fold f left) (fold f k.union)

/-- Begin the right side of an operation. -/
def operate (f : PatternFlags) (k : OpenClass) (o : SetOperation) : OpenClass :=
  { k with left := some (k.combined f, o), union := .none }

/-- Fold and negate a set. Without Unicode it must not hold parts of characters. -/
def finish (f : PatternFlags) (negated : Bool) (s : CharSet) : Except PatternError CharSet :=
  let s := fold f s
  let s := if negated then s.complement else s
  if f.unicode then .ok s
  else if s.isAscii then .ok fun c ↦ c.toNat < 128 && s c
  else .error .partOfCharacter

/-- The set of a closed class. -/
def close (f : PatternFlags) (k : OpenClass) : Except PatternError CharSet :=
  finish f k.negated (k.combined f)

end OpenClass

/-- A named ASCII set in brackets and colons, behind the bracket; its name may be negated. -/
def asciiClass? (cs : Rest) : Option (Bool × CharSet × Rest) := do
  let (negated, cs) ← match cs with
    | ':' :: '^' :: cs => some (true, cs)
    | ':' :: cs => some (false, cs)
    | _ => none
  let name := cs.takeWhile (· ≠ ':')
  match cs.drop name.length with
  | ':' :: ']' :: rest => return (negated, ← CharSet.ofAsciiName? (String.ofList name), rest)
  | _ => none

/-- A character or an escape in a class. -/
def classItem (f : PatternFlags) (cs : Rest) : Except PatternError (Escape × Rest) :=
  match cs with
  | '\\' :: rest => escape f rest
  | c :: rest => .ok (.literal c false, rest)
  | [] => .error .unclosedClass

/-- The character of an end of a range. -/
def rangeEnd (f : PatternFlags) : Escape → Except PatternError Char
  | .literal c byte =>
    if f.unicode || byte || c.toNat < 128 then .ok c else .error .partOfCharacter
  | _ => .error .badRange

/-- A character, an escape or a range in a class. -/
def classRange (f : PatternFlags) (cs : Rest) : Except PatternError (CharSet × Rest) := do
  let (item, rest) ← classItem f cs
  let alone : Except PatternError CharSet :=
    match item with
    | .literal .. => do
      let c ← rangeEnd f item
      return fun d ↦ d = c
    | .set s => .ok s
    | .anchor _ => .error .badEscape
  match skip f rest with
  | [] => .error .unclosedClass
  | '-' :: more =>
    match skip f more with
    | [] => .error .unclosedClass
    | ']' :: _ | '-' :: _ => return (← alone, skip f rest)
    | more =>
      let (last, rest) ← classItem f more
      let a ← rangeEnd f item
      let b ← rangeEnd f last
      if b < a then .error .badRange else return (.range a b, rest)
  | rest => return (← alone, rest)

/-- The hyphens at the start of a class, which stand for themselves. -/
def leadingHyphens (f : PatternFlags) : Nat → OpenClass → Rest → OpenClass × Rest
  | 0, k, cs => (k, cs)
  | n + 1, k, cs =>
    match cs with
    | '-' :: rest => leadingHyphens f n (k.add (· = '-')) (skip f rest)
    | cs => (k, cs)

/-- Open a class, behind its bracket. A closing bracket at the very start stands for itself. -/
def openClass (f : PatternFlags) (cs : Rest) : OpenClass × Rest :=
  let (negated, cs) := match skip f cs with
    | '^' :: rest => (true, skip f rest)
    | cs => (false, cs)
  match cs with
  | ']' :: rest => ((OpenClass.new negated).add (· = ']'), skip f rest)
  | cs => leadingHyphens f cs.length (.new negated) cs

/-- Read a class to its end. Around the class `k` stand the classes of the stack. Every turn takes
at least one character of the budget. -/
def classLoop (f : PatternFlags) :
    Nat → List OpenClass → OpenClass → Rest → Except PatternError (CharSet × Rest)
  | 0, _, _, _ => .error .unclosedClass
  | n + 1, stack, k, cs => do
    match skip f cs with
    | [] => .error .unclosedClass
    | '[' :: rest =>
      match asciiClass? rest with
      | some (negated, s, rest) => classLoop f n stack (k.add (← OpenClass.finish f negated s)) rest
      | none =>
        let (inner, rest) := openClass f rest
        classLoop f n (k :: stack) inner rest
    | ']' :: rest =>
      let s ← k.close f
      match stack with
      | [] => return (s, rest)
      | outer :: stack => classLoop f n stack (outer.add s) rest
    | '&' :: '&' :: rest => classLoop f n stack (k.operate f .intersection) rest
    | '-' :: '-' :: rest => classLoop f n stack (k.operate f .difference) rest
    | '~' :: '~' :: rest => classLoop f n stack (k.operate f .symmetricDifference) rest
    | cs =>
      let (s, rest) ← classRange f cs
      classLoop f n stack (k.add s) rest

/-- Read a class, behind its bracket. -/
def bracketed (f : PatternFlags) (cs : Rest) : Except PatternError (CharSet × Rest) :=
  let (k, rest) := openClass f cs
  classLoop f (cs.length + 1) [] k rest

end Pattern

end MetricsAgent
