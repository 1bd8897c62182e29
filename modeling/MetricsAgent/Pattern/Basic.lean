/-!
# Patterns

A pattern describes stretches of a text.  `Pattern.ends` finds where the stretches that begin at
given places may end; places are numbered from zero, the place before the first character, to the
length of the text.  A text matches when some stretch of it does (`Pattern.matchesIn`).

* `Places` is a set of places as an increasing list.  All operations on sets of places keep the
  order.
* A repetition applies `ends` as often as its bounds say.  Without an upper bound it goes on until
  nothing new is found (`closure`), and a text has only so many places, which bounds the number of
  turns.
* `Pattern.size` counts the states that a machine for the pattern would have, with repetitions
  written out.  A pattern that is too large is refused, because such a machine would be
  (`isTooLarge`).

Which of several stretches is taken plays no role here, nor what a group has matched.  A name is
kept or not, and only whether there is some stretch matters; so greed and the names of groups are
read and forgotten, and the meaning of a pattern is a function on sets.
-/

set_option autoImplicit false

namespace MetricsAgent

/-- A description of stretches of a text. -/
inductive Pattern where
  /-- The empty stretches. -/
  | empty
  /-- One character with a property. -/
  | char (accepts : Char → Bool)
  /-- The empty stretches between a character before and a character after that have a property
  together; at the ends of the text there is none. -/
  | anchor (holds : Option Char → Option Char → Bool)
  | seq (p q : Pattern)
  | either (p q : Pattern)
  /-- At least `least` and at most `most` stretches in a row. -/
  | repeated (p : Pattern) (least : Nat) (most : Option Nat)

/-- A set of places, in increasing order. -/
abbrev Places := List Nat

namespace Places

/-- The places of both sets. -/
def union : Places → Places → Places
  | [], b => b
  | a, [] => a
  | x :: a, y :: b =>
    if x < y then x :: union a (y :: b)
    else if y < x then y :: union (x :: a) b
    else x :: union a b
termination_by a b => a.length + b.length

/-- Apply a function to a set that many times; once it gives the set back, more times change
nothing. -/
def iterate (f : Places → Places) : Nat → Places → Places
  | 0, s => s
  | n + 1, s =>
    let t := f s
    if t = s then s else iterate f n t

/-- The places that at most so many applications of a function lead to, when `new` is what the
latest one has added to `found`. -/
def closure (f : Places → Places) : Nat → Places → Places → Places
  | 0, _, found => found
  | n + 1, new, found =>
    let more := (f new).filter (· ∉ found)
    if more.isEmpty then found else closure f n more (union found more)

end Places

namespace Pattern

/-- The places at which stretches may end that begin at one of the given places. -/
def ends (text : Array Char) : Pattern → Places → Places
  | .empty, s => s
  | .char accepts, s => (s.filter fun i ↦ text[i]?.any accepts).map (· + 1)
  | .anchor holds, s => s.filter fun i ↦ holds (if i = 0 then none else text[i - 1]?) text[i]?
  | .seq p q, s => ends text q (ends text p s)
  | .either p q, s => (ends text p s).union (ends text q s)
  | .repeated p least most, s =>
    let s := Places.iterate (fun s ↦ ends text p s) least s
    let more := match most with
      | some n => n - least
      | none => text.size + 1
    Places.closure (fun s ↦ ends text p s) more s s

/-- Whether some stretch of a text is described. -/
def matchesIn (p : Pattern) (text : String) : Bool :=
  let cs := text.toList.toArray
  !(p.ends cs (List.range (cs.size + 1))).isEmpty

/-- The states that one character of a set takes in a machine that reads bytes: the more stretches
of characters beyond ASCII the set has, the more there are.  The first two thousand characters stand
for all. -/
def charSize (accepts : Char → Bool) : Nat :=
  let stretches := (List.range 1920).countP fun n ↦
    accepts (Char.ofNat (n + 128)) && !accepts (Char.ofNat (n + 127))
  1 + 40 * stretches

/-- The number of states of a machine for the pattern, in which repetitions are written out, for
given numbers of states for one character. -/
def size (charSize : (Char → Bool) → Nat) : Pattern → Nat
  | .char accepts => charSize accepts
  | .empty | .anchor _ => 1
  | .seq p q | .either p q => p.size charSize + q.size charSize
  | .repeated p least most => p.size charSize * max 1 (most.getD (least + 1))

/-- The size that a pattern may have. -/
def maxSize : Nat := 327680

/-- Whether a pattern is too large. Only where it might be, its sets are looked at. -/
def isTooLarge (p : Pattern) : Bool := maxSize < p.size (fun _ ↦ 2000) && maxSize < p.size charSize

/-- One pattern after the other. -/
def sequence (l : List Pattern) : Pattern :=
  match l with
  | [] => .empty
  | p :: ps => ps.foldl .seq p

/-- One of several patterns. -/
def anyOf (l : List Pattern) : Pattern :=
  match l with
  | [] => .empty
  | p :: ps => ps.foldl .either p

end Pattern

end MetricsAgent
