import MetricsAgent.Text.Blank

/-!
# Tables over the code points

A property of characters is constant on long stretches of code points.  A table is therefore written
as a text of runs, each of which is a value and a number.  The value is a capital letter and the
small letters after it; the number tells how many code points have it, and is left out when it is
one.  `RunTable.ofText` reads such a text into the starts and the values of the runs, and
`RunTable.find` looks a code point up by bisection.

Two budgets make the functions structurally recursive.  A text cannot hold more runs than it has
characters, so its length is enough for `RunTable.read`, and a bisection cannot take more turns than
there are runs, so their number is enough for `RunTable.search`.  Neither of them ever runs out.
-/

set_option autoImplicit false

namespace MetricsAgent

/-- The starts of the runs in increasing order, and the values of the runs. -/
structure RunTable where
  starts : Array Nat
  values : Array String

namespace RunTable

/-- No runs. -/
def empty : RunTable := ⟨#[], #[]⟩

/-- The end of the value in front. -/
def valueEnd (cs : List Char) : List Char × List Char :=
  match cs with
  | [] => ([], [])
  | c :: cs => (c :: cs.takeWhile Char.isLower, cs.dropWhile Char.isLower)

/-- Read runs, the first of which starts at `n`. Every run takes at least one of the budget. -/
def read : Nat → Nat → List Char → RunTable → RunTable
  | 0, _, _, t => t
  | budget + 1, n, cs, t =>
    match cs with
    | [] => t
    | _ =>
      let (value, rest) := valueEnd cs
      let count := (decimalNat? (rest.takeWhile Char.isDigit)).getD 1
      read budget (n + count) (rest.dropWhile Char.isDigit)
        ⟨t.starts.push n, t.values.push (String.ofList value)⟩

/-- The table that a text describes, from the code point zero on. -/
def ofText (text : String) : RunTable := read text.length 0 text.toList empty

/-- The last of the runs between `low` and `high` that does not start after `n`. -/
def search (t : RunTable) (n : Nat) : Nat → Nat → Nat → Nat
  | 0, low, _ => low
  | budget + 1, low, high =>
    if high ≤ low + 1 then low
    else
      let middle := (low + high) / 2
      if t.starts.getD middle 0 ≤ n then search t n budget middle high
      else search t n budget low middle

/-- The value of a code point. -/
def find (t : RunTable) (n : Nat) : String :=
  t.values.getD (t.search n t.starts.size 0 t.starts.size) ""

end RunTable

end MetricsAgent
