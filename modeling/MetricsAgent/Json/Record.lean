import MetricsAgent.Json.Basic

/-!
# Reading records out of JSON values

A record is written as an object or as an array of its fields in order.  In an object the fields
come in any order, a field given twice is refused, and members that are no fields are ignored.
`Json.fields?` reads both ways of writing, and leaves it to the caller which fields may be absent.

What is ignored has to be JSON that can be read at all.  `isReadable` says what that asks of a
value: every number is in the range of doubles, every text stands for characters, and the nesting is
bounded.  The bound is counted from the outside, so a member may be nested less deeply than the
whole text.
-/

set_option autoImplicit false

namespace MetricsAgent.Json

/-- The member of a name; `none` when it is given twice. -/
def member? (members : List (String × Json)) (name : String) : Option (Option Json) :=
  match members.filter (·.1 = name) with
  | [] => some none
  | [e] => some (some e.2)
  | _ => none

/-- The values of the named fields, absent ones marked. -/
def memberFields? (names : List String) (members : List (String × Json)) :
    Option (List (Option Json)) :=
  names.mapM (member? members)

/-- The values of the named fields of an object or an array. An array has them all. -/
def fields? (names : List String) : Json → Option (List (Option Json))
  | object members => memberFields? names members
  | array items => if items.length = names.length then some (items.map some) else none
  | _ => none

/-- The nesting that a text may have. -/
def maxDepth : Nat := 127

mutual

/-- Every number is in the range of doubles, every text is readable, and the nesting is at most
`depth`. -/
def isReadable (depth : Nat) : Json → Bool
  | broken => false
  | number literal => (toFloat? (number literal)).isSome
  | array items => 0 < depth && areReadable (depth - 1) items
  | object members => 0 < depth && membersReadable (depth - 1) members
  | _ => true

/-- All items are readable. -/
def areReadable (depth : Nat) : List Json → Bool
  | [] => true
  | x :: xs => isReadable depth x && areReadable depth xs

/-- All members are readable. -/
def membersReadable (depth : Nat) : List (String × Json) → Bool
  | [] => true
  | (_, v) :: ms => isReadable depth v && membersReadable depth ms

end

end MetricsAgent.Json
