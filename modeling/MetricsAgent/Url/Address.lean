import MetricsAgent.Text.Blank

/-!
# Internet addresses as text

Addresses of version 4 are four decimal numbers; addresses of version 6 are eight groups of
hexadecimal digits, of which one run of zeros may be left out, and of which the last two may be
written as an address of version 4.

Both are read strictly.  A number of version 4 has no needless zeros in front, a group of version 6
has at most four digits, and a run that is left out stands for at least one group.  Written are the
shortest forms: `Ipv6.render` leaves out the first longest run of zeros, if it has more than one.

`isIpAddress` asks whether a text writes either.  It is the check of the address that the server
listens at; hosts of URLs have more liberal forms of version 4, which are in
`MetricsAgent.Url.Host`.
-/

set_option autoImplicit false

namespace MetricsAgent

/-- The value of hexadecimal digits. -/
def hexNat (cs : List Char) : Nat := cs.foldl (fun n c ↦ 16 * n + (hexValue? c).getD 0) 0

/-- The parts of a list between separators. -/
def splitAtChar (separator : Char) (cs : List Char) : List (List Char) :=
  cs.foldr (fun c parts ↦
    if c = separator then [] :: parts
    else match parts with
      | [] => [[c]]
      | p :: ps => (c :: p) :: ps) [[]]

namespace Ipv4

/-- A decimal number below 256 without needless zeros. -/
def octet? (cs : List Char) : Option Nat := do
  let n ← decimalNat? cs
  if n < 256 && (cs.length = 1 || cs.head? ≠ some '0') then some n else none

/-- The address that a text writes, as one number. -/
def parse? (cs : List Char) : Option Nat := do
  match ← (splitAtChar '.' cs).mapM octet? with
  | [a, b, c, d] => some (((a * 256 + b) * 256 + c) * 256 + d)
  | _ => none

/-- An address with its four numbers. -/
def render (n : Nat) : String :=
  ".".intercalate ([n / 16777216, n / 65536 % 256, n / 256 % 256, n % 256].map toString)

end Ipv4

namespace Ipv6

/-- A group of at most four digits. -/
def group? (cs : List Char) : Option Nat :=
  if cs.isEmpty || 4 < cs.length || cs.any (hexValue? · |>.isNone) then none else some (hexNat cs)

/-- The groups written by the parts between colons, the last of which may be an address of version
4. -/
def groups? (mayEndInIpv4 : Bool) : List (List Char) → Option (List Nat)
  | [] => some []
  | [cs] =>
    match group? cs with
    | some g => some [g]
    | none => if mayEndInIpv4 then (Ipv4.parse? cs).map fun n ↦ [n / 65536, n % 65536] else none
  | cs :: rest => do return (← group? cs) :: (← groups? mayEndInIpv4 rest)

/-- The groups of a text between colons, which has none if it is empty. -/
def side? (mayEndInIpv4 : Bool) (cs : List Char) : Option (List Nat) :=
  if cs.isEmpty then some [] else groups? mayEndInIpv4 (splitAtChar ':' cs)

/-- The texts before and after the first two colons in a row. -/
def splitAtGap? : List Char → Option (List Char × List Char)
  | ':' :: ':' :: rest => some ([], rest)
  | c :: rest => (splitAtGap? rest).map fun (a, b) ↦ (c :: a, b)
  | [] => none

/-- The eight groups of the address that a text writes. -/
def parse? (cs : List Char) : Option (List Nat) :=
  match splitAtGap? cs with
  | some (left, right) => do
    let a ← side? false left
    let b ← side? true right
    if a.length + b.length < 8 then some (a ++ List.replicate (8 - a.length - b.length) 0 ++ b)
    else none
  | none => do
    let gs ← groups? true (splitAtChar ':' cs)
    if gs.length = 8 then some gs else none

/-- The number of zeros in front. -/
def zeros (gs : List Nat) : Nat := (gs.takeWhile (· = 0)).length

/-- The place and the length of the first longest run of zeros, of those from the place `i` on. -/
def longestZeros : Nat → List Nat → Nat × Nat
  | _, [] => (0, 0)
  | i, g :: gs =>
    let (j, n) := longestZeros (i + 1) gs
    let m := zeros (g :: gs)
    if n ≤ m then (i, m) else (j, n)

/-- Groups between colons. -/
def join (gs : List Nat) : String :=
  ":".intercalate (gs.map fun g ↦ String.ofList (Nat.toDigits 16 g))

/-- An address with its first longest run of zeros left out, if it has more than one. -/
def render (gs : List Nat) : String :=
  let (i, n) := longestZeros 0 gs
  if n < 2 then join gs else join (gs.take i) ++ "::" ++ join (gs.drop (i + n))

end Ipv6

/-- Whether a text writes an internet address. -/
def isIpAddress (text : String) : Bool :=
  (Ipv4.parse? text.toList).isSome || (Ipv6.parse? text.toList).isSome

end MetricsAgent
