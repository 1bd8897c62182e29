import MetricsAgent.Decimal.Read
import MetricsAgent.Yaml.Node

/-!
# What nodes mean

A scalar is read as what is asked for.  Any scalar is a text; only a plain one is a truth value or a
number.  Nothing at all, not even quotes, is an empty sequence or an empty mapping.

There is one reader for each kind of value: `Node.text`, `Node.flag`, `Node.unsigned`, `Node.real`,
`Node.optional`, `Node.list`, `Node.entries`.  A tag in front of a scalar may confirm the kind that
is asked for and may not contradict it (`isUntyped`).

A section of a configuration is a mapping with known keys.  `Node.fields` finds them, ignores the
others, and refuses a known key that is given twice; `Node.field` reads one of them, or answers the
default where it is absent.  The order of the keys cannot be told from the result, which is made
precise in `MetricsAgent.Proofs.Yaml.Sections`.
-/

set_option autoImplicit false

namespace MetricsAgent.Yaml

/-- Why a node is not what is asked for. -/
inductive TypeError where
  | expected (what : String)
  | repeatedField (name : String)
  | unknownName (name : String)
  deriving DecidableEq, Repr

/-- The wording of an error. -/
def TypeError.message : TypeError → String
  | expected what => "invalid type, expected " ++ what
  | repeatedField name => "duplicate field " ++ name
  | unknownName name => "unknown variant " ++ name

/-- The unsigned number that digits write in a base. -/
def unsignedInBase? (base : Nat) (cs : List Char) : Option Nat :=
  if cs.isEmpty || cs.any fun c ↦ (hexValue? c).all (base ≤ ·) then none
  else some (cs.foldl (fun n c ↦ base * n + (hexValue? c).getD 0) 0)

/-- The unsigned number that a plain scalar writes, below a limit. Zeros in front of other digits
make it a text. -/
def unsigned? (limit : Nat) (text : String) : Option Nat :=
  let fit (n : Option Nat) : Option Nat := n.filter (· < limit)
  let cs := text.toList
  let cs := if cs.head? = some '+' then cs.drop 1 else cs
  match cs with
  | '0' :: 'x' :: ds => fit (unsignedInBase? 16 ds)
  | '0' :: 'o' :: ds => fit (unsignedInBase? 8 ds)
  | '0' :: 'b' :: ds => fit (unsignedInBase? 2 ds)
  | '0' :: _ :: _ => none
  | cs => fit (unsignedInBase? 10 cs)

/-- The double that a plain scalar writes. -/
def real? (text : String) : Option Float :=
  let cs := text.toList
  let positive := if cs.head? = some '+' then cs.drop 1 else cs
  if [".inf", ".Inf", ".INF"].contains (String.ofList positive) then some (1.0 / 0.0)
  else if ["-.inf", "-.Inf", "-.INF"].contains text then some (-1.0 / 0.0)
  else if [".nan", ".NaN", ".NAN"].contains text then some (0.0 / 0.0)
  else if cs.head? = some '+' && positive.head? = some '-' then none
  else (Decimal.read? positive).filter fun x ↦ x.isFinite

namespace Node

/-- Whether a scalar may stand for a value of a kind with a tag. -/
def isUntyped (style : ScalarStyle) (tag : Option String) (kind : String) : Bool :=
  style = .plain || (style = .literal && tag = some ("tag:yaml.org,2002:" ++ kind))

/-- A text. -/
def text : Node → Except TypeError String
  | scalar text _ _ => .ok text
  | _ => .error (.expected "a string")

/-- A truth value. -/
def flag : Node → Except TypeError Bool
  | scalar text style tag =>
    if !isUntyped style tag "bool" then .error (.expected "a boolean")
    else if ["true", "True", "TRUE"].contains text then .ok true
    else if ["false", "False", "FALSE"].contains text then .ok false
    else .error (.expected "a boolean")
  | _ => .error (.expected "a boolean")

/-- An unsigned number below a limit. -/
def unsigned (limit : Nat) : Node → Except TypeError Nat
  | scalar text style tag =>
    match unsigned? limit text with
    | some n => if isUntyped style tag "int" then .ok n else .error (.expected "an integer")
    | none => .error (.expected "an integer")
  | _ => .error (.expected "an integer")

/-- A double. -/
def real : Node → Except TypeError Float
  | scalar text style tag =>
    match real? text with
    | some x => if isUntyped style tag "float" then .ok x else .error (.expected "a number")
    | none => .error (.expected "a number")
  | _ => .error (.expected "a number")

/-- The spellings of no value. -/
def nullNames : List String := ["null", "Null", "NULL", "~"]

/-- A value, or none. A plain scalar with the tag of null has to be spelled as one. -/
def optional {α : Type} (read : Node → Except TypeError α) (n : Node) :
    Except TypeError (Option α) :=
  match n with
  | scalar text .plain none =>
    if text.isEmpty || nullNames.contains text then .ok none else (read n).map some
  | scalar text .plain (some "tag:yaml.org,2002:null") =>
    if nullNames.contains text then .ok none else .error (.expected "null")
  | n => (read n).map some

/-- The items of a sequence. -/
def list {α : Type} (read : Node → Except TypeError α) : Node → Except TypeError (List α)
  | sequence items => items.mapM read
  | scalar "" .plain _ => .ok []
  | _ => .error (.expected "a sequence")

/-- The entries of a mapping whose keys are texts, in their order. -/
def entries : Node → Except TypeError (List (String × Node))
  | mapping entries => entries.mapM fun (k, v) ↦ do return (← k.text, v)
  | scalar "" .plain _ => .ok []
  | _ => .error (.expected "a mapping")

/-- One of several names: a text, or a tag in front of nothing. -/
def name {α : Type} (read : String → Option α) : Node → Except TypeError α
  | scalar text style tag =>
    let named (name : String) : Except TypeError α :=
      match read name with
      | some a => .ok a
      | none => .error (.unknownName name)
    match tag with
    | none => named text
    | some t =>
      if style = .plain && (text.isEmpty || nullNames.contains text) then
        named (if t.startsWith "!" then (t.drop 1).toString else t)
      else .error (.expected "nothing")
  | _ => .error (.expected "a name")

/-- The fields of a section. Unknown ones do not count; a known one may not be repeated. -/
def fields (known : List String) (n : Node) : Except TypeError (List (String × Node)) := do
  let fs := (← n.entries).filter fun e ↦ known.contains e.1
  match known.find? fun k ↦ 1 < fs.countP (·.1 = k) with
  | some k => .error (.repeatedField k)
  | none => return fs

end Node

/-- The value of a field, or the default where it is absent. -/
def field {α : Type} (fs : List (String × Node)) (name : String) (read : Node → Except TypeError α)
    (default : α) : Except TypeError α :=
  match fs.lookup name with
  | some n => read n
  | none => .ok default

end MetricsAgent.Yaml
