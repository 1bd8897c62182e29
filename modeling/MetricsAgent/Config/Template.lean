import MetricsAgent.Text.Blank

/-!
# Templates

A template is a text with references to environment variables.  A reference is a name in braces
behind a dollar sign, possibly with a fallback behind a colon and a hyphen.  Endpoints and headers
may hold such references.

* `VariableReference.read?` reads the reference that a text begins with, and answers the rest.
* `Template.parts` splits a text into references and single characters, from left to right.  What is
  not a complete reference is characters.
* `Template.expand` puts in what the parts stand for: the value of the variable, else the fallback,
  else nothing.

The text is split once, before anything is replaced.  What a variable holds is not split again, and
a fallback is taken as it is written, so that a value cannot smuggle in a reference to another
variable.  `length_of_read?` is the fact that the recursion of `parts` rests on: what follows a
reference is shorter than the text.
-/

set_option autoImplicit false

namespace MetricsAgent

/-- A reference to a variable. -/
structure VariableReference where
  name : List Char
  fallback : Option (List Char)
  deriving DecidableEq, Repr

namespace VariableReference

/-- A character that a name may begin with. -/
def isNameStart (c : Char) : Bool := isAsciiLetter c || c = '_'

/-- A character of a name. -/
def isNameChar (c : Char) : Bool := isAsciiAlnum c || c = '_'

/-- How a reference is written. -/
def text (r : VariableReference) : List Char :=
  ['$', '{'] ++ r.name ++ (match r.fallback with
    | none => []
    | some f => [':', '-'] ++ f) ++ ['}']

/-- Read the reference that a text begins with, and answer what follows it. -/
def read? : List Char → Option (VariableReference × List Char)
  | '$' :: '{' :: c :: cs =>
    if isNameStart c then
      let name := c :: cs.takeWhile isNameChar
      match cs.dropWhile isNameChar with
      | '}' :: rest => some (⟨name, none⟩, rest)
      | ':' :: '-' :: cs =>
        match cs.dropWhile (· ≠ '}') with
        | _ :: rest => some (⟨name, some (cs.takeWhile (· ≠ '}'))⟩, rest)
        | [] => none
      | _ => none
    else none
  | _ => none

theorem length_dropWhile_le {α : Type} (p : α → Bool) (l : List α) :
    (l.dropWhile p).length ≤ l.length := by
  induction l with
  | nil => simp
  | cons a l ih =>
    rw [List.dropWhile_cons]
    split
    · simp only [List.length_cons]; omega
    · simp

/-- What follows a reference is shorter than the text. -/
theorem length_of_read? {cs rest : List Char} {r : VariableReference}
    (h : read? cs = some (r, rest)) : rest.length < cs.length := by
  unfold read? at h
  split at h
  · rename_i c cs
    split at h
    · have hd := length_dropWhile_le isNameChar cs
      dsimp only at h
      split at h
      · rename_i heq
        rw [heq] at hd
        simp only [Option.some.injEq, Prod.mk.injEq] at h
        simp only [List.length_cons, ← h.2] at hd ⊢
        omega
      · rename_i ds heq
        rw [heq] at hd
        have he := length_dropWhile_le (fun c : Char ↦ decide (c ≠ '}')) ds
        split at h
        · rename_i heq'
          rw [heq'] at he
          simp only [Option.some.injEq, Prod.mk.injEq] at h
          simp only [List.length_cons, ← h.2] at hd he ⊢
          omega
        · simp at h
      · simp at h
    · simp at h
  · simp at h

end VariableReference

/-- A part of a template. -/
inductive TemplatePart where
  | literal (c : Char)
  | reference (r : VariableReference)
  deriving DecidableEq, Repr

namespace TemplatePart

/-- How a part is written. -/
def text : TemplatePart → List Char
  | literal c => [c]
  | reference r => r.text

/-- What a part stands for in an environment. A variable that is not set and has no fallback stands
for nothing. -/
def expand (env : String → Option String) : TemplatePart → List Char
  | literal c => [c]
  | reference r =>
    match env (String.ofList r.name) with
    | some v => v.toList
    | none => r.fallback.getD []

end TemplatePart

namespace Template

/-- The parts of a text. -/
def parts (cs : List Char) : List TemplatePart :=
  match _h : VariableReference.read? cs with
  | some (r, rest) => .reference r :: parts rest
  | none =>
    match cs with
    | [] => []
    | c :: cs => .literal c :: parts cs
termination_by cs.length
decreasing_by
  · exact VariableReference.length_of_read? (by assumption)
  · simp

/-- A text with its references replaced. -/
def expand (env : String → Option String) (text : String) : String :=
  String.ofList ((parts text.toList).flatMap (·.expand env))

end Template

end MetricsAgent
