import MetricsAgent.Text.CaseFolding
import MetricsAgent.Text.Category
import MetricsAgent.Text.Script

/-!
# Sets of characters in patterns

A set of characters is the test whether a character belongs to it.  Union and complement are those
of tests; `CharSet.foldCase` closes a set under simple case folding, and `CharSet.foldAsciiCase`
under the case of ASCII letters only.

Digits, blanks and word characters come in two kinds, over all characters and over ASCII alone
(`CharSet.ofLetter?`), and a capital letter stands for the complement.  A character property is
asked for by its name, by the name of a general category, or by that of a script, and a property
with a value by both of them.  Blanks, hyphens, underscores and the case of letters do not count in
such a name (`plainName`).

The properties are those of `MetricsAgent.Text.Category` and `MetricsAgent.Text.Script`, and the few
that are made of them.  A name that stands for none of them is refused where the pattern is read.
-/

set_option autoImplicit false

namespace MetricsAgent

/-- A set of characters. -/
abbrev CharSet := Char → Bool

namespace CharSet

/-- No character. -/
def none : CharSet := fun _ ↦ false

/-- The characters from one to another. -/
def range (a b : Char) : CharSet := fun c ↦ a ≤ c && c ≤ b

/-- The characters of both sets. -/
def union (a b : CharSet) : CharSet := fun c ↦ a c || b c

/-- All other characters. -/
def complement (a : CharSet) : CharSet := fun c ↦ !a c

/-- The characters that are equal up to case to one of the set. -/
def foldCase (a : CharSet) : CharSet := fun c ↦ (caseVariants c).any a

/-- An ASCII letter in its other case. -/
def swapAsciiCase (c : Char) : Char := if c.isUpper then c.toLower else c.toUpper

/-- The characters that are equal up to the case of ASCII letters to one of the set. -/
def foldAsciiCase (a : CharSet) : CharSet := fun c ↦ a c || a (swapAsciiCase c)

/-- Whether all characters of a set below the code point 256 are ASCII. -/
def isAscii (a : CharSet) : Bool := (List.range 128).all fun n ↦ !a (Char.ofNat (128 + n))

/-- The word characters of ASCII. -/
def asciiWord : CharSet := fun c ↦ isAsciiAlnum c || c = '_'

/-- The blanks of ASCII that lines and words are separated by. -/
def asciiBlank : CharSet := fun c ↦ c = ' ' || ('\t' ≤ c && c ≤ '\r')

/-- The set that a letter after a backslash stands for; a capital stands for the complement. -/
def ofLetter? (unicode : Bool) : Char → Option CharSet
  | 'd' => if unicode then isDecimalDigit else Char.isDigit
  | 'D' => if unicode then complement isDecimalDigit else complement Char.isDigit
  | 's' => if unicode then isBlank else asciiBlank
  | 'S' => if unicode then complement isBlank else complement asciiBlank
  | 'w' => if unicode then isWordChar else asciiWord
  | 'W' => if unicode then complement isWordChar else complement asciiWord
  | _ => Option.none

/-- The ASCII set with a name. -/
def ofAsciiName? : String → Option CharSet
  | "alnum" => some isAsciiAlnum
  | "alpha" => some isAsciiLetter
  | "ascii" => some fun c ↦ c.toNat < 128
  | "blank" => some fun c ↦ c = ' ' || c = '\t'
  | "cntrl" => some fun c ↦ c.toNat < 32 || c.toNat = 127
  | "digit" => some Char.isDigit
  | "graph" => some (range '!' '~')
  | "lower" => some (range 'a' 'z')
  | "print" => some (range ' ' '~')
  | "punct" => some fun c ↦ range '!' '~' c && !isAsciiAlnum c
  | "space" => some asciiBlank
  | "upper" => some (range 'A' 'Z')
  | "word" => some asciiWord
  | "xdigit" => some fun c ↦ (hexValue? c).isSome
  | _ => Option.none

/-- The long names of the general categories, in small letters. -/
def categoryNames : List (String × String) :=
  [("L", "letter"), ("Lu", "uppercaseletter"), ("Ll", "lowercaseletter"), ("Lt", "titlecaseletter"),
    ("Lm", "modifierletter"), ("Lo", "otherletter"), ("M", "mark"), ("M", "combiningmark"),
    ("Mn", "nonspacingmark"), ("Mc", "spacingmark"), ("Me", "enclosingmark"), ("N", "number"),
    ("Nd", "decimalnumber"), ("Nd", "digit"), ("Nl", "letternumber"), ("No", "othernumber"),
    ("P", "punctuation"), ("P", "punct"), ("Pc", "connectorpunctuation"), ("Pd", "dashpunctuation"),
    ("Ps", "openpunctuation"), ("Pe", "closepunctuation"), ("Pi", "initialpunctuation"),
    ("Pf", "finalpunctuation"), ("Po", "otherpunctuation"), ("S", "symbol"), ("Sm", "mathsymbol"),
    ("Sc", "currencysymbol"), ("Sk", "modifiersymbol"), ("So", "othersymbol"), ("Z", "separator"),
    ("Zs", "spaceseparator"), ("Zl", "lineseparator"), ("Zp", "paragraphseparator"), ("C", "other"),
    ("Cc", "control"), ("Cc", "cntrl"), ("Cf", "format"), ("Cs", "surrogate"), ("Co", "privateuse"),
    ("Cn", "unassigned")]

/-- The characters of a general category, which is asked for by its letters or by its name. -/
def ofCategory? (name : String) : Option CharSet :=
  if name = "any" then some fun _ ↦ true
  else if name = "assigned" then some fun c ↦ category c ≠ "Cn"
  else if name = "ascii" then some fun c ↦ c.toNat < 128
  else if name = "lc" || name = "casedletter" then some fun c ↦
    ["Lu", "Ll", "Lt"].contains (category c)
  else
    (categoryNames.find? fun e ↦ asciiLower e.1 = name || e.2 = name).map fun e c ↦
      (category c).startsWith e.1

/-- The characters of a script. -/
def ofScript? (name : String) : Option CharSet :=
  (Script.code? name).map fun code c ↦ script c = code

/-- The characters with a property that holds or does not. -/
def ofProperty? : String → Option CharSet
  | "alphabetic" | "alpha" => some isAlphabetic
  | "whitespace" | "wspace" | "space" => some isBlank
  | "asciihexdigit" | "ahex" => some fun c ↦ (hexValue? c).isSome
  | _ => Option.none

/-- A name of a property without what does not count in it. -/
def plainName (name : String) : String :=
  let cs := (asciiLower name).toList.filter fun c ↦ c ≠ ' ' && c ≠ '_' && c ≠ '-'
  String.ofList (match cs with
    | 'i' :: 's' :: rest => rest
    | cs => cs)

/-- The characters with a named property. -/
def ofName? (name : String) : Option CharSet :=
  let name := plainName name
  (ofProperty? name).or ((ofCategory? name).or (ofScript? name))

/-- The characters for which a property has a value. -/
def ofValue? (property value : String) : Option CharSet :=
  let value := plainName value
  match plainName property with
  | "gc" | "generalcategory" => ofCategory? value
  | "sc" | "script" | "scx" | "scriptextensions" => ofScript? value
  | _ => Option.none

end CharSet

end MetricsAgent
