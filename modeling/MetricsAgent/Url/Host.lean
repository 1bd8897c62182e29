import MetricsAgent.Text.CaseFolding
import MetricsAgent.Text.Category
import MetricsAgent.Url.Address
import MetricsAgent.Url.Percent
import MetricsAgent.Url.Punycode

/-!
# Hosts of URLs

A host is a domain, an address of version 4 or 6, or, in URLs whose scheme has no rules for it, any
text.  A domain is written in ASCII and in small letters.  A domain whose last label is a number has
to be an address of version 4; its numbers may be octal or hexadecimal, and there may be fewer than
four.

`UrlHost.parse` reads the host of a URL with a special scheme, `UrlHost.parseOpaque` that of any
other.  `UrlError` is everything that can be wrong with a URL, with its wording; most of it is about
hosts.
-/

set_option autoImplicit false

namespace MetricsAgent

/-- Why a text is no URL. -/
inductive UrlError where
  | emptyHost
  | invalidDomain
  | invalidHostCharacter
  | invalidPort
  | invalidIpv4
  | invalidIpv6
  | missingScheme
  deriving DecidableEq, Repr

/-- The wording of an error. -/
def UrlError.message : UrlError → String
  | emptyHost => "empty host"
  | invalidDomain => "invalid international domain name"
  | invalidHostCharacter => "invalid domain character"
  | invalidPort => "invalid port number"
  | invalidIpv4 => "invalid IPv4 address"
  | invalidIpv6 => "invalid IPv6 address"
  | missingScheme => "relative URL without a base"

/-- The host of a URL. -/
inductive UrlHost where
  | domain (name : String)
  | ipv4 (address : Nat)
  | ipv6 (groups : List Nat)
  | opaqueText (text : String)
  deriving DecidableEq, Repr

namespace UrlHost

/-- How a host is written. -/
def render : UrlHost → String
  | domain name | opaqueText name => name
  | ipv4 n => Ipv4.render n
  | ipv6 gs => "[" ++ Ipv6.render gs ++ "]"

/-! ## Domains

The characters of a domain are mapped first: dots of all kinds become one, wide characters of ASCII
become narrow, capitals become small, and some characters leave no trace.  Then each label is put
into ASCII by itself.  A label that is in ASCII already, with the mark of the encoding in front, has
to stand for one that is not, and for one that the mapping leaves alone. -/

/-- A character that no domain may hold. -/
def isForbidden (c : Char) : Bool :=
  c.toNat ≤ 32 || c.toNat = 127 || "%#/:<>?@[\\]^|".toList.contains c

/-- A character that leaves no trace in a domain. -/
def isIgnored (c : Char) : Bool :=
  let n := c.toNat
  n = 0xAD || n = 0x34F || (0x180B ≤ n && n ≤ 0x180D) || n = 0x180F || n = 0x200B || n = 0x2060
    || n = 0x2064 || (0xFE00 ≤ n && n ≤ 0xFE0F) || n = 0xFEFF

/-- What a character becomes in a domain: dots of all kinds are one, wide ASCII characters become
ASCII, and capitals become small letters. -/
def mapChar (c : Char) : List Char :=
  let n := c.toNat
  if n < 128 then [c.toLower]
  else if n = 0x3002 || n = 0xFF0E || n = 0xFF61 then ['.']
  else if 0xFF01 ≤ n && n ≤ 0xFF5E then [(Char.ofNat (n - 0xFEE0)).toLower]
  else if isIgnored c then []
  else if c = 'ς' then [c]
  else if c = 'ẞ' then ['ß']
  else [foldCase c]

/-- Whether a character beyond ASCII may stand in a domain. -/
def isDomainChar (c : Char) : Bool :=
  category c ∉ ["Cc", "Cf", "Cn", "Co", "Cs", "Zs", "Zl", "Zp"]

/-- Whether a label beyond ASCII is one. -/
def isLabel (cs : List Char) : Bool :=
  cs.all (fun c ↦ c.toNat < 128 || isDomainChar c) && !cs.head?.any (hasMajor · 'M')

/-- A label in ASCII. A label that is written in ASCII already has to stand for one that is not. -/
def asciiLabel? (cs : List Char) : Option (List Char) :=
  match cs with
  | 'x' :: 'n' :: '-' :: '-' :: rest =>
    match Punycode.decode? rest with
    | some label =>
      if isLabel label && label.any (128 ≤ ·.toNat) && label.flatMap mapChar = label
          && Punycode.encode label = rest then some cs
      else none
    | none => none
  | cs =>
    if cs.all (·.toNat < 128) then some cs
    else if isLabel cs then some (['x', 'n', '-', '-'] ++ Punycode.encode cs)
    else none

/-- A domain in ASCII. -/
def asciiDomain? (text : String) : Option (List Char) := do
  let cs := text.toList.flatMap mapChar
  if cs.any isForbidden then none
  else
    let labels ← (splitAtChar '.' cs).mapM asciiLabel?
    return ".".toList.intercalate labels

/-! ## Addresses in place of domains

Whether a domain is to be an address is decided by its last label alone.  If that is a number, every
label has to be one, and the last number fills the places that are left: two numbers are the first
byte and the other three. -/

/-- The number that a label writes: decimal, octal behind a zero, or hexadecimal behind a zero and
an x. -/
def number? (cs : List Char) : Option Nat :=
  let inBase (base : Nat) (cs : List Char) : Option Nat :=
    if cs.all fun c ↦ (hexValue? c).any (· < base) then
      some (cs.foldl (fun n c ↦ base * n + (hexValue? c).getD 0) 0)
    else none
  match cs with
  | [] => none
  | '0' :: 'x' :: rest | '0' :: 'X' :: rest => inBase 16 rest
  | '0' :: c :: rest => inBase 8 (c :: rest)
  | cs => inBase 10 cs

/-- The labels of a domain, without the empty one after a final dot. -/
def labels (cs : List Char) : List (List Char) :=
  let ls := splitAtChar '.' cs
  if 1 < ls.length && ls.getLast? = some [] then ls.dropLast else ls

/-- Whether the last label of a domain is a number. -/
def endsInNumber (cs : List Char) : Bool :=
  match (labels cs).getLast? with
  | some l => !l.isEmpty && (l.all Char.isDigit || (number? l).isSome)
  | none => false

/-- The address that a domain writes: the last number fills the places that are left. -/
def domainIpv4? (cs : List Char) : Option Nat := do
  let ns ← (labels cs).mapM number?
  let last ← ns.getLast?
  let front := ns.dropLast
  if 3 < front.length || front.any (255 < ·) || Nat.pow 256 (4 - front.length) ≤ last then none
  else some (front.foldl (fun n d ↦ 256 * n + d) 0 * Nat.pow 256 (4 - front.length) + last)

/-- Read a host in brackets, behind the opening one. -/
def bracketed (cs : List Char) : Except UrlError UrlHost :=
  match cs.getLast?, Ipv6.parse? cs.dropLast with
  | some ']', some gs => .ok (ipv6 gs)
  | _, _ => .error .invalidIpv6

/-- Read the host of a URL with a special scheme. -/
def parse (cs : List Char) : Except UrlError UrlHost :=
  match cs with
  | '[' :: rest => bracketed rest
  | cs =>
    match (Percent.decode? cs).bind asciiDomain? with
    | none => .error .invalidDomain
    | some [] => .error .emptyHost
    | some name =>
      if endsInNumber name then
        match domainIpv4? name with
        | some n => .ok (ipv4 n)
        | none => .error .invalidIpv4
      else .ok (domain (String.ofList name))

/-- Read the host of a URL with any other scheme. -/
def parseOpaque (cs : List Char) : Except UrlError UrlHost :=
  match cs with
  | '[' :: rest => bracketed rest
  | cs =>
    if cs.any fun c ↦ c = '\x00' || "\t\n\r #/:<>?@[\\]^|".toList.contains c then
      .error .invalidHostCharacter
    else .ok (opaqueText (Percent.encode [] cs))

end UrlHost

end MetricsAgent
