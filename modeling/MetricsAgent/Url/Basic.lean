import MetricsAgent.Url.Host

/-!
# URLs

A URL is read part by part: its scheme, its host with user name, password and port, its path, its
query and its fragment.  The parts are brought into a normal form: the path has no dots that stand
for the same or the outer directory, and a port that goes with the scheme is left out.

* `Url.parse` reads a URL.  Blanks and control characters around it do not count, nor do tabs and
  line breaks in it.
* `Url.scheme?` decides how the rest is read.  Schemes with hosts of known kinds want a host, and
  take a backslash for a slash; files may leave the host out; all other schemes have an opaque host,
  or a path without a host that is taken as it is.
* `Url.readAuthority` is what stands between the slashes and the path.  The user name ends at the
  last at sign, and a colon in brackets belongs to the host.
* `Url.render` writes the normal form.

Each part encodes the characters that it may not hold (`MetricsAgent.Url.Percent`), so that what is
written is ASCII.  The reader goes through the text once and never backtracks.
-/

set_option autoImplicit false

namespace MetricsAgent

/-- A URL in its normal form. -/
structure Url where
  scheme : String
  username : String
  password : Option String
  host : Option UrlHost
  port : Option Nat
  path : String
  query : Option String
  fragment : Option String
  deriving DecidableEq, Repr

namespace Url

/-- How a URL is written. -/
def render (u : Url) : String :=
  let user := u.username ++ (match u.password with
    | some p => ":" ++ p
    | none => "")
  let authority := match u.host with
    | none => ""
    | some h => "//" ++ (if user.isEmpty then "" else user ++ "@") ++ h.render ++ (match u.port with
      | some p => ":" ++ toString p
      | none => "")
  u.scheme ++ ":" ++ authority ++ u.path ++ (match u.query with
    | some q => "?" ++ q
    | none => "") ++ (match u.fragment with
    | some f => "#" ++ f
    | none => "")

/-- The port that goes with a scheme. -/
def defaultPort? : String → Option Nat
  | "http" | "ws" => some 80
  | "https" | "wss" => some 443
  | "ftp" => some 21
  | _ => none

/-- The schemes with hosts of known kinds, files apart. -/
def isSpecial (scheme : String) : Bool := ["http", "https", "ws", "wss", "ftp"].contains scheme

/-- The scheme in front of a URL, in small letters, and what follows its colon. -/
def scheme? (cs : List Char) : Option (String × List Char) :=
  let name := cs.takeWhile fun c ↦ isAsciiAlnum c || c = '+' || c = '-' || c = '.'
  match cs.drop name.length with
  | ':' :: rest =>
    if name.head?.any isAsciiLetter then some
      (String.ofList (name.map Char.toLower), rest) else none
  | _ => none

/-- Whether a character ends the host and what belongs to it. -/
def endsAuthority (special : Bool) (c : Char) : Bool :=
  c = '/' || c = '?' || c = '#' || (special && c = '\\')

/-- The texts before and after the last of a character. -/
def splitAtLast? (x : Char) (cs : List Char) : Option (List Char × List Char) :=
  let after := (cs.reverse.takeWhile (· ≠ x)).reverse
  if after.length = cs.length then none else some (cs.take (cs.length - after.length - 1), after)

/-- User name and password. -/
def readUser (cs : List Char) : String × Option String :=
  let name := cs.takeWhile (· ≠ ':')
  let password := cs.drop (name.length + 1)
  (Percent.encode Percent.userSet name,
    if password.isEmpty then none else some (Percent.encode Percent.userSet password))

/-- The characters of the host in front; a colon in brackets belongs to it. -/
def hostLength (inBrackets : Bool) : List Char → Nat
  | [] => 0
  | c :: cs =>
    if c = ':' && !inBrackets then 0
    else 1 + hostLength (if c = '[' then true else if c = ']' then false else inBrackets) cs

/-- Read a port. -/
def readPort (scheme : String) (cs : List Char) : Except UrlError (Option Nat) :=
  let digits := cs.takeWhile Char.isDigit
  match cs.drop digits.length with
  | [] | '\\' :: _ =>
    match decimalNat? digits with
    | none => .ok none
    | some n =>
      if 65535 < n then .error .invalidPort
      else .ok (if defaultPort? scheme = some n then none else some n)
  | _ => .error .invalidPort

/-- Read what stands between the slashes and the path. -/
def readAuthority (scheme : String) (cs : List Char) : Except UrlError Url := do
  let special := isSpecial scheme
  let (user, hostPort) := match splitAtLast? '@' cs with
    | some (user, rest) => (some user, rest)
    | none => (none, cs)
  if user.isSome && hostPort.isEmpty then throw .emptyHost
  else
    let (name, password) := readUser (user.getD [])
    let n := hostLength false hostPort
    let (host, rest) := (hostPort.take n, hostPort.drop n)
    if host.isEmpty && (special || !rest.isEmpty || !name.isEmpty || password.isSome) then
      throw .emptyHost
    else
      let host ← if special then UrlHost.parse host else UrlHost.parseOpaque host
      let port ← match rest with
        | ':' :: digits => readPort scheme digits
        | _ => pure none
      return ⟨scheme, name, password, some host, port, "", none, none⟩

/-- Whether a segment stands for the same directory. -/
def isSingleDot (s : String) : Bool := ["." , "%2e"].contains (asciiLower s)

/-- Whether a segment stands for the outer directory. -/
def isDoubleDot (s : String) : Bool := ["..", ".%2e", "%2e.", "%2e%2e"].contains (asciiLower s)

/-- Add the segments to a path, the latest segment of which is in front. A dot at the end leaves an
empty segment. -/
def addSegments : List String → List String → List String
  | path, [] => path
  | path, s :: rest =>
    let path := if isDoubleDot s then path.drop 1 else if isSingleDot s then path else s :: path
    if rest.isEmpty && (isDoubleDot s || isSingleDot s) then "" :: path else addSegments path rest

/-- Read a path whose first slash may be left out. -/
def readPath (special : Bool) (cs : List Char) : String :=
  let cs := if special then cs.map fun c ↦ if c = '\\' then '/' else c else cs
  let cs := match cs with
    | '/' :: rest => rest
    | cs => cs
  let segments := (splitAtChar '/' cs).map (Percent.encode Percent.pathSet)
  "/" ++ "/".intercalate (addSegments [] segments).reverse

/-- Read query and fragment. -/
def readTail (special : Bool) (cs : List Char) : Option String × Option String :=
  let query := cs.takeWhile (· ≠ '#')
  let set := if special then Percent.specialQuerySet else Percent.querySet
  let text (set : List Char) : List Char → Option String
    | _ :: rest => some (Percent.encode set rest)
    | [] => none
  (text set query, text Percent.fragmentSet (cs.drop query.length))

/-- Read a URL with an authority, behind its slashes. -/
def readHierarchy (scheme : String) (cs : List Char) : Except UrlError Url := do
  let special := isSpecial scheme
  let authority := cs.takeWhile (!endsAuthority special ·)
  let u ← readAuthority scheme authority
  let rest := cs.drop authority.length
  let path := rest.takeWhile fun c ↦ c ≠ '?' && c ≠ '#'
  let (query, fragment) := readTail special (rest.drop path.length)
  return { u with
    path := if path.isEmpty && !special then "" else readPath special path
    query := query
    fragment := fragment }

/-- Read a URL without an authority: its path is taken as it is, if it does not begin with a
slash. -/
def readPlain (scheme : String) (cs : List Char) : Url :=
  let path := cs.takeWhile fun c ↦ c ≠ '?' && c ≠ '#'
  let (query, fragment) := readTail false (cs.drop path.length)
  let path := if path.head? = some '/' then readPath false path else Percent.encode [] path
  ⟨scheme, "", none, none, none, path, query, fragment⟩

/-- Read the URL of a file. Its host may be left out. -/
def readFile (cs : List Char) : Except UrlError Url := do
  let isSlash (c : Char) : Bool := c = '/' || c = '\\'
  let (host, rest) := match cs with
    | a :: b :: rest =>
      if isSlash a && isSlash b then
        let host := rest.takeWhile (!endsAuthority true ·)
        (host, rest.drop host.length)
      else ([], cs)
    | cs => ([], cs)
  let host ← if host.isEmpty then pure (UrlHost.domain "") else UrlHost.parse host
  let path := rest.takeWhile fun c ↦ c ≠ '?' && c ≠ '#'
  let (query, fragment) := readTail true (rest.drop path.length)
  return ⟨"file", "", none, some host, none, readPath true path, query, fragment⟩

/-- Read a URL. Blanks and control characters around it do not count, nor do tabs and line breaks in
it. -/
def parse (text : String) : Except UrlError Url :=
  let isOutside (c : Char) : Bool := c.toNat ≤ 32
  let cs := ((text.toList.dropWhile isOutside).reverse.dropWhile isOutside).reverse
  let cs := cs.filter fun c ↦ c ≠ '\t' && c ≠ '\n' && c ≠ '\r'
  match scheme? cs with
  | none => .error .missingScheme
  | some (scheme, rest) =>
    if scheme = "file" then readFile rest
    else if isSpecial scheme then
      readHierarchy scheme (rest.dropWhile fun c ↦ c = '/' || c = '\\')
    else
      match rest with
      | '/' :: '/' :: rest => readHierarchy scheme rest
      | rest => .ok (readPlain scheme rest)

end Url

end MetricsAgent
