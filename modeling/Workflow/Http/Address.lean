import Workflow.Domain.Label
import Workflow.Text.Blank
import Workflow.Text.Case
import Workflow.Text.Coded
import Workflow.Url.Basic

/-! The address of a request in the form in which it is sent: lower case in the scheme and the
host, percent codes for what may not stand in a part, no port that the scheme has anyway, and a
path without steps up and down. -/

namespace Workflow.Http

open Text (isAsciiChar percentEncoded quoted)

structure Address where
  scheme : List Char
  user : List Char
  host : List Char
  port : Option Int
  path : List Char
  query : Option (List Char)
  fragment : Option (List Char)
  deriving DecidableEq

/-- Why an address is refused. -/
inductive AddressProblem where
  | tooLong
  | partTooLong (part : String)
  | control (part : Option String) (c : Char) (position : Nat)
  | octets (host : String)
  | groups (host : String)
  | domain (host : String)
  | port (text : String)
  | pathWithoutSlash
  | pathWithSlashes
  | pathWithColon
  deriving DecidableEq

def AddressProblem.message : AddressProblem → String
  | .tooLong => "URL too long"
  | .partTooLong part => "URL component '" ++ part ++ "' too long"
  | .control part c position =>
    let place := match part with
      | some part => " " ++ part ++ " component"
      | none => ""
    "Invalid non-printable ASCII character in URL" ++ place ++ ", " ++ quoted c.toString ++
      " at position " ++ toString position ++ "."
  | .octets host => "Invalid IPv4 address: " ++ quoted host
  | .groups host => "Invalid IPv6 address: " ++ quoted host
  | .domain host => "Invalid IDNA hostname: " ++ quoted host
  | .port text => "Invalid port: " ++ quoted text
  | .pathWithoutSlash => "For absolute URLs, path must be empty or begin with '/'"
  | .pathWithSlashes => "Relative URLs cannot have a path starting with '//'"
  | .pathWithColon => "Relative URLs cannot have a path starting with ':'"

/-- The greatest length of an address and of each of its parts. -/
def longest : Nat := 65536

/-- Control characters of ASCII. -/
def isControl (c : Char) : Bool := c.toNat < 0x20 || c.toNat = 0x7f

/-- Refuses a text, an address or a named part of one, that is too long or holds a control
character. -/
def checkText (part : Option String) (cs : List Char) : Except AddressProblem Unit :=
  if longest < cs.length then
    .error (match part with
      | some part => .partTooLong part
      | none => .tooLong)
  else
    match cs.dropWhile fun c => !isControl c with
    | c :: _ => .error (.control part c (cs.takeWhile fun c => !isControl c).length)
    | [] => .ok ()

/-- The characters that are no letters or digits and stand for themselves in every part. -/
def plainMarks : List Char := ['-', '.', '_', '~']

def isPlain (c : Char) : Bool :=
  Url.isAsciiLetter c || ('0' ≤ c && c ≤ '9') || plainMarks.contains c

/-- Whether a character is visible, in ASCII, and none of some characters. -/
def isVisibleBut (marks : List Char) (c : Char) : Bool :=
  0x20 < c.toNat && c.toNat < 0x7f && !marks.contains c

def fragmentSafe : Char → Bool := isVisibleBut ['"', '<', '>', '\x60']

def queryMarks : List Char := ['"', '#', '<', '>']

def querySafe : Char → Bool := isVisibleBut queryMarks

def pathMarks : List Char := queryMarks ++ ['?', '\x60', '{', '}']

def pathSafe : Char → Bool := isVisibleBut pathMarks

def userSafe : Char → Bool :=
  isVisibleBut (pathMarks ++ ['/', ';', '=', '@', '[', '\\', ']', '^', '|'])

def hostMarks : List Char :=
  ['!', '$', '&', '\'', '(', ')', '*', '+', ',', ';', '=', '"', '\x60', '{', '}', '%', '|', '\\']

def hostSafe (c : Char) : Bool := isPlain c || hostMarks.contains c

/-- Whether a host looks like an address of four octets: four runs of digits with points between
them. -/
def looksLikeOctets (cs : List Char) : Bool :=
  let parts := Text.splitAtEach '.' cs
  parts.length = 4 && parts.all fun part => !part.isEmpty && part.all fun c => '0' ≤ c && c ≤ '9'

def isBracketed (cs : List Char) : Bool :=
  1 < cs.length && cs.head? = some '[' && cs.getLast? = some ']'

/-- The host as it is kept: a numeric address without brackets, a name in lower case, and a name
that is not in ASCII in its ASCII form. -/
def readHost (cs : List Char) : Except AddressProblem (List Char) :=
  let text := String.ofList cs
  if looksLikeOctets cs then
    if Url.isOctetAddress cs then .ok cs else .error (.octets text)
  else if isBracketed cs then
    let inner := (cs.drop 1).dropLast
    if Url.isGroupAddress inner then .ok inner else .error (.groups text)
  else if cs.all isAsciiChar then .ok (percentEncoded hostSafe (cs.map Char.toLower))
  else (Domain.write (Text.lower text).toList).mapError fun _ => .domain text

/-- The port that a scheme has when none is told. -/
def standardPort? (scheme : List Char) : Option Int :=
  match String.ofList scheme with
  | "ftp" => some 21
  | "http" | "ws" => some 80
  | "https" | "wss" => some 443
  | _ => none

/-- The port, unless it is the one that the scheme has anyway. -/
def readPort (scheme cs : List Char) : Except AddressProblem (Option Int) :=
  if cs.isEmpty then .ok none
  else
    match Text.readInt? (String.ofList cs) with
    | some n => .ok (if standardPort? scheme = some n then none else some n)
    | none => .error (.port (String.ofList cs))

/-- Takes the steps of a path: a point stays where it is, and two points go one step up, but not
above the top. The steps taken are in reverse. -/
def takeSteps : List (List Char) → List (List Char) → List (List Char)
  | taken, [] => taken.reverse
  | taken, ['.'] :: rest => takeSteps taken rest
  | taken, ['.', '.'] :: rest => takeSteps (if taken = [[]] then taken else taken.drop 1) rest
  | taken, step :: rest => takeSteps (step :: taken) rest

def plainPath (cs : List Char) : List Char :=
  List.intercalate ['/'] (takeSteps [] (Text.splitAtEach '/' cs))

def checkPath (hasScheme hasAuthority : Bool) (cs : List Char) : Except AddressProblem Unit :=
  if hasAuthority && !cs.isEmpty && cs.head? != some '/' then .error .pathWithoutSlash
  else if hasScheme || hasAuthority then .ok ()
  else if cs.take 2 = ['/', '/'] then .error .pathWithSlashes
  else if cs.head? = some ':' then .error .pathWithColon
  else .ok ()

/-- The parts of an address as they are written. -/
structure Written where
  scheme : List Char
  user : List Char
  host : List Char
  port : List Char
  path : List Char
  query : Option (List Char)
  fragment : Option (List Char)

/-- What stands before a mark, and what stands after it if the mark is there. -/
def cutIfThere (mark : Char) (cs : List Char) : List Char × Option (List Char) :=
  if cs.contains mark then ((Text.cutAt mark cs).1, some (Text.cutAt mark cs).2) else (cs, none)

/-- A scheme, which may be empty, before a colon, and what follows the colon. -/
def cutScheme (cs : List Char) : List Char × List Char :=
  let word := cs.takeWhile Url.isSchemeChar
  let isScheme := (word.head?.map Url.isAsciiLetter).getD true
  match cs.dropWhile Url.isSchemeChar with
  | ':' :: rest => if isScheme then (word, rest) else ([], cs)
  | _ => ([], cs)

/-- The user, the host and the port of an authority. The user ends with the last at sign, and a
host in brackets with the last bracket. -/
def cutAuthority (cs : List Char) : List Char × List Char × List Char :=
  let parts := Text.splitAtEach '@' cs
  let rest := parts.getLast?.getD []
  let user := List.intercalate ['@'] parts.dropLast
  let ends := rest.reverse.dropWhile (· ≠ ']')
  let (host, after) :=
    if rest.head? = some '[' && !ends.isEmpty then (ends.reverse, rest.drop ends.length)
    else (rest.takeWhile (· ≠ ':'), rest.dropWhile (· ≠ ':'))
  (user, host, if after.head? = some ':' then after.drop 1 else after)

def cutAddress (cs : List Char) : Written :=
  let (scheme, cs) := cutScheme cs
  let (authority, cs) := Url.splitAuthority cs
  let (user, host, port) := cutAuthority authority
  let (cs, fragment) := cutIfThere '#' cs
  let (path, query) := cutIfThere '?' cs
  ⟨scheme, user, host, port, path, query, fragment⟩

/-- The address that written parts stand for. -/
def Written.address (w : Written) : Except AddressProblem Address := do
  let user := percentEncoded userSafe w.user
  let host ← if w.host.isEmpty then pure [] else readHost w.host
  let port ← readPort w.scheme w.port
  let hasScheme := !w.scheme.isEmpty
  let hasAuthority := !user.isEmpty || !host.isEmpty || port.isSome
  checkPath hasScheme hasAuthority w.path
  let path := if hasScheme || hasAuthority then plainPath w.path else w.path
  return ⟨w.scheme.map Char.toLower, user, host, port, percentEncoded pathSafe path,
    w.query.map (percentEncoded querySafe), w.fragment.map (percentEncoded fragmentSafe)⟩

namespace Address

/-- Reads an address. -/
def read (cs : List Char) : Except AddressProblem Address := do
  checkText none cs
  (cutAddress cs).address

/-- A host as it stands in an address: one with colons in brackets. -/
def shownHost (host : List Char) : List Char :=
  if host.contains ':' then '[' :: host ++ [']'] else host

/-- The host with its port. -/
def place (a : Address) : List Char :=
  shownHost a.host ++ (match a.port with
    | some n => ':' :: Text.integer n
    | none => [])

def authority (a : Address) : List Char :=
  (if a.user.isEmpty then [] else a.user ++ ['@']) ++ a.place

/-- An optional part after its mark. -/
def marked (mark : Char) : Option (List Char) → List Char
  | some part => mark :: part
  | none => []

def text (a : Address) : String :=
  String.ofList <|
    (if a.scheme.isEmpty then [] else a.scheme ++ [':']) ++
      (if a.authority.isEmpty then [] else '/' :: '/' :: a.authority) ++
      a.path ++ marked '?' a.query ++ marked '#' a.fragment

/-- Whether an address tells by itself where a request goes. -/
def isAbsolute (a : Address) : Bool := !a.scheme.isEmpty && !a.host.isEmpty

/-- The path and the query under the root. -/
def underRoot (a : Address) : Except AddressProblem Address := do
  let whole := (if a.path.isEmpty then ['/'] else a.path) ++ marked '?' a.query
  let (path, query) := cutIfThere '?' ('/' :: whole.dropWhile (· = '/'))
  checkText (some "path") path
  checkText (some "query") (query.getD [])
  return ⟨[], [], [], none, path, query, none⟩

/-- The address that its parts stand for when they are read again, with another host or another
fragment. -/
def again (a : Address) (host fragment : Option (List Char)) : Except AddressProblem Address := do
  let fragment := fragment.or a.fragment
  checkText (some "scheme") a.scheme
  checkText (some "authority") a.authority
  checkText (some "path") a.path
  checkText (some "query") (a.query.getD [])
  checkText (some "fragment") (fragment.getD [])
  let (user, oldHost, port) := cutAuthority a.authority
  Written.address ⟨a.scheme, user, (host.map shownHost).getD oldHost, port, a.path, a.query,
    fragment⟩

/-- The host as it is read: a name in its ASCII form is what it stands for. -/
def readableHost (a : Address) : Except Domain.Problem (List Char) :=
  if a.host.take 4 = Domain.mark then Domain.read a.host else .ok a.host

/-- The name and the password of the user. -/
def credentials (a : Address) : String × String :=
  let (name, password) := Text.cutAt ':' a.user
  (Text.percentRead name, Text.percentRead password)

end Address

end Workflow.Http
