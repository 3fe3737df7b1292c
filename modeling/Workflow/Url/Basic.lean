import Workflow.Text.Blank
import Workflow.Text.Case
import Workflow.Text.Quoted
import Workflow.Url.Host

/-! Addresses taken apart into scheme, authority, path, query and fragment, and put together
again. -/

namespace Workflow

structure Url where
  scheme : List Char
  authority : List Char
  path : List Char
  query : List Char
  fragment : List Char
  deriving DecidableEq

namespace Url

open Text (cutAt splitAtEach)

/-- Why an address, or a parameter of one, is refused. -/
inductive Problem where
  | brackets
  | host (p : HostProblem)
  | authority (text : String)
  | longInteger
  deriving DecidableEq

def Problem.message : Problem → String
  | .brackets => "Invalid IPv6 URL"
  | .host .futureVersion => "IPvFuture address is invalid"
  | .host .octets => "An IPv4 address cannot be in brackets"
  | .host (.noAddress shown) =>
    Text.quoted shown ++ " does not appear to be an IPv4 or IPv6 address"
  | .authority text =>
    "netloc '" ++ text ++ "' contains invalid characters under NFKC normalization"
  | .longInteger => Text.longMessage none

/-- Control characters and the space, which are dropped in front. -/
def isControlOrSpace (c : Char) : Bool := c.toNat ≤ 0x20

/-- Tabs and line ends, which are dropped everywhere. -/
def isDropped (c : Char) : Bool := c == '\t' || c == '\r' || c == '\n'

def isAsciiLetter (c : Char) : Bool := ('a' ≤ c && c ≤ 'z') || ('A' ≤ c && c ≤ 'Z')

def isSchemeChar (c : Char) : Bool :=
  isAsciiLetter c || ('0' ≤ c && c ≤ '9') || c == '+' || c == '-' || c == '.'

/-- A scheme in lower case and what follows its colon. -/
def splitScheme (cs : List Char) : List Char × List Char :=
  let word := cs.takeWhile (· ≠ ':')
  match cs.dropWhile (· ≠ ':') with
  | ':' :: rest =>
    if (word.head?.map isAsciiLetter).getD false && word.all isSchemeChar then
      (word.map Char.toLower, rest)
    else ([], cs)
  | _ => ([], cs)

def endsAuthority (c : Char) : Bool := c == '/' || c == '?' || c == '#'

/-- An authority after two slashes, and what follows it. -/
def splitAuthority : List Char → List Char × List Char
  | '/' :: '/' :: rest =>
    (rest.takeWhile fun c => !endsAuthority c, rest.dropWhile fun c => !endsAuthority c)
  | cs => ([], cs)

/-- What follows the last at sign of an authority: the host with its port. -/
def hostPart (cs : List Char) : List Char := (splitAtEach '@' cs).getLast?.getD cs

/-- Code points whose compatibility form contains a mark that parts an address. -/
def disguisedMarks : List Nat :=
  [0x2047, 0x2048, 0x2049, 0x2100, 0x2101, 0x2105, 0x2106, 0x2a74, 0xfe13, 0xfe16, 0xfe55,
   0xfe56, 0xfe5f, 0xfe6b, 0xff03, 0xff0f, 0xff1a, 0xff1f, 0xff20]

/-- The problem of a host with its port in an authority that has brackets. Nothing may stand
before an opening bracket, and nothing but a port after the closing one. -/
def bracketProblem? (cs : List Char) : Option Problem :=
  if cs.contains '[' then
    let (before, inside) := cutAt '[' cs
    let (host, after) := cutAt ']' inside
    if !before.isEmpty || (!after.isEmpty && after.head? != some ':') then some .brackets
    else (hostProblem? host).map .host
  else (hostProblem? (cutAt ':' cs).1).map .host

def authorityProblem? (cs : List Char) : Option Problem :=
  let opens := cs.contains '['
  let closes := cs.contains ']'
  if opens != closes then some .brackets
  else if opens then bracketProblem? (hostPart cs)
  else none

def disguiseProblem? (cs : List Char) : Option Problem :=
  if cs.any fun c => disguisedMarks.contains c.toNat then some (.authority (String.ofList cs))
  else none

/-- Takes an address apart. -/
def split (text : String) : Except Problem Url :=
  let cs := (text.toList.dropWhile isControlOrSpace).filter fun c => !isDropped c
  let (scheme, cs) := splitScheme cs
  let (authority, cs) := splitAuthority cs
  match (authorityProblem? authority).or (disguiseProblem? authority) with
  | some p => .error p
  | none =>
    let (cs, fragment) := cutAt '#' cs
    let (path, query) := cutAt '?' cs
    .ok ⟨scheme, authority, path, query, fragment⟩

/-- Schemes whose addresses have an authority, be it empty. -/
def authoritySchemes : List String :=
  ["ftp", "http", "gopher", "nntp", "telnet", "imap", "wais", "file", "mms", "https", "shttp",
   "snews", "prospero", "rtsp", "rtspu", "rsync", "svn", "svn+ssh", "sftp", "nfs", "git",
   "git+ssh", "ws", "wss"]

/-- The authority and the path; the two slashes stand also before an empty authority if the
scheme asks for one and the path does not start with two slashes itself. -/
def hierarchy (u : Url) : List Char :=
  let expected := authoritySchemes.contains (String.ofList u.scheme) && u.path.take 2 != ['/', '/']
  if !u.authority.isEmpty || expected then
    let path := if u.path.isEmpty || u.path.head? = some '/' then u.path else '/' :: u.path
    '/' :: '/' :: u.authority ++ path
  else u.path

/-- A part with a mark before it, or nothing if the part is empty. -/
def marked (mark : Char) (part : List Char) : List Char :=
  if part.isEmpty then [] else mark :: part

/-- Puts an address together. -/
def text (u : Url) : String :=
  String.ofList <|
    (if u.scheme.isEmpty then [] else u.scheme ++ [':']) ++ u.hierarchy ++
      marked '?' u.query ++ marked '#' u.fragment

end Url

end Workflow
