import Workflow.Http.Address
import Workflow.Http.Deadline
import Workflow.Http.Header

/-! Cookies that an answer sets. Of a cookie only this matters here: whether it is kept for later
requests. -/

namespace Workflow.Http

/-- Why a cookie is not kept; one of them spoils all cookies of an answer. -/
inductive CookieFlaw where
  | own
  | spoiling
  deriving DecidableEq

/-- A part of a cookie: a name, and what stands after an equals sign. -/
abbrev CookiePart := List Char × Option (List Char)

def cookiePart (cs : List Char) : CookiePart :=
  let (name, value) := cutIfThere '=' (Text.trimBlank cs)
  (Text.trimBlank name, value.map Text.trimBlank)

/-- A text without a quote at its beginning and one at its end. -/
def withoutQuotes (cs : List Char) : List Char :=
  let cs := if cs.head? = some '"' then cs.drop 1 else cs
  if cs.getLast? = some '"' then cs.dropLast else cs

/-- What a part of a cookie tells of its end, read at some instant. -/
def CookiePart.deadline (now : Instant) (part : CookiePart) : Deadline :=
  if Text.asciiLower (String.ofList part.1) = "expires" then
    (part.2.map fun value => Deadline.read now (withoutQuotes value)).getD .untold
  else .untold

/-- The terms on which a cookie is set: the version of its rules, how many seconds it lasts, and the
domain and the ports that it is for. -/
structure CookieTerms where
  version : Option (List Char) := none
  lasting : Option Int := none
  domain : Option (List Char) := none
  ports : Option (List Char) := none
  /-- The names of the terms that have been told. Of each one only the first counts. -/
  told : List String := []

/-- Terms that have to have a value. -/
def valuedTerms : List String := ["version", "domain", "path"]

/-- The terms with one more part of a cookie. Parts that are no terms do not matter. An age counts
more than an end. -/
def CookieTerms.add (now : Instant) (t : CookieTerms) (part : CookiePart) :
    Except CookieFlaw CookieTerms :=
  let (name, value) := part
  let term := Text.asciiLower (String.ofList name)
  let told := { t with told := term :: t.told }
  if t.told.contains term then return t
  else if valuedTerms.contains term && value.isNone then throw .own
  else
    match term with
    | "version" => return { told with version := value }
    | "domain" => return { told with domain := value.map (·.map Char.toLower) }
    | "port" => return { told with ports := value }
    | "expires" =>
      match t.lasting, part.deadline now with
      | none, .told seconds => return { t with lasting := some (seconds - now.seconds) }
      | _, _ => return t
    | "max-age" =>
      match value with
      | none => throw .spoiling
      | some value =>
        match Text.readInt? (String.ofList value) with
        | some n => return { t with lasting := some n }
        | none => throw .own
    | _ => return told

/-- The terms of a cookie that a line sets, if it sets one; a cookie has a name. -/
def cookieTerms? (now : Instant) (line : String) : Except CookieFlaw (Option CookieTerms) :=
  match (Text.splitAtEach ';' line.toList).map cookiePart with
  | (_ :: _, _) :: parts =>
    let parts := parts.filter fun part => !part.1.isEmpty
    if parts.any (·.deadline now = .misnamed) then throw .spoiling
    else some <$> parts.foldlM (CookieTerms.add now) {}
  | _ => return none

/-- The end of local names. -/
def localNames : List Char := ".local".toList

/-- The authority of an address without a port at its end; one without points is in the domain
of local names. -/
def cookieHost (a : Address) : List Char :=
  let cs := a.authority.map Char.toLower
  let digits := cs.reverse.takeWhile fun c => '0' ≤ c && c ≤ '9'
  let rest := cs.reverse.drop digits.length
  let host := if !digits.isEmpty && rest.head? = some ':' then (rest.drop 1).reverse else cs
  if host.contains '.' then host else host ++ localNames

/-- The port of an address as cookies see it: what stands after the first colon of the authority,
if it is a number. -/
def cookiePort (a : Address) : List Char :=
  match cutIfThere ':' a.authority with
  | (_, some port) => if (Text.readInt? (String.ofList port)).isSome then port else ['8', '0']
  | (_, none) => ['8', '0']

/-- Whether a host is in the domain of a cookie. A domain without points inside it is one of local
names. -/
def isInDomain (host domain : List Char) : Bool :=
  let inner := if domain.head? = some '.' then domain.drop 1 else domain
  let dotted := '.' :: inner
  dotted.isSuffixOf host || (inner ++ localNames).isSuffixOf host || host.head? = some '.' ||
    dotted.isSuffixOf ('.' :: host)

/-- Whether a domain of a cookie may be told to a host: it has a point inside it, or the host has a
local name. -/
def isDomainFor (host domain : List Char) : Bool :=
  let inner := if domain.head? = some '.' then domain.drop 1 else domain
  inner.contains '.' || localNames.isSuffixOf host

/-- Whether a port is one of some ports, which have to be numbers up to this one. -/
def isAmongPorts (port : List Char) : List (List Char) → Bool
  | [] => false
  | p :: rest =>
    (Text.readInt? (String.ofList p)).isSome && (p = port || isAmongPorts port rest)

/-- Whether a cookie from an address is kept. The first two versions of the rules are known; one
before them does not ask whether the host is in the domain. -/
def CookieTerms.isKept (t : CookieTerms) (a : Address) : Bool :=
  let version := Text.readInt? (String.ofList (withoutQuotes (t.version.getD ['0'])))
  let host := cookieHost a
  let isOwn (domain : List Char) : Bool := version.any (· < 0) || isInDomain host domain
  let ports := t.ports.map fun cs => Text.splitAtEach ',' (cs.filter (!Text.isBlank ·))
  version.any (· ≤ 1) && !t.lasting.any (· ≤ 0) &&
    t.domain.all (fun domain => isDomainFor host domain && isOwn domain) &&
    ports.all (isAmongPorts (cookiePort a))

/-- Whether header lines from an address that come at some instant set a cookie that is kept. -/
def Headers.setsCookie (headers : Headers) (a : Address) (now : Instant) : Bool :=
  let lines := headers.filterMap fun (name, value) =>
    if Text.asciiLower name == "set-cookie" then some value else none
  let cookies := lines.map (cookieTerms? now)
  !cookies.any (fun | .error .spoiling => true | _ => false) &&
    cookies.any fun
      | .ok (some terms) => terms.isKept a
      | _ => false

end Workflow.Http
