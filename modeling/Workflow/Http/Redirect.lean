import Workflow.Fault

/-! Answers that tell to make the request to another address. The address has to be right, whether
the request is made again or not. -/

namespace Workflow.Http

/-- The statuses that tell another address. -/
def redirectStatuses : List Int := [301, 302, 303, 307, 308]

/-- Schemes whose addresses an address without a scheme may be part of. -/
def relativeSchemes : List String :=
  ["ftp", "http", "gopher", "nntp", "imap", "wais", "file", "https", "shttp", "mms", "prospero",
   "rtsp", "rtspu", "sftp", "svn", "svn+ssh", "ws", "wss"]

namespace Address

/-- The path that a path leads to from this address. -/
def pathTo (a : Address) (path : List Char) : List Char :=
  if path.isEmpty then a.path
  else if path.head? = some '/' then path
  else
    let steps := (a.path.reverse.dropWhile (· ≠ '/')).reverse
    plainPath ((if steps.isEmpty then ['/'] else steps) ++ path)

/-- The address that an address without a scheme or a host leads to from this one. -/
def join (a other : Address) : Except Fault Address := do
  if other.text.isEmpty then return a
  let _ ← (Url.split other.text).mapError .address
  if !relativeSchemes.contains (String.ofList a.scheme) then return other
  let joined :=
    if !other.host.isEmpty then { other with scheme := a.scheme }
    else { a with path := a.pathTo other.path, query := other.query, fragment := other.fragment }
  (joined.again none none).mapError .target

/-- A fragment that has some text. -/
def fragmentText? (a : Address) : Option (List Char) :=
  match (Text.percentRead (a.fragment.getD [])).toList with
  | [] => none
  | cs => some cs

/-- The port that a request goes to, if it is known. -/
def openPort? (a : Address) : Option Int :=
  a.port.or (match String.ofList a.scheme with
    | "http" => some 80
    | "https" => some 443
    | _ => none)

/-- Whether two addresses have the same scheme, host and port. Both hosts have to be readable to
tell; with the same scheme that of the first address is read first. -/
def isBeside (next a : Address) : Except Fault Bool := do
  let isSameScheme := next.scheme = a.scheme
  let (first, second) := if isSameScheme then (next, a) else (a, next)
  let host ← first.readableHost.mapError .domain
  let otherHost ← second.readableHost.mapError .domain
  return isSameScheme && host = otherHost && next.openPort? = a.openPort?

/-- The address that a location leads to from this one. A location with a scheme and without a
host has this host, and one without a fragment has this fragment. A place other than this one is
told to the new host, so that it has to be in ASCII. -/
def follow (a : Address) (location : String) : Except Fault Address := do
  let next ← (read location.toList).mapError .location
  if !next.scheme.isEmpty then
    let _ ← next.readableHost.mapError .domain
  let next ←
    if !next.scheme.isEmpty && next.host.isEmpty then do
      let host ← a.readableHost.mapError .domain
      (next.again (some host) none).mapError .target
    else pure next
  let next ← if next.isAbsolute then pure next else a.join next
  let next ←
    if next.fragmentText?.isSome || a.fragmentText?.isNone then pure next
    else (next.again none a.fragmentText?).mapError .target
  let place := String.ofList next.place
  if !(← next.isBeside a) && !Text.isAscii place then throw (.notAscii place)
  return next

end Address

end Workflow.Http
