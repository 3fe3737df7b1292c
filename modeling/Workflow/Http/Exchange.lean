import Workflow.Capability
import Workflow.Http.ContentType
import Workflow.Http.Cookie
import Workflow.Http.Header
import Workflow.Http.Redirect
import Workflow.Text.Coded
import Workflow.Value.Basic

/-! The exchange of a request for a response. A body that is no text is sent as JSON, and the body
of an answer is read by the type of its content. The client that requests are made with is opened
on first use and closed by the one who opened it. -/

namespace Workflow.Http

/-- A request as it is sent. -/
structure Sent where
  method : String
  address : Address
  headers : Headers
  body : String
  deriving DecidableEq

/-- An answer as it is received, with the instant when it came: its body is a list of bytes. -/
structure Received where
  status : Int
  headers : Headers
  bytes : List Nat
  instant : Instant

/-- What carries a request to its answer. -/
abbrev Transport := Sent → Except Fault Received

/-- Header names and values have to be in ASCII. -/
def checkHeaders : Headers → Except Fault Unit
  | [] => .ok ()
  | (name, value) :: rest =>
    if !Text.isAscii name then .error (.notAscii name)
    else if !Text.isAscii value then .error (.notAscii value)
    else checkHeaders rest

/-- The address of a request; one that does not tell where it goes is a path under the root. -/
def readTarget (url : String) : Except AddressProblem Address := do
  let a ← Address.read url.toList
  if a.isAbsolute then return a else a.underRoot

/-- The host of a request has to be readable, and in ASCII together with its port. It matters only
when no header tells the host. -/
def checkHost (a : Address) (headers : Headers) : Except Fault Unit := do
  if !headers.contains "host" then
    let _ ← a.readableHost.mapError .domain
    let place := String.ofList a.place
    if !Text.isAscii place then throw (.notAscii place)

/-- The header lines with those that tell who the user is, if the address tells it. -/
def withUser (a : Address) (headers : Headers) : Headers :=
  let (name, password) := a.credentials
  if name.isEmpty && password.isEmpty then headers
  else
    headers.set "Authorization"
      ("Basic " ++ String.ofList (Text.base64 (Text.utf8 (name ++ ":" ++ password))))

/-- The body of a request and its header lines: nothing for null, a text as it is, and any other
value as JSON. -/
def prepareBody (headers : Headers) (body : Value) : Except Fault (Headers × String) :=
  match body with
  | .null => .ok (headers, "")
  | .text s => .ok (headers, s)
  | body => do
    let text ← (Json.write .compact body).mapError .unwritable
    return (headers.withDefault "content-type" "application/json", text)

/-- A request with a body. -/
def prepare (method url : String) (headers : Headers) (body : Value) : Except Fault Sent := do
  let address ← (readTarget url).mapError .target
  checkHeaders headers
  let (headers, body) ← prepareBody headers body
  checkHost address headers
  return ⟨Text.upper method, address, withUser address headers, body⟩

namespace Received

/-- An answer with a packed body, whose length is told in the headers unless it is empty. -/
def ofBytes (status : Int) (headers : Headers) (bytes : List Nat) (instant : Instant) :
    Except Fault Received := do
  checkHeaders headers
  let unpacked ← (Packing.unpackAll headers.packings bytes).mapError .compressed
  let headers :=
    if bytes.isEmpty then headers
    else headers.withDefault "content-length" (toString bytes.length)
  return ⟨status, headers, unpacked, instant⟩

/-- The body as a text, in the character set of its type. The type does not matter when there is
nothing to read. -/
def text (r : Received) : Except Fault String := do
  if r.bytes.isEmpty then return ""
  let set ← (charset r.headers.contentType).mapError .parameter
  (set.decode r.bytes).mapError .charset

/-- Whether the body is to be read as JSON. -/
def isJson (r : Received) : Bool :=
  Text.occursIn "json".toList r.headers.contentType.toList && !r.bytes.isEmpty

/-- The body as a value: the document that it holds, if its type mentions JSON, or else its text.
Bytes that are no text are a fault where a document is expected, and so is an integer that is too
long. -/
def body (r : Received) : Except Fault Value := do
  if r.isJson then
    let document ← (Text.readBytes r.bytes).mapError .undecodable
    match Json.read document with
    | .ok v => return v
    | .error e => if e.problem.isOfSyntax then return .text (← r.text) else throw (.unreadable e)
  else return .text (← r.text)

/-- The response that an answer is. -/
def response (r : Received) : Except Fault HttpResponse := do
  let body ← r.body
  return ⟨r.status, r.headers.table, body⟩

end Received

/-- Whether a text begins with a word before a colon. -/
def beginsWithKind (cs : List Char) : Bool :=
  let isInside (c : Char) : Bool := c != '/' && c != ':'
  (cs.head?.map isInside).getD false && (cs.dropWhile isInside).head? = some ':'

/-- An address that cookies are kept for has to tell, before its last number sign, what kind of
address it is. -/
def checkPlace (a : Address) : Except Fault Unit := do
  let text := a.text.toList
  let main :=
    if text.contains '#' then ((text.reverse.dropWhile (· ≠ '#')).drop 1).reverse else text
  if !beginsWithKind main then
    let shown := if text.getLast? = some '#' then text.dropLast else text
    throw (.unknownTarget (String.ofList shown))
  let _ ← (Url.split a.text).mapError .address

/-- The location that an answer leads to, if it tells one, has to be an address. Cookies that the
answer sets are kept for it. -/
def checkLocation (sent : Sent) (received : Received) : Except Fault Unit := do
  if redirectStatuses.contains received.status then
    match received.headers.value? "location" with
    | some location =>
      let next ← sent.address.follow location
      if received.headers.setsCookie sent.address received.instant then checkPlace next
    | none => return

/-- Sends a request and reads the answer. -/
def exchange (transport : Transport) (method url : String) (headers : Headers) (body : Value) :
    Except Fault HttpResponse := do
  let sent ← prepare method url headers body
  let received ← transport sent
  checkPlace sent.address
  checkLocation sent received
  received.response

/-- Schemes of addresses that can be reached over a network. -/
def networkSchemes : List String := ["http", "https", "ws", "wss"]

/-- A transport over a network: an address of another scheme is refused. -/
def overNetwork (transport : Transport) : Transport := fun sent =>
  let scheme := String.ofList sent.address.scheme
  if networkSchemes.contains scheme then transport sent else .error (.unsupported scheme)

/-- The capability to make requests over a transport. -/
def capability (transport : Transport) (_ : String) (method : Method) (url : String)
    (headers : Table String) (body : Value) : Reply HttpAnswer :=
  match exchange transport method.name url headers body with
  | .ok r => .now (.value (.response r))
  | .error f => .now (.fault f)

/-- The longest times to wait, in seconds, for each phase of an exchange. -/
structure Timeouts where
  connect : Value
  read : Value
  write : Value
  pool : Value

/-- One time for every phase but the first. -/
def Timeouts.of (seconds connect : Value) : Timeouts := ⟨connect, seconds, seconds, seconds⟩

/-- A client that keeps its connections until it is closed. -/
structure Client where
  timeouts : Timeouts
  followsRedirects : Bool
  isClosed : Bool

/-- The holder of a client: it opens one of its own when it needs one, or is given one. -/
structure Requester where
  timeouts : Timeouts
  client : Option Client
  ownsClient : Bool

namespace Requester

/-- A requester that has yet to open a client. -/
def idle (timeouts : Timeouts) : Requester := ⟨timeouts, none, true⟩

/-- A requester that uses the client of someone else. -/
def sharing (timeouts : Timeouts) (client : Client) : Requester := ⟨timeouts, some client, false⟩

/-- The client of a requester, which is opened on first use. -/
def acquire (r : Requester) : Client × Requester :=
  match r.client with
  | some c => (c, r)
  | none =>
    let c := ⟨r.timeouts, true, false⟩
    (c, { r with client := some c })

/-- Closes the client of a requester, if it is the requester's own. The answer is what became of
the client. -/
def close (r : Requester) : Option Client × Requester :=
  match r.client with
  | some c => if r.ownsClient then (some { c with isClosed := true }, { r with client := none })
    else (some c, r)
  | none => (none, r)

end Requester

end Workflow.Http
