import AccessDecision.Condition.Document
import AccessDecision.Network.Address
import AccessDecision.Request
import AccessDecision.Time.Timestamp

/-
  Attributes of requests

  A registry says, for each condition key, how the attribute of that name is
  found in a request. The context of a request holds every attribute that is
  found; a key without a value is left out, so conditions on it do not hold.
  The sources are asked one after the other, and time passes between them.
-/

namespace AccessDecision

/-- How one attribute is found: given the time, in seconds since the start of
1970, and the request. -/
abbrev AttributeSource := (now : Int) → Request → Option Condition.Value

namespace AttributeSource

/-- The headers in which a proxy names the client, the most trusted first. -/
def clientHeaders : List String := ["x-client-ip", "x-real-ip", "x-forwarded-for"]

/-- The header that names the calling service. -/
def serviceHeader : String := "x-service-name"

/-- The host of a peer address. A text that is no socket address is cut at its last
colon and loses its brackets. -/
def hostPart? (remoteAddress : String) : Option String :=
  match Network.socketHost? remoteAddress with
  | some a => some a.text
  | none =>
    match Text.cutAtLast ':' remoteAddress.toList with
    | none => none
    | some (host, _) =>
      if host.isEmpty then none
      else
        let opened := host.dropWhile (· == '[')
        some (String.ofList (opened.reverse.dropWhile (· == ']')).reverse)

/-- The first of some headers that is not empty. -/
def firstHeader? (r : Request) (names : List String) : Option String :=
  names.findSome? r.header?

/-- The address of the client: the first proxy header that is not empty, else the
host of the peer. The long loopback address is reported as the short one. -/
def sourceIp : AttributeSource := fun _ r =>
  ((firstHeader? r clientHeaders).or (hostPart? r.remoteAddress)).map fun address =>
    .string (if address = "::1" then "127.0.0.1" else address)

/-- The current time to the second, in universal time. -/
def currentTime : AttributeSource := fun now _ => some (.string (Time.Timestamp.utcText now))

/-- The name of the calling service. -/
def serviceName : AttributeSource := fun _ r => (r.header? serviceHeader).map .string

/-- The same value for every request. -/
def fixed (value : Option Condition.Value) : AttributeSource := fun _ _ => value

end AttributeSource

/-- The attribute sources by condition key. -/
abbrev Registry := KeyMap AttributeSource

namespace Registry

/-- The key of the client's address. -/
def sourceIpKey : String := "inf:SourceIP"

/-- The key of the current time. -/
def currentTimeKey : String := "inf:CurrentTime"

/-- The key of the calling service. -/
def serviceNameKey : String := "iam:ServiceName"

/-- Sets the source of a key. -/
def register (r : Registry) (key : String) (source : AttributeSource) : Registry :=
  r.insert key source

/-- The registry without keys. -/
def empty : Registry := KeyMap.empty

/-- The registry of the built-in keys. -/
def defaults : Registry :=
  [(sourceIpKey, AttributeSource.sourceIp), (currentTimeKey, AttributeSource.currentTime),
    (serviceNameKey, AttributeSource.serviceName)].foldl (fun r e => register r e.1 e.2) empty

/-- The context of a request, for which the source of each key is asked at a time of its
own. -/
def contextAt (r : Registry) (times : String → Int) (request : Request) : Context :=
  r.entries.foldl
    (fun context (key, source) =>
      match source (times key) request with
      | some value => context.insert key value
      | none => context)
    KeyMap.empty

/-- The context of a request, for which all sources are asked at the same time. -/
def buildContext (r : Registry) (now : Int) (request : Request) : Context :=
  r.contextAt (fun _ => now) request

end Registry

end AccessDecision
