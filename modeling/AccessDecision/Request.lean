import AccessDecision.KeyMap

/-
  Requests

  A request is seen as the address of the peer and its headers. The names of
  headers do not distinguish the case of ASCII letters, and an empty header is as
  good as none.
-/

namespace AccessDecision

/-- The parts of a request that attributes are taken from. Header names are kept
in lower case. -/
structure Request where
  /-- The peer, usually as a socket address. -/
  remoteAddress : String
  headers : KeyMap String
deriving DecidableEq

namespace Request

/-- A header name in lower case, as far as ASCII goes. -/
def headerKey (name : String) : String := String.ofList (name.toList.map Char.toLower)

/-- A request without headers. -/
def ofAddress (remoteAddress : String) : Request := ⟨remoteAddress, .empty⟩

/-- Sets a header. -/
def insertHeader (r : Request) (name value : String) : Request :=
  { r with headers := r.headers.insert (headerKey name) value }

/-- Sets headers one after the other. -/
def insertHeaders (r : Request) (headers : List (String × String)) : Request :=
  headers.foldl (fun r h => r.insertHeader h.1 h.2) r

/-- The value of a header, unless it is empty. -/
def header? (r : Request) (name : String) : Option String :=
  (r.headers.get? (headerKey name)).filter (· != "")

end Request

end AccessDecision
