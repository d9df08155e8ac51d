/-!
# HTTP messages

Requests and responses as far as agents and the service look at them.
-/

namespace FleetTraffic

/-- Bodies are compared byte by byte. -/
instance decidableEqBody : DecidableEq ByteArray := ByteArray.instDecidableEq

/-- The method of a request. -/
inductive HttpMethod where
  | get
  | head
  | post
  | options
  /-- Any other method, by its name. -/
  | other (name : String)
  deriving DecidableEq

namespace HttpMethod

/-- The name of a method. -/
def name : HttpMethod → String
  | .get => "GET"
  | .head => "HEAD"
  | .post => "POST"
  | .options => "OPTIONS"
  | .other name => name

/-- The method with a name. Names are told apart by case. -/
def ofName (name : String) : HttpMethod :=
  if name = "GET" then .get
  else if name = "HEAD" then .head
  else if name = "POST" then .post
  else if name = "OPTIONS" then .options
  else .other name

end HttpMethod

/-- A request. -/
structure HttpRequest where
  method : HttpMethod
  /-- What is asked for: a path with a query on the server's side, a URL on the client's side. -/
  target : String
  headers : List (String × String) := []
  body : ByteArray := .empty
  deriving DecidableEq

/-- A response. -/
structure HttpResponse where
  status : Nat
  headers : List (String × String) := []
  body : ByteArray := .empty
  deriving DecidableEq

end FleetTraffic
