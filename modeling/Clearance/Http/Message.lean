import Clearance.Fault

/-!
# Requests and the client that sends them

A request is handed to a client as a method and a URL. How the client reads the URL, how it brings
the request to a host, and what it calls the troubles that it meets are its own affair: it is a part
of the surroundings, of which nothing is assumed. What it does may depend on everything that it was
handed before, which is the state of the world behind it.
-/

namespace Clearance.Http

/-- The methods that are used. -/
inductive Method where
  | get
  | head
  deriving DecidableEq, Repr

/-- The name of the method. -/
def Method.label : Method → String
  | get => "GET"
  | head => "HEAD"

/-- The scheme of a URL. -/
def Endpoint.schemeOf (tls : Bool) : String :=
  if tls then "https" else "http"

/-- A request as it is handed to the client. -/
structure Request where
  method : Method
  url : String
  /-- User and password, if there are any. -/
  credentials : Option (String × String) := none
  /-- After how many seconds the client gives up. -/
  timeout : Float := 60.0
  deriving DecidableEq, Repr

/-- What a node answered. -/
structure Response where
  status : Nat
  /-- The phrase that goes with the status. -/
  reason : String
  /-- The host in the URL of the response, as the client reads it. -/
  host : String
  /-- The port in that URL, if the client finds one there. -/
  port : Option Int
  body : List UInt8
  deriving DecidableEq, Repr

/-- An error that the client reports as its own. -/
structure Failure where
  /-- Whether the request had gone out. It has not if the URL is none. -/
  gone : Bool
  /-- The error as it is listed. -/
  shown : String
  deriving DecidableEq, Repr

/-- What comes of a request that is handed to the client. -/
inductive Reply where
  | answered (response : Response)
  | failed (failure : Failure)
  /-- Something else was raised, before the request had gone out or after that. -/
  | raised (gone : Bool) (fault : MisuseFault)
  deriving DecidableEq, Repr

/-- What has gone out of a request, given what came of it. -/
def Reply.sent (r : Request) : Reply → List Request
  | answered _ => [r]
  | failed failure => if failure.gone then [r] else []
  | raised gone _ => if gone then [r] else []

/-- A client in a world `ω`. One that has been closed is handed requests all the same. -/
structure Client (ω : Type) where
  /-- Takes a request, open or closed. -/
  request : (closed : Bool) → Request → ω → Reply × ω
  close : ω → ω

/-- The client, open or closed, raises this for some request in some world. -/
def Client.Raises {ω : Type} (client : Client ω) (closed : Bool) (fault : MisuseFault) : Prop :=
  ∃ r world gone, (client.request closed r world).1 = .raised gone fault

/-- As long as it is open, the client reports all errors as its own. -/
def Client.Orderly {ω : Type} (client : Client ω) : Prop :=
  ∀ fault, ¬ client.Raises false fault

end Clearance.Http
