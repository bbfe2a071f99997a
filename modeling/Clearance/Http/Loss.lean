import Clearance.Text.Quoted

/-!
# Losses of a scripted client

What can go wrong for a scripted client before a node answers: the URL is none, or the script says
that the client gives up with an error of some kind.
-/

namespace Clearance.Http

/-- Why a scripted node did not answer. -/
inductive Loss where
  /-- The host has the form of a version 4 address without being one. -/
  | invalidVersion4 (host : String)
  /-- The host stands in brackets without being a version 6 address. -/
  | invalidVersion6 (host : String)
  /-- The text after the host is no port. -/
  | invalidPort (text : String)
  /-- The client failed. -/
  | client (kind message : String)
  deriving DecidableEq, Repr

/-- How a URL is refused: what is wrong, and the part that is at fault. -/
def refusal (flaw part : String) : String :=
  "InvalidURL(" ++ Text.quote (flaw ++ ": " ++ Text.quote part) ++ ")"

/-- The loss as it is listed: its kind, and its message in quotation. -/
def Loss.shown : Loss → String
  | invalidVersion4 host => refusal "Invalid IPv4 address" host
  | invalidVersion6 host => refusal "Invalid IPv6 address" host
  | invalidPort text => refusal "Invalid port" text
  | client kind message => kind ++ "(" ++ Text.quote message ++ ")"

end Clearance.Http
