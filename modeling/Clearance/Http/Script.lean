import Clearance.Http.Endpoint
import Clearance.Http.Status
import Clearance.Text.Base64

/-!
# Scripted nodes

A client whose nodes answer as it is laid down in rules. The first rule that fits a request answers
it. A rule may fit requests to one node, for one path or of one method only, and it may wear out
after a number of answers. A request that no rule fits is answered with status 404. Nothing is sent
for a URL that cannot be read, and nothing by a client that has been closed.

* As long as it is open, it reports all errors as its own (`Script.orderly`).
-/

namespace Clearance.Http

/-- What a scripted node answers. -/
structure Page where
  status : Nat
  body : List UInt8
  deriving DecidableEq

/-- What a rule does with a request: it answers, or lets it fail. -/
inductive Outcome where
  | ok (page : Page)
  | error (loss : Loss)
  deriving DecidableEq

/-- A rule for answering requests. -/
structure Rule where
  node : Option String := none
  path : Option String := none
  method : Option String := none
  /-- How many answers are left; without a number there is no end to them. -/
  times : Option Nat := none
  reply : Outcome
  deriving DecidableEq

namespace Rule

/-- Whether a condition holds of a value, if there is a condition. -/
def agrees (wanted : Option String) (actual : String) : Bool :=
  wanted.all (· == actual)

/-- Whether the rule answers the request. -/
def fits (rule : Rule) (method : Method) (target : Target) : Bool :=
  agrees rule.node target.endpoint.authority && agrees rule.path target.path &&
    agrees rule.method method.label && rule.times != some 0

/-- The rule after it has answered. -/
def spend (rule : Rule) : Rule :=
  { rule with times := rule.times.map (· - 1) }

end Rule

/-- Rules in the order in which they are tried. -/
abbrev Script := List Rule

namespace Script

/-- Answers a request by the first rule that fits. -/
def answer (method : Method) (target : Target) : Script → Outcome × Script
  | [] => (.ok ⟨404, []⟩, [])
  | rule :: rest =>
    if rule.fits method target then (rule.reply, rule.spend :: rest)
    else
      let (reply, rest) := answer method target rest
      (reply, rule :: rest)

/-- The outcome of a request that has gone out to there. -/
def replyFrom (endpoint : Endpoint) : Outcome → Reply
  | .ok page =>
    .answered ⟨page.status, reasonPhrase page.status, endpoint.bareHost, endpoint.port, page.body⟩
  | .error loss => .failed ⟨true, loss.shown⟩

/-- The client of scripted nodes. -/
def wire : Client Script where
  request closed r script :=
    match Target.read r.url with
    | .error loss => (.failed ⟨false, loss.shown⟩, script)
    | .ok target =>
      if closed then
        (.raised false ⟨"Cannot send a request, as the client has been closed."⟩, script)
      else
        let (outcome, script) := script.answer r.method target
        (replyFrom target.endpoint outcome, script)
  close script := script

theorem orderly : wire.Orderly := by
  rintro fault ⟨r, script, gone, raised⟩
  simp only [wire] at raised
  cases read : Target.read r.url with
  | error loss =>
    rw [read] at raised
    cases raised
  | ok target =>
    rw [read] at raised
    dsimp only at raised
    rw [if_neg Bool.false_ne_true] at raised
    cases answered : (script.answer r.method target).1 with
    | error loss | ok page =>
      rw [answered] at raised
      cases raised

end Script

namespace Request

/-- What the credentials are sent as. -/
def authorization (user password : String) : String :=
  "Basic " ++ String.ofList
    (Text.Base64.encode ((user ++ ":" ++ password).toList.flatMap String.utf8EncodeChar))

/-- The request on one line, with its URL as a scripted client reads it. -/
def line (r : Request) : String :=
  let place := match Target.read r.url with
    | .ok target => target.endpoint.origin ++ target.path
    | .error _ => r.url
  r.method.label ++ " " ++ place ++ match r.credentials with
    | some (user, password) => " auth=" ++ authorization user password
    | none => ""

end Request

end Clearance.Http
