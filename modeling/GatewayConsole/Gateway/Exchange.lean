import GatewayConsole.Gateway.Error
import GatewayConsole.Gateway.Retry
import GatewayConsole.Json.Tree
import GatewayConsole.Text.Blank
import GatewayConsole.Text.WholeNumber
import GatewayConsole.Url.Address

/-!
# Exchanges with the gateway

Requests, what comes of them, and how a request is repeated. A gateway is anything that
decides what comes of a request from that request and all exchanges before it; so a
gateway may keep a state, follow a script, or not be there at all.
-/

namespace GatewayConsole

/-! ## Requests -/

inductive RequestMethod
  | get
  | put
deriving DecidableEq, Repr

def RequestMethod.word : RequestMethod → String
  | .get => "GET"
  | .put => "PUT"

structure Credentials where
  accessToken : String
  userId : Option Int64
deriving DecidableEq, Repr

structure Request where
  method : RequestMethod
  url : Url
  credentials : Option Credentials
  body : Option Json

namespace Request

def line (request : Request) : String :=
  request.method.word ++ " " ++ request.url.target

def authorization? (request : Request) : Option String :=
  request.credentials.map fun credentials => "Bearer " ++ credentials.accessToken

def userHeader? (request : Request) : Option String :=
  (request.credentials.bind (·.userId)).map fun id => toString id.toInt

def isHeaderText (text : String) : Bool :=
  text.toList.all fun char => char == '\t' || (0x20 ≤ char.toNat && char != '\x7F')

def isSendable (request : Request) : Bool :=
  request.url.isRequestable && request.authorization?.all isHeaderText

end Request

/-! ## Replies -/

inductive ReplyBody
  | whole (text : String)
  | lost (fault : TransportFault)
deriving DecidableEq, Repr

structure Reply where
  status : StatusCode
  headers : List (String × String)
  body : ReplyBody
deriving DecidableEq, Repr

namespace Reply

/-- The value of a header. Names of headers are the same in all letter cases. -/
def header? (reply : Reply) (name : String) : Option String :=
  (reply.headers.find? fun header => String.map Char.toLower header.1 == name).map (·.2)

def isPlain (text : String) : Bool :=
  text.toList.all fun char => char == '\t' || (0x20 ≤ char.toNat && char.toNat < 0x7F)

def retryAfter? (reply : Reply) : Option UInt64 :=
  ((reply.header? "retry-after").filter isPlain).bind fun value => Text.word? (Text.trim value)

def text (reply : Reply) : Except GatewayError String :=
  match reply.body with
  | .whole text => .ok text
  | .lost fault => .error (.transport fault)

end Reply

inductive Outcome
  | failed (fault : TransportFault)
  | answered (reply : Reply)
deriving DecidableEq, Repr

structure Exchange where
  request : Request
  outcome : Outcome

/-- A gateway: what comes of a request after some exchanges, which are listed first to
last. -/
abbrev Gateway := List Exchange → Request → Outcome

def Gateway.absent : Gateway := fun _ _ => .failed .refused

/-! ## Verdicts -/

/-- What an outcome means: the call is over, or another attempt may be made. Then the
outcome still says how the call ends if there is none, and may name the seconds to wait. -/
inductive Verdict
  | over (result : Except GatewayError Reply)
  | again (error : GatewayError) (wait : Option UInt64)

namespace Outcome

def verdict : Outcome → Verdict
  | .failed fault =>
      if fault.isTransient then .again (.transport fault) none
      else .over (.error (.transport fault))
  | .answered reply =>
      if reply.status.isSuccess then .over (.ok reply)
      else if reply.status.refusesCredentials then
        .over (.error (.refusedCredentials reply.status))
      else if reply.status.isRateLimit then
        .again (.rateLimited reply.retryAfter?) reply.retryAfter?
      else if reply.status.isServerTrouble then
        .again (.unexpectedStatus reply.status) reply.retryAfter?
      else .over (.error (.unexpectedStatus reply.status))

end Outcome

/-! ## Sending -/

structure Traffic where
  exchanges : List Exchange
  pauses : List Duration

namespace Traffic

def silent : Traffic := ⟨[], []⟩

instance : Inhabited Traffic := ⟨silent⟩

def exchange (traffic : Traffic) (request : Request) (outcome : Outcome) : Traffic :=
  { traffic with exchanges := traffic.exchanges ++ [⟨request, outcome⟩] }

def pause (traffic : Traffic) (duration : Duration) : Traffic :=
  { traffic with pauses := traffic.pauses ++ [duration] }

end Traffic

namespace RetryPolicy

/-- The pause after an attempt: what the gateway asks for, or else what the policy plans,
and never more than the policy allows. -/
def pauseAfter (policy : RetryPolicy) (attempt : Nat) : Option UInt64 → Duration
  | some seconds => (Duration.ofSeconds seconds).shorter policy.maxPause
  | none => policy.pause attempt

def attemptFrom (policy : RetryPolicy) (gateway : Gateway) (request : Request) (attempt : Nat) :
    (left : Nat) → Traffic → Except GatewayError Reply × Traffic
  | left, traffic =>
      let outcome := gateway traffic.exchanges request
      let traffic := traffic.exchange request outcome
      match outcome.verdict, left with
      | .over result, _ => (result, traffic)
      | .again error _, 0 => (.error error, traffic)
      | .again _ wait, left + 1 =>
          policy.attemptFrom gateway request (attempt + 1) left
            (traffic.pause (policy.pauseAfter attempt wait))

/-- Send a request, again and again while that may help and the policy allows it. A request
that cannot be sent fails at once. -/
def send (policy : RetryPolicy) (gateway : Gateway) (request : Request) (traffic : Traffic) :
    Except GatewayError Reply × Traffic :=
  if request.isSendable then
    policy.attemptFrom gateway request 1 (policy.maxAttempts.toNat - 1) traffic
  else (.error (.transport .other), traffic)

end RetryPolicy
end GatewayConsole
