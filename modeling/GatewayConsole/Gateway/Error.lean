import GatewayConsole.Gateway.Status
import GatewayConsole.Url.Host

/-!
# Errors of the gateway

What goes wrong between the console and the gateway: on the way, in the reply, or by the
decision of the gateway.
-/

namespace GatewayConsole

/-- Why no reply comes, or no whole one: nobody accepts the connection, it takes too long,
or anything else. -/
inductive TransportFault
  | refused
  | timedOut
  | other
deriving DecidableEq, Repr

def TransportFault.isTransient : TransportFault → Bool
  | .refused | .timedOut => true
  | .other => false

inductive GatewayError
  | transport (fault : TransportFault)
  | malformedReply
  | invalidAddress (error : UrlError)
  | rejected (message : String)
  | missingToken
  | refusedCredentials (status : StatusCode)
  | rateLimited (retryAfter : Option UInt64)
  | unexpectedStatus (status : StatusCode)
  | missingData
deriving DecidableEq, Repr

namespace GatewayError

def isTransient : GatewayError → Bool
  | .transport fault => fault.isTransient
  | .rateLimited _ => true
  | _ => false

def isAboutCredentials : GatewayError → Bool
  | .missingToken | .refusedCredentials _ => true
  | _ => false

def secondsText : Option UInt64 → String
  | some seconds => "Some(" ++ toString seconds.toNat ++ ")"
  | none => "None"

def message : GatewayError → String
  | .transport _ => "HTTP error"
  | .malformedReply => "JSON error"
  | .invalidAddress _ => "Invalid URL"
  | .rejected message => "API error: " ++ message
  | .missingToken => "Authentication failed: no access token configured"
  | .refusedCredentials status =>
      "Authentication failed: gateway returned " ++ StatusCode.text status
  | .rateLimited retryAfter => "Rate limited, retry after " ++ secondsText retryAfter ++ " seconds"
  | .unexpectedStatus status => "Invalid response: unexpected status " ++ StatusCode.text status
  | .missingData => "Invalid response: missing data"

end GatewayError
end GatewayConsole
