import GatewayConsole.Account.User
import GatewayConsole.Gateway.Envelope
import GatewayConsole.Gateway.Exchange
import GatewayConsole.Gateway.Payload
import GatewayConsole.Json.Document
import GatewayConsole.Pricing.Catalog

/-!
# The client of the gateway

The calls that the console makes. Each builds one request, sends it, and reads the payload
out of the reply; some are only made with an access token.
-/

namespace GatewayConsole

structure GatewayClient where
  base : Url
  credentials : Option Credentials
  policy : RetryPolicy

namespace GatewayClient

/-! ## Clients -/

/-- The address that a written one stands for. The path of the gateway always ends in a
slash, so that calls go below it. -/
def baseOf (address : String) : Except UrlError Url :=
  let trimmed := Text.dropEndWhile (· == '/') (Text.trimChars address.toList)
  Url.ofText (String.ofList (trimmed ++ ['/']))

def ofAddress (address : String) : Except UrlError GatewayClient :=
  (baseOf address).map fun base => ⟨base, none, .standard⟩

def withCredentials (client : GatewayClient) (accessToken : String) (userId : Option Int64) :
    GatewayClient :=
  { client with credentials := some ⟨accessToken, userId⟩ }

def request (client : GatewayClient) (method : RequestMethod) (path : List String)
    (query : List (String × Nat)) (body : Option Json) : Except GatewayError Request :=
  match client.base.follow path with
  | .ok url => .ok ⟨method, url.withQuery query, client.credentials, body⟩
  | .error error => .error (.invalidAddress error)

/-! ## Calls -/

abbrev Call (α : Type) := Gateway → Traffic → Except GatewayError α × Traffic

def call {α : Type} (client : GatewayClient) (method : RequestMethod) (path : List String)
    (query : List (String × Nat)) (body : Option Json) (read : Reply → Except GatewayError α) :
    Call α :=
  fun gateway traffic =>
    match client.request method path query body with
    | .ok request =>
        let (result, traffic) := client.policy.send gateway request traffic
        (result.bind read, traffic)
    | .error error => (.error error, traffic)

def withToken {α : Type} (client : GatewayClient) (call : Call α) : Call α :=
  fun gateway traffic =>
    if client.credentials.isSome then call gateway traffic else (.error .missingToken, traffic)

def envelopeOf {α : Type} (read : Document → Option α) (reply : Reply) :
    Except GatewayError (Envelope α) := do
  let text ← reply.text
  match (Document.ofText? text).bind (Envelope.ofTree? read) with
  | some envelope => .ok envelope
  | none => .error .malformedReply

def payloadOf {α : Type} (read : Document → Option α) (reply : Reply) :
    Except GatewayError α :=
  (envelopeOf read reply).bind (·.payload)

/-- Read the catalog in a reply. Its tables stand beside the models, so that the envelope is
not a plain one: it must say that the call succeeded. -/
def catalogOf (reply : Reply) : Except GatewayError Catalog := do
  let text ← reply.text
  match Json.ofText? text with
  | none => .error (.transport .other)
  | some value =>
      if (value.member? "success").bind (·.asBool?) = some true then
        match Catalog.ofTree? value with
        | some catalog => .ok catalog
        | none => .error .malformedReply
      else .error (.rejected (((value.member? "message").bind (·.asText?)).getD ""))

def status (client : GatewayClient) : Call SiteStatus :=
  client.call .get ["api", "status"] [] none (payloadOf SiteStatus.ofTree?)

def options (client : GatewayClient) : Call (List OptionEntry) :=
  client.withToken <|
    client.call .get ["api", "option", ""] [] none (payloadOf (·.asList? OptionEntry.ofTree?))

def option (client : GatewayClient) (key : String) : Call (Option String) :=
  fun gateway traffic =>
    let (result, traffic) := client.options gateway traffic
    (result.map (OptionEntry.lookup? · key), traffic)

def updateOption (client : GatewayClient) (key value : String) : Call Unit :=
  client.withToken <|
    client.call .put ["api", "option", ""] []
        (some (OptionEntry.toJson ⟨key, value⟩)) fun reply =>
      (envelopeOf (·.value?) reply).bind (·.acknowledged)

def pricing (client : GatewayClient) : Call Catalog :=
  client.call .get ["api", "pricing"] [] none catalogOf

def currentUser (client : GatewayClient) : Call User :=
  client.withToken <|
    client.call .get ["api", "user", "self"] [] none (payloadOf User.ofTree?)

def notice (client : GatewayClient) : Call String :=
  client.call .get ["api", "notice"] [] none fun reply =>
    (envelopeOf (·.asText?) reply).bind (·.payloadOr "")

def homePage (client : GatewayClient) : Call String :=
  client.call .get ["api", "home_page_content"] [] none (payloadOf (·.asText?))

def tokens (client : GatewayClient) (page pageSize : UInt32) : Call TokenPage :=
  client.withToken <|
    client.call .get ["api", "token", ""] [("p", (max page 1).toNat), ("size", pageSize.toNat)] none
      (payloadOf TokenPage.ofTree?)

end GatewayClient
end GatewayConsole
