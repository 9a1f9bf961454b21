import GatewayConsole.Gateway.Client
import GatewayConsole.Proofs.Gateway.Attempts

/-!
# Sending requests

What a client sends, and how the sending ends: which attempts are made, which outcome
decides, and how long the pauses between them may be. Calls that need an access token send
nothing without one.
-/

namespace GatewayConsole

/-! ## Requests of a client -/

/-- Whether a request is the one that a client makes with a method, a path, a query and a
body: its headers carry the access token and the user exactly when the client has them. -/
structure Request.IsMadeBy (request : Request) (client : GatewayClient) (method : RequestMethod)
    (path : List String) (query : List (String × Nat)) (body : Option Json) : Prop where
  method : request.method = method
  url : ∃ url, client.base.follow path = .ok url ∧ request.url = url.withQuery query
  body : request.body = body
  token : request.authorization? = client.credentials.map fun credentials =>
    "Bearer " ++ credentials.accessToken
  user : request.userHeader? = (client.credentials.bind (·.userId)).map fun id => toString id.toInt

namespace GatewayClient

variable (client : GatewayClient) (method : RequestMethod) (path : List String)
  (query : List (String × Nat)) (body : Option Json)

theorem isMadeBy_of_request {request : Request}
    (made : client.request method path query body = .ok request) :
    request.IsMadeBy client method path query body := by
  unfold GatewayClient.request at made
  split at made
  next url followed =>
    cases made
    exact ⟨rfl, ⟨url, followed, rfl⟩, rfl, rfl, rfl⟩
  next => cases made

/-! ## Sending -/

def send : Call Reply :=
  client.call method path query body .ok

theorem send_of_request {request : Request} (gateway : Gateway) (traffic : Traffic)
    (made : client.request method path query body = .ok request) :
    client.send method path query body gateway traffic =
      client.policy.send gateway request traffic := by
  simp only [send, call, made]
  cases client.policy.send gateway request traffic with
  | mk result traffic => cases result <;> rfl

/-- A request that has no address, or none that can be asked, is never sent. Any other is sent
until the first outcome that is not worth repeating, or as often as the policy allows, and
the last outcome alone decides the result; counting the attempts in 32 bits does not
overflow. Without credentials the calls that need an access token send nothing. -/
theorem send_settles (gateway : Gateway) (traffic : Traffic) :
    (∀ error, client.request method path query body = .error error →
        client.send method path query body gateway traffic = (.error error, traffic)) ∧
      (∀ request, client.request method path query body = .ok request →
        request.IsMadeBy client method path query body ∧
        (request.isSendable = false →
          client.send method path query body gateway traffic =
            (.error (.transport .other), traffic)) ∧
        (request.isSendable = true →
          (∃ last, client.policy.Settles request (gateway.outcome request traffic.exchanges) traffic
            client.policy.budget last (client.send method path query body gateway traffic).1
            (client.send method path query body gateway traffic).2) ∧
          client.policy.attemptCounted gateway request 0 traffic =
            some (client.send method path query body gateway traffic))) ∧
      (client.credentials = none →
        client.options gateway traffic = (.error .missingToken, traffic) ∧
        (∀ key, client.option key gateway traffic = (.error .missingToken, traffic)) ∧
        (∀ key value, client.updateOption key value gateway traffic =
          (.error .missingToken, traffic)) ∧
        client.currentUser gateway traffic = (.error .missingToken, traffic) ∧
        ∀ page pageSize, client.tokens page pageSize gateway traffic =
          (.error .missingToken, traffic)) := by
  refine ⟨?_, ?_, ?_⟩
  · intro error unmade
    simp only [send, call, unmade]
  · intro request made
    rw [send_of_request client method path query body gateway traffic made]
    refine ⟨isMadeBy_of_request client method path query body made, ?_, ?_⟩
    · intro unsendable
      rw [RetryPolicy.send, unsendable, if_neg Bool.false_ne_true]
    · intro sendable
      have budget : client.policy.maxAttempts.toNat - 1 + 1 = client.policy.budget := by
        unfold RetryPolicy.budget
        omega
      rw [RetryPolicy.send, if_pos sendable, ← budget]
      refine ⟨client.policy.attemptFrom_settles gateway request _ 1 traffic, ?_⟩
      rw [client.policy.attemptCounted_eq gateway request (client.policy.maxAttempts.toNat - 1)]
      · rfl
      · rw [← budget, UInt32.toNat_zero, Nat.zero_add, Nat.add_comm]
  · intro anonymous
    simp [options, option, updateOption, currentUser, tokens, withToken, anonymous, Except.map]

/-- Trouble, a pause that takes too long and a limit are worth repeating, a missing page is
not. A token with a line end is not sent, and an address for mail cannot be asked. -/
theorem send_settles_scripted :
    let script (index : Nat) : Outcome :=
      match index with
      | 0 => .answered ⟨503, [], .whole ""⟩
      | 1 => .failed .timedOut
      | 2 => .answered ⟨429, [("Retry-After", "7")], .whole ""⟩
      | _ => .answered ⟨404, [], .whole ""⟩
    let base : Url := ⟨"http", .path (some ⟨"", some (.domain "gw"), none⟩) [""], none, none⟩
    let client : GatewayClient := ⟨base, some ⟨"secret", some 42⟩, .attempts 5⟩
    let request : Request :=
      ⟨.get, { base with place := .path (some ⟨"", some (.domain "gw"), none⟩) ["api"] },
        client.credentials, none⟩
    (client.request .get ["api"] [] none = .ok request ∧ request.isSendable = true ∧
      (client.send .get ["api"] [] none (.scripted script) .silent).1 =
        .error (.unexpectedStatus 404) ∧
      (client.send .get ["api"] [] none (.scripted script) .silent).2.exchanges.length = 4) ∧
    ({ client with credentials := some ⟨"a\nb", none⟩ }.send .get ["api"] [] none
      (.scripted script) .silent).1 = .error (.transport .other) ∧
    ({ client with base := ⟨"mailto", .plain "x/", none, none⟩ }.send .get ["api"] [] none
      (.scripted script) .silent).1 = .error (.invalidAddress .notHierarchical) ∧
    ({ client with credentials := none }.options (.scripted script) .silent).1 =
      .error .missingToken := by
  intro script base client request
  have made : client.request .get ["api"] [] none = .ok request := rfl
  have sendable : request.isSendable = true := by decide +kernel
  refine ⟨⟨made, sendable, ?_⟩, ?_, ?_, ?_⟩
  · rcases (((send_settles client .get ["api"] [] none (.scripted script) .silent).2.1
      request made).2.2 sendable).1 with ⟨last, settles⟩
    have third : last = 3 :=
      settles.final.unique ⟨by decide, by simp only [Gateway.outcome_scripted]; decide, .inr rfl⟩
    rw [settles.result, settles.exchanges, third]
    exact ⟨by rw [Gateway.outcome_scripted]; rfl, by simp [Traffic.silent]⟩
  · have unsendable := ((send_settles { client with credentials := some ⟨"a\nb", none⟩ } .get
      ["api"] [] none (.scripted script) .silent).2.1 _ rfl).2.1 (by decide +kernel)
    rw [unsendable]
  · rw [(send_settles { client with base := ⟨"mailto", .plain "x/", none, none⟩ } .get ["api"] []
      none (.scripted script) .silent).1 _ rfl]
  · rw [((send_settles { client with credentials := none } .get [] [] none
      (.scripted script) .silent).2.2 rfl).1]

end GatewayClient
end GatewayConsole
