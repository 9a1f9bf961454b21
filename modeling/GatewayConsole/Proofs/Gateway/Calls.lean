import GatewayConsole.Gateway.Client
import GatewayConsole.Proofs.Gateway.Attempts
import GatewayConsole.Proofs.Json.WrittenRecord

/-!
# The ends of calls

A call that is sent ends with its last exchange, after attempts that came to nothing. What
such attempts keep holds of the exchanges before that. A call that succeeds got its reply in
the last exchange.
-/

namespace GatewayConsole

variable {gateway : Gateway} {request : Request} {traffic after : Traffic} {reply : Reply}
  {property : List Exchange → Prop}

namespace Gateway

def Keeps (gateway : Gateway) (request : Request) (property : List Exchange → Prop) : Prop :=
  ∀ earlier, property earlier → property (earlier ++ [⟨request, gateway earlier request⟩])

def KeepsTrying (gateway : Gateway) (request : Request) (property : List Exchange → Prop) : Prop :=
  ∀ earlier, property earlier → (gateway earlier request).isRetryable = true →
    property (earlier ++ [⟨request, gateway earlier request⟩])

theorem Keeps.trying (keeps : gateway.Keeps request property) :
    gateway.KeepsTrying request property :=
  fun earlier holds _ => keeps earlier holds

/-- Whether the last exchange decided a result, when a property held of those before it. -/
def Decides (gateway : Gateway) (property : List Exchange → Prop) (request : Request)
    (result : Except GatewayError Reply) (after : Traffic) : Prop :=
  ∃ earlier, property earlier ∧ result = (gateway earlier request).settled ∧
    after.exchanges = earlier ++ [⟨request, gateway earlier request⟩]

/-- Whether a reply that reports success came in the last exchange, when a property held of
those before it. -/
def Answers (gateway : Gateway) (property : List Exchange → Prop) (request : Request)
    (reply : Reply) (after : Traffic) : Prop :=
  ∃ earlier, property earlier ∧ gateway earlier request = .answered reply ∧
    reply.status.isSuccess = true ∧ after.exchanges = earlier ++ [⟨request, .answered reply⟩]

end Gateway

/-! ## Sending -/

theorem Outcome.settled_ok_iff {outcome : Outcome} :
    outcome.settled = .ok reply ↔ outcome = .answered reply ∧ reply.status.isSuccess = true := by
  constructor
  · intro settled
    cases outcome with
    | failed fault => cases settled
    | answered other =>
        rw [Outcome.settled] at settled
        split at settled
        next success =>
          cases settled
          exact ⟨rfl, by simpa [StatusCode.isSuccess] using success⟩
        · split at settled
          · cases settled
          · split at settled <;> cases settled
  · rintro ⟨rfl, success⟩
    have between : 200 ≤ reply.status ∧ reply.status < 300 := by
      simpa [StatusCode.isSuccess] using success
    rw [Outcome.settled, if_pos between]

theorem Outcome.settled_bind_ok_iff {α : Type} {outcome : Outcome}
    {read : Reply → Except GatewayError α} {value : α} :
    outcome.settled.bind read = .ok value ↔
      ∃ reply, outcome = .answered reply ∧ reply.status.isSuccess = true ∧
        read reply = .ok value := by
  constructor
  · intro isRead
    cases settled : outcome.settled with
    | error error =>
        rw [settled] at isRead
        cases isRead
    | ok reply =>
        rw [settled] at isRead
        rcases settled_ok_iff.mp settled with ⟨answered, success⟩
        exact ⟨reply, answered, success, isRead⟩
  · rintro ⟨reply, answered, success, isRead⟩
    rw [settled_ok_iff.mpr ⟨answered, success⟩]
    exact isRead

theorem Gateway.Decides.answers (decides : gateway.Decides property request (.ok reply) after) :
    gateway.Answers property request reply after := by
  rcases decides with ⟨earlier, holds, settled, exchanged⟩
  rcases Outcome.settled_ok_iff.mp settled.symm with ⟨answered, success⟩
  rw [answered] at exchanged
  exact ⟨earlier, holds, answered, success, exchanged⟩

theorem Gateway.Decides.kept {result : Except GatewayError Reply}
    (decides : gateway.Decides property request result after)
    (keeps : gateway.Keeps request property) : property after.exchanges := by
  rcases decides with ⟨earlier, holds, _, exchanged⟩
  rw [exchanged]
  exact keeps earlier holds

namespace RetryPolicy

variable {policy : RetryPolicy}

theorem decides_attemptFrom {attempt left : Nat} (keeps : gateway.KeepsTrying request property)
    (holds : property traffic.exchanges) :
    gateway.Decides property request (policy.attemptFrom gateway request attempt left traffic).1
      (policy.attemptFrom gateway request attempt left traffic).2 := by
  induction left generalizing attempt traffic with
  | zero =>
      rw [attemptFrom_zero]
      exact ⟨traffic.exchanges, holds, rfl, rfl⟩
  | succ left induction =>
      cases retryable : (gateway traffic.exchanges request).isRetryable with
      | false =>
          rw [attemptFrom_of_not_retryable policy gateway request _ _ _ retryable]
          exact ⟨traffic.exchanges, holds, rfl, rfl⟩
      | true =>
          rw [attemptFrom_of_retryable policy gateway request _ _ _ retryable]
          exact induction (keeps _ holds retryable)

theorem decides_send (policy : RetryPolicy) (keeps : gateway.KeepsTrying request property)
    (holds : property traffic.exchanges) :
    policy.send gateway request traffic = (.error (.transport .other), traffic) ∨
      gateway.Decides property request (policy.send gateway request traffic).1
        (policy.send gateway request traffic).2 := by
  rw [RetryPolicy.send]
  split
  · exact .inr (decides_attemptFrom keeps holds)
  · exact .inl rfl

end RetryPolicy

/-! ## Payloads -/

theorem Envelope.payload_ok_iff {α : Type} {envelope : Envelope α} {payload : α} :
    envelope.payload = .ok payload ↔ ∃ message, envelope = ⟨true, message, some payload⟩ := by
  rcases envelope with ⟨success, message, data⟩
  rw [Envelope.payload]
  cases success <;> cases data <;> simp

/-! ## Calls -/

def Traffic.Attempts (before : Traffic) (request : Request) (after : Traffic) : Prop :=
  ∃ outcomes, outcomes ≠ [] ∧ after.exchanges = before.exchanges ++ outcomes.map (⟨request, ·⟩)

theorem Traffic.not_attempts_self (traffic : Traffic) (request : Request) :
    ¬traffic.Attempts request traffic := by
  intro ⟨outcomes, attempted, same⟩
  exact attempted (List.map_eq_nil_iff.mp (List.self_eq_append_right.mp same))

namespace GatewayClient

variable {α : Type} {client : GatewayClient} {method : RequestMethod} {path : List String}
  {query : List (String × Nat)} {body : Option Json} {read : Reply → Except GatewayError α}

theorem decides_call
    (keeps : ∀ request, client.request method path query body = .ok request →
      gateway.KeepsTrying request property)
    (holds : property traffic.exchanges)
    {result : Except GatewayError α}
    (called : client.call method path query body read gateway traffic = (result, after)) :
    (∃ error, result = .error error ∧ after = traffic) ∨
      ∃ request reply, client.request method path query body = .ok request ∧
        gateway.Decides property request reply after ∧ result = reply.bind read := by
  rw [GatewayClient.call] at called
  split at called
  next request made =>
    have sent := client.policy.decides_send (keeps request made) holds
    rcases finished : client.policy.send gateway request traffic with ⟨reply, last⟩
    rw [finished] at called sent
    cases called
    rcases sent with unsent | decides
    · cases unsent
      exact .inl ⟨_, rfl, rfl⟩
    · exact .inr ⟨request, reply, made, decides, rfl⟩
  next error unmade =>
    cases called
    exact .inl ⟨error, rfl, rfl⟩

theorem attempts_call (made : client.request method path query body = .ok request)
    (sendable : request.isSendable = true) (gateway : Gateway) (traffic : Traffic) :
    traffic.Attempts request (client.call method path query body read gateway traffic).2 := by
  have sent : (client.call method path query body read gateway traffic).2 =
      (client.policy.attemptFrom gateway request 1 (client.policy.maxAttempts.toNat - 1)
        traffic).2 := by
    simp only [GatewayClient.call, made, RetryPolicy.send, sendable, if_true]
  rcases client.policy.attemptFrom_settles gateway request _ 1 traffic with ⟨last, settles⟩
  rw [sent]
  let outcome := gateway.outcome request traffic.exchanges
  refine ⟨(List.range (last + 1)).map outcome, ?_, ?_⟩
  · intro unattempted
    exact nomatch List.range_eq_nil.mp (List.map_eq_nil_iff.mp unattempted)
  · rw [settles.exchanges, List.map_map]
    rfl

theorem call_cases {result : Except GatewayError α}
    (called : client.call method path query body read gateway traffic = (result, after)) :
    ((∀ request, client.request method path query body = .ok request →
        request.isSendable = false) ∧ (∃ error, result = .error error) ∧ after = traffic) ∨
    ∃ request earlier, client.request method path query body = .ok request ∧
      request.isSendable = true ∧ traffic.Attempts request after ∧
      after.exchanges = earlier ++ [⟨request, gateway earlier request⟩] ∧
      result = (gateway earlier request).settled.bind read := by
  cases made : client.request method path query body with
  | error error =>
      simp only [GatewayClient.call, made] at called
      cases called
      refine .inl ⟨fun request same => ?_, ⟨error, rfl⟩, rfl⟩
      cases same
  | ok request =>
      cases sendable : request.isSendable with
      | false =>
          have unsent : client.policy.send gateway request traffic =
              (.error (.transport .other), traffic) := by
            rw [RetryPolicy.send, sendable, if_neg Bool.false_ne_true]
          simp only [GatewayClient.call, made, unsent] at called
          cases called
          refine .inl ⟨fun other same => ?_, ⟨_, rfl⟩, rfl⟩
          cases same
          exact sendable
      | true =>
          have attempted : traffic.Attempts request
              (client.call method path query body read gateway traffic).2 :=
            attempts_call made sendable gateway traffic
          rw [called] at attempted
          have all (request : Request) (_ : client.request method path query body = .ok request) :
              gateway.KeepsTrying request fun _ => True := fun _ _ _ => trivial
          rcases decides_call all trivial called with
            ⟨error, _, unsent⟩ | ⟨other, reply, again, ⟨earlier, _, settled, exchanged⟩, isRead⟩
          · exact absurd (unsent ▸ attempted) (traffic.not_attempts_self request)
          · cases made.symm.trans again
            refine .inr ⟨request, earlier, rfl, sendable, attempted, exchanged, ?_⟩
            rw [isRead, settled]

theorem kept_call
    (keeps : ∀ request, client.request method path query body = .ok request →
      gateway.Keeps request property)
    (holds : property traffic.exchanges)
    {result : Except GatewayError α}
    (called : client.call method path query body read gateway traffic = (result, after)) :
    property after.exchanges := by
  rcases decides_call (fun request made => (keeps request made).trying) holds called with
    ⟨error, _, unsent⟩ | ⟨request, reply, made, decides, _⟩
  · rw [unsent]
    exact holds
  · exact decides.kept (keeps request made)

theorem answers_call {value : α}
    (keeps : ∀ request, client.request method path query body = .ok request →
      gateway.Keeps request property)
    (holds : property traffic.exchanges)
    (called : client.call method path query body read gateway traffic = (.ok value, after)) :
    ∃ request reply, client.request method path query body = .ok request ∧
      gateway.Answers property request reply after ∧ read reply = .ok value := by
  rcases decides_call (fun request made => (keeps request made).trying) holds called with
    ⟨error, failed, _⟩ | ⟨request, outcome, made, decides, isRead⟩
  · exact nomatch failed
  · cases outcome with
    | error error => exact nomatch isRead
    | ok reply => exact ⟨request, reply, made, decides.answers, isRead.symm⟩

theorem called_withToken {call : Call α} {value : α}
    (called : client.withToken call gateway traffic = (.ok value, after)) :
    call gateway traffic = (.ok value, after) := by
  rw [GatewayClient.withToken] at called
  split at called
  · exact called
  · exact nomatch called

theorem request_of_other (made : client.request method path query body = .ok request)
    (other : RequestMethod) (content : Option Json) :
    client.request other path query content =
      .ok { request with method := other, body := content } := by
  unfold GatewayClient.request at made ⊢
  split at made
  next url followed =>
    cases made
    rfl
  next => exact nomatch made

theorem call_of_answer (made : client.request method path query body = .ok request)
    (sendable : request.isSendable = true)
    (answers : gateway traffic.exchanges request = .answered reply)
    (success : 200 ≤ reply.status ∧ reply.status < 300) :
    client.call method path query body read gateway traffic =
      (read reply, traffic.exchange request (.answered reply)) := by
  have final : (gateway traffic.exchanges request).isRetryable = false := by
    rw [answers, Outcome.isRetryable, StatusCode.isRetryable, StatusCode.isRateLimit,
      StatusCode.isServerTrouble]
    rcases success with ⟨_, below⟩
    generalize reply.status = status at below
    have notLimited : status ≠ 429 := by
      intro limited
      rw [limited] at below
      exact absurd below (by decide)
    have noTrouble : ¬500 ≤ status := fun trouble =>
      absurd (Nat.lt_of_lt_of_le below (by decide)) (Nat.not_lt.mpr trouble)
    simp [notLimited, noTrouble]
  simp only [GatewayClient.call, made, RetryPolicy.send, sendable, if_true,
    RetryPolicy.attemptFrom_of_not_retryable _ _ _ _ _ _ final, answers, Outcome.settled, success,
    and_self]
  rfl

/-! ## Envelopes -/

theorem envelopeOf_iff {read : Document → Option α} {envelope : Envelope α} :
    envelopeOf read reply = .ok envelope ↔
      ∃ text, reply.body = .whole text ∧
        (Document.ofText? text).bind (Envelope.ofTree? read) = some envelope := by
  unfold envelopeOf Reply.text
  cases reply.body with
  | lost fault => simp [bind, Except.bind]
  | whole text =>
      simp only [bind, Except.bind, ReplyBody.whole.injEq, exists_eq_left']
      cases (Document.ofText? text).bind (Envelope.ofTree? read) <;> simp

theorem payloadOf_iff {read : Document → Option α} {payload : α} :
    payloadOf read reply = .ok payload ↔
      ∃ text message, reply.body = .whole text ∧
        (Document.ofText? text).bind (Envelope.ofTree? read) =
          some ⟨true, message, some payload⟩ := by
  constructor
  · intro isRead
    rw [payloadOf] at isRead
    cases isEnvelope : envelopeOf read reply with
    | error error =>
        rw [isEnvelope] at isRead
        cases isRead
    | ok envelope =>
        rw [isEnvelope] at isRead
        rcases envelopeOf_iff.mp isEnvelope with ⟨text, whole, known⟩
        rcases Envelope.payload_ok_iff.mp isRead with ⟨message, rfl⟩
        exact ⟨text, message, whole, known⟩
  · rintro ⟨text, message, whole, known⟩
    rw [payloadOf, envelopeOf_iff.mpr ⟨text, whole, known⟩]
    rfl

theorem envelopeOf_of_compact {read : Document → Option α} {value : Json} {envelope : Envelope α}
    (survives : value.Survives Reader.depthLimit) (whole : reply.body = .whole value.compact)
    (isEnvelope : Envelope.ofTree? read value.asTree = some envelope) :
    envelopeOf read reply = .ok envelope := by
  refine envelopeOf_iff.mpr ⟨value.compact, whole, ?_⟩
  rw [survives.document_compact]
  exact isEnvelope

theorem payloadOf_of_compact {read : Document → Option α} {value : Json} {message : String}
    {payload : α} (survives : value.Survives Reader.depthLimit)
    (whole : reply.body = .whole value.compact)
    (isEnvelope : Envelope.ofTree? read value.asTree = some ⟨true, message, some payload⟩) :
    payloadOf read reply = .ok payload := by
  rw [payloadOf, envelopeOf_of_compact survives whole isEnvelope]
  rfl

theorem call_of_envelope {read : Document → Option α} {value : Json} {message : String}
    {payload : α} (made : client.request method path query body = .ok request)
    (sendable : request.isSendable = true)
    (answers : gateway traffic.exchanges request = .answered ⟨200, [], .whole value.compact⟩)
    (survives : value.Survives Reader.depthLimit)
    (isEnvelope : Envelope.ofTree? read value.asTree = some ⟨true, message, some payload⟩) :
    client.call method path query body (payloadOf read) gateway traffic =
      (.ok payload, traffic.exchange request (.answered ⟨200, [], .whole value.compact⟩)) := by
  have success : (200 : Nat) ≤ 200 ∧ (200 : Nat) < 300 := by decide
  rw [call_of_answer made sendable answers success, payloadOf_of_compact survives rfl isEnvelope]

end GatewayClient

def Outcome.Brings {α : Type} (read : Document → Option α) (payload : α) (outcome : Outcome) :
    Prop :=
  ∃ reply text message, outcome = .answered reply ∧ reply.status.isSuccess = true ∧
    reply.body = .whole text ∧
    (Document.ofText? text).bind (Envelope.ofTree? read) = some ⟨true, message, some payload⟩

theorem Outcome.brings_iff {α : Type} {read : Document → Option α} {payload : α}
    {outcome : Outcome} :
    outcome.Brings read payload ↔
      outcome.settled.bind (GatewayClient.payloadOf read) = .ok payload := by
  rw [settled_bind_ok_iff]
  constructor
  · rintro ⟨reply, text, message, answered, success, whole, isEnvelope⟩
    have isRead := GatewayClient.payloadOf_iff.mpr ⟨text, message, whole, isEnvelope⟩
    exact ⟨reply, answered, success, isRead⟩
  · rintro ⟨reply, answered, success, isRead⟩
    rcases GatewayClient.payloadOf_iff.mp isRead with ⟨text, message, whole, isEnvelope⟩
    exact ⟨reply, text, message, answered, success, whole, isEnvelope⟩

theorem Envelope.ofTree?_of_data {α : Type} {read : Document → Option α} {data : Document}
    {value : α} (isRead : JsonTree.nullable? read data = some (some value)) :
    Envelope.ofTree? read (.object [("success", .bool true), ("data", data)]) =
      some ⟨true, "", some value⟩ := by
  let given : Fields Unit := [("success", .bool true), ("data", data)]
  have fields : (JsonTree.object given : Document).fields? fieldNames = some given := rfl
  have payload : given.optional "data" none (JsonTree.nullable? read) = some (some value) :=
    Fields.optional_given rfl isRead
  rw [Envelope.ofTree?, fields]
  change (given.optional "data" none (JsonTree.nullable? read)).bind _ = _
  rw [payload]
  rfl

end GatewayConsole
