import GatewayConsole.Proofs.Gateway.OptionServer

/-!
# Granted changes

Gateways that change an option exactly when they say that they have done so. A call that
stores an option and fails has then changed nothing, however often it was attempted.
-/

namespace GatewayConsole

/-! ## Granting -/

def Outcome.Grants : Outcome → Prop
  | .failed _ => False
  | .answered reply =>
      reply.status.isSuccess = true ∧
        ∃ text envelope, reply.body = .whole text ∧
          (Document.ofText? text).bind (Envelope.ofTree? (·.value?)) = some envelope ∧
          envelope.success = true

/-- Whether a gateway changes an option when it says so, and not otherwise. What is stored is
known from all exchanges so far. -/
structure Gateway.AppliesGranted (gateway : Gateway) (table : List Exchange → OptionTable) :
    Prop where
  asked : ∀ earlier request, request.method = .get →
    table (earlier ++ [⟨request, gateway earlier request⟩]) = table earlier
  granted : ∀ earlier request entry, request.StoresOption entry →
    (gateway earlier request).Grants →
    table (earlier ++ [⟨request, gateway earlier request⟩]) = (table earlier).store entry
  withheld : ∀ earlier request entry, request.StoresOption entry →
    ¬(gateway earlier request).Grants →
    table (earlier ++ [⟨request, gateway earlier request⟩]) = table earlier

theorem Envelope.acknowledged_iff {α : Type} {envelope : Envelope α} :
    envelope.acknowledged = .ok () ↔ envelope.success = true := by
  unfold acknowledged
  cases envelope.success <;> simp

theorem GatewayClient.acknowledged_iff {reply : Reply} :
    (envelopeOf (·.value?) reply).bind (·.acknowledged) = .ok () ↔
      ∃ text envelope, reply.body = .whole text ∧
        (Document.ofText? text).bind (Envelope.ofTree? (·.value?)) = some envelope ∧
        envelope.success = true := by
  constructor
  · intro acknowledged
    cases isRead : envelopeOf (·.value?) reply with
    | error error =>
        rw [isRead] at acknowledged
        cases acknowledged
    | ok envelope =>
        rw [isRead] at acknowledged
        rcases envelopeOf_iff.mp isRead with ⟨text, whole, isEnvelope⟩
        exact ⟨text, envelope, whole, isEnvelope, Envelope.acknowledged_iff.mp acknowledged⟩
  · rintro ⟨text, envelope, whole, isEnvelope, success⟩
    rw [envelopeOf_iff.mpr ⟨text, whole, isEnvelope⟩]
    exact Envelope.acknowledged_iff.mpr success

theorem Outcome.grants_iff (outcome : Outcome) :
    outcome.Grants ↔ (outcome.settled.bind fun reply =>
      (GatewayClient.envelopeOf (·.value?) reply).bind (·.acknowledged)) = .ok () := by
  rw [settled_bind_ok_iff]
  constructor
  · intro grants
    cases outcome with
    | failed fault => exact grants.elim
    | answered reply =>
        exact ⟨reply, rfl, grants.1, GatewayClient.acknowledged_iff.mpr grants.2⟩
  · rintro ⟨reply, rfl, success, acknowledged⟩
    exact ⟨success, GatewayClient.acknowledged_iff.mp acknowledged⟩

theorem Outcome.not_grants_of_retryable {outcome : Outcome}
    (retryable : outcome.isRetryable = true) : ¬outcome.Grants := by
  rcases verdict_of_retryable retryable with ⟨error, settled, _⟩
  rw [grants_iff, settled]
  exact nofun

/-! ## Calls -/

namespace GatewayClient

variable {client : GatewayClient} {gateway : Gateway} {table : List Exchange → OptionTable}
  {traffic after : Traffic} {key value : String}

theorem withToken_cases {α : Type} {call : Call α} {result : Except GatewayError α}
    (called : client.withToken call gateway traffic = (result, after)) :
    call gateway traffic = (result, after) ∨ ∃ error, result = .error error ∧ after = traffic := by
  rw [GatewayClient.withToken] at called
  split at called
  · exact .inl called
  · cases called
    exact .inr ⟨_, rfl, rfl⟩

theorem table_option (applies : gateway.AppliesGranted table)
    {result : Except GatewayError (Option String)}
    (called : client.option key gateway traffic = (result, after)) :
    table after.exchanges = table traffic.exchanges := by
  unfold GatewayClient.option at called
  rcases asked : client.options gateway traffic with ⟨outcome, last⟩
  rw [asked] at called
  cases called
  rcases withToken_cases asked with called | ⟨error, _, unsent⟩
  · exact kept_call (keeps_table_of_asking applies.asked) rfl called
  · rw [unsent]

theorem table_updateOption (applies : gateway.AppliesGranted table)
    {result : Except GatewayError Unit}
    (called : client.updateOption key value gateway traffic = (result, after)) :
    (result = .ok () → table after.exchanges = (table traffic.exchanges).store ⟨key, value⟩) ∧
      ∀ error, result = .error error → table after.exchanges = table traffic.exchanges := by
  let entry : OptionEntry := ⟨key, value⟩
  have stores {request : Request}
      (made : client.request .put ["api", "option", ""] [] (some entry.toJson) = .ok request) :
      request.StoresOption entry :=
    ⟨client, isMadeBy_of_request _ _ _ _ _ made⟩
  -- Attempts that are repeated were not granted, so that only the last one may change anything.
  have tried (request : Request)
      (made : client.request .put ["api", "option", ""] [] (some entry.toJson) = .ok request) :
      gateway.KeepsTrying request (table · = table traffic.exchanges) := by
    intro earlier same retryable
    have unchanged := applies.withheld earlier request entry (stores made)
      (Outcome.not_grants_of_retryable retryable)
    exact unchanged.trans same
  have unsent (failed : ∃ error, result = .error error ∧ after = traffic) :
      (result = .ok () → table after.exchanges = (table traffic.exchanges).store entry) ∧
        ∀ error, result = .error error → table after.exchanges = table traffic.exchanges := by
    rcases failed with ⟨error, rfl, rfl⟩
    exact ⟨nofun, fun _ _ => rfl⟩
  rcases withToken_cases called with called | failed
  · rcases decides_call tried rfl called with
      failed | ⟨request, outcome, made, ⟨earlier, same, settled, exchanged⟩, isRead⟩
    · exact unsent failed
    · have grants := (gateway earlier request).grants_iff
      rw [← settled, ← isRead] at grants
      rw [exchanged, ← same]
      constructor
      · intro done
        exact applies.granted earlier request entry (stores made) (grants.mpr done)
      · intro error failed
        refine applies.withheld earlier request entry (stores made) fun granted => ?_
        exact nomatch failed.symm.trans (grants.mp granted)
  · exact unsent failed

end GatewayClient

/-! ## Servers with options -/

namespace OptionServer

theorem appliesGranted_gateway (initial : List OptionEntry) :
    (gateway initial).AppliesGranted fun exchanges =>
      OptionEntry.lookup? (entriesAfter initial exchanges) where
  asked earlier request asks := by
    rw [entriesAfter_append, take_of_get asks]
  granted earlier request entry stores _ := by
    rw [entriesAfter_append, take_of_stores stores, OptionEntry.lookup?_store]
  withheld earlier request entry stores refused := by
    rcases stores with ⟨client, made⟩
    refine absurd ?_ refused
    rw [Outcome.grants_iff, gateway, made.method, Outcome.settled, if_pos (success_reply _ _)]
    exact acknowledged_reply _

def readOnly (entries : List OptionEntry) : Gateway := fun _ request =>
  match request.method with
  | .get => .answered (reply entries .get)
  | .put => .answered ⟨403, [], .whole ""⟩

theorem appliesGranted_readOnly (entries : List OptionEntry) :
    (readOnly entries).AppliesGranted fun _ => OptionEntry.lookup? entries where
  asked _ _ _ := rfl
  granted earlier request entry stores grants := by
    rcases stores with ⟨client, made⟩
    rw [readOnly, made.method] at grants
    exact absurd grants.1 (by decide)
  withheld _ _ _ _ _ := rfl

end OptionServer
end GatewayConsole
