import GatewayConsole.Command.Home
import GatewayConsole.Proofs.Gateway.Sending

/-!
# Giving up

Whether the error of a call says that the same call may go well another time. It does when
the attempts ran out on a fault of the way or on a limit, and never when the last outcome was
not worth another attempt; trouble of the gateway is worth one, but its error does not say so.
-/

namespace GatewayConsole

/-! ## Errors of outcomes -/

namespace Outcome

def isServerTrouble : Outcome → Bool
  | .failed _ => false
  | .answered reply => StatusCode.isServerTrouble reply.status

theorem isTransient_of_settled {outcome : Outcome} {error : GatewayError}
    (ends : outcome.settled = .error error) :
    error.isTransient = (outcome.isRetryable && !outcome.isServerTrouble) := by
  cases outcome with
  | failed fault =>
      cases ends
      exact (Bool.and_true _).symm
  | answered reply =>
      simp only [isRetryable, isServerTrouble, StatusCode.isRetryable, StatusCode.isRateLimit]
      simp only [settled] at ends
      split at ends
      next => cases ends
      next =>
        split at ends
        next refused =>
          cases ends
          rcases refused with refused | refused <;> rw [refused] <;> rfl
        next =>
          split at ends
          next limited =>
            cases ends
            rw [limited]
            rfl
          next unlimited =>
            cases ends
            have notLimited : (reply.status == 429) = false := beq_eq_false_iff_ne.mpr unlimited
            rw [notLimited, Bool.false_or, Bool.and_not_self]
            rfl

theorem eq_failed_of_settled {outcome : Outcome} {fault : TransportFault}
    (ends : outcome.settled = .error (.transport fault)) : outcome = .failed fault := by
  cases outcome with
  | failed =>
      cases ends
      rfl
  | answered =>
      simp only [settled] at ends
      repeat' split at ends
      all_goals cases ends

theorem exists_error_of_retryable {outcome : Outcome} (retryable : outcome.isRetryable = true) :
    ∃ error, outcome.settled = .error error := by
  rcases verdict_of_retryable retryable with ⟨error, ends, _⟩
  exact ⟨error, ends⟩

end Outcome

theorem HomeReport.isBridged_iff {error : GatewayError} :
    isBridged error = true ↔ error.isTransient = true ∨ ∃ fault, error = .transport fault := by
  cases error <;> simp [isBridged, GatewayError.isTransient]

/-! ## Errors of calls -/

namespace RetryPolicy

theorem send_settles_budget (policy : RetryPolicy) (gateway : Gateway) {request : Request}
    (sendable : request.isSendable = true) (traffic : Traffic) :
    ∃ last, IsFinal policy.budget (gateway.outcome request traffic.exchanges) last ∧
      (policy.send gateway request traffic).1 =
        (gateway.outcome request traffic.exchanges last).settled := by
  have budget : policy.maxAttempts.toNat - 1 + 1 = policy.budget := by
    unfold RetryPolicy.budget
    omega
  rw [send, if_pos sendable, ← budget]
  rcases policy.attemptFrom_settles gateway request (policy.maxAttempts.toNat - 1) 1 traffic with
    ⟨last, settles⟩
  exact ⟨last, settles.final, settles.result⟩

end RetryPolicy

namespace GatewayClient

variable (client : GatewayClient) (method : RequestMethod) (path : List String)
  (query : List (String × Nat)) (body : Option Json)

/-- When the attempts run out on an outcome that is worth another one, the error is transient,
and the kept home page stands in, exactly if the gateway is not in trouble; when an outcome
that is not worth another attempt ends the call, an error is not transient. -/
theorem transient_iff_no_server_trouble (gateway : Gateway) (traffic : Traffic)
    {request : Request} (made : client.request method path query body = .ok request)
    (sendable : request.isSendable = true) :
    ∃ last, RetryPolicy.IsFinal client.policy.budget
        (gateway.outcome request traffic.exchanges) last ∧
      let outcome := gateway.outcome request traffic.exchanges last
      let result := (client.send method path query body gateway traffic).1
      (outcome.isRetryable = true → ∃ error, result = .error error ∧
        (error.isTransient = true ↔ outcome.isServerTrouble = false) ∧
        (HomeReport.isBridged error = true ↔ outcome.isServerTrouble = false)) ∧
      (outcome.isRetryable = false →
        ∀ error, result = .error error → error.isTransient = false) := by
  rcases client.policy.send_settles_budget gateway sendable traffic with ⟨last, final, ends⟩
  refine ⟨last, final, ?_⟩
  rw [send_of_request client method path query body gateway traffic made, ends]
  intro outcome result
  constructor
  · intro retryable
    rcases Outcome.exists_error_of_retryable retryable with ⟨error, isError⟩
    have transient : error.isTransient = true ↔ outcome.isServerTrouble = false := by
      rw [Outcome.isTransient_of_settled isError, retryable, Bool.true_and, Bool.not_eq_true']
    refine ⟨error, isError, transient, HomeReport.isBridged_iff.trans ⟨?_, ?_⟩⟩
    · rintro (isTransient | ⟨fault, rfl⟩)
      · exact transient.mp isTransient
      · have failed : outcome = .failed fault := Outcome.eq_failed_of_settled isError
        rw [failed]
        rfl
    · exact fun noTrouble => .inl (transient.mpr noTrouble)
  · intro lasting error isError
    rw [Outcome.isTransient_of_settled isError, lasting, Bool.false_and]

/-- A limit that lasts longer than the attempts is transient, also after trouble. -/
theorem transient_of_rate_limit :
    let script (index : Nat) : Outcome :=
      .answered ⟨if index = 0 then 503 else 429, [("Retry-After", "0")], .whole ""⟩
    let base : Url := ⟨"http", .path (some ⟨"", some (.domain "gw"), none⟩) [""], none, none⟩
    let client : GatewayClient := ⟨base, none, .attempts 2⟩
    let url : Url := { base with place := .path (some ⟨"", some (.domain "gw"), none⟩) ["api"] }
    let request : Request := ⟨.get, url, none, none⟩
    client.request .get ["api"] [] none = .ok request ∧ request.isSendable = true ∧
      ∃ error, (client.send .get ["api"] [] none (.scripted script) .silent).1 = .error error ∧
        error.isTransient = true ∧ HomeReport.isBridged error = true := by
  intro script base client url request
  have made : client.request .get ["api"] [] none = .ok request := rfl
  have sendable : request.isSendable = true := by decide +kernel
  refine ⟨made, sendable, ?_⟩
  rcases transient_iff_no_server_trouble client .get ["api"] [] none (.scripted script) .silent
    made sendable with ⟨last, final, retryable, _⟩
  have second : last = 1 :=
    final.unique ⟨by decide, by simp only [Gateway.outcome_scripted]; decide, .inl rfl⟩
  subst second
  simp only [Gateway.outcome_scripted] at retryable
  rcases retryable rfl with ⟨error, isError, transient, bridged⟩
  exact ⟨error, isError, transient.mpr rfl, bridged.mpr rfl⟩

/-- Trouble of the gateway is worth another attempt, but when it lasts longer than the attempts
its error is not transient, and the kept home page does not stand in. -/
theorem not_transient_of_server_trouble :
    let trouble : Outcome := .answered ⟨503, [], .whole ""⟩
    let base : Url := ⟨"http", .path (some ⟨"", some (.domain "gw"), none⟩) [""], none, none⟩
    let client : GatewayClient := ⟨base, none, .attempts 2⟩
    let url : Url := { base with place := .path (some ⟨"", some (.domain "gw"), none⟩) ["api"] }
    let request : Request := ⟨.get, url, none, none⟩
    let error : GatewayError := .unexpectedStatus 503
    client.request .get ["api"] [] none = .ok request ∧ request.isSendable = true ∧
      trouble.isRetryable = true ∧
      (client.send .get ["api"] [] none (.scripted fun _ => trouble) .silent).1 = .error error ∧
      (client.send .get ["api"] [] none (.scripted fun _ => trouble) .silent).2.exchanges.length =
        client.policy.budget ∧
      error.isTransient = false ∧ HomeReport.isBridged error = false := by
  intro trouble base client url request error
  have made : client.request .get ["api"] [] none = .ok request := rfl
  have sendable : request.isSendable = true := by decide +kernel
  refine ⟨made, sendable, rfl, ?_, by decide +kernel, rfl, rfl⟩
  rcases client.policy.send_settles_budget (.scripted fun _ => trouble) sendable .silent with
    ⟨last, _, ends⟩
  rw [send_of_request client _ _ _ _ _ _ made, ends, Gateway.outcome_scripted]
  rfl

end GatewayClient
end GatewayConsole
