import GatewayConsole.Gateway.Exchange

/-!
# Attempts at a request

Which outcomes are worth another attempt, how the last one ends the call, and how many
attempts a policy makes of a given run of outcomes. Sending follows that account for every
gateway, and counting its attempts in a word of 32 bits never overflows.
-/

namespace GatewayConsole

/-! ## Outcomes -/

theorem StatusCode.distinct_of_retryable {code : Nat}
    (retryable : code = 429 ∨ 500 ≤ code ∧ code < 600) :
    ¬(200 ≤ code ∧ code < 300) ∧ ¬(code = 401 ∨ code = 403) := by
  omega

namespace Outcome

def isRetryable : Outcome → Bool
  | .failed fault => fault.isTransient
  | .answered reply => StatusCode.isRetryable reply.status

def wait? : Outcome → Option UInt64
  | .failed _ => none
  | .answered reply => reply.retryAfter?

def settled : Outcome → Except GatewayError Reply
  | .failed fault => .error (.transport fault)
  | .answered reply =>
      if 200 ≤ reply.status ∧ reply.status < 300 then .ok reply
      else if reply.status = 401 ∨ reply.status = 403 then
        .error (.refusedCredentials reply.status)
      else if reply.status = 429 then .error (.rateLimited reply.retryAfter?)
      else .error (.unexpectedStatus reply.status)

theorem verdict_of_not_retryable {outcome : Outcome} (final : outcome.isRetryable = false) :
    outcome.verdict = .over outcome.settled := by
  cases outcome with
  | failed fault =>
      have lasting : fault.isTransient = false := final
      simp [verdict, settled, lasting]
  | answered reply =>
      simp only [isRetryable, StatusCode.isRetryable, Bool.or_eq_false_iff] at final
      have limited : reply.status ≠ 429 := by simpa [StatusCode.isRateLimit] using final.1
      simp only [verdict, settled, StatusCode.isSuccess, StatusCode.refusesCredentials, final,
        limited, Bool.and_eq_true, Bool.or_eq_true, decide_eq_true_eq, beq_iff_eq]
      split
      · rfl
      · split <;> rfl

theorem verdict_of_retryable {outcome : Outcome} (retryable : outcome.isRetryable = true) :
    ∃ error, outcome.settled = .error error ∧ outcome.verdict = .again error outcome.wait? := by
  cases outcome with
  | failed fault =>
      have transient : fault.isTransient = true := retryable
      exact ⟨.transport fault, rfl, by simp [verdict, wait?, transient]⟩
  | answered reply =>
      simp only [isRetryable, StatusCode.isRetryable, StatusCode.isRateLimit,
        StatusCode.isServerTrouble, Bool.or_eq_true, beq_iff_eq, Bool.and_eq_true,
        decide_eq_true_eq] at retryable
      rcases StatusCode.distinct_of_retryable retryable with ⟨noSuccess, noRefusal⟩
      simp only [settled, verdict, wait?, StatusCode.isSuccess, StatusCode.refusesCredentials,
        StatusCode.isRateLimit, StatusCode.isServerTrouble, noSuccess, noRefusal,
        Bool.and_eq_true, Bool.or_eq_true, decide_eq_true_eq, beq_iff_eq, if_false]
      by_cases limited : reply.status = 429
      · exact ⟨_, if_pos limited, if_pos limited⟩
      · have trouble := retryable.resolve_left limited
        rw [if_neg limited, if_neg limited, if_pos trouble]
        exact ⟨_, rfl, rfl⟩

end Outcome

/-! ## What a gateway answers -/

namespace Gateway

/-- What comes of a request when it is attempted once more after `index` attempts, all of
them after some earlier exchanges. -/
def outcome (gateway : Gateway) (request : Request) (earlier : List Exchange) : Nat → Outcome
  | 0 => gateway earlier request
  | index + 1 =>
      gateway.outcome request (earlier ++ [⟨request, gateway earlier request⟩]) index

def scripted (script : Nat → Outcome) : Gateway :=
  fun exchanges _ => script exchanges.length

@[simp] theorem outcome_scripted (script : Nat → Outcome) (request : Request)
    (earlier : List Exchange) (index : Nat) :
    (scripted script).outcome request earlier index = script (earlier.length + index) := by
  induction index generalizing earlier with
  | zero => rfl
  | succ index induction =>
      rw [outcome, induction, List.length_append, List.length_singleton]
      congr 1
      omega

end Gateway

/-! ## How far a policy goes -/

namespace RetryPolicy

def budget (policy : RetryPolicy) : Nat :=
  max 1 policy.maxAttempts.toNat

theorem budget_lt (policy : RetryPolicy) : policy.budget < 2 ^ 32 := by
  have small := policy.maxAttempts.toNat_lt
  unfold budget
  omega

/-- Whether the attempt after `last` others is the final one of up to `allowed`: all others
were worth repeating, and it is not, or is the last that is allowed. -/
structure IsFinal (allowed : Nat) (outcome : Nat → Outcome) (last : Nat) : Prop where
  within : last < allowed
  repeated : ∀ index < last, (outcome index).isRetryable = true
  ends : last + 1 = allowed ∨ (outcome last).isRetryable = false

theorem IsFinal.unique {allowed first second : Nat} {outcome : Nat → Outcome}
    (left : IsFinal allowed outcome first) (right : IsFinal allowed outcome second) :
    first = second := by
  have notBefore {first second : Nat} (left : IsFinal allowed outcome first)
      (right : IsFinal allowed outcome second) : ¬first < second := by
    intro before
    have within := right.within
    rcases left.ends with last | final
    · omega
    · exact absurd (right.repeated first before) (by simp [final])
  have notFirst := notBefore left right
  have notSecond := notBefore right left
  omega

theorem IsFinal.later {allowed last : Nat} {outcome : Nat → Outcome}
    (retryable : (outcome 0).isRetryable = true)
    (final : IsFinal allowed (fun index => outcome (index + 1)) last) :
    IsFinal (allowed + 1) outcome (last + 1) where
  within := Nat.succ_lt_succ final.within
  repeated
    | 0, _ => retryable
    | index + 1, before => final.repeated index (Nat.lt_of_succ_lt_succ before)
  ends := final.ends.imp_left (congrArg Nat.succ)

theorem pauseAfter_le_maxPause (policy : RetryPolicy) (attempt : Nat) (wait : Option UInt64) :
    (policy.pauseAfter attempt wait).nanoseconds ≤ policy.maxPause.nanoseconds := by
  cases wait with
  | none =>
      rw [pauseAfter, pause, Duration.nanoseconds_shorter]
      exact Nat.min_le_right _ _
  | some seconds =>
      rw [pauseAfter, Duration.nanoseconds_shorter]
      exact Nat.min_le_right _ _

/-- What sending a request comes to: it is attempted until the final attempt, whose outcome
alone decides the result, with a pause between each attempt and the next. -/
structure Settles (policy : RetryPolicy) (request : Request) (outcome : Nat → Outcome)
    (before : Traffic) (allowed last : Nat) (result : Except GatewayError Reply)
    (after : Traffic) : Prop where
  final : IsFinal allowed outcome last
  result : result = (outcome last).settled
  exchanges : after.exchanges =
    before.exchanges ++ (List.range (last + 1)).map fun index => ⟨request, outcome index⟩
  pauses : ∃ pauses, after.pauses = before.pauses ++ pauses ∧ pauses.length = last ∧
    ∀ pause ∈ pauses, pause.nanoseconds ≤ policy.maxPause.nanoseconds

/-! ## Sending -/

section Sending

variable (policy : RetryPolicy) (gateway : Gateway) (request : Request)

theorem attemptFrom_of_not_retryable (attempt left : Nat) (traffic : Traffic)
    (final : (gateway traffic.exchanges request).isRetryable = false) :
    policy.attemptFrom gateway request attempt left traffic =
      ((gateway traffic.exchanges request).settled,
        traffic.exchange request (gateway traffic.exchanges request)) := by
  unfold attemptFrom
  cases left <;> simp only [Outcome.verdict_of_not_retryable final]

theorem attemptFrom_zero (attempt : Nat) (traffic : Traffic) :
    policy.attemptFrom gateway request attempt 0 traffic =
      ((gateway traffic.exchanges request).settled,
        traffic.exchange request (gateway traffic.exchanges request)) := by
  cases retryable : (gateway traffic.exchanges request).isRetryable with
  | true =>
      rcases Outcome.verdict_of_retryable retryable with ⟨error, ends, again⟩
      unfold attemptFrom
      simp only [again, ends]
  | false => exact attemptFrom_of_not_retryable policy gateway request attempt 0 traffic retryable

theorem attemptFrom_of_retryable (attempt left : Nat) (traffic : Traffic)
    (retryable : (gateway traffic.exchanges request).isRetryable = true) :
    policy.attemptFrom gateway request attempt (left + 1) traffic =
      policy.attemptFrom gateway request (attempt + 1) left
        ((traffic.exchange request (gateway traffic.exchanges request)).pause
          (policy.pauseAfter attempt (gateway traffic.exchanges request).wait?)) := by
  rcases Outcome.verdict_of_retryable retryable with ⟨error, _, again⟩
  conv => lhs; unfold attemptFrom
  simp only [again]

theorem settles_at_once (traffic : Traffic) (left : Nat)
    (ends : left = 0 ∨ (gateway traffic.exchanges request).isRetryable = false) :
    policy.Settles request (gateway.outcome request traffic.exchanges) traffic (left + 1) 0
      (gateway traffic.exchanges request).settled
      (traffic.exchange request (gateway traffic.exchanges request)) where
  final := ⟨Nat.succ_pos left, fun index before => absurd before (Nat.not_lt_zero index),
    ends.imp_left fun none => by rw [none]⟩
  result := rfl
  exchanges := rfl
  pauses := ⟨[], (List.append_nil _).symm, rfl, fun _ member => absurd member List.not_mem_nil⟩

theorem Settles.later {traffic after : Traffic} {left last : Nat} {pause : Duration}
    {result : Except GatewayError Reply}
    (retryable : (gateway traffic.exchanges request).isRetryable = true)
    (bounded : pause.nanoseconds ≤ policy.maxPause.nanoseconds)
    (settles : policy.Settles request
      (gateway.outcome request
        (traffic.exchanges ++ [⟨request, gateway traffic.exchanges request⟩]))
      ((traffic.exchange request (gateway traffic.exchanges request)).pause pause)
      left last result after) :
    policy.Settles request (gateway.outcome request traffic.exchanges) traffic (left + 1)
      (last + 1) result after where
  final := settles.final.later retryable
  result := settles.result
  exchanges := by
    rw [settles.exchanges, List.range_succ_eq_map (n := last + 1)]
    simp [Traffic.exchange, Traffic.pause, Gateway.outcome, Function.comp_def]
  pauses := by
    rcases settles.pauses with ⟨pauses, added, count, short⟩
    refine ⟨pause :: pauses, ?_, ?_, ?_⟩
    · rw [added]
      simp [Traffic.exchange, Traffic.pause]
    · rw [List.length_cons, count]
    · intro other member
      rcases List.mem_cons.mp member with rfl | member
      · exact bounded
      · exact short other member

theorem attemptFrom_settles (left attempt : Nat) (traffic : Traffic) :
    ∃ last, policy.Settles request (gateway.outcome request traffic.exchanges) traffic (left + 1)
      last (policy.attemptFrom gateway request attempt left traffic).1
      (policy.attemptFrom gateway request attempt left traffic).2 := by
  induction left generalizing attempt traffic with
  | zero =>
      rw [attemptFrom_zero]
      exact ⟨0, settles_at_once policy gateway request traffic 0 (.inl rfl)⟩
  | succ left induction =>
      cases retryable : (gateway traffic.exchanges request).isRetryable with
      | false =>
          rw [attemptFrom_of_not_retryable policy gateway request _ _ _ retryable]
          exact ⟨0, settles_at_once policy gateway request traffic _ (.inr retryable)⟩
      | true =>
          -- The final attempt is counted from here, one more than from the next attempt.
          rw [attemptFrom_of_retryable policy gateway request _ _ _ retryable]
          rcases induction (attempt + 1)
            ((traffic.exchange request (gateway traffic.exchanges request)).pause
              (policy.pauseAfter attempt (gateway traffic.exchanges request).wait?))
            with ⟨last, settles⟩
          exact ⟨last + 1, Settles.later policy gateway request retryable
            (policy.pauseAfter_le_maxPause attempt _) settles⟩

/-! ## Counting attempts in a word -/

theorem toNat_succ_word {counter : UInt32} (room : counter.toNat + 1 ≠ 2 ^ 32) :
    (counter + 1).toNat = counter.toNat + 1 := by
  have small := counter.toNat_lt
  rw [UInt32.toNat_add]
  exact Nat.mod_eq_of_lt (by simp only [UInt32.toNat_one]; omega)

/-- Attempt a request after as many attempts as a word of 32 bits counts. Nothing comes of it
when the count overflows. -/
def attemptCounted (counter : UInt32) (traffic : Traffic) :
    Option (Except GatewayError Reply × Traffic) :=
  if _room : counter.toNat + 1 = 2 ^ 32 then none
  else
    let attempt := counter + 1
    let outcome := gateway traffic.exchanges request
    let traffic := traffic.exchange request outcome
    if outcome.isRetryable && attempt < policy.maxAttempts then
      attemptCounted attempt (traffic.pause (policy.pauseAfter attempt.toNat outcome.wait?))
    else some (outcome.settled, traffic)
termination_by 2 ^ 32 - counter.toNat
decreasing_by
  have small := counter.toNat_lt
  rw [toNat_succ_word _room]
  omega

/-- The count of attempts does not overflow, and counting attempts comes to the same as
counting down those that are left. -/
theorem attemptCounted_eq (left : Nat) (counter : UInt32) (traffic : Traffic)
    (within : counter.toNat + 1 + left = policy.budget) :
    attemptCounted policy gateway request counter traffic =
      some (policy.attemptFrom gateway request (counter.toNat + 1) left traffic) := by
  induction left generalizing counter traffic with
  | zero =>
      have small := policy.budget_lt
      have room : counter.toNat + 1 ≠ 2 ^ 32 := by omega
      have spent : ¬counter + 1 < policy.maxAttempts := by
        rw [UInt32.lt_iff_toNat_lt, toNat_succ_word room]
        unfold budget at within
        omega
      rw [attemptCounted, dif_neg room, attemptFrom_zero]
      simp [spent]
  | succ left induction =>
      have small := policy.budget_lt
      -- What is left keeps the counter below the budget, which is a word itself.
      have room : counter.toNat + 1 ≠ 2 ^ 32 := by omega
      have may : counter + 1 < policy.maxAttempts := by
        rw [UInt32.lt_iff_toNat_lt, toNat_succ_word room]
        unfold budget at within
        omega
      have counted := toNat_succ_word room
      rw [attemptCounted, dif_neg room]
      cases retryable : (gateway traffic.exchanges request).isRetryable with
      | false =>
          rw [attemptFrom_of_not_retryable policy gateway request _ _ _ retryable]
          simp [retryable]
      | true =>
          rw [attemptFrom_of_retryable policy gateway request _ _ _ retryable, ← counted,
            ← induction (counter + 1) _ (by omega)]
          simp [retryable, may]

end Sending

end RetryPolicy
end GatewayConsole
