import Sooqa.Foundation.Outcome
import Sooqa.Queue.Lease

/-!
What the runner does with the result of a handler: complete the lease, or
settle it as the failure asks. A shutdown that drops an uncancellable handler
asks for a retry.
-/
namespace Sooqa.Worker
open Foundation Queue

structure HandlerFailure where
  retryable : Bool
  errorClass : String
  message : String
  deferUntil : Option Time
  deferWithoutConsumingAttempt : Bool
  retryWithoutConsumingAttempt : Bool
  requiresStorageReconciliation : Bool
  deriving DecidableEq, Repr

namespace HandlerFailure

def retryableFailure (errorClass message : String) : HandlerFailure :=
  ⟨true, errorClass, message, none, false, false, false⟩

def permanent (errorClass message : String) : HandlerFailure :=
  ⟨false, errorClass, message, none, false, false, false⟩

def defer (errorClass message : String) (deferUntil : Time) : HandlerFailure :=
  ⟨true, errorClass, message, some deferUntil, false, false, false⟩

def retryableWithoutConsumingAttempt (errorClass message : String) : HandlerFailure :=
  ⟨true, errorClass, message, none, false, true, false⟩

def storageReconciliationRequired (message : String) : HandlerFailure :=
  ⟨false, "storage_upload_unknown", message, none, false, false, true⟩

end HandlerFailure

/-- The settlement `finish_job` requests, or none when the leased job is left
    for stale reconciliation. -/
def finishSettlement (now : Time) (failure : HandlerFailure) : Option JobSettlement :=
  if failure.requiresStorageReconciliation then none
  else match failure.deferUntil with
    | some deferUntil =>
      some (.defer deferUntil failure.errorClass failure.message
        failure.deferWithoutConsumingAttempt)
    | none =>
      if failure.retryable then
        some (.retry (now + second) failure.errorClass failure.message
          failure.retryWithoutConsumingAttempt)
      else some (.fail failure.errorClass failure.message)

def shutdownSettlement (now : Time) : JobSettlement :=
  .retry now "worker_shutdown" "worker stopped while the job was active" false

/-- How a database call ends for its caller: with its answer, without having
    been applied, or applied with the answer lost. -/
inductive CallOutcome where
  | answered | notApplied | answerLost
  deriving DecidableEq, Repr

def CallOutcome.applied : CallOutcome → Bool
  | .notApplied => false
  | _ => true

/-- The state after a call with this result, and what its caller does next: an
    answer that did not arrive reads as the error `lost`. -/
def CallOutcome.conclude {σ ε α β : Type} (outcome : CallOutcome) (s : σ) (lost : ε)
    (result : Except ε (σ × α)) (next : Except ε α → β) : σ × β :=
  match outcome with
  | .answered => (committed s result, next (result.map (·.2)))
  | .notApplied => (s, next (.error lost))
  | .answerLost => (committed s result, next (.error lost))

/-- A call leaves the state it found, or commits its result; it is answered
    with that result or with the error. -/
theorem CallOutcome.conclude_cases {σ ε α β : Type} (outcome : CallOutcome) (s : σ) (lost : ε)
    (result : Except ε (σ × α)) (next : Except ε α → β) :
    (∃ error, outcome.conclude s lost result next = (s, next (.error error))) ∨
      ∃ t answer, result = .ok (t, answer) ∧
        (outcome.conclude s lost result next = (t, next (.ok answer)) ∨
          outcome.conclude s lost result next = (t, next (.error lost))) := by
  cases outcome with
  | notApplied => exact Or.inl ⟨lost, rfl⟩
  | answered =>
    cases result with
    | error e => exact Or.inl ⟨e, rfl⟩
    | ok pair => exact Or.inr ⟨pair.1, pair.2, rfl, Or.inl rfl⟩
  | answerLost =>
    cases result with
    | error e => exact Or.inl ⟨lost, rfl⟩
    | ok pair => exact Or.inr ⟨pair.1, pair.2, rfl, Or.inr rfl⟩

end Sooqa.Worker
