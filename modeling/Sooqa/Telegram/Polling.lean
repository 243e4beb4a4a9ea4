import Sooqa.Foundation.Transition
import Sooqa.Telegram.Service

/-!
The polling loop. It asks for the updates from its offset on, handles them in
order with a bounded number of attempts each, and moves its offset past an
update that was handled. Asking from an offset tells Telegram to forget every
update below it.
-/
namespace Sooqa.Telegram
open Foundation

section Model

inductive PollingError where
  | terminal (text : String)
  | transient (text : String)
  deriving DecidableEq, Repr

def PollingError.isTerminal : PollingError → Bool
  | .terminal _ => true
  | .transient _ => false

/-- Why the supervisor gave up. -/
inductive RuntimeError where
  | polling (error : PollingError)
  | update (error : TelegramError)
  deriving DecidableEq, Repr

/-- The control calls, each repeated until it succeeds. -/
inductive Stage where
  | storagePreflight | startup | polling
  deriving DecidableEq, Repr

inductive Phase where
  | calling (stage : Stage)
  | handling (update : Update) (rest : List Update)
  | waiting (stage : Stage)
  | stopped (result : Except RuntimeError Unit)

/-- The next update of a batch, or the next poll. -/
def nextUpdate : List Update → Phase
  | [] => .calling .polling
  | update :: rest => .handling update rest

structure Runtime where
  offset : Int
  phase : Phase
  limiter : Limiter
  clock : Nat
  /-- Everything the handlers asked of the outside world, oldest first. -/
  effects : List Effect

def maxHandlerAttempts : Nat := 5

variable (config : Config) (asOffset : Nat → Int)

/-- Attempts from `attempt` on, with `left` more of them allowed after it. -/
def tryFrom (answers : Nat → Answers) (update : Update) : (left attempt : Nat) → Limiter →
    Handled Int
  | 0, attempt, limiter =>
    let handled := handleUpdate config limiter (answers attempt) update
    match handled.result with
    | .ok _ => ⟨.ok (asOffset update.id), handled.limiter, handled.effects⟩
    | .error error => ⟨.error error, handled.limiter, handled.effects⟩
  | left + 1, attempt, limiter =>
    let handled := handleUpdate config limiter (answers attempt) update
    match handled.result with
    | .ok _ => ⟨.ok (asOffset update.id), handled.limiter, handled.effects⟩
    | .error _ =>
      let later := tryFrom answers update left (attempt + 1) handled.limiter
      ⟨later.result, later.limiter, handled.effects ++ later.effects⟩

def handleUpdateWithRetries (answers : Nat → Answers) (update : Update) (limiter : Limiter) :
    Handled Int :=
  tryFrom config asOffset answers update (maxHandlerAttempts - 1) 1 limiter

/-- Readings of a clock that does not run backwards. -/
def Ticks (clock : Nat) (answers : Nat → Answers) : Prop :=
  clock ≤ (answers 1).now ∧
    ∀ attempt ∈ [1, 2, 3, 4], (answers attempt).now ≤ (answers (attempt + 1)).now

instance (clock : Nat) (answers : Nat → Answers) : Decidable (Ticks clock answers) := by
  unfold Ticks
  infer_instance

inductive Event where
  | shutdown
  | called (result : Except PollingError Unit)
  | updates (result : Except PollingError (List Update))
  | handled (answers : Nat → Answers)
  | waited

/-- A control call that failed is repeated, unless repeating cannot help. -/
def Runtime.afterError (s : Runtime) (stage : Stage) (error : PollingError) : Runtime :=
  if error.isTerminal then { s with phase := .stopped (.error (.polling error)) }
  else { s with phase := .waiting stage }

def Runtime.afterCall (s : Runtime) (stage next : Stage) (result : Except PollingError Unit) :
    Runtime :=
  match result with
  | .ok () => { s with phase := .calling next }
  | .error error => s.afterError stage error

def Runtime.afterUpdate (s : Runtime) (rest : List Update) (clock : Nat)
    (handled : Handled Int) : Runtime :=
  let s := { s with limiter := handled.limiter, clock, effects := s.effects ++ handled.effects }
  match handled.result with
  | .ok nextOffset => { s with offset := nextOffset, phase := nextUpdate rest }
  | .error error =>
    if isTerminalBotError error then { s with phase := .stopped (.error (.update error)) }
    -- The rest of the batch is dropped and the offset retained.
    else { s with phase := .waiting .polling }

def Runtime.step (s : Runtime) : Event → Option Runtime
  | .shutdown =>
    match s.phase with
    | .calling _ | .waiting _ => some { s with phase := .stopped (.ok ()) }
    | _ => none
  | .called result =>
    match s.phase with
    | .calling .storagePreflight => some (s.afterCall .storagePreflight .startup result)
    | .calling .startup => some (s.afterCall .startup .polling result)
    | _ => none
  | .updates result =>
    match s.phase with
    | .calling .polling =>
      match result with
      | .ok updates => some { s with phase := nextUpdate updates }
      | .error error => some (s.afterError .polling error)
    | _ => none
  | .handled answers =>
    match s.phase with
    | .handling update rest =>
      if Ticks s.clock answers then
        some (s.afterUpdate rest (answers maxHandlerAttempts).now
          (handleUpdateWithRetries config asOffset answers update s.limiter))
      else none
    | _ => none
  | .waited =>
    match s.phase with
    | .waiting stage => some { s with phase := .calling stage }
    | _ => none

def Runtime.initial (storageChatId : Option Int) : Runtime :=
  { offset := 0
    phase := .calling (if storageChatId.isSome then .storagePreflight else .startup)
    limiter := fun _ => none
    clock := 0
    effects := [] }

/-- The runtime together with a record of the updates it was sent and of those
    it handled successfully. -/
structure World extends Runtime where
  delivered : List Nat
  done : List Nat

def World.deliver (w : World) : Event → List Nat
  | .updates (.ok updates) => w.delivered ++ updates.map Update.id
  | _ => w.delivered

def World.finish (w : World) : Event → List Nat
  | .handled answers =>
    match w.phase with
    | .handling update _ =>
      match (handleUpdateWithRetries config asOffset answers update w.limiter).result with
      | .ok _ => update.id :: w.done
      | .error _ => w.done
    | _ => w.done
  | _ => w.done

def World.step (w : World) (event : Event) : Option World :=
  (w.toRuntime.step config asOffset event).map fun s =>
    { toRuntime := s, delivered := w.deliver event, done := w.finish config asOffset event }

def World.initial (storageChatId : Option Int) : World :=
  { toRuntime := Runtime.initial storageChatId, delivered := [], done := [] }

end Model

end Sooqa.Telegram
