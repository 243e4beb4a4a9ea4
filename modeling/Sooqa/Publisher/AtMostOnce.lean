import Sooqa.Publisher.Revision

/-!
At most one effective send per post. A request stays dangerous from its
dispatch on unless Telegram refused it. Every request carries the token of the
claim it was sent under; a claim keeps at most one dangerous request, and a
post that is not sending, published or unknown has none and nobody left who
could still send one.
-/
namespace Sooqa.Publisher
open Foundation Queue Worker

variable {w w' : World} {p : Uuid} {act : Action}

/-- The request has produced a message or may still do so. -/
def Flight.live (flight : Flight) : Prop := flight.fate ≠ some .refused

/-- The claim under which an attempt may still dispatch a request. -/
def Phase.mayStillSend : Phase → Option PublishClaim
  | .claimed c | .prepared c _ | .copying c _ _ | .fallingBack c _ | .sendingFile c _ => some c
  | _ => none

theorem mayStillSend_claim {phase : Phase} {c : PublishClaim}
    (h : phase.mayStillSend = some c) : phase.claim? = some c := by
  cases phase <;> simp_all [Phase.mayStillSend, Phase.claim?]

/-- No dangerous request of the post carries this token. -/
def Unsent (flights : Table Uuid Flight) (p token : Uuid) : Prop :=
  ∀ f x, flights.get f = some x → x.postId = p → x.token = token → ¬ x.live

/-- What an attempt's phase says about the requests of its claim. -/
def Accounts (flights : Table Uuid Flight) (p : Uuid) : Phase → Prop
  | .claimed c | .prepared c _ | .fallingBack c _ | .retrying c _ _ => Unsent flights p c.token
  | .failing c state _ _ => state = .unknown ∨ Unsent flights p c.token
  | .copying c _ f | .sendingFile c f =>
    ∀ g x, flights.get g = some x → x.postId = p → x.token = c.token → x.live → g = f
  | _ => True

/-- No two attempts of the post hold one claim. -/
def ClaimsApart (attempts : Table Uuid Attempt) (p : Uuid) : Prop :=
  ∀ t u a b c d, attempts.get t = some a → attempts.get u = some b →
    a.postId = p → b.postId = p → a.phase.claim? = some c → b.phase.claim? = some d →
    c.token = d.token → t = u

/-- The requests of one post, by claim. -/
structure Ledger (w : World) (p : Uuid) : Prop where
  claims : ClaimsApart w.attempts p
  accounts : ∀ t a, w.attempts.get t = some a → a.postId = p → Accounts w.flights p a.phase
  single : ∀ f g x y, w.flights.get f = some x → w.flights.get g = some y → x.postId = p →
    y.postId = p → x.token = y.token → x.live → y.live → f = g

/-- Nothing was sent for the post that counts, and nobody is about to. -/
structure Dormant (w : World) (p : Uuid) : Prop where
  flights : ∀ f x, w.flights.get f = some x → x.postId = p → ¬ x.live
  attempts : ∀ t a, w.attempts.get t = some a → a.postId = p → a.phase.mayStillSend = none

/-- Whatever was or may be sent for the post is sent under one claim. -/
structure BoundTo (w : World) (p token : Uuid) : Prop where
  flights : ∀ f x, w.flights.get f = some x → x.postId = p → x.live → x.token = token
  attempts : ∀ t a c, w.attempts.get t = some a → a.postId = p →
    a.phase.mayStillSend = some c → c.token = token

/-- What the state of a post says about its requests. -/
def Bound (w : World) (p : Uuid) : Option PostState → Prop
  | some (.sending token _) => BoundTo w p token
  | some .published | some .unknown => ∃ token, BoundTo w p token
  | _ => Dormant w p

structure Once (w : World) (p : Uuid) : Prop where
  ledger : Ledger w p
  bound : Bound w p ((w.db.posts.get p).map (·.state))

theorem dormant_boundTo (dormant : Dormant w p) (token : Uuid) : BoundTo w p token where
  flights := fun f x found own live => absurd live (dormant.flights f x found own)
  attempts := by
    intro t a c found own held
    rw [dormant.attempts t a found own] at held
    cases held

/-- In every state the post is bound to some claim. -/
theorem bound_boundTo {state : Option PostState} (bound : Bound w p state) :
    ∃ token, BoundTo w p token := by
  unfold Bound at bound
  split at bound
  · rename_i token startedAt
    exact ⟨token, bound⟩
  · exact bound
  · exact bound
  · exact ⟨0, dormant_boundTo bound 0⟩

theorem bound_dormant {state : PostState} (bound : Bound w p (some state))
    (editable : state.isQueueMutable = true) : Dormant w p := by
  cases state <;> simp_all [Bound, PostState.isQueueMutable]

theorem bound_sending {state : PostState} {token : Uuid} (bound : Bound w p (some state))
    (sending : state.sendToken = some token) : BoundTo w p token := by
  cases state <;> simp_all [Bound, PostState.sendToken]

/-- The requests and attempts of the post after a step are among those before. -/
structure Shrinks (w w' : World) (p : Uuid) : Prop where
  attempts : ∀ t a, w'.attempts.get t = some a → a.postId = p → a.phase.claim? = none ∨
    ∃ old, w.attempts.get t = some old ∧ old.postId = p ∧ old.phase = a.phase
  flights : ∀ f x, w'.flights.get f = some x → x.postId = p → x.live →
    ∃ old, w.flights.get f = some old ∧ old.postId = p ∧ old.token = x.token ∧ old.live

section Shrinking
variable (shrinks : Shrinks w w' p)
include shrinks

theorem unsent_shrinks {token : Uuid} (unsent : Unsent w.flights p token) :
    Unsent w'.flights p token := by
  intro f x found own same live
  obtain ⟨old, before, home, kept, was⟩ := shrinks.flights f x found own live
  exact unsent f old before home (kept.trans same) was

theorem accounts_shrinks {phase : Phase} (accounts : Accounts w.flights p phase) :
    Accounts w'.flights p phase := by
  have only : ∀ (c : PublishClaim) (f : Uuid),
      (∀ g x, w.flights.get g = some x → x.postId = p → x.token = c.token → x.live → g = f) →
      ∀ g x, w'.flights.get g = some x → x.postId = p → x.token = c.token → x.live → g = f := by
    intro c f unique g x found own same live
    obtain ⟨old, before, home, kept, was⟩ := shrinks.flights g x found own live
    exact unique g old before home (kept.trans same) was
  cases phase <;>
    first
      | exact unsent_shrinks shrinks accounts
      | exact Or.imp_right (unsent_shrinks shrinks) accounts
      | exact only _ _ accounts
      | trivial

theorem ledger_shrinks (ledger : Ledger w p) : Ledger w' p where
  claims := by
    intro t u a b c d first second ownA ownB heldA heldB same
    rcases shrinks.attempts t a first ownA with none | ⟨a', beforeA, homeA, phaseA⟩
    · rw [none] at heldA
      cases heldA
    rcases shrinks.attempts u b second ownB with none | ⟨b', beforeB, homeB, phaseB⟩
    · rw [none] at heldB
      cases heldB
    exact ledger.claims t u a' b' c d beforeA beforeB homeA homeB (by rw [phaseA, heldA])
      (by rw [phaseB, heldB]) same
  accounts := by
    intro t a found own
    rcases shrinks.attempts t a found own with none | ⟨old, before, home, phase⟩
    · revert none
      cases a.phase <;> simp [Phase.claim?, Accounts]
    · rw [← phase]
      exact accounts_shrinks shrinks (ledger.accounts t old before home)
  single := by
    intro f g x y first second ownX ownY same liveX liveY
    obtain ⟨x', beforeX, homeX, tokenX, wasX⟩ := shrinks.flights f x first ownX liveX
    obtain ⟨y', beforeY, homeY, tokenY, wasY⟩ := shrinks.flights g y second ownY liveY
    exact ledger.single f g x' y' beforeX beforeY homeX homeY (by rw [tokenX, tokenY, same])
      wasX wasY

theorem dormant_shrinks (dormant : Dormant w p) : Dormant w' p where
  flights := by
    intro f x found own live
    obtain ⟨old, before, home, -, was⟩ := shrinks.flights f x found own live
    exact dormant.flights f old before home was
  attempts := by
    intro t a found own
    rcases shrinks.attempts t a found own with none | ⟨old, before, home, phase⟩
    · cases held : a.phase.mayStillSend with
      | none => rfl
      | some c =>
        rw [mayStillSend_claim held] at none
        cases none
    · rw [← phase]
      exact dormant.attempts t old before home

theorem boundTo_shrinks {token : Uuid} (bound : BoundTo w p token) : BoundTo w' p token where
  flights := by
    intro f x found own live
    obtain ⟨old, before, home, kept, was⟩ := shrinks.flights f x found own live
    rw [← kept]
    exact bound.flights f old before home was
  attempts := by
    intro t a c found own held
    rcases shrinks.attempts t a found own with none | ⟨old, before, home, phase⟩
    · rw [mayStillSend_claim held] at none
      cases none
    · exact bound.attempts t old c before home (by rw [phase, held])

theorem bound_shrinks {state : Option PostState} (bound : Bound w p state) : Bound w' p state := by
  unfold Bound at bound ⊢
  split at bound
  · exact boundTo_shrinks shrinks bound
  · exact bound.imp (fun _ => boundTo_shrinks shrinks)
  · exact bound.imp (fun _ => boundTo_shrinks shrinks)
  · exact dormant_shrinks shrinks bound

theorem once_shrinks (once : Once w p)
    (post : w'.db.posts.get p = w.db.posts.get p) : Once w' p :=
  ⟨ledger_shrinks shrinks once.ledger, by rw [post]; exact bound_shrinks shrinks once.bound⟩

end Shrinking

section Parts
variable {db' : Db} {t : Uuid} {attempt : Attempt} {next : Phase}

theorem shrinks_refl : Shrinks w { w with db := db' } p where
  attempts := fun _ a found own => Or.inr ⟨a, found, own, rfl⟩
  flights := fun _ x found own live => ⟨x, found, own, rfl, live⟩

theorem shrinks_bystander {q : Uuid} (same : Bystander w w' q) : Shrinks w w' q where
  attempts := fun t a found own => Or.inr ⟨a, (same.attempts t a own).mp found, own, rfl⟩
  flights := fun f x found own live => ⟨x, (same.flights f x own).mp found, own, rfl, live⟩

theorem shrinks_retire : Shrinks w (w.retire t db') p where
  attempts := by
    intro u a found own
    simp only [World.retire, Table.get_remove] at found
    split at found
    · cases found
    · exact Or.inr ⟨a, found, own, rfl⟩
  flights := fun _ x found own live => ⟨x, found, own, rfl, live⟩

/-- Filing an attempt without a claim adds nothing to account for. -/
theorem shrinks_set {a : Attempt} (free : a.phase.claim? = none) :
    Shrinks w { w with db := db', attempts := w.attempts.set t a } p where
  attempts := by
    intro u b found own
    simp only [Table.get_set] at found
    split at found
    · cases found
      exact Or.inl free
    · exact Or.inr ⟨b, found, own, rfl⟩
  flights := fun _ x found own live => ⟨x, found, own, rfl, live⟩

theorem shrinks_advance (free : next.claim? = none) : Shrinks w (w.advance t attempt db' next) p :=
  shrinks_set (a := { attempt with phase := next }) free

theorem shrinks_landed {f : Uuid} {flight : Flight} {fate : Fate}
    (sent : w.flights.get f = some flight) (pending : flight.fate = none) :
    Shrinks w { w with flights := w.flights.set f { flight with fate := some fate } } p where
  attempts := fun _ a found own => Or.inr ⟨a, found, own, rfl⟩
  flights := by
    intro g x found own live
    simp only [Table.get_set] at found
    split at found
    · rename_i here
      cases found
      exact ⟨flight, by rw [here, sent], own, rfl, by simp [Flight.live, pending]⟩
    · exact ⟨x, found, own, rfl, live⟩

theorem claimsApart_set {attempts : Table Uuid Attempt} {c : PublishClaim}
    (apart : ClaimsApart attempts p) (found : attempts.get t = some attempt)
    (own : attempt.postId = p) (held : attempt.phase.claim? = some c)
    (kept : next.claim? = some c) :
    ClaimsApart (attempts.set t { attempt with phase := next }) p := by
  have before : ∀ {u : Uuid} {a : Attempt} {d : PublishClaim},
      (attempts.set t { attempt with phase := next }).get u = some a →
      a.phase.claim? = some d → a.postId = p →
      ∃ old, attempts.get u = some old ∧ old.postId = p ∧ old.phase.claim? = some d := by
    intro u a d present claims home
    rw [Table.get_set] at present
    split at present
    · rename_i here
      cases present
      exact ⟨attempt, by rw [here, found], own, by rw [held, ← claims, kept]⟩
    · exact ⟨a, present, home, claims⟩
  intro u v a b d e first second ownA ownB heldA heldB same
  obtain ⟨a', foundA, homeA, claimA⟩ := before first heldA ownA
  obtain ⟨b', foundB, homeB, claimB⟩ := before second heldB ownB
  exact apart u v a' b' d e foundA foundB homeA homeB claimA claimB same

/-- An attempt that keeps its claim and accounts for it in the new phase. -/
theorem ledger_advance {c : PublishClaim} (ledger : Ledger w p)
    (found : w.attempts.get t = some attempt) (own : attempt.postId = p)
    (held : attempt.phase.claim? = some c) (kept : next.claim? = some c)
    (accounts : Accounts w.flights p next) : Ledger (w.advance t attempt db' next) p where
  claims := claimsApart_set ledger.claims found own held kept
  accounts := by
    intro u a present home
    simp only [World.advance, Table.get_set] at present
    split at present
    · cases present
      exact accounts
    · exact ledger.accounts u a present home
  single := ledger.single

theorem boundTo_advance {token : Uuid} (bound : BoundTo w p token)
    (found : w.attempts.get t = some attempt) (own : attempt.postId = p)
    (keeps : ∀ c, next.mayStillSend = some c → attempt.phase.mayStillSend = some c) :
    BoundTo (w.advance t attempt db' next) p token where
  flights := bound.flights
  attempts := by
    intro u a c present home held
    simp only [World.advance, Table.get_set] at present
    split at present
    · cases present
      exact bound.attempts t attempt c found own (keeps c held)
    · exact bound.attempts u a c present home held

theorem dormant_advance (dormant : Dormant w p) (found : w.attempts.get t = some attempt)
    (own : attempt.postId = p)
    (keeps : ∀ c, next.mayStillSend = some c → attempt.phase.mayStillSend = some c) :
    Dormant (w.advance t attempt db' next) p where
  flights := dormant.flights
  attempts := by
    intro u a present home
    simp only [World.advance, Table.get_set] at present
    split at present
    · cases present
      cases held : next.mayStillSend with
      | none => rfl
      | some c =>
        have was := keeps c held
        rw [dormant.attempts t attempt found own] at was
        cases was
    · exact dormant.attempts u a present home

theorem bound_advance {state : Option PostState} (bound : Bound w p state)
    (found : w.attempts.get t = some attempt) (own : attempt.postId = p)
    (keeps : ∀ c, next.mayStillSend = some c → attempt.phase.mayStillSend = some c) :
    Bound (w.advance t attempt db' next) p state := by
  unfold Bound at bound ⊢
  split at bound
  · exact boundTo_advance bound found own keeps
  · exact bound.imp (fun _ held => boundTo_advance held found own keeps)
  · exact bound.imp (fun _ held => boundTo_advance held found own keeps)
  · exact dormant_advance bound found own keeps

/-- Once the holder of the post's claim accounts for no dangerous request and
    steps back, nobody is left who could send. -/
theorem dormant_of_unsent {c : PublishClaim} (ledger : Ledger w p) (bound : BoundTo w p c.token)
    (found : w.attempts.get t = some attempt) (own : attempt.postId = p)
    (held : attempt.phase.claim? = some c) (unsent : Unsent w.flights p c.token)
    (free : next.mayStillSend = none) : Dormant (w.advance t attempt db' next) p where
  flights := fun f x present home live =>
    unsent f x present home (bound.flights f x present home live) live
  attempts := by
    intro u a present home
    simp only [World.advance, Table.get_set] at present
    split at present
    · cases present
      exact free
    · rename_i ne
      cases sends : a.phase.mayStillSend with
      | none => rfl
      | some d =>
        have same := bound.attempts u a d present home sends
        exact absurd (ledger.claims u t a attempt d c present found home own
          (mayStillSend_claim sends) held same) ne

end Parts

section Moved

theorem bound_of_state {post : Post} {db : Db} (found : db.posts.get p = some post)
    (bound : Bound w p (some post.state)) : Bound w p ((db.posts.get p).map (·.state)) := by
  rw [found]
  exact bound

theorem state_of_bound {post : Post} {db : Db} (found : db.posts.get p = some post)
    (bound : Bound w p ((db.posts.get p).map (·.state))) : Bound w p (some post.state) := by
  rw [found] at bound
  exact bound

theorem bound_of_dormant {state : PostState} (dormant : Dormant w p)
    (idle : state.sendToken = none) : Bound w p (some state) := by
  cases state with
  | published => exact ⟨0, dormant_boundTo dormant 0⟩
  | unknown => exact ⟨0, dormant_boundTo dormant 0⟩
  | sending token startedAt => cases idle
  | draft => exact dormant
  | queued => exact dormant
  | failed => exact dormant
  | cancelled => exact dormant

theorem once_api {db' : Db} (filed : Filed w p) (once : Once w p)
    (write : ApiWrite w.db db' p) : Once { w with db := db' } p := by
  refine ⟨ledger_shrinks shrinks_refl once.ledger, bound_shrinks (w := w) shrinks_refl ?_⟩
  cases write with
  | created post new drawn row job =>
    have unused : Dormant w p := by
      refine ⟨fun f x found own => ?_, fun t a found own => ?_⟩
      · exact absurd (filed.flight f x found own).2.1 (by rw [new]; exact Nat.lt_irrefl _)
      · exact absurd (filed.attempt t a found own).2.2.2 (by rw [new]; exact Nat.lt_irrefl _)
    refine bound_of_state row (bound_of_dormant unused ?_)
    rcases job with ⟨state, -⟩ | ⟨state, -⟩ <;> rw [state] <;> rfl
  | edited old new before after editable revision job =>
    have dormant := bound_dormant (state_of_bound before once.bound) editable
    exact bound_of_state after (bound_of_dormant dormant (editedJob_sendToken job))

theorem bound_released {db' : Db} {job : Job} {terminal : Bool} (once : Once w p)
    (released : Released w.db db' p job terminal) :
    Bound w p ((db'.posts.get p).map (·.state)) := by
  cases released.post with
  | kept same settled =>
    rw [same]
    exact once.bound
  | failed old new write was ended becomes =>
    have dormant := bound_dormant (state_of_bound write.before once.bound) (by rw [was]; rfl)
    exact bound_of_state write.after (bound_of_dormant dormant (by rw [becomes]; rfl))
  | unknown old new write was ended becomes =>
    refine bound_of_state write.after ?_
    rw [becomes]
    exact bound_boundTo once.bound

/-- A new claim starts an account of its own. -/
theorem once_claimed {t : Uuid} {attempt : Attempt} {db' : Db} {claim : PublishClaim} {new : Post}
    {startedAt : Time} (filed : Filed w p) (once : Once w p) (dormant : Dormant w p)
    (token : claim.token = w.db.fresh) (after : db'.posts.get p = some new)
    (becomes : new.state = .sending w.db.fresh startedAt) :
    Once (w.advance t attempt db' (.claimed claim)) p := by
  have unsent : Unsent w.flights p claim.token :=
    fun f x found home _ => dormant.flights f x found home
  have others : ∀ {u a d}, w.attempts.get u = some a → a.postId = p → a.phase.claim? = some d →
      d.token ≠ claim.token := by
    intro u a d found home held same
    have drawn := (filed.claim u a d found home held).2
    rw [same, token] at drawn
    exact Nat.lt_irrefl _ drawn
  refine ⟨⟨?_, ?_, once.ledger.single⟩, ?_⟩
  · intro u v a b c d first second ownA ownB heldA heldB same
    simp only [World.advance, Table.get_set] at first second
    split at first <;> split at second
    · rename_i hereU hereV
      rw [hereU, hereV]
    · cases first
      cases heldA
      exact absurd same.symm (others second ownB heldB)
    · cases second
      cases heldB
      exact absurd same (others first ownA heldA)
    · exact once.ledger.claims u v a b c d first second ownA ownB heldA heldB same
  · intro u a present home
    simp only [World.advance, Table.get_set] at present
    split at present
    · cases present
      exact unsent
    · exact once.ledger.accounts u a present home
  · refine bound_of_state after ?_
    rw [becomes]
    refine ⟨fun f x found home live => absurd live (dormant.flights f x found home), ?_⟩
    intro u a c present home held
    simp only [World.advance, Table.get_set] at present
    split at present
    · cases present
      cases held
      exact token
    · rw [dormant.attempts u a present home] at held
      cases held

theorem once_turned {t : Uuid} {attempt : Attempt} {next : Phase} (once : Once w p)
    (found : w.attempts.get t = some attempt) (own : attempt.postId = p)
    (turn : Turn w.db attempt next) : Once (w.advance t attempt w.db next) p := by
  have accounts := once.ledger.accounts t attempt found own
  have keeps : ∀ {c}, attempt.phase.claim? = some c → next.claim? = some c →
      Accounts w.flights p next →
      (∀ d, next.mayStillSend = some d → attempt.phase.mayStillSend = some d) →
      Once (w.advance t attempt w.db next) p := fun held kept fits sends =>
    ⟨ledger_advance once.ledger found own held kept fits, bound_advance once.bound found own sends⟩
  cases turn with
  | interrupted start sending => exact once_shrinks (shrinks_advance rfl) once rfl
  | dismissed cause => exact once_shrinks (shrinks_advance rfl) once rfl
  | prepared claim request start =>
    rw [start] at accounts
    exact keeps (by rw [start]; rfl) rfl accounts (fun d same => by rw [start]; exact same)
  | unprepared claim errorClass message start =>
    rw [start] at accounts
    exact keeps (by rw [start]; rfl) rfl (Or.inr accounts) (fun d same => by cases same)
  | postponed claim errorClass message start =>
    rw [start] at accounts
    exact keeps (by rw [start]; rfl) rfl accounts (fun d same => by cases same)
  | uncommitted claim messageId message start =>
    exact keeps (by rw [start]; rfl) rfl trivial (fun d same => by cases same)
  | gaveUp failure kind => exact once_shrinks (shrinks_advance rfl) once rfl

theorem once_called {t : Uuid} {attempt : Attempt} {db' : Db} {next : Phase} (filed : Filed w p)
    (once : Once w p) (found : w.attempts.get t = some attempt) (own : attempt.postId = p)
    (effect : CallEffect w.db attempt db' next) : Once (w.advance t attempt db' next) p := by
  have accounts := once.ledger.accounts t attempt found own
  subst own
  -- the claim of the attempt is the one the post is sending under
  have bound : ∀ {old : Post} {claim : PublishClaim}, w.db.posts.get attempt.postId = some old →
      holdsClaim old (attempt.publishLease claim) = true → BoundTo w attempt.postId claim.token :=
    fun before holds => bound_sending (state_of_bound before once.bound) (holdsClaim_sendToken holds)
  have ended : ∀ {new : Post}, db'.posts.get attempt.postId = some new → next.claim? = none →
      Bound w attempt.postId (some new.state) →
      Once (w.advance t attempt db' next) attempt.postId := fun after free state =>
    ⟨ledger_shrinks (shrinks_advance free) once.ledger,
      bound_of_state after (bound_shrinks (shrinks_advance free) state)⟩
  have withdrawn : ∀ {new old : Post} {claim : PublishClaim},
      db'.posts.get attempt.postId = some new → w.db.posts.get attempt.postId = some old →
      holdsClaim old (attempt.publishLease claim) = true → attempt.phase.claim? = some claim →
      next.claim? = none → next.mayStillSend = none → new.state.sendToken = none →
      Unsent w.flights attempt.postId claim.token →
      Once (w.advance t attempt db' next) attempt.postId := fun after before holds held free
      silent idle unsent =>
    ⟨ledger_shrinks (shrinks_advance free) once.ledger,
      bound_of_state after (bound_of_dormant
        (dormant_of_unsent once.ledger (bound before holds) found rfl held unsent silent) idle)⟩
  cases effect with
  | turned same turn =>
    subst same
    exact once_turned once found rfl turn
  | claimed old new startedAt write jobs start alive was becomes drawn turn =>
    have dormant := bound_dormant (state_of_bound write.before once.bound) (by rw [was]; rfl)
    rcases turn with ⟨claim, rfl, post, token, row⟩ | ⟨failure, rfl, -⟩
    · exact once_claimed filed once dormant token write.after becomes
    · refine ended write.after rfl ?_
      rw [becomes]
      exact dormant_boundTo dormant _
  | reconciled old new write jobs start alive was becomes turn =>
    have free : next.claim? = none := by
      rcases turn with rfl | ⟨failure, rfl, -⟩ <;> rfl
    refine ended write.after free ?_
    rw [becomes]
    exact bound_boundTo once.bound
  | completed old new claim messageId write jobs start alive holds becomes turn =>
    rcases turn with rfl | ⟨message, rfl⟩
    · refine ended write.after rfl ?_
      rw [becomes]
      exact ⟨claim.token, bound write.before holds⟩
    · refine ⟨ledger_advance once.ledger found rfl (by rw [start]; rfl) rfl trivial,
        bound_of_state write.after ?_⟩
      rw [becomes]
      exact ⟨claim.token, boundTo_advance (bound write.before holds) found rfl
        (fun d same => by cases same)⟩
  | failed old new claim state write jobs start alive holds outcome becomes turn =>
    obtain ⟨failure, rfl, -⟩ := turn
    by_cases unknown : state = .unknown
    · refine ended write.after rfl ?_
      rw [becomes, unknown]
      exact ⟨claim.token, bound write.before holds⟩
    · obtain ⟨errorClass, message, phase⟩ := start.resolve_right (fun fenced => unknown fenced.1)
      rw [phase] at accounts
      have failed := outcome.resolve_right unknown
      exact withdrawn write.after write.before holds (by rw [phase]; rfl) rfl rfl
        (by rw [becomes, failed]; rfl) (accounts.resolve_left unknown)
  | retried old new claim terminal job job' write start current holds becomes after kept payload
      now turn =>
    obtain ⟨failure, rfl, -⟩ := turn
    obtain ⟨errorClass, message, phase⟩ := start
    rw [phase] at accounts
    refine withdrawn write.after write.before holds (by rw [phase]; rfl) rfl rfl ?_ accounts
    rw [becomes]
    split <;> rfl

/-- An error without effect was answered by a refusal, so nothing of the claim
    is dangerous any more. -/
theorem unsent_of_refused {flights : Table Uuid Flight} {f : Uuid} {flight : Flight}
    {claim : PublishClaim} (sent : flights.get f = some flight)
    (only : ∀ g x, flights.get g = some x → x.postId = p → x.token = claim.token → x.live → g = f)
    (refused : flight.fate = some .refused) : Unsent flights p claim.token := by
  intro g x found home same live
  have here := only g x found home same live
  rw [here, sent] at found
  cases found
  exact live refused

theorem accounts_transportError {flights : Table Uuid Flight} {flight : Flight} {f : Uuid}
    {claim : PublishClaim} {error : TelegramError} (sent : flights.get f = some flight)
    (only : ∀ g x, flights.get g = some x → x.postId = p → x.token = claim.token → x.live → g = f)
    (possible : answerable flight (.error error) = true) :
    Accounts flights p (afterTransportError claim error) := by
  have quiet : error.noEffect = true → Unsent flights p claim.token := by
    intro none
    refine unsent_of_refused sent only ?_
    simpa [answerable, none] using possible
  unfold afterTransportError
  split
  · rename_i retryable
    exact quiet (by simp [TelegramError.noEffect, retryable])
  · split
    · rename_i caption
      exact Or.inr (quiet (by simp [TelegramError.noEffect, caption]))
    · split
      · exact Or.inl rfl
      · rename_i ambiguous
        exact Or.inr (quiet (by simp [TelegramError.noEffect, ambiguous]))

theorem once_answered {t f : Uuid} {attempt : Attempt} {flight : Flight} {answer : TelegramAnswer}
    {next : Phase} (once : Once w p) (found : w.attempts.get t = some attempt)
    (own : attempt.postId = p) (sent : w.flights.get f = some flight)
    (possible : answerable flight answer = true)
    (turn : (∃ claim request, attempt.phase = .copying claim request f ∧
        next = afterCopy claim request answer) ∨
      ∃ claim, attempt.phase = .sendingFile claim f ∧ next = afterFile claim answer) :
    Once (w.advance t attempt w.db next) p := by
  have accounts := once.ledger.accounts t attempt found own
  obtain ⟨claim, held, kept, fits, sends⟩ : ∃ claim, attempt.phase.claim? = some claim ∧
      next.claim? = some claim ∧ Accounts w.flights p next ∧
      ∀ d, next.mayStillSend = some d → attempt.phase.mayStillSend = some d := by
    rcases turn with ⟨claim, request, phase, rfl⟩ | ⟨claim, phase, rfl⟩
    · rw [phase] at accounts
      refine ⟨claim, by rw [phase]; rfl, afterCopy_claim claim request answer, ?_, ?_⟩
      · cases answer with
        | sent messageId => trivial
        | error error =>
          simp only [afterCopy]
          split
          · rename_i unavailable
            have unsent : Unsent w.flights p claim.token := by
              refine unsent_of_refused sent accounts ?_
              simpa [answerable, TelegramError.noEffect, unavailable] using possible
            split
            · exact Or.inr unsent
            · exact unsent
          · exact accounts_transportError sent accounts possible
      · intro d same
        rw [phase]
        have kept := mayStillSend_claim same
        rw [afterCopy_claim] at kept
        exact kept
    · rw [phase] at accounts
      refine ⟨claim, by rw [phase]; rfl, afterFile_claim claim answer, ?_, ?_⟩
      · cases answer with
        | sent messageId => trivial
        | error error => exact accounts_transportError sent accounts possible
      · intro d same
        rw [phase]
        have kept := mayStillSend_claim same
        rw [afterFile_claim] at kept
        exact kept
  exact ⟨ledger_advance once.ledger found own held kept fits,
    bound_advance once.bound found own sends⟩

section Launch
variable {t : Uuid} {attempt : Attempt} {claim : PublishClaim} {next : Uuid → Phase}

theorem launch_flight {g : Uuid} {x : Flight}
    (present : (w.launch t attempt claim next).flights.get g = some x) :
    (g = w.db.fresh ∧ x.token = claim.token) ∨ w.flights.get g = some x := by
  simp only [World.launch, Table.get_set] at present
  split at present
  · rename_i here
    cases present
    exact Or.inl ⟨here, rfl⟩
  · exact Or.inr present

theorem unsent_launch {token : Uuid} (ne : claim.token ≠ token) (unsent : Unsent w.flights p token) :
    Unsent (w.launch t attempt claim next).flights p token := by
  intro g x present home same live
  rcases launch_flight present with ⟨-, new⟩ | old
  · exact ne (new.symm.trans same)
  · exact unsent g x old home same live

/-- The new request does not enter the accounts of another claim. -/
theorem accounts_launch {phase : Phase} (accounts : Accounts w.flights p phase)
    (differs : ∀ d, phase.claim? = some d → claim.token ≠ d.token) :
    Accounts (w.launch t attempt claim next).flights p phase := by
  have only : ∀ {d : PublishClaim} {f : Uuid}, claim.token ≠ d.token →
      (∀ g x, w.flights.get g = some x → x.postId = p → x.token = d.token → x.live → g = f) →
      ∀ g x, (w.launch t attempt claim next).flights.get g = some x → x.postId = p →
        x.token = d.token → x.live → g = f := by
    intro d f ne unique g x present home same live
    rcases launch_flight present with ⟨-, new⟩ | old
    · exact absurd (new.symm.trans same) ne
    · exact unique g x old home same live
  cases phase with
  | claimed c => exact unsent_launch (differs c rfl) accounts
  | prepared c request => exact unsent_launch (differs c rfl) accounts
  | fallingBack c request => exact unsent_launch (differs c rfl) accounts
  | retrying c errorClass message => exact unsent_launch (differs c rfl) accounts
  | failing c state errorClass message => exact accounts.imp_right (unsent_launch (differs c rfl))
  | copying c request f => exact only (differs c rfl) accounts
  | sendingFile c f => exact only (differs c rfl) accounts
  | started => trivial
  | interrupted => trivial
  | sent c messageId => trivial
  | commitFailed c message => trivial
  | returned result => trivial

theorem boundTo_launch {token : Uuid} (bound : BoundTo w p token)
    (found : w.attempts.get t = some attempt) (own : attempt.postId = p)
    (sends : attempt.phase.mayStillSend = some claim)
    (kept : (next w.db.fresh).claim? = some claim) :
    BoundTo (w.launch t attempt claim next) p token where
  flights := by
    intro g x present home live
    rcases launch_flight present with ⟨-, new⟩ | old
    · rw [new]
      exact bound.attempts t attempt claim found own sends
    · exact bound.flights g x old home live
  attempts := by
    intro u a c present home still
    simp only [World.launch, Table.get_set] at present
    split at present
    · cases present
      have same := mayStillSend_claim still
      rw [kept] at same
      cases same
      exact bound.attempts t attempt claim found own sends
    · exact bound.attempts u a c present home still

theorem ledger_launch (ledger : Ledger w p) (found : w.attempts.get t = some attempt)
    (own : attempt.postId = p) (held : attempt.phase.claim? = some claim)
    (kept : (next w.db.fresh).claim? = some claim) (unsent : Unsent w.flights p claim.token)
    (dispatched : (∀ g x, (w.launch t attempt claim next).flights.get g = some x → x.postId = p →
      x.token = claim.token → x.live → g = w.db.fresh) →
      Accounts (w.launch t attempt claim next).flights p (next w.db.fresh)) :
    Ledger (w.launch t attempt claim next) p where
  claims := claimsApart_set ledger.claims found own held kept
  accounts := by
    intro u a present home
    simp only [World.launch, Table.get_set] at present
    split at present
    · cases present
      refine dispatched (fun g x here same token live => ?_)
      rcases launch_flight here with ⟨now, -⟩ | old
      · exact now
      · exact absurd live (unsent g x old same token)
    · rename_i ne
      refine accounts_launch (ledger.accounts u a present home) (fun d other shared => ?_)
      exact ne (ledger.claims u t a attempt d claim present found home own other held shared.symm)
  single := by
    intro f g x y first second ownX ownY same liveX liveY
    rcases launch_flight first with ⟨hereF, newF⟩ | oldF <;>
      rcases launch_flight second with ⟨hereG, newG⟩ | oldG
    · rw [hereF, hereG]
    · exact absurd liveY (unsent g y oldG ownY (same.symm.trans newF))
    · exact absurd liveX (unsent f x oldF ownX (same.trans newG))
    · exact ledger.single f g x y oldF oldG ownX ownY same liveX liveY

/-- A dispatch turns the right to send into the one request of its claim. -/
theorem once_launched (once : Once w p) (found : w.attempts.get t = some attempt)
    (own : attempt.postId = p)
    (turn : (∃ request, attempt.phase = .prepared claim request ∧
        next = .copying claim request) ∨
      ∃ request, attempt.phase = .fallingBack claim request ∧ next = .sendingFile claim) :
    Once (w.launch t attempt claim next) p := by
  have accounts := once.ledger.accounts t attempt found own
  obtain ⟨unsent, held, sends, kept⟩ : Unsent w.flights p claim.token ∧
      attempt.phase.claim? = some claim ∧ attempt.phase.mayStillSend = some claim ∧
      (next w.db.fresh).claim? = some claim := by
    rcases turn with ⟨request, phase, rfl⟩ | ⟨request, phase, rfl⟩ <;>
    · rw [phase] at accounts ⊢
      exact ⟨accounts, rfl, rfl, rfl⟩
  have bounds : ∀ token, BoundTo w p token → BoundTo (w.launch t attempt claim next) p token :=
    fun token bound => boundTo_launch bound found own sends kept
  refine ⟨ledger_launch once.ledger found own held kept unsent ?_, ?_⟩
  · intro only
    rcases turn with ⟨request, -, rfl⟩ | ⟨request, -, rfl⟩ <;> exact only
  · have bound := once.bound
    show Bound (w.launch t attempt claim next) p ((w.db.posts.get p).map (·.state))
    unfold Bound at bound ⊢
    split at bound
    · exact bounds _ bound
    · exact bound.imp bounds
    · exact bound.imp bounds
    · have none := bound.attempts t attempt found own
      rw [sends] at none
      cases none

end Launch

theorem once_move (filed : Filed w p) (once : Once w p) (move : Move w p act w') : Once w' p := by
  cases move with
  | api write elsewhere => exact once_api filed once write
  | renewed job job' columns before running unexpired after same command posts clock =>
    exact once_shrinks shrinks_refl once (by simp only [posts])
  | pruned job before ended after post posts clock =>
    exact once_shrinks shrinks_refl once (by simp only [posts])
  | recovered job lock released =>
    exact ⟨ledger_shrinks shrinks_refl once.ledger,
      bound_shrinks (w := w) shrinks_refl (bound_released once released)⟩
  | leased job job' lease revision columns before was after running token held payload same posts
      clock => exact once_shrinks (shrinks_set rfl) once (by simp only [posts])
  | called attempt found own effect => exact once_called filed once found own effect
  | answered attempt flight answer next found own sent answerable turn =>
    exact once_answered once found own sent answerable turn
  | launched attempt claim next found own turn => exact once_launched once found own turn
  | landed flight fate sent own pending => exact once_shrinks (shrinks_landed sent pending) once rfl
  | dropped attempt found own => exact once_shrinks shrinks_retire once rfl
  | completed attempt job job' found own phase before held after done posts clock =>
    exact once_shrinks shrinks_retire once (by simp only [World.retire, posts])
  | settled attempt failure settlement job found own phase asks lock released =>
    exact ⟨ledger_shrinks shrinks_retire once.ledger,
      bound_shrinks (w := w) shrinks_retire (bound_released once released)⟩
  | stopped attempt job found own applied lock released =>
    exact ⟨ledger_shrinks shrinks_retire once.ledger,
      bound_shrinks (w := w) shrinks_retire (bound_released once released)⟩

end Moved

theorem once_initial (p : Uuid) : Once initial p := by
  refine ⟨⟨?_, ?_, ?_⟩, ⟨?_, ?_⟩⟩
  · intro t u a b c d found
    cases found
  · intro t a found
    cases found
  · intro f g x y found
    cases found
  · intro f x found
    cases found
  · intro t a found
    cases found

theorem run_once {calendar : Calendar} {allowed : World → Action → Prop} {acts : List Action}
    (run : Run (step calendar) allowed initial acts w) (p : Uuid) : Filed w p ∧ Once w p :=
  run_posts Once (fun _ same once => once_shrinks (shrinks_bystander same) once same.post)
    (fun filed once _ move => once_move filed once move) filed_initial once_initial run p

/-- Since `w`, whoever may still send for the post could do so already, and
    every new request was sent by such an attempt under its claim. -/
structure Late (w v : World) (p : Uuid) : Prop where
  attempts : ∀ t a c, v.attempts.get t = some a → a.postId = p → a.phase.mayStillSend = some c →
    ∃ a₀, w.attempts.get t = some a₀ ∧ a₀.postId = p ∧ a₀.phase.mayStillSend = some c
  flights : ∀ f x, v.flights.get f = some x → x.postId = p →
    (∃ x₀, w.flights.get f = some x₀ ∧ x₀.postId = p ∧ x₀.token = x.token) ∨
      ∃ t a₀ c, w.attempts.get t = some a₀ ∧ a₀.postId = p ∧ a₀.phase.mayStillSend = some c ∧
        c.token = x.token

section Unknown
variable {v v' : World}

/-- Only a claim of a queued post gives a right to send. -/
theorem callEffect_mayStillSend {db db' : Db} {attempt : Attempt} {next : Phase}
    {c : PublishClaim} (effect : CallEffect db attempt db' next)
    (sends : next.mayStillSend = some c) :
    attempt.phase.mayStillSend = some c ∨
      ∃ old, db.posts.get attempt.postId = some old ∧ old.state = .queued := by
  cases effect with
  | turned same turn =>
    refine Or.inl ?_
    cases turn with
    | prepared claim request start =>
      rw [start]
      exact sends
    | _ => cases sends
  | claimed old new startedAt write jobs start alive was =>
    exact Or.inr ⟨old, write.before, was⟩
  | reconciled old new write jobs start alive was becomes turn =>
    rcases turn with rfl | ⟨failure, rfl, -⟩ <;> cases sends
  | completed old new claim messageId write jobs start alive holds becomes turn =>
    rcases turn with rfl | ⟨message, rfl⟩ <;> cases sends
  | failed old new claim state write jobs start alive holds outcome becomes turn =>
    obtain ⟨failure, rfl, -⟩ := turn
    cases sends
  | retried old new claim terminal job job' write start current holds becomes after kept payload
      now turn =>
    obtain ⟨failure, rfl, -⟩ := turn
    cases sends

theorem late_refl : Late w w p :=
  ⟨fun _ a _ found own sends => ⟨a, found, own, sends⟩,
    fun _ x found own => Or.inl ⟨x, found, own, rfl⟩⟩

theorem late_of_sub (late : Late w v p)
    (attempts : ∀ t a c, v'.attempts.get t = some a → a.postId = p →
      a.phase.mayStillSend = some c →
      ∃ old, v.attempts.get t = some old ∧ old.postId = p ∧ old.phase.mayStillSend = some c)
    (flights : ∀ f x, v'.flights.get f = some x → x.postId = p →
      (∃ old, v.flights.get f = some old ∧ old.postId = p ∧ old.token = x.token) ∨
        ∃ t a c, v.attempts.get t = some a ∧ a.postId = p ∧ a.phase.mayStillSend = some c ∧
          c.token = x.token) : Late w v' p where
  attempts := by
    intro t a c found own sends
    obtain ⟨old, before, home, was⟩ := attempts t a c found own sends
    exact late.attempts t old c before home was
  flights := by
    intro f x found own
    rcases flights f x found own with ⟨old, before, home, token⟩ | ⟨t, a, c, before, home, was, token⟩
    · rw [← token]
      exact late.flights f old before home
    · obtain ⟨a₀, first, same, could⟩ := late.attempts t a c before home was
      exact Or.inr ⟨t, a₀, c, first, same, could, token⟩

theorem late_kept {t : Uuid} {attempt : Attempt} {db' : Db} {next : Phase} (late : Late w v p)
    (found : v.attempts.get t = some attempt) (own : attempt.postId = p)
    (keeps : ∀ c, next.mayStillSend = some c → attempt.phase.mayStillSend = some c) :
    Late w (v.advance t attempt db' next) p := by
  refine late_of_sub late ?_ (fun f x present home => Or.inl ⟨x, present, home, rfl⟩)
  intro u a c present home sends
  simp only [World.advance, Table.get_set] at present
  split at present
  · rename_i here
    cases present
    exact ⟨attempt, by rw [here, found], own, keeps c sends⟩
  · exact ⟨a, present, home, sends⟩

theorem late_retire {t : Uuid} {db' : Db} (late : Late w v p) : Late w (v.retire t db') p := by
  refine late_of_sub late ?_ (fun f x present home => Or.inl ⟨x, present, home, rfl⟩)
  intro u a c present home sends
  simp only [World.retire, Table.get_remove] at present
  split at present
  · cases present
  · exact ⟨a, present, home, sends⟩

theorem late_move {post : Post} (late : Late w v p) (found : v.db.posts.get p = some post)
    (unknown : post.state = .unknown) (move : Move v p act v') : Late w v' p := by
  have same : ∀ {db' : Db}, Late w { v with db := db' } p := ⟨late.attempts, late.flights⟩
  cases move with
  | api write elsewhere => exact same
  | renewed job job' columns before running unexpired after _ command posts clock => exact same
  | pruned job before ended after row posts clock => exact same
  | recovered job lock released => exact same
  | leased job job' lease revision columns before was after running token held payload _ posts
      clock =>
    refine late_of_sub late ?_ (fun f x present home => Or.inl ⟨x, present, home, rfl⟩)
    intro t a c present home sends
    simp only [Table.get_set] at present
    split at present
    · cases present
      cases sends
    · exact ⟨a, present, home, sends⟩
  | called attempt present own effect =>
    refine late_kept late present own (fun c sends => ?_)
    rcases callEffect_mayStillSend effect sends with kept | ⟨old, row, queued⟩
    · exact kept
    · rw [own, found] at row
      cases row
      rw [unknown] at queued
      cases queued
  | answered attempt flight answer next present own sent possible turn =>
    refine late_kept late present own (fun c sends => ?_)
    have held := mayStillSend_claim sends
    rcases turn with ⟨claim, request, phase, rfl⟩ | ⟨claim, phase, rfl⟩
    · rw [afterCopy_claim] at held
      rw [phase]
      exact held
    · rw [afterFile_claim] at held
      rw [phase]
      exact held
  | launched attempt claim next present own turn =>
    have sends : attempt.phase.mayStillSend = some claim ∧
        ∀ f c, (next f).mayStillSend = some c → c = claim := by
      rcases turn with ⟨request, phase, rfl⟩ | ⟨request, phase, rfl⟩ <;>
      · rw [phase]
        refine ⟨rfl, fun f c sends => ?_⟩
        cases sends
        rfl
    refine late_of_sub late ?_ ?_
    · intro u a c here home still
      simp only [World.launch, Table.get_set] at here
      split at here
      · rename_i at'
        cases here
        rw [sends.2 _ c still]
        exact ⟨attempt, by rw [at', present], own, sends.1⟩
      · exact ⟨a, here, home, still⟩
    · intro f x here home
      rcases launch_flight here with ⟨-, token⟩ | old
      · exact Or.inr ⟨_, attempt, claim, present, own, sends.1, token.symm⟩
      · exact Or.inl ⟨x, old, home, rfl⟩
  | landed flight fate sent own pending =>
    refine late_of_sub late (fun t a c here home sends => ⟨a, here, home, sends⟩) ?_
    intro g x here home
    simp only [Table.get_set] at here
    split at here
    · rename_i at'
      cases here
      exact Or.inl ⟨flight, by rw [at', sent], home, rfl⟩
    · exact Or.inl ⟨x, here, home, rfl⟩
  | dropped attempt present own => exact late_retire late
  | completed attempt job job' present own phase before held after done posts clock =>
    exact late_retire late
  | settled attempt failure settlement job present own phase asks lock released =>
    exact late_retire late
  | stopped attempt job present own applied lock released => exact late_retire late

/-- Once a post is unknown its row stays, and nobody new may send for it. -/
theorem run_late {calendar : Calendar} {allowed : World → Action → Prop} {later : List Action}
    {post : Post} (filed : ∀ q, Filed w q) (found : w.db.posts.get p = some post)
    (unknown : post.state = .unknown) (run : Run (step calendar) allowed w later v) :
    v.db.posts.get p = some post ∧ Late w v p := by
  have kept := run_invariant (fun u => (∀ q, Filed u q) ∧ u.db.posts.get p = some post ∧ Late w u p)
    ?_ ⟨filed, found, late_refl⟩ run
  · exact kept.2
  · rintro u act u' ⟨ok, present, late⟩ - one
    have row := run_final ok present (by rw [unknown]; rfl)
      (Run.cons (show Unrestricted u act from trivial) one (Run.nil u'))
    refine ⟨filed_step ok one, row, ?_⟩
    rcases step_moves ok one with all | ⟨q, others, move⟩
    · exact late_of_sub late
        (fun t a c here home sends => ⟨a, ((all p).attempts t a home).mp here, home, sends⟩)
        (fun f x here home => Or.inl ⟨x, ((all p).flights f x home).mp here, home, rfl⟩)
    · by_cases same : p = q
      · subst same
        exact late_move late present unknown move
      · exact late_of_sub late
          (fun t a c here home sends =>
            ⟨a, ((others p same).attempts t a home).mp here, home, sends⟩)
          (fun f x here home => Or.inl ⟨x, ((others p same).flights f x home).mp here, home, rfl⟩)

end Unknown

/-- In every run at most one request per post is delivered; a post that became
    unknown keeps its row for good and is never claimed again, so that a later
    request for it can only come from an attempt that held its claim before. -/
theorem sent_at_most_once {calendar : Calendar} {acts : List Action}
    (run : Run (step calendar) Unrestricted initial acts w) :
    (∀ f g x y m n, w.flights.get f = some x → w.flights.get g = some y → x.postId = y.postId →
      x.fate = some (.delivered m) → y.fate = some (.delivered n) → f = g) ∧
    (∀ p post later v, w.db.posts.get p = some post → post.state = .unknown →
      Run (step calendar) Unrestricted w later v →
      v.db.posts.get p = some post ∧
      (∀ t a c, v.attempts.get t = some a → a.postId = p → a.phase.mayStillSend = some c →
        ∃ a₀, w.attempts.get t = some a₀ ∧ a₀.phase.mayStillSend = some c) ∧
      (∀ f x, v.flights.get f = some x → x.postId = p → w.flights.get f = none →
        ∃ t a₀ c, w.attempts.get t = some a₀ ∧ a₀.phase.mayStillSend = some c ∧
          x.token = c.token)) := by
  have filed := fun q => (run_once run q).1
  refine ⟨?_, ?_⟩
  · intro f g x y m n first second same sentX sentY
    obtain ⟨-, once⟩ := run_once run y.postId
    obtain ⟨token, bound⟩ := bound_boundTo once.bound
    have liveX : x.live := by simp [Flight.live, sentX]
    have liveY : y.live := by simp [Flight.live, sentY]
    exact once.ledger.single f g x y first second same rfl
      ((bound.flights f x first same liveX).trans (bound.flights g y second rfl liveY).symm)
      liveX liveY
  · intro p post later v found unknown tail
    obtain ⟨row, late⟩ := run_late filed found unknown tail
    refine ⟨row, ?_, ?_⟩
    · intro t a c present own sends
      obtain ⟨a₀, before, -, could⟩ := late.attempts t a c present own sends
      exact ⟨a₀, before, could⟩
    · intro f x present own new
      rcases late.flights f x present own with ⟨x₀, old, -⟩ | ⟨t, a₀, c, before, -, could, token⟩
      · rw [new] at old
        cases old
      · exact ⟨t, a₀, c, before, could, token.symm⟩

/-- The copy is unavailable and the worker stalls before the fallback; its
    lease expires, the job is recovered and the next attempt fences the post
    as unknown. -/
def sampleStall : List Action :=
  sampleIntent ++ [.claimJob "a" (30 * second) 0, .call 2 .answered, .call 2 .answered,
    .dispatch 2, .process 4 .refused, .answer 2 (.error ⟨true, false, false, false, "gone"⟩),
    .tick (31 * second), .recover ⟨.publish 0, 1⟩ (.publishPost 0 0),
    .claimJob "b" (30 * second) 0, .call 5 .answered, .call 5 .answered]

/-- In the stalled run the one request on record was refused. -/
theorem sent_at_most_once_after_stall :
    ∃ w post, exec (step sampleCalendar) initial sampleStall = some w ∧
      w.db.posts.get 0 = some post ∧ post.state = .unknown ∧
      ∀ later v, Run (step sampleCalendar) Unrestricted w later v →
        v.db.posts.get 0 = some post := by
  obtain ⟨w, reached⟩ : ∃ w, exec (step sampleCalendar) initial sampleStall = some w := ⟨_, rfl⟩
  obtain ⟨post, found, unknown⟩ : ∃ post, w.db.posts.get 0 = some post ∧
      post.state = .unknown := by
    cases reached
    exact ⟨_, rfl, rfl⟩
  exact ⟨w, post, reached, found, unknown, fun later v tail =>
    ((sent_at_most_once (run_of_exec reached)).2 0 post later v found unknown tail).1⟩

/-- The stalled worker goes on with its fallback: a request for a post in state
    unknown is dispatched, and delivered. -/
theorem unknown_post_is_sent :
    ∃ w v, exec (step sampleCalendar) initial sampleStall = some w ∧
      (w.db.posts.get 0).map (·.state) = some .unknown ∧ w.flights.get 6 = none ∧
      exec (step sampleCalendar) w [.dispatch 2, .process 6 (.delivered 9)] = some v ∧
      v.flights.get 6 = some ⟨0, 3, some (.delivered 9)⟩ ∧
      (v.db.posts.get 0).map (·.state) = some .unknown :=
  ⟨_, _, rfl, rfl, rfl, rfl, rfl, rfl⟩

end Sooqa.Publisher
