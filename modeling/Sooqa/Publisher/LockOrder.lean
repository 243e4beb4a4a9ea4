import Sooqa.Foundation.Locks
import Sooqa.Queue.Job

/-!
The locks of the publication transactions, in the order they are taken. Most
of them go from the ingest over the media and the channel to the post and its
job. Three do not: an intent takes its channel shared and then exclusively, the
operator's mark-unknown goes from the media to its ingests, and a submission
that lost the race for its key goes from the channel to the ingest that won.
A row that a transaction inserts is left out unless a unique key makes another
one wait for it; so are the locks of foreign keys, which stay below those the
transaction holds on the same rows.
-/
namespace Sooqa.Publisher.LockOrder
open Foundation Queue

inductive Row where
  | request (key : String)
  | configuration
  | inputKey (key : String)
  | ingest (id : Uuid)
  | media (id : Uuid)
  | channel (id : Uuid)
  | postKey (key : String)
  | post (id : Uuid)
  | publishJob (postId : Uuid)
  | uploadJob (mediaId : Uuid) (generation : Nat)
  deriving DecidableEq, Repr

/-- The media and the channel of a linked ingest and the channel of a post.
    None of them changes. -/
structure Links where
  media : Uuid → Uuid
  channel : Uuid → Uuid
  postChannel : Uuid → Uuid

/-- A transaction with the rows its reads find: the post of a request or of an
    ingest, the enabled channels, the ingest of an input key before or after
    the insert was tried, the ingests and queued uploads of a media. -/
inductive Transaction (links : Links) where
  | createPublicationIntent (key : String) (existing : Option Uuid) (media : Uuid)
      (candidates : List Uuid)
  | materializeIngest (ingest : Uuid) (existing : Option Uuid)
  | claimPublish (post : Uuid)
  | completePublish (post : Uuid)
  | schedulePost (post : Uuid)
  | updateChannel (channel : Uuid)
  | createIngestAt (key : String) (existing : Option Uuid) (candidates : List Uuid)
      (winner : Option Uuid)
  | markStorageUploadUnknown (media : Uuid) (ingests : List Uuid) (generations : List Nat)
      (linked : ∀ ingest ∈ ingests, links.media ingest = media)

def forUpdate (row : Row) : Lock Row := ⟨row, .exclusive⟩
def forShare (row : Row) : Lock Row := ⟨row, .shared⟩

/-- `select_enabled_channel_candidates`. -/
def candidateLocks (candidates : List Uuid) : List (Lock Row) :=
  candidates.map (fun id => forShare (.channel id))

variable {links : Links}

/-- The locks of a transaction that does not stop early. -/
def plan : Transaction links → List (Lock Row)
  | .createPublicationIntent key (some post) _ _ => [forUpdate (.request key), forUpdate (.post post)]
  | .createPublicationIntent key none media [channel] =>
    [forUpdate (.request key), forUpdate (.media media), forShare (.channel channel),
      forUpdate (.channel channel), forUpdate (.postKey key)]
  | .createPublicationIntent key none media candidates =>
    forUpdate (.request key) :: forUpdate (.media media) :: candidateLocks candidates
  | .materializeIngest ingest (some post) => [forUpdate (.ingest ingest), forUpdate (.post post)]
  | .materializeIngest ingest none =>
    [forUpdate (.ingest ingest), forUpdate (.media (links.media ingest)),
      forUpdate (.channel (links.channel ingest)),
      forUpdate (.postKey ("ingest:" ++ toString ingest ++ ":publication:v1"))]
  | .claimPublish post | .completePublish post | .schedulePost post =>
    [forUpdate (.channel (links.postChannel post)), forUpdate (.post post),
      forUpdate (.publishJob post)]
  | .updateChannel channel => [forUpdate .configuration, forUpdate (.channel channel)]
  | .createIngestAt _ (some ingest) _ _ => [forUpdate (.ingest ingest)]
  | .createIngestAt key none candidates none =>
    candidateLocks candidates ++ [forUpdate (.inputKey key)]
  | .createIngestAt _ none candidates (some winner) =>
    candidateLocks candidates ++ [forUpdate (.ingest winner)]
  | .markStorageUploadUnknown media ingests generations _ =>
    forUpdate (.media media) :: ingests.map (fun ingest => forUpdate (.ingest ingest)) ++
      generations.map (fun generation => forUpdate (.uploadJob media generation))

/-- Two overlaps of this kind can close a circle: two intents between their
    shared and their exclusive lock on one channel; a materialization that has
    its ingest while a mark-unknown has the media and needs that ingest; one
    that has its ingest and lacks its channel while a submission that needs
    that ingest holds a channel. -/
inductive Crossing : Running (Transaction links) → Running (Transaction links) → Prop where
  | upgrades {r r' : Running (Transaction links)} (key key' : String) (media media' channel : Uuid)
      (is : r.transaction = .createPublicationIntent key none media [channel])
      (is' : r'.transaction = .createPublicationIntent key' none media' [channel])
      (holds : forShare (.channel channel) ∈ r.held plan)
      (holds' : forShare (.channel channel) ∈ r'.held plan) : Crossing r r'
  | reconciles {r r' : Running (Transaction links)} (ingest media : Uuid) (ingests : List Uuid)
      (generations : List Nat) (linked : ∀ ingest ∈ ingests, links.media ingest = media)
      (is : r.transaction = .materializeIngest ingest none)
      (is' : r'.transaction = .markStorageUploadUnknown media ingests generations linked)
      (member : ingest ∈ ingests) (holds : forUpdate (.ingest ingest) ∈ r.held plan)
      (holds' : forUpdate (.media media) ∈ r'.held plan) : Crossing r r'
  | replays {r r' : Running (Transaction links)} (ingest : Uuid) (key : String)
      (candidates : List Uuid) (channel : Uuid)
      (is : r.transaction = .materializeIngest ingest none)
      (is' : r'.transaction = .createIngestAt key none candidates (some ingest))
      (holds : forUpdate (.ingest ingest) ∈ r.held plan)
      (lacks : forUpdate (.channel (links.channel ingest)) ∉ r.held plan)
      (holds' : forShare (.channel channel) ∈ r'.held plan) : Crossing r r'

/-- The step lets two transactions cross. -/
def Crosses (s : Table Uuid (Running (Transaction links)))
    (act : LockAction Uuid (Transaction links)) : Prop :=
  ∃ id other r r', act = .grant id ∧ s.get id = some r ∧ s.get other = some r' ∧ other ≠ id ∧
    (Crossing r.advance r' ∨ Crossing r' r.advance)

/-- Where a waiting transaction stands. A rank grows from the one that waits to
    a waiting one it waits for: along the common order, and past the three
    exceptions, which wait for nobody that could come back to them. -/
def waitRank : Transaction links → Lock Row → Nat
  | .createPublicationIntent _ _ _ _, ⟨.channel _, .exclusive⟩ => 7
  | .createIngestAt _ none (_ :: _) _, ⟨.ingest _, _⟩ => 8
  | .markStorageUploadUnknown _ _ _ _, ⟨.ingest _, _⟩ => 9
  | _, ⟨.request _, _⟩ => 0
  | _, ⟨.configuration, _⟩ => 1
  | _, ⟨.ingest _, _⟩ => 2
  | _, ⟨.media _, _⟩ => 3
  | _, ⟨.channel _, .exclusive⟩ => 4
  | _, ⟨.channel _, .shared⟩ => 9
  | _, ⟨.uploadJob _ _, _⟩ => 9
  | _, ⟨.post _, _⟩ => 10
  | _, ⟨.publishJob _, _⟩ => 11
  | _, ⟨.inputKey _, _⟩ => 12
  | _, ⟨.postKey _, _⟩ => 12

/-- The rank of those who wait for a row in the common order. -/
def rowRank : Row → Nat
  | .request _ => 0
  | .configuration => 1
  | .ingest _ => 2
  | .media _ => 3
  | .channel _ => 4
  | .uploadJob _ _ => 8
  | .post _ => 10
  | .publishJob _ => 11
  | .inputKey _ => 12
  | .postKey _ => 12

section Order

theorem candidateLocks_pairwise {related : Lock Row → Lock Row → Prop} (candidates : List Uuid)
    (each : ∀ one other, related (forShare (.channel one)) (forShare (.channel other))) :
    (candidateLocks candidates).Pairwise related := by
  unfold candidateLocks
  rw [List.pairwise_map]
  exact List.pairwise_of_forall (fun _ _ => each _ _)

/-- What a transaction that holds one lock and waits for another says about its
    rank: it is above those who wait for the first in the common order; above
    the shared waiters of a channel it holds exclusively; above the upgrade of
    a channel it shares, unless it is at its own upgrade; above whoever goes
    back to an ingest it holds, unless it is a materialization on its way to
    the channel or a mark-unknown. -/
@[mk_iff]
structure Ordered (t : Transaction links) (held next : Lock Row) : Prop where
  grows : rowRank held.resource < waitRank t next
  channel : ∀ id, held = forUpdate (.channel id) → 9 < waitRank t next
  share : ∀ id, held = forShare (.channel id) →
    7 < waitRank t next ∨ ∃ key media, t = .createPublicationIntent key none media [id]
  ingest : ∀ id, held.resource = .ingest id →
    9 < waitRank t next ∨ t = .materializeIngest id none ∨
      (8 < waitRank t next ∧ ∃ media ingests generations linked,
        t = .markStorageUploadUnknown media ingests generations linked ∧ id ∈ ingests)
  upload : ∀ media generation, held.resource = .uploadJob media generation →
    ∃ ingests generations linked, t = .markStorageUploadUnknown media ingests generations linked

theorem plan_ordered (t : Transaction links) : (plan t).Pairwise (Ordered t) := by
  unfold plan
  split
  · simp [ordered_iff, forUpdate, forShare, rowRank, waitRank]
  · simp [ordered_iff, forUpdate, forShare, rowRank, waitRank]
  · simp only [List.pairwise_cons]
    refine ⟨?_, ?_, candidateLocks_pairwise _ (fun _ _ => ?_)⟩
    · simp [ordered_iff, candidateLocks, forUpdate, forShare, rowRank, waitRank]
    · simp [ordered_iff, candidateLocks, forUpdate, forShare, rowRank, waitRank]
    · simp [ordered_iff, forUpdate, forShare, rowRank, waitRank]
  · simp [ordered_iff, forUpdate, forShare, rowRank, waitRank]
  · simp [ordered_iff, forUpdate, forShare, rowRank, waitRank]
  · simp [ordered_iff, forUpdate, forShare, rowRank, waitRank]
  · simp [ordered_iff, forUpdate, forShare, rowRank, waitRank]
  · simp [ordered_iff, forUpdate, forShare, rowRank, waitRank]
  · simp [ordered_iff, forUpdate, rowRank, waitRank, forShare]
  · simp
  · refine List.pairwise_append.mpr ⟨candidateLocks_pairwise _ (fun _ _ => ?_), ?_, ?_⟩
    · simp [ordered_iff, forUpdate, forShare, rowRank, waitRank]
    · simp
    · simp [ordered_iff, candidateLocks, forUpdate, forShare, rowRank, waitRank]
  · rename_i candidates winner
    refine List.pairwise_append.mpr ⟨candidateLocks_pairwise _ (fun _ _ => ?_), ?_, ?_⟩
    · simp [ordered_iff, forUpdate, forShare, rowRank, waitRank]
    · simp
    · cases candidates <;>
        simp [ordered_iff, candidateLocks, forUpdate, forShare, rowRank, waitRank]
  · rename_i media ingests generations linked
    -- An ingest it has and one it has not, or an upload: it is a mark-unknown.
    have member : ∀ ingest ∈ ingests, ∀ next,
        8 < waitRank (.markStorageUploadUnknown media ingests generations linked) next →
        Ordered (.markStorageUploadUnknown media ingests generations linked)
          (forUpdate (.ingest ingest)) next := by
      intro ingest within next above
      refine ⟨lt_trans (show 2 < 8 by decide) above, nofun, nofun, ?_, nofun⟩
      intro id same
      cases same
      exact Or.inr (Or.inr ⟨above, media, ingests, generations, linked, rfl, within⟩)
    refine List.pairwise_append.mpr ⟨List.pairwise_cons.mpr ⟨?_, ?_⟩, ?_, ?_⟩
    · simp [ordered_iff, forUpdate, forShare, rowRank, waitRank]
    · rw [List.pairwise_map]
      refine List.Pairwise.imp_of_mem ?_ (List.pairwise_of_forall (fun _ _ => trivial))
      intro one other within _ _
      exact member one within _ (by simp [forUpdate, waitRank])
    · rw [List.pairwise_map]
      refine List.pairwise_of_forall (fun _ _ => ?_)
      refine ⟨show 8 < 9 by decide, nofun, nofun, nofun, ?_⟩
      intro _ _ same
      cases same
      exact ⟨ingests, generations, linked, rfl⟩
    · intro held before next after
      obtain ⟨generation, -, rfl⟩ := List.mem_map.mp after
      rcases List.mem_cons.mp before with rfl | before
      · simp [ordered_iff, forUpdate, forShare, rowRank, waitRank]
      · obtain ⟨ingest, within, rfl⟩ := List.mem_map.mp before
        exact member ingest within _ (by simp [forUpdate, waitRank])

/-- Who waits: for a row in the common order, for a shared channel, or as one
    of the three exceptions, with the locks it got there with. -/
inductive Waits (r : Running (Transaction links)) (next : Lock Row) : Prop where
  | common (rank : waitRank r.transaction next ≤ rowRank next.resource)
  | shared (id : Uuid) (lock : next = forShare (.channel id))
      (rank : waitRank r.transaction next = 9)
  | upgrade (key : String) (media id : Uuid)
      (is : r.transaction = .createPublicationIntent key none media [id])
      (lock : next = forUpdate (.channel id)) (holds : forShare (.channel id) ∈ r.held plan)
      (rank : waitRank r.transaction next = 7)
  | replay (key : String) (candidates : List Uuid) (ingest id : Uuid)
      (is : r.transaction = .createIngestAt key none candidates (some ingest))
      (lock : next = forUpdate (.ingest ingest)) (holds : forShare (.channel id) ∈ r.held plan)
      (rank : waitRank r.transaction next = 8)
  | reconcile (media : Uuid) (ingests : List Uuid) (generations : List Nat)
      (linked : ∀ ingest ∈ ingests, links.media ingest = media)
      (is : r.transaction = .markStorageUploadUnknown media ingests generations linked)
      (lock : (∃ ingest ∈ ingests, next = forUpdate (.ingest ingest)) ∨
        ∃ generation, next = forUpdate (.uploadJob media generation))
      (holds : forUpdate (.media media) ∈ r.held plan)
      (rank : waitRank r.transaction next = 9)

theorem waits_of_candidate {r : Running (Transaction links)} {next : Lock Row}
    {candidates : List Uuid} (member : next ∈ candidateLocks candidates) : Waits r next := by
  obtain ⟨id, -, rfl⟩ := List.mem_map.mp member
  refine .shared id rfl ?_
  cases r.transaction with
  | createIngestAt key existing candidates winner =>
    cases existing <;> cases candidates <;> rfl
  | _ => rfl

theorem Waits.of_rank {r : Running (Transaction links)} {t : Transaction links} {next : Lock Row}
    (is : r.transaction = t) (rank : waitRank t next ≤ rowRank next.resource) : Waits r next :=
  .common (is ▸ rank)

theorem waits_of_next {r : Running (Transaction links)} {next : Lock Row}
    (need : r.next plan = some next) : Waits r next := by
  have member := Running.mem_of_next need
  cases is : r.transaction with
  | createPublicationIntent key existing media candidates =>
    cases existing with
    | some post =>
      rw [is] at member
      simp only [plan, List.mem_cons, List.not_mem_nil, or_false] at member
      rcases member with rfl | rfl
      · exact .of_rank is le_rfl
      · exact .of_rank is le_rfl
    | none =>
      match candidates with
      | [] =>
        rw [is] at member
        simp only [plan, List.mem_cons] at member
        rcases member with rfl | rfl | member
        · exact .of_rank is le_rfl
        · exact .of_rank is le_rfl
        · exact waits_of_candidate member
      | one :: two :: rest =>
        rw [is] at member
        simp only [plan, List.mem_cons] at member
        rcases member with rfl | rfl | member
        · exact .of_rank is le_rfl
        · exact .of_rank is le_rfl
        · exact waits_of_candidate member
      | [channel] =>
        have split : plan r.transaction =
            [forUpdate (.request key), forUpdate (.media media), forShare (.channel channel)] ++
              [forUpdate (.channel channel), forUpdate (.postKey key)] := by rw [is]; rfl
        rw [split] at member
        simp only [List.cons_append, List.nil_append, List.mem_cons, List.not_mem_nil,
          or_false] at member
        rcases member with rfl | rfl | rfl | rfl | rfl
        · exact .of_rank is le_rfl
        · exact .of_rank is le_rfl
        · exact .shared channel rfl (by rw [is]; rfl)
        · exact .upgrade key media channel is rfl
            (Running.held_before split need (by simp [forUpdate, forShare]) (by simp))
            (by rw [is]; rfl)
        · exact .of_rank is le_rfl
  | materializeIngest ingest existing =>
    rw [is] at member
    cases existing with
    | some post =>
      simp only [plan, List.mem_cons, List.not_mem_nil, or_false] at member
      rcases member with rfl | rfl
      · exact .of_rank is le_rfl
      · exact .of_rank is le_rfl
    | none =>
      simp only [plan, List.mem_cons, List.not_mem_nil, or_false] at member
      rcases member with rfl | rfl | rfl | rfl
      · exact .of_rank is le_rfl
      · exact .of_rank is le_rfl
      · exact .of_rank is le_rfl
      · exact .of_rank is le_rfl
  | updateChannel channel =>
    rw [is] at member
    simp only [plan, List.mem_cons, List.not_mem_nil, or_false] at member
    rcases member with rfl | rfl
    · exact .of_rank is le_rfl
    · exact .of_rank is le_rfl
  | createIngestAt key existing candidates winner =>
    cases existing with
    | some ingest =>
      rw [is] at member
      simp only [plan, List.mem_cons, List.not_mem_nil, or_false] at member
      subst member
      exact .of_rank is le_rfl
    | none =>
      cases winner with
      | none =>
        rw [is] at member
        simp only [plan, List.mem_append, List.mem_cons, List.not_mem_nil, or_false] at member
        rcases member with member | rfl
        · exact waits_of_candidate member
        · exact .of_rank is (by cases candidates <;> exact le_rfl)
      | some ingest =>
        have split : plan r.transaction = candidateLocks candidates ++ [forUpdate (.ingest ingest)] :=
          by rw [is]; rfl
        rw [split, List.mem_append, List.mem_singleton] at member
        rcases member with member | rfl
        · exact waits_of_candidate member
        · cases candidates with
          | nil => exact .of_rank is le_rfl
          | cons channel rest =>
            exact .replay key (channel :: rest) ingest channel is rfl
              (Running.held_before split need (by simp [candidateLocks, forUpdate, forShare])
                (by simp [candidateLocks]))
              (by rw [is]; rfl)
  | markStorageUploadUnknown media ingests generations linked =>
    have split : plan r.transaction = [forUpdate (.media media)] ++
        (ingests.map (fun ingest => forUpdate (.ingest ingest)) ++
          generations.map (fun generation => forUpdate (.uploadJob media generation))) := by
      rw [is]; rfl
    rw [split] at member
    simp only [List.cons_append, List.nil_append, List.mem_cons, List.mem_append,
      List.mem_map] at member
    rcases member with rfl | ⟨ingest, within, rfl⟩ | ⟨generation, -, rfl⟩
    · exact .of_rank is le_rfl
    · exact .reconcile media ingests generations linked is (Or.inl ⟨ingest, within, rfl⟩)
        (Running.held_before split need (by simp [forUpdate]) (by simp)) (by rw [is]; rfl)
    · exact .reconcile media ingests generations linked is (Or.inr ⟨generation, rfl⟩)
        (Running.held_before split need (by simp [forUpdate]) (by simp)) (by rw [is]; rfl)
  | _ =>
    rw [is] at member
    simp only [plan, List.mem_cons, List.not_mem_nil, or_false] at member
    rcases member with rfl | rfl | rfl
    · exact .of_rank is le_rfl
    · exact .of_rank is le_rfl
    · exact .of_rank is le_rfl

end Order

section States
variable {s s' : Table Uuid (Running (Transaction links))}

/-- No two transactions cross. -/
def Uncrossed (s : Table Uuid (Running (Transaction links))) : Prop :=
  ∀ id other r r', s.get id = some r → s.get other = some r' → id ≠ other → ¬ Crossing r r'

theorem not_crossing_begin (transaction : Transaction links) (r : Running (Transaction links)) :
    ¬ Crossing ⟨transaction, 0⟩ r ∧ ¬ Crossing r ⟨transaction, 0⟩ := by
  constructor
  · intro crossing
    cases crossing with
    | upgrades _ _ _ _ _ _ _ holds => simp [Running.held] at holds
    | reconciles _ _ _ _ _ _ _ _ holds => simp [Running.held] at holds
    | replays _ _ _ _ _ _ holds => simp [Running.held] at holds
  · intro crossing
    cases crossing with
    | upgrades _ _ _ _ _ _ _ _ holds' => simp [Running.held] at holds'
    | reconciles _ _ _ _ _ _ _ _ _ holds' => simp [Running.held] at holds'
    | replays _ _ _ _ _ _ _ _ holds' => simp [Running.held] at holds'

theorem Uncrossed.step (inv : Uncrossed s) {act : LockAction Uuid (Transaction links)}
    (apart : ¬ Crosses s act) (h : lockStep plan s act = some s') : Uncrossed s' := by
  cases lockStep_cases h with
  | began id transaction after =>
    subst after
    intro one other r r' here there ne
    rw [Table.get_set] at here there
    split at here
    · cases here
      exact (not_crossing_begin transaction r').1
    · split at there
      · cases there
        exact (not_crossing_begin transaction r).2
      · exact inv one other r r' here there ne
  | granted id running next which found need free after =>
    subst after
    intro one other r r' here there ne crossing
    rw [Table.get_set] at here there
    split at here
    · rename_i mine
      subst mine
      cases here
      rw [if_neg (Ne.symm ne)] at there
      exact apart ⟨one, other, running, r', which, found, there, Ne.symm ne, Or.inl crossing⟩
    · split at there
      · rename_i mine
        subst mine
        cases there
        exact apart ⟨other, one, running, r, which, found, here, ne, Or.inr crossing⟩
      · exact inv one other r r' here there ne crossing
  | finished id after =>
    subst after
    intro one other r r' here there
    rw [Table.get_remove] at here there
    split at here
    · cases here
    · split at there
      · cases there
      · exact inv one other r r' here there

/-- An exclusive lock that both hold. -/
theorem not_both (inv : Compatible plan s) {id other : Uuid}
    {r r' : Running (Transaction links)} (found : s.get id = some r) (there : s.get other = some r')
    (ne : id ≠ other) {row : Row} {mode : Mode} (held : forUpdate row ∈ r.held plan)
    (held' : ⟨row, mode⟩ ∈ r'.held plan) : False := by
  have clear := inv id other r r' found there ne _ held
  have blocks : (forUpdate row).blocked (r'.held plan) = true :=
    Lock.blocked_iff.mpr ⟨⟨row, mode⟩, held', rfl, by cases mode <;> rfl⟩
  rw [clear] at blocks
  cases blocks

/-- The rank grows along the waits. -/
theorem rank_grows (compatible : Compatible plan s) (uncrossed : Uncrossed s) {id other : Uuid}
    {r r' : Running (Transaction links)} {lock next : Lock Row} (found : s.get id = some r)
    (there : s.get other = some r') (ne : id ≠ other) (need : r.next plan = some lock)
    (blocks : lock.blocked (r'.held plan) = true) (need' : r'.next plan = some next) :
    waitRank r.transaction lock < waitRank r'.transaction next := by
  obtain ⟨⟨row, mode⟩, held, same, conflicts⟩ := Lock.blocked_iff.mp blocks
  have ordered := Running.pairwise_held (plan_ordered r'.transaction) held need'
  simp only at same
  subst same
  cases waits_of_next need with
  | common rank => exact lt_of_le_of_lt rank ordered.grows
  | shared channel is rank =>
    subst is
    rw [rank]
    cases mode with
    | shared => cases conflicts
    | exclusive => exact ordered.channel channel rfl
  | upgrade key media channel is lock holds rank =>
    subst lock
    rw [rank]
    cases mode with
    | exclusive => exact (not_both compatible there found (Ne.symm ne) held holds).elim
    | shared =>
      rcases ordered.share channel rfl with above | ⟨key', media', is'⟩
      · exact above
      · exact absurd (.upgrades key key' media media' channel is is' holds held)
          (uncrossed id other r r' found there ne)
  | replay key candidates ingest channel is lock holds rank =>
    subst lock
    rw [rank]
    rcases ordered.ingest ingest rfl with above | is' | ⟨above, -⟩
    · exact lt_trans (by decide) above
    · have holds' := Running.first_held (by rw [is']; rfl) held
      by_cases has : forUpdate (.channel (links.channel ingest)) ∈ r'.held plan
      · have ordered' := Running.pairwise_held (plan_ordered r'.transaction) has need'
        exact lt_trans (by decide) (ordered'.channel _ rfl)
      · exact absurd (.replays ingest key candidates channel is' is holds' has holds)
          (uncrossed other id r' r there found (Ne.symm ne))
    · exact above
  | reconcile media ingests generations linked is lock holds rank =>
    rw [rank]
    rcases lock with ⟨ingest, within, rfl⟩ | ⟨generation, rfl⟩
    · rcases ordered.ingest ingest rfl with above | is' | ⟨-, media', ingests', _, linked', is', within'⟩
      · exact above
      · have holds' := Running.first_held (by rw [is']; rfl) held
        exact absurd (.reconciles ingest media ingests generations linked is' is within holds' holds)
          (uncrossed other id r' r there found (Ne.symm ne))
      · -- The two mark the same media.
        have holds' := Running.first_held (by rw [is']; rfl) held
        rw [← linked' ingest within', linked ingest within] at holds'
        exact (not_both compatible found there ne holds holds').elim
    · obtain ⟨ingests', _, linked', is'⟩ := ordered.upload media generation rfl
      have holds' := Running.first_held (by rw [is']; rfl) held
      exact (not_both compatible found there ne holds holds').elim

end States

section Deadlocks
variable {s : Table Uuid (Running (Transaction links))}

/-- The rank of a transaction at its next lock. -/
def stateRank (s : Table Uuid (Running (Transaction links))) (id : Uuid) : Nat :=
  match s.get id with
  | none => 0
  | some r => ((r.next plan).map (waitRank r.transaction)).getD 0

theorem stateRank_of_next {id : Uuid} {r : Running (Transaction links)} {lock : Lock Row}
    (found : s.get id = some r) (need : r.next plan = some lock) :
    stateRank s id = waitRank r.transaction lock := by
  simp [stateRank, found, need]

theorem not_deadlocked_of_uncrossed (compatible : Compatible plan s) (uncrossed : Uncrossed s) :
    ¬ Deadlocked plan s := by
  apply not_deadlocked_of_rank (stateRank s)
  rintro a b c ⟨ne, r, r', lock, found, there, need, blocks⟩ ⟨-, r'', -, next, again, -, need', -⟩
  rw [there] at again
  cases again
  rw [stateRank_of_next found need, stateRank_of_next there need']
  exact rank_grows compatible uncrossed found there ne need blocks need'

/-- Publication transactions that never cross never deadlock, whatever rows
    their reads find and in whatever order they are let through. -/
theorem no_deadlock_without_crossing {acts : List (LockAction Uuid (Transaction links))}
    (run : Run (lockStep plan) (fun s act => ¬ Crosses s act) ∅ acts s) :
    ¬ Deadlocked plan s := by
  have start : Compatible plan (∅ : Table Uuid (Running (Transaction links))) ∧
      Uncrossed (∅ : Table Uuid (Running (Transaction links))) := by
    constructor
    · intro id other r r' found
      cases found
    · intro id other r r' found
      cases found
  obtain ⟨compatible, uncrossed⟩ := run_invariant
    (fun s : Table Uuid (Running (Transaction links)) => Compatible plan s ∧ Uncrossed s)
    (fun inv apart h => ⟨inv.1.step h, inv.2.step apart h⟩) start run
  exact not_deadlocked_of_uncrossed compatible uncrossed

theorem deadlocked_of_both {one other : Uuid} (waits : WaitsFor plan s one other)
    (back : WaitsFor plan s other one) : Deadlocked plan s :=
  ⟨one, Relation.TransGen.tail (.single waits) back⟩

end Deadlocks

section Samples

/-- Ingest 5 of media 10, bound for the channel 7 like every post. -/
def sampleLinks : Links where
  media := fun _ => 10
  channel := fun _ => 7
  postChannel := fun _ => 7

def sampleIntent (key : String) (media : Uuid) : Transaction sampleLinks :=
  .createPublicationIntent key none media [7]

def sampleMark : Transaction sampleLinks :=
  .markStorageUploadUnknown 10 [5] [] (fun _ _ => rfl)

/-- A reschedule waits for the claim of the same post while an intent for its
    channel comes in. -/
theorem claim_and_schedule_do_not_deadlock : ∃ s,
    Run (lockStep plan) (fun s act => ¬ Crosses s act) ∅
      [.begin 1 (.claimPublish 3), .begin 2 (.schedulePost 3), .begin 3 (sampleIntent "a" 10),
        .grant 1] s ∧
      WaitsFor plan s 2 1 ∧ ¬ Deadlocked plan s := by
  have run : ∃ s, Run (lockStep plan) (fun s act => ¬ Crosses s act) ∅
      [.begin 1 (.claimPublish 3), .begin 2 (.schedulePost 3), .begin 3 (sampleIntent "a" 10),
        .grant 1] s ∧ WaitsFor plan s 2 1 := by
    refine ⟨_, .cons ?_ rfl (.cons ?_ rfl (.cons ?_ rfl (.cons ?_ rfl (.nil _)))), ?_⟩
    · rintro ⟨_, _, _, _, same, _⟩
      cases same
    · rintro ⟨_, _, _, _, same, _⟩
      cases same
    · rintro ⟨_, _, _, _, same, _⟩
      cases same
    · rintro ⟨id, other, r, r', same, found, -, -, crossing⟩
      cases same
      cases found
      rcases crossing with crossing | crossing
      · cases crossing with
        | upgrades _ _ _ _ _ is => cases is
        | reconciles _ _ _ _ _ is => cases is
        | replays _ _ _ _ is => cases is
      · cases crossing with
        | upgrades _ _ _ _ _ _ is' => cases is'
        | reconciles _ _ _ _ _ _ is' => cases is'
        | replays _ _ _ _ _ is' => cases is'
    · exact ⟨by decide, _, _, _, rfl, rfl, rfl, by decide⟩
  obtain ⟨s, run, waits⟩ := run
  exact ⟨s, run, waits, no_deadlock_without_crossing run⟩

/-- Two intents for different videos share the only enabled channel and wait
    for each other at its exclusive lock. A materialization and a mark-unknown
    of its media wait for each other, and so do a materialization and a
    submission that lost the race for the same ingest. -/
theorem crossing_transactions_deadlock :
    (∃ s, Run (lockStep plan) Unrestricted ∅
      [.begin 1 (sampleIntent "a" 10), .begin 2 (sampleIntent "b" 20), .grant 1, .grant 1, .grant 1,
        .grant 2, .grant 2, .grant 2] s ∧ Deadlocked plan s) ∧
    (∃ s, Run (lockStep plan) Unrestricted ∅
      [.begin 1 (.materializeIngest 5 none), .begin 2 sampleMark, .grant 1, .grant 2] s ∧
      Deadlocked plan s) ∧
    ∃ s, Run (lockStep plan) Unrestricted ∅
      [.begin 1 (.materializeIngest 5 none), .begin 2 (.createIngestAt "k" none [7] (some 5)),
        .grant 1, .grant 1, .grant 2] s ∧ Deadlocked (@plan sampleLinks) s := by
  refine ⟨?_, ?_, ?_⟩
  · refine ⟨_, run_of_exec rfl, @deadlocked_of_both _ _ 1 2 ?_ ?_⟩
    · exact ⟨by decide, _, _, _, rfl, rfl, rfl, by decide⟩
    · exact ⟨by decide, _, _, _, rfl, rfl, rfl, by decide⟩
  · refine ⟨_, run_of_exec rfl, @deadlocked_of_both _ _ 1 2 ?_ ?_⟩
    · exact ⟨by decide, _, _, _, rfl, rfl, rfl, by decide⟩
    · exact ⟨by decide, _, _, _, rfl, rfl, rfl, by decide⟩
  · refine ⟨_, run_of_exec rfl, @deadlocked_of_both _ _ 1 2 ?_ ?_⟩
    · exact ⟨by decide, _, _, _, rfl, rfl, rfl, by decide⟩
    · exact ⟨by decide, _, _, _, rfl, rfl, rfl, by decide⟩

end Samples

end Sooqa.Publisher.LockOrder
