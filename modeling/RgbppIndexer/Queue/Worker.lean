import RgbppIndexer.Core.Lts
import RgbppIndexer.Indexer.Drain

/-!
# The queue worker among other tasks

`drain_queue_once` statement by statement. Between two statements of the
worker anything else may happen: applications and the sweep queue outpoints,
other refreshes write observations, fetched transactions label outpoints, the
scanner writes cells. What the data source answers is part of the label, so
nothing is assumed about it. A call that fails, or a restart, ends the drain
where it stands (`abort`).

* `step_row`: what any step does to the queue entry of an outpoint. It is read
  off the label alone (`Action.onRow`).
* `step_observation`: the same for its observation.
-/
namespace RgbppIndexer.Queue

open RgbppIndexer.Core

/-- Who asked for an outpoint to be queued. -/
inductive Origin where
  | application | sweep
  deriving DecidableEq, Repr

/-- Where the worker stands in a drain. mirrors crates/indexer/src/reconcile.rs:440-529 -/
inductive Worker where
  | idle
  /-- exhausted entries are dropped -/
  | dropped
  /-- entries are claimed, the observations of their outpoints are not read yet -/
  | claimed (batch : List BtcOutPoint)
  /-- outpoints to clear, and outpoints to refresh after that -/
  | clearing (fresh rest : List BtcOutPoint)
  /-- outpoints of the refresh, those not asked about yet, and the answers so far -/
  | asking (outpoints pending : List BtcOutPoint) (answers : List Observed)
  /-- outpoints of the refresh, answers to work through, and the outpoints whose answer was written -/
  | recording (outpoints : List BtcOutPoint) (answers : List Observed) (succeeded : List BtcOutPoint)
  /-- outpoints to complete or to fail -/
  | settling (outpoints succeeded : List BtcOutPoint)
  deriving DecidableEq, Repr

/-- A statement of the worker, one of its questions, or what another task does. -/
inductive Action where
  | drop (dropped : List OutpointKey)
  | claim (rows : ClaimOrder) (batch : List OutpointKey) (now : DateTime)
  | read (fresh : List BtcOutPoint) (now : DateTime)
  | clear (o : BtcOutPoint)
  | overflow (outpoints : List BtcOutPoint) (now : DateTime)
  | ask (o : BtcOutPoint) (answer : Except BtcError OutpointSpendStatus)
  | record (o : BtcOutPoint) (status : OutpointSpendStatus) (source : String) (now : DateTime)
  | requeue (o : BtcOutPoint) (now : DateTime)
  | complete (o : BtcOutPoint)
  | fail (o : BtcOutPoint)
  /-- the worker leaves a loop that has nothing left -/
  | next
  | abort
  | enqueue (origin : Origin) (o : BtcOutPoint) (reason : String) (replaceReason : Bool) (now : DateTime)
  | observe (key : OutpointKey) (status : OutpointSpendStatus) (address : Option String) (source : String) (now : DateTime)
  | label (key : OutpointKey) (address source : String) (now : DateTime)
  /-- a write to the tables the queue does not read -/
  | other (write : Store → Store)

structure State where
  store : Store
  worker : Worker

/-- What a statement that may fail leaves behind. -/
def kept {α : Type} (st : Store) : Except StoreError (Store × α) → Store
  | .ok (st', _) => st'
  | .error _ => st

/-- The statement an action runs; every caller queues with `ON_DEMAND`. -/
def Action.write (q : DrainConfig) (st : Store) : Action → Store
  | .drop _ => (st.dropExhaustedRefreshes q.maxAttempts).1
  | .claim rows _ now => kept st (st.claimRefreshBatch rows q.queueBatchSize now)
  | .clear o => st.completeRefresh o.key
  | .overflow outpoints now =>
    kept st (st.enqueueRefreshMany (outpoints.map BtcOutPoint.key) "request-overflow" ON_DEMAND now)
  | .record o status source now => (st.upsertObservation o.key status none source now).1
  | .requeue o now => st.enqueueRefresh o.key "refresh-failed" ON_DEMAND now
  | .complete o => st.completeRefresh o.key
  | .fail o => st.failRefresh o.key "data source did not answer"
  | .enqueue _ o reason replaceReason now =>
    { st with
      btcRefreshQueue := st.btcRefreshQueue.upsert o.key fun old =>
        Store.queueRow old reason replaceReason ON_DEMAND now }
  | .observe key status address source now => (st.upsertObservation key status address source now).1
  | .label key address source now =>
    { st with btcOutpoints := Store.labelOutpoint source now st.btcOutpoints (key, address) }
  | .other write => { write st with btcRefreshQueue := st.btcRefreshQueue, btcOutpoints := st.btcOutpoints }
  | .read _ _ => st
  | .ask _ _ => st
  | .next => st
  | .abort => st

/-- What the worker does with a claimed batch: an empty one ends the drain, and so does a key that is no outpoint. -/
def afterClaim (items : List QueueItem) : Worker :=
  match items.mapM QueueItem.outPoint with
  | .ok [] => .idle
  | .ok batch => .claimed batch
  | .error _ => .idle

/-- Where an action leaves the worker; `none` for a step of its own that it does not stand before. -/
def advance (q : DrainConfig) (cap : Nat) (st : Store) (w : Worker) : Action → Option Worker
  | .drop dropped =>
    match w with
    | .idle => if (st.dropExhaustedRefreshes q.maxAttempts).2 = dropped then some .dropped else none
    | _ => none
  | .claim rows batch now =>
    match w, st.claimRefreshBatch rows q.queueBatchSize now with
    | .dropped, .ok (_, items) => if items.map QueueItem.key = batch then some (afterClaim items) else none
    | _, _ => none
  | .read fresh now =>
    match w with
    | .claimed batch =>
      match alreadyFresh st batch q.observationTtlSecs now with
      | .ok found => if fresh.Perm found then some (.clearing fresh (batch.filter fun o => o ∉ fresh)) else none
      | .error _ => none
    | _ => none
  | .clear o =>
    match w with
    | .clearing (o' :: fresh) rest => if o' = o then some (.clearing fresh rest) else none
    | _ => none
  | .overflow outpoints now =>
    match w, st.enqueueRefreshMany (outpoints.map BtcOutPoint.key) "request-overflow" ON_DEMAND now with
    | .clearing [] rest, .ok _ =>
      if rest ≠ [] ∧ rest.drop cap = outpoints then some (.asking rest (rest.take cap) []) else none
    | _, _ => none
  | .ask o answer =>
    match w with
    | .asking outpoints pending answers =>
      if o ∈ pending then some (.asking outpoints (pending.erase o) (answers ++ [(o, answer)])) else none
    | _ => none
  | .record o status _ _ =>
    match w with
    | .recording outpoints (answer :: answers) succeeded =>
      if answer = (o, .ok status) then some (.recording outpoints answers (succeeded ++ [o])) else none
    | _ => none
  | .requeue o _ =>
    match w with
    | .recording outpoints ((o', .error _) :: answers) succeeded =>
      if o' = o then some (.recording outpoints answers succeeded) else none
    | _ => none
  | .complete o =>
    match w with
    | .settling (o' :: outpoints) succeeded =>
      if o' = o ∧ o ∈ succeeded then some (.settling outpoints succeeded) else none
    | _ => none
  | .fail o =>
    match w with
    | .settling (o' :: outpoints) succeeded =>
      if o' = o ∧ o ∉ succeeded then some (.settling outpoints succeeded) else none
    | _ => none
  | .next =>
    match w with
    | .clearing [] [] => some .idle
    | .asking outpoints [] answers => some (.recording outpoints answers [])
    | .recording outpoints [] succeeded => some (.settling outpoints succeeded)
    | .settling [] _ => some .idle
    | _ => none
  | .abort => some .idle
  | .enqueue .. => some w
  | .observe .. => some w
  | .label .. => some w
  | .other _ => some w

def step (q : DrainConfig) (cap : Nat) (s : State) (a : Action) : Option State :=
  (advance q cap s.store s.worker a).map fun worker => ⟨a.write q s.store, worker⟩

/-- The queue and its worker, from a freshly migrated database. -/
def queue (q : DrainConfig) (cap : Nat) : Lts State Action where
  init s := s = ⟨.empty, .idle⟩
  step s a s' := step q cap s a = some s'

/-- The state a list of actions leads to. -/
def perform (q : DrainConfig) (cap : Nat) : State → List Action → Option State
  | s, [] => some s
  | s, a :: as => (step q cap s a).bind fun s => perform q cap s as

theorem perform_append {q : DrainConfig} {cap : Nat} {s : State} {as bs : List Action} :
    perform q cap s (as ++ bs) = (perform q cap s as).bind fun t => perform q cap t bs := by
  induction as generalizing s with
  | nil => rfl
  | cons a as ih =>
    simp only [List.cons_append, perform, ih]
    rw [Option.bind_assoc]

/-- The machine is a function of its labels. -/
theorem run_iff_perform {q : DrainConfig} {cap : Nat} {s s' : State} {as : List Action} :
    (queue q cap).Run s as s' ↔ perform q cap s as = some s' := by
  constructor
  · intro hrun
    induction hrun with
    | nil => rfl
    | snoc _ hstep ih =>
      rw [perform_append, ih, Option.bind_some, perform, show step q cap _ _ = some _ from hstep]
      rfl
  · intro h
    induction as generalizing s with
    | nil =>
      cases h
      exact .nil
    | cons a as ih =>
      obtain ⟨t, hstep, hrest⟩ := Option.bind_eq_some_iff.mp h
      exact .cons hstep (ih hrest)

theorem run_of_perform {q : DrainConfig} {cap : Nat} {s s' : State} {as : List Action}
    (h : perform q cap s as = some s') : (queue q cap).Run s as s' := run_iff_perform.mpr h

/-! ## What a step does to one entry -/

/-- The entry of `key` after an action, given the entry before it. -/
def Action.onRow (q : DrainConfig) (key : OutpointKey) (old : Option QueueRow) : Action → Option QueueRow
  | .drop _ => old.filter fun r => decide (r.attempts < q.maxAttempts)
  | .claim _ batch now => if key ∈ batch then old.map (Store.claimedRow now) else old
  | .clear o => if key = o.key then none else old
  | .overflow outpoints now =>
    if key ∈ outpoints.map BtcOutPoint.key then some (Store.queueRow old "request-overflow" false ON_DEMAND now) else old
  | .requeue o now => if key = o.key then some (Store.queueRow old "refresh-failed" true ON_DEMAND now) else old
  | .complete o => if key = o.key then none else old
  | .fail o => if key = o.key then old.map fun r => { r with lastError := some "data source did not answer" } else old
  | .enqueue _ o reason replaceReason now =>
    if key = o.key then some (Store.queueRow old reason replaceReason ON_DEMAND now) else old
  | _ => old

/-- The observation of `key` after an action, given the observation before it. -/
def Action.onObservation (key : OutpointKey) (old : Option ObservationRow) : Action → Option ObservationRow
  | .record o status source now => if key = o.key then some (Store.observationRow old status none source now) else old
  | .observe key' status address source now =>
    if key = key' then some (Store.observationRow old status address source now) else old
  | .label key' address source now => if key = key' then some (Store.labelRow old address source now) else old
  | _ => old

section
variable {q : DrainConfig} {cap : Nat} {s s' : State} {a : Action}

theorem step_eq_some : step q cap s a = some s' ↔
    advance q cap s.store s.worker a = some s'.worker ∧ s'.store = a.write q s.store := by
  obtain ⟨st', w'⟩ := s'
  unfold step
  rw [Option.map_eq_some_iff]
  constructor
  · rintro ⟨w, hw, h⟩
    cases h
    exact ⟨hw, rfl⟩
  · rintro ⟨hw, rfl⟩
    exact ⟨w', hw, rfl⟩

/-! ### Where the worker stands -/

section
variable {st : Store} {w w' : Worker}

theorem advance_drop {dropped : List OutpointKey} (h : advance q cap st w (.drop dropped) = some w') :
    w = .idle ∧ (st.dropExhaustedRefreshes q.maxAttempts).2 = dropped ∧ w' = .dropped := by
  unfold advance at h
  dsimp only at h
  split at h
  · split at h
    · next hdropped =>
      cases h
      exact ⟨rfl, hdropped, rfl⟩
    · cases h
  · cases h

/-- A claim hands out the batch of its label. -/
theorem advance_claim {rows : ClaimOrder} {batch : List OutpointKey} {now : DateTime}
    (h : advance q cap st w (.claim rows batch now) = some w') :
    w = .dropped ∧ ∃ st' items, st.claimRefreshBatch rows q.queueBatchSize now = .ok (st', items) ∧
      items.map QueueItem.key = batch ∧ w' = afterClaim items := by
  unfold advance at h
  dsimp only at h
  split at h
  · next st' items hclaim =>
    split at h
    · next hbatch =>
      cases h
      exact ⟨rfl, st', items, hclaim, hbatch, rfl⟩
    · cases h
  · cases h

theorem advance_overflow {outpoints : List BtcOutPoint} {now : DateTime}
    (h : advance q cap st w (.overflow outpoints now) = some w') :
    ∃ rest st' n, w = .clearing [] rest ∧ rest ≠ [] ∧ rest.drop cap = outpoints ∧
      st.enqueueRefreshMany (outpoints.map BtcOutPoint.key) "request-overflow" ON_DEMAND now = .ok (st', n) ∧
      w' = .asking rest (rest.take cap) [] := by
  unfold advance at h
  dsimp only at h
  split at h
  · next rest queued henq =>
    split at h
    · next hrest =>
      cases h
      exact ⟨rest, queued.1, queued.2, rfl, hrest.1, hrest.2, henq, rfl⟩
    · cases h
  · cases h

theorem advance_read {fresh : List BtcOutPoint} {now : DateTime} (h : advance q cap st w (.read fresh now) = some w') :
    ∃ batch found, w = .claimed batch ∧ alreadyFresh st batch q.observationTtlSecs now = .ok found ∧ fresh.Perm found ∧
      w' = .clearing fresh (batch.filter fun o => o ∉ fresh) := by
  unfold advance at h
  dsimp only at h
  split at h
  · next batch =>
    split at h
    · next found hfound =>
      split at h
      · next hperm =>
        cases h
        exact ⟨batch, found, rfl, hfound, hperm, rfl⟩
      · cases h
    · cases h
  · cases h

theorem advance_clear {o : BtcOutPoint} (h : advance q cap st w (.clear o) = some w') :
    ∃ fresh rest, w = .clearing (o :: fresh) rest ∧ w' = .clearing fresh rest := by
  unfold advance at h
  dsimp only at h
  split at h
  · next o' fresh rest =>
    split at h
    · next ho =>
      subst ho
      cases h
      exact ⟨fresh, rest, rfl, rfl⟩
    · cases h
  · cases h

theorem advance_ask {o : BtcOutPoint} {answer : Except BtcError OutpointSpendStatus}
    (h : advance q cap st w (.ask o answer) = some w') :
    ∃ outpoints pending answers, w = .asking outpoints pending answers ∧ o ∈ pending ∧
      w' = .asking outpoints (pending.erase o) (answers ++ [(o, answer)]) := by
  unfold advance at h
  dsimp only at h
  split at h
  · next outpoints pending answers =>
    split at h
    · next ho =>
      cases h
      exact ⟨outpoints, pending, answers, rfl, ho, rfl⟩
    · cases h
  · cases h

theorem advance_record {o : BtcOutPoint} {status : OutpointSpendStatus} {source : String} {now : DateTime}
    (h : advance q cap st w (.record o status source now) = some w') :
    ∃ outpoints answers succeeded, w = .recording outpoints ((o, .ok status) :: answers) succeeded ∧
      w' = .recording outpoints answers (succeeded ++ [o]) := by
  unfold advance at h
  dsimp only at h
  split at h
  · next outpoints answer answers succeeded =>
    split at h
    · next ho =>
      subst ho
      cases h
      exact ⟨outpoints, answers, succeeded, rfl, rfl⟩
    · cases h
  · cases h

theorem advance_requeue {o : BtcOutPoint} {now : DateTime} (h : advance q cap st w (.requeue o now) = some w') :
    ∃ outpoints e answers succeeded, w = .recording outpoints ((o, .error e) :: answers) succeeded ∧
      w' = .recording outpoints answers succeeded := by
  unfold advance at h
  dsimp only at h
  split at h
  · next outpoints o' e answers succeeded =>
    split at h
    · next ho =>
      subst ho
      cases h
      exact ⟨outpoints, e, answers, succeeded, rfl, rfl⟩
    · cases h
  · cases h

theorem advance_complete {o : BtcOutPoint} (h : advance q cap st w (.complete o) = some w') :
    ∃ outpoints succeeded, w = .settling (o :: outpoints) succeeded ∧ o ∈ succeeded ∧
      w' = .settling outpoints succeeded := by
  unfold advance at h
  dsimp only at h
  split at h
  · next o' outpoints succeeded =>
    split at h
    · next ho =>
      obtain ⟨rfl, hsucceeded⟩ := ho
      cases h
      exact ⟨outpoints, succeeded, rfl, hsucceeded, rfl⟩
    · cases h
  · cases h

theorem advance_fail {o : BtcOutPoint} (h : advance q cap st w (.fail o) = some w') :
    ∃ outpoints succeeded, w = .settling (o :: outpoints) succeeded ∧ o ∉ succeeded ∧
      w' = .settling outpoints succeeded := by
  unfold advance at h
  dsimp only at h
  split at h
  · next o' outpoints succeeded =>
    split at h
    · next ho =>
      obtain ⟨rfl, hsucceeded⟩ := ho
      cases h
      exact ⟨outpoints, succeeded, rfl, hsucceeded, rfl⟩
    · cases h
  · cases h

theorem advance_next (h : advance q cap st w .next = some w') :
    (w = .clearing [] [] ∧ w' = .idle) ∨
      (∃ outpoints answers, w = .asking outpoints [] answers ∧ w' = .recording outpoints answers []) ∨
      (∃ outpoints succeeded, w = .recording outpoints [] succeeded ∧ w' = .settling outpoints succeeded) ∨
      ∃ succeeded, w = .settling [] succeeded ∧ w' = .idle := by
  unfold advance at h
  dsimp only at h
  split at h
  · cases h
    exact .inl ⟨rfl, rfl⟩
  · next outpoints answers =>
    cases h
    exact .inr (.inl ⟨outpoints, answers, rfl, rfl⟩)
  · next outpoints succeeded =>
    cases h
    exact .inr (.inr (.inl ⟨outpoints, succeeded, rfl, rfl⟩))
  · next succeeded =>
    cases h
    exact .inr (.inr (.inr ⟨succeeded, rfl, rfl⟩))
  · cases h

end

/-- What any step does to the entry of an outpoint. -/
theorem step_row (h : step q cap s a = some s') (key : OutpointKey) :
    s'.store.btcRefreshQueue.get? key = a.onRow q key (s.store.btcRefreshQueue.get? key) := by
  obtain ⟨hadvance, hstore⟩ := step_eq_some.mp h
  rw [hstore]
  cases a with
  | drop dropped => exact Store.get?_dropExhaustedRefreshes ..
  | claim rows batch now =>
    obtain ⟨-, st', items, hclaim, rfl, -⟩ := advance_claim hadvance
    obtain ⟨-, -, hrow⟩ := Store.claimRefreshBatch_eq_ok hclaim
    simp only [Action.write, hclaim, kept, hrow, Action.onRow]
    by_cases hk : key ∈ items.map QueueItem.key
    · simp [hk]
    · simp [hk]
  | clear o => exact Store.get?_completeRefresh ..
  | overflow outpoints now =>
    obtain ⟨rest, st', n, -, -, -, henq, -⟩ := advance_overflow hadvance
    simp only [Action.write, henq, kept]
    exact (Store.get?_enqueueRefreshMany henq).2 key
  | requeue o now =>
    simp only [Action.write, Action.onRow, Store.get?_enqueueRefresh]
    by_cases hk : key = o.key
    · simp [hk]
    · simp [hk]
  | complete o => exact Store.get?_completeRefresh ..
  | fail o => exact Store.get?_failRefresh ..
  | enqueue origin o reason replaceReason now =>
    simp only [Action.write, Action.onRow, Table.get?_upsert]
    by_cases hk : key = o.key
    · simp [hk]
    · simp [hk]
  | read => rfl
  | ask => rfl
  | record => rfl
  | next => rfl
  | abort => rfl
  | observe => rfl
  | label => rfl
  | other => rfl

/-- What any step does to the observation of an outpoint. -/
theorem step_observation (h : step q cap s a = some s') (key : OutpointKey) :
    s'.store.btcOutpoints.get? key = a.onObservation key (s.store.btcOutpoints.get? key) := by
  obtain ⟨hadvance, hstore⟩ := step_eq_some.mp h
  rw [hstore]
  cases a with
  | claim rows batch now =>
    obtain ⟨-, st', items, hclaim, -, -⟩ := advance_claim hadvance
    obtain ⟨-, hframe, -⟩ := Store.claimRefreshBatch_eq_ok hclaim
    simp only [Action.write, hclaim, kept, Action.onObservation]
    rw [hframe]
  | overflow outpoints now =>
    obtain ⟨rest, st', n, -, -, -, henq, -⟩ := advance_overflow hadvance
    simp only [Action.write, henq, kept, Action.onObservation]
    rw [(Store.get?_enqueueRefreshMany henq).1]
  | record o status source now =>
    simp only [Action.write, Action.onObservation, Store.get?_upsertObservation]
    by_cases hk : key = o.key
    · simp [hk]
    · simp [hk]
  | observe key' status address source now =>
    simp only [Action.write, Action.onObservation, Store.get?_upsertObservation]
    by_cases hk : key = key'
    · simp [hk]
    · simp [hk]
  | label key' address source now =>
    simp only [Action.write, Action.onObservation, Store.get?_labelOutpoint]
    by_cases hk : key = key'
    · simp [hk]
    · simp [hk]
  | drop => rfl
  | read => rfl
  | clear => rfl
  | ask => rfl
  | requeue => rfl
  | complete => rfl
  | fail => rfl
  | next => rfl
  | abort => rfl
  | enqueue => rfl
  | other => rfl

end

/-! ## Where an entry comes from -/

/-- The action claims the entry of `key`. -/
def Action.Claims (key : OutpointKey) : Action → Prop
  | .claim _ batch _ => key ∈ batch
  | _ => False

/-- The data source does not answer the question about `o`. -/
def Action.FailsOn (o : BtcOutPoint) : Action → Prop
  | .ask o' (.error _) => o' = o
  | _ => False

/-- An entry is the one before the action, claimed, queued, or marked with an error. -/
theorem Action.onRow_cases {q : DrainConfig} {key : OutpointKey} {a : Action} {old : Option QueueRow} {r' : QueueRow}
    (h : a.onRow q key old = some r') :
    old = some r' ∨ (∃ r now, a.Claims key ∧ old = some r ∧ r' = Store.claimedRow now r) ∨
      (∃ (o : BtcOutPoint) (reason : String) (replaceReason : Bool) (now : DateTime), o.key = key ∧
        r' = Store.queueRow old reason replaceReason ON_DEMAND now) ∨
      ∃ r error, old = some r ∧ r' = { r with lastError := error } := by
  cases a with
  | drop dropped => exact .inl (Option.filter_eq_some_iff.mp h).1
  | claim rows batch now =>
    simp only [onRow] at h
    split at h
    · next hkey =>
      obtain ⟨r, hr, rfl⟩ := Option.map_eq_some_iff.mp h
      exact .inr (.inl ⟨r, now, hkey, hr, rfl⟩)
    · exact .inl h
  | clear o =>
    simp only [onRow] at h
    split at h
    · cases h
    · exact .inl h
  | overflow outpoints now =>
    simp only [onRow] at h
    split at h
    · next hkey =>
      obtain ⟨o, -, ho⟩ := List.mem_map.mp hkey
      exact .inr (.inr (.inl ⟨o, _, _, now, ho, (Option.some.inj h).symm⟩))
    · exact .inl h
  | requeue o now =>
    simp only [onRow] at h
    split at h
    · next hkey => exact .inr (.inr (.inl ⟨o, _, _, now, hkey.symm, (Option.some.inj h).symm⟩))
    · exact .inl h
  | complete o =>
    simp only [onRow] at h
    split at h
    · cases h
    · exact .inl h
  | fail o =>
    simp only [onRow] at h
    split at h
    · obtain ⟨r, hr, rfl⟩ := Option.map_eq_some_iff.mp h
      exact .inr (.inr (.inr ⟨r, _, hr, rfl⟩))
    · exact .inl h
  | enqueue origin o reason replaceReason now =>
    simp only [onRow] at h
    split at h
    · next hkey => exact .inr (.inr (.inl ⟨o, _, _, now, hkey.symm, (Option.some.inj h).symm⟩))
    · exact .inl h
  | read => exact .inl h
  | ask => exact .inl h
  | record => exact .inl h
  | next => exact .inl h
  | abort => exact .inl h
  | observe => exact .inl h
  | label => exact .inl h
  | other => exact .inl h

/-- Only a claim counts an attempt, and a new entry starts at none. -/
theorem Action.onRow_attempts {q : DrainConfig} {key : OutpointKey} {a : Action} (ha : ¬ a.Claims key)
    {old : Option QueueRow} {r' : QueueRow} (h : a.onRow q key old = some r') :
    (∃ r, old = some r ∧ r'.attempts = r.attempts) ∨ old = none ∧ r'.attempts = 0 := by
  rcases Action.onRow_cases h with hsame | ⟨r, now, hclaims, -, -⟩ | ⟨o, reason, replaceReason, now, -, rfl⟩ |
    ⟨r, error, hr, rfl⟩
  · exact .inl ⟨r', hsame, rfl⟩
  · exact absurd hclaims ha
  · cases old with
    | none => exact .inr ⟨rfl, rfl⟩
    | some r => exact .inl ⟨r, rfl, rfl⟩
  · exact .inl ⟨r, hr, rfl⟩

end RgbppIndexer.Queue
