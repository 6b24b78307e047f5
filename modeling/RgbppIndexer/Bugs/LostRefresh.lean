import RgbppIndexer.Indexer.Refresh

/-!
# A failed follow-up discards the answers behind it

`refresh_outpoints` (crates/indexer/src/reconcile.rs:139-176) works through
the answers of one `observe_many` call. A lookup that fails is queued and the
loop goes on; a follow-up that fails (`follow_up_spend(..).await?`, line 145)
leaves the loop instead. The answers behind it were already obtained, and are
neither written nor queued.

Everywhere else the call keeps what it cannot finish: the overflow of the
request cap is queued "rather than dropping it" (lines 121-122) and a failed
lookup is "queued for retry" (line 165).

Counterexample: two outpoints, the first reported spent, the fetch of its
spender rate limited. The call ends with that error and the second outpoint
is lost (`second_outpoint_lost`).

* `conserved_iff`: **a call that does not fail in the database records or
  queues every requested outpoint exactly when no failing follow-up has an
  answer behind it that was not queued anyway.**
-/
namespace RgbppIndexer.Bugs.LostRefresh

open RgbppIndexer.Core Reconciler

variable (r : Reconciler) (moment : Nat) (st : Store) (outpoints : List BtcOutPoint)

/-- The answer for `o` was written during the call, and its row shows it afterwards. -/
def Recorded (o : BtcOutPoint) : Prop :=
  o ∈ (r.refreshOutpoints moment st outpoints).observed ∧
    ∃ status row, (o, .ok status) ∈ r.answers moment outpoints ∧
      (r.refreshOutpoints moment st outpoints).store.btcOutpoints.get? o.key = some row ∧ r.Shows status row

/-- Every requested outpoint is recorded or waits in the queue. -/
def Conserved : Prop :=
  ∀ o ∈ outpoints, Recorded r moment st outpoints o ∨ (r.refreshOutpoints moment st outpoints).store.Queued o.key

/-- The call returns `Ok`, or the error of the data source. -/
def EndsInSource : Prop :=
  (∃ out, (r.refreshOutpoints moment st outpoints).result = .ok out) ∨
    ∃ e, (r.refreshOutpoints moment st outpoints).result = .error (.btc e)

/-- No failing follow-up has an answer behind it that was not queued anyway. -/
def NothingBehindAFailure : Prop :=
  ∀ pre a post, r.answers moment outpoints = pre ++ a :: post → r.FollowUpFails (moment + 1 + pre.length) st a →
    ∀ b ∈ post, st.Queued b.1.key ∨ b.1 ∈ r.overflow outpoints

variable {r moment st outpoints}

/-- A call that fails elsewhere does not fail in the database. -/
theorem EndsInSource.not_store (h : EndsInSource r moment st outpoints) (e : StoreError) :
    (r.refreshOutpoints moment st outpoints).result ≠ .error (.store e) := by
  intro he
  rcases h with ⟨out, hout⟩ | ⟨b, hb⟩
  · rw [hout] at he; cases he
  · rw [hb] at he; cases he

/-- An answer the loop worked through is conserved. -/
theorem conserved_of_processed {queued : Store} {done : List Observed} {o : BtcOutPoint}
    {res : Except BtcError OutpointSpendStatus} {pass : RefreshPass}
    (hprocessed : r.Processed queued done pass) (hdone : (o, res) ∈ done)
    (hsub : ∀ a ∈ done, a ∈ r.answers moment outpoints)
    (hstore : (r.refreshOutpoints moment st outpoints).store = pass.store)
    (hobserved : (r.refreshOutpoints moment st outpoints).observed = pass.observed) :
    Recorded r moment st outpoints o ∨ (r.refreshOutpoints moment st outpoints).store.Queued o.key := by
  rw [Recorded, hstore, hobserved]
  cases res with
  | error e => exact .inr ((hprocessed.queued o.key).mpr (.inr ⟨o, e, hdone, rfl⟩))
  | ok status =>
    obtain ⟨row, hrow, hshows⟩ := hprocessed.recorded o status hdone
    exact .inl ⟨(hprocessed.observed o).mpr ⟨status, hdone⟩, status, row, hsub _ hdone, hrow, hshows⟩

/-- An answer the loop never reached is conserved only by an entry that was there before. -/
theorem queued_of_conserved {queued : Store} {done : List Observed} {b : Observed} {pass : RefreshPass}
    (hprocessed : r.Processed queued done pass) (hb : b.1 ∉ done.map Prod.fst)
    (hstore : (r.refreshOutpoints moment st outpoints).store = pass.store)
    (hobserved : (r.refreshOutpoints moment st outpoints).observed = pass.observed)
    (hkept : Recorded r moment st outpoints b.1 ∨ (r.refreshOutpoints moment st outpoints).store.Queued b.1.key) :
    queued.Queued b.1.key := by
  rw [Recorded, hstore, hobserved] at hkept
  rcases hkept with ⟨hmem, -⟩ | hq
  · obtain ⟨status, hdone⟩ := (hprocessed.observed b.1).mp hmem
    exact absurd (List.mem_map.mpr ⟨_, hdone, rfl⟩) hb
  · rcases (hprocessed.queued b.1.key).mp hq with hq | ⟨o, e, hdone, hk⟩
    · exact hq
    · have ho : b.1 = o := BtcOutPoint.key_injective hk
      rw [ho] at hb
      exact absurd (List.mem_map.mpr ⟨_, hdone, rfl⟩) hb

/-- A pass that succeeds has no failing follow-up, as the call found the database. -/
theorem not_followUpFails_of_passOk {queued : Store} (hrows : queued.btcOutpoints = st.btcOutpoints)
    {pre post : List Observed} {a : Observed} (hsplit : r.answers moment outpoints = pre ++ a :: post) :
    PassOk r.refreshStep (moment + 1) { store := queued, out := [], observed := [] } pre a ↔
      ¬ r.FollowUpFails (moment + 1 + pre.length) st a := by
  have hnodup : ((pre ++ a :: post).map Prod.fst).Nodup := hsplit ▸ answers_nodup r moment outpoints
  rw [List.map_append, List.nodup_append] at hnodup
  have hprocessed := processed_afterPasses (r := r) hnodup.1 (moment + 1) queued []
  have hnew : a.1 ∉ pre.map Prod.fst := fun hmem => hnodup.2.2 _ hmem _ (by simp) rfl
  have hfails : r.FollowUpFails (moment + 1 + pre.length)
      (afterPasses r.refreshStep (moment + 1) { store := queued, out := [], observed := [] } pre).store a ↔
      r.FollowUpFails (moment + 1 + pre.length) st a := by
    rw [hprocessed.followUpFails_iff hnew]
    unfold FollowUpFails
    rw [hrows]
  unfold PassOk
  rw [← hfails]
  rcases refreshStep_cases r (moment + 1 + pre.length)
    (afterPasses r.refreshStep (moment + 1) { store := queued, out := [], observed := [] } pre) a with
    ⟨hok, hnot⟩ | ⟨⟨e, herr⟩, hfail⟩
  · simp [hok, hnot]
  · simp [herr, hfail]

/-- **The calls that conserve every requested outpoint.** -/
theorem conserved_iff (h : EndsInSource r moment st outpoints) :
    Conserved r moment st outpoints ↔ NothingBehindAFailure r moment st outpoints := by
  obtain ⟨queued, hqueued, hrows, hstore, hobserved⟩ := refreshOutpoints_started h.not_store
  have hqueuedKey : ∀ o : BtcOutPoint, queued.Queued o.key ↔ o ∈ r.overflow outpoints ∨ st.Queued o.key := by
    intro o
    rw [hqueued, List.mem_map]
    constructor
    · rintro (⟨p, hp, hk⟩ | hq)
      · exact .inl (BtcOutPoint.key_injective hk ▸ hp)
      · exact .inr hq
    · rintro (ho | hq)
      · exact .inl ⟨o, ho, rfl⟩
      · exact .inr hq
  have hnodup := answers_nodup r moment outpoints
  unfold refreshLoop at hstore hobserved
  rcases forEach_cases r.refreshStep (moment + 1) { store := queued, out := [], observed := [] }
    (r.answers moment outpoints) with ⟨hrun, hall⟩ | ⟨pre, x, post, e, hsplit, herr, hrun, hbefore⟩
  · -- every answer is worked through, and no follow-up fails
    rw [hrun] at hstore hobserved
    have hprocessed := processed_afterPasses (r := r) hnodup (moment + 1) queued []
    constructor
    · intro _ pre a post hans hfail
      exact absurd hfail ((not_followUpFails_of_passOk hrows hans).mp (hall pre a post hans))
    · intro _ o ho
      rcases mem_capped_or_overflow (r := r) ho with hcap | hover
      · obtain ⟨res, hres⟩ := exists_answer moment hcap
        exact conserved_of_processed hprocessed hres (fun _ ha => ha) hstore hobserved
      · right
        rw [hstore]
        exact (hprocessed.queued o.key).mpr (.inl ((hqueuedKey o).mpr (.inl hover)))
  · -- the loop stops right after `x`, the first answer whose follow-up fails
    rw [hrun] at hstore hobserved
    have hsplit' : r.answers moment outpoints = (pre ++ [x]) ++ post := by rw [hsplit]; simp
    rw [hsplit', List.map_append, List.nodup_append] at hnodup
    have hprocessed := processed_afterPasses (r := r) hnodup.1 (moment + 1) queued []
    constructor
    · intro hconserved pre' a post' hans hfail b hb
      have hlater : b ∈ post := by
        have hpassa := mt (not_followUpFails_of_passOk hrows hans).mp (not_not_intro hfail)
        rcases place_cases (hsplit.symm.trans hans) with ⟨between, hpre⟩ | ⟨-, -, rfl⟩ | ⟨between, -, hpost⟩
        · exact absurd (hbefore pre' a between hpre) hpassa
        · exact hb
        · rw [hpost]
          simp [hb]
      have hnew : b.1 ∉ (pre ++ [x]).map Prod.fst := fun hmem =>
        hnodup.2.2 _ hmem _ (List.mem_map.mpr ⟨b, hlater, rfl⟩) rfl
      have hreq : b.1 ∈ outpoints := mem_of_mem_answers (by rw [hsplit']; simp [hlater])
      have := queued_of_conserved hprocessed hnew hstore hobserved (hconserved b.1 hreq)
      exact ((hqueuedKey b.1).mp this).symm
    · intro hcond o ho
      have hfail : r.FollowUpFails (moment + 1 + pre.length) st x := by
        by_contra hnot
        have hok := (not_followUpFails_of_passOk hrows hsplit).mpr hnot
        unfold PassOk at hok
        rw [hok] at herr
        cases herr
      have hinitial : queued.Queued o.key → (r.refreshOutpoints moment st outpoints).store.Queued o.key := by
        intro hq
        rw [hstore]
        exact (hprocessed.queued o.key).mpr (.inl hq)
      rcases mem_capped_or_overflow (r := r) ho with hcap | hover
      · obtain ⟨res, hres⟩ := exists_answer moment hcap
        rw [hsplit'] at hres
        rcases List.mem_append.mp hres with hdone | hpost
        · exact conserved_of_processed hprocessed hdone (fun a ha => by rw [hsplit']; exact List.mem_append_left _ ha) hstore hobserved
        · exact .inr (hinitial ((hqueuedKey o).mpr (hcond pre x post hsplit hfail _ hpost).symm))
      · exact .inr (hinitial ((hqueuedKey o).mpr (.inl hover)))

/-! ## The counterexample -/

/-- A backend that sees the output of one transaction spent and that of the other unspent, and refuses to hand
out any transaction. -/
def rateLimited : BtcDataSource where
  name := "esplora"
  moment _ :=
    { transaction := fun _ => .error (.rateLimited "/tx")
      outpointStatus := fun o =>
        if o.txid = .placeholder then .ok (.spentConfirmed ⟨.filled 32 9⟩ 100) else .ok .unspent
      txOutspends := fun _ => .ok none
      addressUtxos := fun _ => .ok [] }

def reconciler : Reconciler where
  config := .testnet 64
  btc := rateLimited
  completion := .inOrder
  now := 0

def spentOutpoint : BtcOutPoint := ⟨.placeholder, 0⟩

def unspentOutpoint : BtcOutPoint := ⟨⟨.filled 32 1⟩, 0⟩

theorem rateLimited_endsInSource : EndsInSource reconciler 0 .empty [spentOutpoint, unspentOutpoint] :=
  .inr ⟨.rateLimited "/tx", by rfl⟩

/-- **The second outpoint is lost**: its answer was there, and it is neither recorded nor queued. -/
theorem second_outpoint_lost :
    EndsInSource reconciler 0 .empty [spentOutpoint, unspentOutpoint] ∧
      ¬ Conserved reconciler 0 .empty [spentOutpoint, unspentOutpoint] := by
  refine ⟨rateLimited_endsInSource, fun hconserved => ?_⟩
  rcases hconserved unspentOutpoint (by simp) with ⟨hmem, -⟩ | hqueued
  · revert hmem; decide +kernel
  · revert hqueued; decide +kernel

/-- The same call, read through the condition. -/
theorem conserved_iff_rateLimited :
    Conserved reconciler 0 .empty [spentOutpoint, unspentOutpoint] ↔
      NothingBehindAFailure reconciler 0 .empty [spentOutpoint, unspentOutpoint] :=
  conserved_iff rateLimited_endsInSource

end RgbppIndexer.Bugs.LostRefresh
