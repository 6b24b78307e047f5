import RgbppIndexer.Core.Rounds
import RgbppIndexer.Indexer.Reconcile
import RgbppIndexer.Store.Funding
import RgbppIndexer.Store.Status

/-!
# The address backfill

`crates/indexer/src/address_backfill.rs`: a loop that looks up the funding
transactions of bindings without a known owner, a page at a time. The cursor
is held in memory; it starts over behind a short page and stays where it is
when a pass fails.

The loop has no end in the source; here `states` is what it has reached after
each pass. A pass fails where the database refuses its query, or where a
stored txid cannot be read. Other tasks may write to the database behind every
transaction of a pass, and between two passes.

* `backfillOnce_eq_ok`: a pass that succeeds has asked about every transaction
  of its page.
* `goesRound`: the loop is a reader that goes round.
* `asked_within`: **it asks about every transaction that stays, in any
  `⌈n/b⌉ + 2` passes that succeed.**
-/
namespace RgbppIndexer

open RgbppIndexer.Core

/-- mirrors crates/types/src/config.rs:328-335 -/
structure BackfillConfig where
  addressBackfillBatch : Int64
  deriving DecidableEq, Repr

/-- The most transactions a page has. -/
def BackfillConfig.pageSize (c : BackfillConfig) : Nat := c.addressBackfillBatch.toInt.toNat

/-- mirrors crates/indexer/src/address_backfill.rs:20-24 -/
structure AddressBackfill where
  config : BackfillConfig
  btc : BtcDataSource

/-- mirrors crates/indexer/src/address_backfill.rs:27-34 -/
structure BackfillReport where
  transactions : Nat := 0
  bindingsLabelled : Nat := 0
  unresolved : Nat := 0
  deriving DecidableEq, Repr

/-- The world of the loop: for each pass whether the database refuses its query, the moment its questions are asked at
and the clock; what other tasks write behind each of its transactions, and before the next pass. -/
structure BackfillEnv where
  refused : Nat → Option StoreError
  moment : Nat → Nat → Nat
  now : Nat → DateTime
  meanwhile : Nat → Nat → Store → Store
  between : Nat → Store → Store

/-- A pass so far. -/
structure BackfillPass where
  store : Store
  report : BackfillReport
  /-- the transactions that were asked about; the source keeps no such list -/
  asked : List BtcTxid

/-- Where the loop stands between two passes. -/
structure BackfillState where
  store : Store
  cursor : Option Bytes

namespace AddressBackfill

variable (b : AddressBackfill) (env : BackfillEnv)

/-- Fetch one funding transaction and label every bound output it created.
mirrors crates/indexer/src/address_backfill.rs:121-145 -/
def resolve (moment : Nat) (now : DateTime) (st : Store) (txid : BtcTxid) : Store × Except IndexerError Nat :=
  match (b.btc.moment moment).transaction txid with
  | .error e => (st, .error (.btc e))
  | .ok none => (st, .ok 0)
  | .ok (some tx) =>
    let st := st.upsertBtcTx txid.toDisplayVec (btcTxRow b.btc.name tx)
    match recordAddresses st txid tx now with
    | .error e => (st, .error (.store e))
    | .ok (st, labelled) => (st, .ok labelled)

/-- One transaction of a pass; one that cannot be resolved is counted, and the pass goes on.
mirrors crates/indexer/src/address_backfill.rs:100-115 -/
def backfillStep (k : Nat) : Pass BackfillPass Bytes IndexerError := fun i pass raw =>
  match BtcTxid.fromDisplaySlice raw with
  | .error e => (pass, .error (.types e))
  | .ok txid =>
    let (st, resolved) := b.resolve (env.moment k i) (env.now k) pass.store txid
    let report :=
      match resolved with
      | .ok labelled => { pass.report with bindingsLabelled := pass.report.bindingsLabelled + labelled }
      | .error _ => { pass.report with unresolved := pass.report.unresolved + 1 }
    ({ store := env.meanwhile k i st, report, asked := pass.asked ++ [txid] }, .ok ())

/-- One pass. mirrors crates/indexer/src/address_backfill.rs:82-118 -/
def backfillOnce (k : Nat) (st : Store) (after : Option Bytes) :
    BackfillPass × Except IndexerError (BackfillReport × Option Bytes) :=
  let listed : Except StoreError (List Bytes) :=
    match env.refused k with
    | some e => .error e
    | none => st.fundingTxidsMissingAddress after b.config.addressBackfillBatch
  match listed with
  | .error e => ({ store := st, report := {}, asked := [] }, .error (.store e))
  | .ok txids =>
    let (pass, done) := forEach (b.backfillStep env k) 0
      { store := st, report := { transactions := txids.length }, asked := [] } txids
    (pass, done.map fun _ => (pass.report, txids.getLast?))

/-- One turn of the loop. mirrors crates/indexer/src/address_backfill.rs:52-73 -/
def runStep (k : Nat) (s : BackfillState) : BackfillState :=
  let (pass, done) := b.backfillOnce env k s.store s.cursor
  { store := env.between k pass.store
    cursor :=
      match done with
      | .ok (report, next) =>
        -- a short pass means the end of the set
        if report.transactions < b.config.addressBackfillBatch.toUInt64.toNat then none else next
      | .error _ => s.cursor }

/-- Where the loop stands before each pass. -/
def states (start : BackfillState) : Nat → BackfillState
  | 0 => start
  | k + 1 => b.runStep env k (states start k)

/-- The pass `k` of a run. -/
def passAt (start : BackfillState) (k : Nat) : BackfillPass × Except IndexerError (BackfillReport × Option Bytes) :=
  b.backfillOnce env k (b.states env start k).store (b.states env start k).cursor

/-- The pass `k` succeeds. -/
def succeeds (start : BackfillState) (k : Nat) : Bool := (b.passAt env start k).2.isOk

end AddressBackfill

/-- Other tasks label what they like, and add no funding transaction to look up. -/
structure BackfillEnv.AddsNone (env : BackfillEnv) : Prop where
  meanwhile : ∀ k i st txid, Store.Unlabelled txid (env.meanwhile k i st) → Store.Unlabelled txid st
  between : ∀ k st txid, Store.Unlabelled txid (env.between k st) → Store.Unlabelled txid st

namespace AddressBackfill

section
variable {b : AddressBackfill} {env : BackfillEnv} {st : Store} {txid : Bytes} {k : Nat}

/-! ## What a pass does to the set -/

theorem unlabelled_of_recordAddresses {funding : BtcTxid} {tx : BtcTxInfo} {now : DateTime} {labelled : Store × Nat}
    (h : recordAddresses st funding tx now = .ok labelled) (hunlabelled : Store.Unlabelled txid labelled.1) :
    Store.Unlabelled txid st := by
  rcases recordAddresses_inv h with hsame | hwritten
  · rwa [hsame] at hunlabelled
  · exact hunlabelled.of_recordBindingAddresses hwritten

/-- Looking a transaction up adds none to the set. -/
theorem unlabelled_of_resolve {moment : Nat} {now : DateTime} {funding : BtcTxid}
    (h : Store.Unlabelled txid (b.resolve moment now st funding).1) : Store.Unlabelled txid st := by
  unfold resolve at h
  split at h
  · exact h
  · exact h
  · next tx htx =>
    dsimp only at h
    split at h
    · exact h
    · next labelled n hrecord =>
      have hcached : Store.Unlabelled txid (st.upsertBtcTx funding.toDisplayVec (btcTxRow b.btc.name tx)) :=
        unlabelled_of_recordAddresses hrecord h
      exact hcached

theorem unlabelled_of_backfillStep (hadds : env.AddsNone) {i : Nat} {pass : BackfillPass} {raw : Bytes}
    (h : Store.Unlabelled txid (b.backfillStep env k i pass raw).1.store) : Store.Unlabelled txid pass.store := by
  unfold backfillStep at h
  split at h
  · exact h
  · exact unlabelled_of_resolve (hadds.meanwhile k i _ txid h)

/-- A pass adds none, whether or not it succeeds. -/
theorem unlabelled_of_backfillOnce (hadds : env.AddsNone) {after : Option Bytes}
    (h : Store.Unlabelled txid (b.backfillOnce env k st after).1.store) : Store.Unlabelled txid st := by
  unfold backfillOnce at h
  dsimp only at h
  split at h
  · exact h
  · next txids _ =>
    obtain ⟨done, -, hloop⟩ := forEach_fst (b.backfillStep env k) 0
      { store := st, report := { transactions := txids.length }, asked := [] } txids
    dsimp only at h
    rw [hloop] at h
    revert h
    refine afterPasses_keeps (P := fun _ (p : BackfillPass) => Store.Unlabelled txid p.store → Store.Unlabelled txid st)
      ?_ id done
    intro done raw p hp hstep
    exact hp (unlabelled_of_backfillStep hadds hstep)

/-! ## What a pass asks -/

theorem backfillStep_ok {i : Nat} {pass : BackfillPass} {raw : Bytes} (h : (b.backfillStep env k i pass raw).2 = .ok ()) :
    ∃ funding : BtcTxid, funding.toDisplayVec = raw ∧ (b.backfillStep env k i pass raw).1.asked = pass.asked ++ [funding] ∧
      (b.backfillStep env k i pass raw).1.report.transactions = pass.report.transactions := by
  unfold backfillStep at h ⊢
  split at h
  · cases h
  · next funding hraw =>
    refine ⟨funding, BtcTxid.toDisplayVec_of_fromDisplaySlice hraw, rfl, ?_⟩
    dsimp only
    split <;> rfl

/-- A pass that succeeds has asked about its whole page, and goes on behind it. -/
theorem backfillOnce_eq_ok {after next : Option Bytes} {report : BackfillReport}
    (h : (b.backfillOnce env k st after).2 = .ok (report, next)) :
    ∃ page, st.fundingTxidsMissingAddress after b.config.addressBackfillBatch = .ok page ∧
      (b.backfillOnce env k st after).1.asked.map BtcTxid.toDisplayVec = page ∧ report.transactions = page.length ∧
      next = page.getLast? := by
  unfold backfillOnce at h ⊢
  cases hrefused : env.refused k with
  | some e =>
    rw [hrefused] at h
    cases h
  | none =>
    rw [hrefused] at h
    dsimp only at h ⊢
    cases hlist : st.fundingTxidsMissingAddress after b.config.addressBackfillBatch with
    | error e =>
      rw [hlist] at h
      cases h
    | ok page =>
      rw [hlist] at h
      dsimp only at h ⊢
      refine ⟨page, rfl, ?_⟩
      generalize hloop : forEach (b.backfillStep env k) 0
        { store := st, report := { transactions := page.length }, asked := [] } page = looped at h ⊢
      obtain ⟨pass, done⟩ := looped
      cases done with
      | error e => cases h
      | ok u =>
        obtain ⟨rfl, rfl⟩ := Prod.mk.inj (Except.ok.inj h)
        have hkeeps : (forEach (b.backfillStep env k) 0
            { store := st, report := { transactions := page.length }, asked := [] } page).1.asked.map BtcTxid.toDisplayVec = page ∧
            (forEach (b.backfillStep env k) 0
              { store := st, report := { transactions := page.length }, asked := [] } page).1.report.transactions = page.length := by
          refine forEach_ok_keeps (P := fun done (p : BackfillPass) =>
            p.asked.map BtcTxid.toDisplayVec = done ∧ p.report.transactions = page.length) ?_ ⟨rfl, rfl⟩ (by rw [hloop])
          intro done raw p hp hok
          obtain ⟨funding, hraw, hasked, htransactions⟩ := backfillStep_ok hok
          exact ⟨by rw [hasked, List.map_append, hp.1, List.map_singleton, hraw], htransactions.trans hp.2⟩
        rw [hloop] at hkeeps
        exact ⟨hkeeps.1, hkeeps.2, rfl⟩

end

/-! ## The loop -/

section
variable {b : AddressBackfill} {env : BackfillEnv} {start : BackfillState}

theorem pageSize_pos (h : 0 < b.config.addressBackfillBatch) :
    0 < b.config.pageSize ∧ b.config.addressBackfillBatch.toUInt64.toNat = b.config.pageSize := by
  rw [Int64.toNat_toUInt64_of_le (Int64.le_of_lt h)]
  exact ⟨(toNat_toInt_pos h).2, rfl⟩

/-- The loop is a reader that goes round. -/
theorem goesRound (hadds : env.AddsNone) (hbatch : 0 < b.config.addressBackfillBatch) :
    Keyset.GoesRound txidLe b.config.pageSize (fun k => b.succeeds env start k = true)
      (fun k => (b.states env start k).cursor) (fun k => (b.states env start k).store.missingAddress) where
  order := Store.txidLe_isOrder
  pos := (pageSize_pos hbatch).1
  sorted k := Store.missingAddress_sorted _
  nodup k := Store.missingAddress_nodup _
  shrinks k txid hmem := by
    rw [Store.mem_missingAddress] at hmem ⊢
    exact unlabelled_of_backfillOnce hadds (hadds.between k _ txid hmem)
  next k := by
    show (b.runStep env k (b.states env start k)).cursor = _
    unfold runStep succeeds passAt
    generalize hpass : b.backfillOnce env k (b.states env start k).store (b.states env start k).cursor = result
    obtain ⟨pass, done⟩ := result
    cases done with
    | error e => rfl
    | ok out =>
      obtain ⟨report, next⟩ := out
      obtain ⟨page, hpage, -, htransactions, rfl⟩ := backfillOnce_eq_ok (congrArg Prod.snd hpass)
      obtain ⟨-, rfl⟩ := Store.fundingTxidsMissingAddress_eq_ok.mp hpage
      have hok : (Except.ok (report, (Keyset.page txidLe (b.states env start k).cursor b.config.pageSize
          (b.states env start k).store.missingAddress).getLast?) : Except IndexerError _).isOk = true := rfl
      dsimp only
      rw [htransactions, (pageSize_pos hbatch).2]
      exact (if_pos hok).symm

/-- **No transaction is starved**: with `n` funding transactions to look up and pages of `b`, the loop asks about every
one that stays unlabelled, in any window with `⌈n/b⌉ + 2` passes that succeed. Nothing is assumed about the answers. -/
theorem asked_within (hbatch : 0 < b.config.addressBackfillBatch) (hadds : env.AddsNone) {i d : Nat} {txid : Bytes}
    (hstays : ∀ k, i ≤ k → k < i + d → Store.Unlabelled txid (b.states env start k).store)
    (hwindow : (start.store.missingAddress.length + b.config.pageSize - 1) / b.config.pageSize + 2 ≤
      Nat.count (fun k => b.succeeds env start (i + k) = true) d) :
    ∃ k, i ≤ k ∧ k < i + d ∧ b.succeeds env start k = true ∧
      txid ∈ (b.passAt env start k).1.asked.map BtcTxid.toDisplayVec := by
  have hround : Keyset.GoesRound txidLe b.config.pageSize (fun k => b.succeeds env start k = true)
      (fun k => (b.states env start k).cursor) (fun k => (b.states env start k).store.missingAddress) :=
    goesRound hadds hbatch
  -- the set is no larger at the window than at the start
  have hlength : (b.states env start i).store.missingAddress.length ≤ start.store.missingAddress.length :=
    (List.subperm_of_subset (Store.missingAddress_nodup _) fun txid hmem =>
      hround.mem_of_le (Nat.zero_le i) hmem).length_le
  have hmany : ((b.states env start i).store.missingAddress.length - 1) / b.config.pageSize + 2 ≤
      Nat.count (fun k => b.succeeds env start (i + k) = true) d := by
    refine le_trans (Nat.add_le_add_right (Nat.div_le_div_right ?_) 2) hwindow
    have hpos := (pageSize_pos hbatch).1
    omega
  obtain ⟨k, hik, hkd, hsucceeds, hread⟩ := hround.read_within
    (fun k hik hkd => Store.mem_missingAddress.mpr (hstays k hik hkd)) hmany
  refine ⟨k, hik, hkd, hsucceeds, ?_⟩
  have hsucceeds' := hsucceeds
  unfold succeeds at hsucceeds'
  cases hdone : (b.passAt env start k).2 with
  | error e =>
    rw [hdone] at hsucceeds'
    cases hsucceeds'
  | ok out =>
    obtain ⟨page, hpage, hasked, -⟩ := backfillOnce_eq_ok hdone
    unfold passAt
    rw [hasked, (Store.fundingTxidsMissingAddress_eq_ok.mp hpage).2]
    exact hread

end

/-! ## Three transactions, one of which can be resolved -/

section

def funding (n : UInt8) : BtcTxid := ⟨.filled 32 n⟩

/-- A cell bound to an output of each. -/
def threeBound : Store :=
  [1, 2, 3].foldl (fun st n => st.insertCell { Store.boundCell with
    ckbTxHash := (funding n).toDisplayVec, btcTxid := (funding n).toDisplayVec }) .empty

/-- The first cannot be fetched, the second is not known, the third pays its output to somebody. -/
def answers (txid : BtcTxid) : Except BtcError (Option BtcTxInfo) :=
  if txid = funding 1 then .error (.transport "timed out")
  else if txid = funding 2 then .ok none
  else
    .ok (some { txid, confirmation := none, inputs := [], fee := none
                outputs := [{ value := 546, scriptPubkey := [], address := some "bc1qalice" }] })

/-- One transaction a pass. -/
def oneByOne : AddressBackfill where
  config := { addressBackfillBatch := 1 }
  btc :=
    { name := "esplora"
      moment := fun _ =>
        { transaction := answers
          outpointStatus := fun _ => .ok .unspent
          txOutspends := fun _ => .ok none
          addressUtxos := fun _ => .ok [] } }

/-- Nobody else writes, and the database answers. -/
def alone : BackfillEnv where
  refused _ := none
  moment _ _ := 0
  now _ := 0
  meanwhile _ _ st := st
  between _ st := st

/-- The one that cannot be fetched is asked about within five passes. -/
theorem asked_within_oneByOne : ∃ k, 0 ≤ k ∧ k < 0 + 5 ∧ oneByOne.succeeds alone ⟨threeBound, none⟩ k = true ∧
    (funding 1).toDisplayVec ∈ (oneByOne.passAt alone ⟨threeBound, none⟩ k).1.asked.map BtcTxid.toDisplayVec := by
  refine asked_within (by decide) ⟨fun _ _ _ _ h => h, fun _ _ _ h => h⟩ ?_ (by decide +kernel)
  intro k _ hk
  have hall : ∀ k < 5, Store.Unlabelled (funding 1).toDisplayVec (oneByOne.states alone ⟨threeBound, none⟩ k).store := by
    decide +kernel
  exact hall k (by omega)

end
end AddressBackfill
end RgbppIndexer
