import RgbppIndexer.Indexer.Facts

/-!
# Nothing is taken back

The program deletes headers and queue entries, and no other row. What a task has
recorded stays recorded, whatever the others do later and whatever the node and
the data source reply: a cell keeps what its output said, and once consumed is
never live again; an owner once known stays known, and so does a fee; a finding
keeps its kind, its subject and the time it was first made, also when it is
resolved and found again.

* `Permanent`: what a later database has of an earlier one.
* `permanent_run`: **every run of all tasks is permanent**, from any database.
-/
namespace RgbppIndexer

open RgbppIndexer.Core

/-! ## What a row keeps -/

/-- What its output said stays, and consumed it stays. -/
def CellRecord.Kept (r r' : CellRecord) : Prop :=
  r'.toCellBody = r.toCellBody ∧ (r.consumed.isSome = true → r'.consumed.isSome = true)

/-- A known owner is not forgotten. -/
def ObservationRow.Kept (r r' : ObservationRow) : Prop := r.address.isSome = true → r'.address.isSome = true

/-- Nor is a known fee. -/
def BtcTxRow.Kept (r r' : BtcTxRow) : Prop := r.fee.isSome = true → r'.fee.isSome = true

/-- A finding is about what it was first made about. -/
structure AnomalyRow.Kept (r r' : AnomalyRow) : Prop where
  kind : r'.kind = r.kind
  outpoint : r'.btcTxid = r.btcTxid ∧ r'.btcVout = r.btcVout
  cell : r'.ckbTxHash = r.ckbTxHash ∧ r'.ckbOutputIndex = r.ckbOutputIndex
  detectedAt : r'.detectedAt = r.detectedAt

/-- What the later database has of the earlier one. -/
structure Permanent (st st' : Store) : Prop where
  cells : st.rgbppCells.Grows CellRecord.Kept st'.rgbppCells
  transitions : st.rgbppTransitions.Grows (fun _ _ => True) st'.rgbppTransitions
  observations : st.btcOutpoints.Grows ObservationRow.Kept st'.btcOutpoints
  txs : st.btcTxs.Grows BtcTxRow.Kept st'.btcTxs
  anomalies : st.rgbppAnomalies.Grows AnomalyRow.Kept st'.rgbppAnomalies

theorem CellRecord.Kept.refl (r : CellRecord) : r.Kept r := ⟨rfl, id⟩

theorem CellRecord.Kept.trans (a b c : CellRecord) (h : a.Kept b) (h' : b.Kept c) : a.Kept c :=
  ⟨h'.1.trans h.1, fun hconsumed => h'.2 (h.2 hconsumed)⟩

theorem ObservationRow.Kept.refl (r : ObservationRow) : r.Kept r := id

theorem ObservationRow.Kept.trans (a b c : ObservationRow) (h : a.Kept b) (h' : b.Kept c) : a.Kept c := fun hlabel => h' (h hlabel)

theorem BtcTxRow.Kept.refl (r : BtcTxRow) : r.Kept r := id

theorem BtcTxRow.Kept.trans (a b c : BtcTxRow) (h : a.Kept b) (h' : b.Kept c) : a.Kept c := fun hfee => h' (h hfee)

theorem AnomalyRow.Kept.refl (r : AnomalyRow) : r.Kept r := ⟨rfl, ⟨rfl, rfl⟩, ⟨rfl, rfl⟩, rfl⟩

theorem AnomalyRow.Kept.trans (a b c : AnomalyRow) (h : a.Kept b) (h' : b.Kept c) : a.Kept c :=
  ⟨h'.kind.trans h.kind, ⟨h'.outpoint.1.trans h.outpoint.1, h'.outpoint.2.trans h.outpoint.2⟩,
    ⟨h'.cell.1.trans h.cell.1, h'.cell.2.trans h.cell.2⟩, h'.detectedAt.trans h.detectedAt⟩

namespace Permanent

variable {st st' st'' : Store}

theorem refl (st : Store) : Permanent st st :=
  ⟨.refl CellRecord.Kept.refl _, .refl (fun _ => trivial) _, .refl ObservationRow.Kept.refl _, .refl BtcTxRow.Kept.refl _,
    .refl AnomalyRow.Kept.refl _⟩

theorem trans (h : Permanent st st') (h' : Permanent st' st'') : Permanent st st'' where
  cells := h.cells.trans CellRecord.Kept.trans h'.cells
  transitions := h.transitions.trans (fun _ _ _ _ _ => trivial) h'.transitions
  observations := h.observations.trans ObservationRow.Kept.trans h'.observations
  txs := h.txs.trans BtcTxRow.Kept.trans h'.txs
  anomalies := h.anomalies.trans AnomalyRow.Kept.trans h'.anomalies

/-! ## Statements -/

/-- A statement on another table. -/
theorem of_eq (hcells : st'.rgbppCells = st.rgbppCells) (htransitions : st'.rgbppTransitions = st.rgbppTransitions)
    (hobservations : st'.btcOutpoints = st.btcOutpoints) (htxs : st'.btcTxs = st.btcTxs)
    (hanomalies : st'.rgbppAnomalies = st.rgbppAnomalies) : Permanent st st' := by
  have hkept := refl st
  exact ⟨hcells ▸ hkept.cells, htransitions ▸ hkept.transitions, hobservations ▸ hkept.observations, htxs ▸ hkept.txs,
    hanomalies ▸ hkept.anomalies⟩

/-- A statement on the observations. -/
theorem of_observations (h : st.btcOutpoints.Grows ObservationRow.Kept st'.btcOutpoints)
    (hst' : st' = { st with btcOutpoints := st'.btcOutpoints }) : Permanent st st' := by
  have hkept := refl st
  rw [hst']
  exact ⟨hkept.cells, hkept.transitions, h, hkept.txs, hkept.anomalies⟩

theorem upsertObservation (st : Store) (key : OutpointKey) (status : OutpointSpendStatus) (address : Option String)
    (source : String) (now : DateTime) : Permanent st (st.upsertObservation key status address source now).1 := by
  refine of_observations (Table.grows_upsert ObservationRow.Kept.refl _ _ fun r hlabel => ?_) rfl
  cases address with
  | none => exact hlabel
  | some a => rfl

theorem labelOutpoints {source : String} {outputs : List (OutpointKey × String)} {now : DateTime} {n : Nat}
    (h : st.labelOutpoints source outputs now = .ok (st', n)) : Permanent st st' := by
  unfold Store.labelOutpoints at h
  dsimp only at h
  split at h
  · obtain ⟨rfl, -⟩ := Prod.mk.inj (Except.ok.inj h)
    refine of_observations (Table.grows_foldl ObservationRow.Kept.refl ObservationRow.Kept.trans (fun t e => ?_) _ _) rfl
    exact Table.grows_upsert ObservationRow.Kept.refl _ _ fun r _ => rfl
  · cases h

theorem recordBindingAddresses {txid : Bytes} {outputs : List (Int32 × String)} {now : DateTime} {n : Nat}
    (h : st.recordBindingAddresses txid outputs now = .ok (st', n)) : Permanent st st' := by
  unfold Store.recordBindingAddresses at h
  split at h
  · obtain ⟨rfl, -⟩ := Prod.mk.inj (Except.ok.inj h)
    exact refl st
  · exact labelOutpoints h

theorem recordOutpointAddresses {outpoints : List OutpointKey} {address : String} {now : DateTime} {n : Nat}
    (h : st.recordOutpointAddresses outpoints address now = .ok (st', n)) : Permanent st st' := by
  unfold Store.recordOutpointAddresses at h
  split at h
  · obtain ⟨rfl, -⟩ := Prod.mk.inj (Except.ok.inj h)
    exact refl st
  · exact labelOutpoints h

theorem upsertBtcTx (st : Store) (txid : Bytes) (row : BtcTxRow) : Permanent st (st.upsertBtcTx txid row) := by
  have hkept := refl st
  refine ⟨hkept.cells, hkept.transitions, hkept.observations, ?_, hkept.anomalies⟩
  refine Table.grows_upsert BtcTxRow.Kept.refl _ _ fun r hfee => ?_
  dsimp only
  cases row.fee with
  | none => exact hfee
  | some fee => rfl

theorem setCommitmentResult (st : Store) (hash : Bytes) (observed : Option Bytes) (status : CommitmentStatus) :
    Permanent st (st.setCommitmentResult hash observed status) := by
  have hkept := refl st
  exact ⟨hkept.cells, Table.grows_update (fun _ => trivial) _ _ fun _ => trivial, hkept.observations, hkept.txs, hkept.anomalies⟩

theorem recordAnomaly (st : Store) (kind : AnomalyKind) (dedupKey : String) (btcTxid : Option Bytes) (btcVout : Option Int32)
    (ckbTxHash : Option Bytes) (ckbOutputIndex : Option Int32) (detail : JsonObject) (now : DateTime) :
    Permanent st (st.recordAnomaly kind dedupKey btcTxid btcVout ckbTxHash ckbOutputIndex detail now) := by
  have hkept := refl st
  refine ⟨hkept.cells, hkept.transitions, hkept.observations, hkept.txs, ?_⟩
  exact Table.grows_upsert AnomalyRow.Kept.refl _ _ fun r => ⟨rfl, ⟨rfl, rfl⟩, ⟨rfl, rfl⟩, rfl⟩

theorem resolveAnomaliesForOutpoint (st : Store) (key : OutpointKey) (now : DateTime) :
    Permanent st (st.resolveAnomaliesForOutpoint key now) := by
  have hkept := refl st
  refine ⟨hkept.cells, hkept.transitions, hkept.observations, hkept.txs, Table.grows_mapRows _ fun k r => ?_⟩
  split
  · exact ⟨rfl, ⟨rfl, rfl⟩, ⟨rfl, rfl⟩, rfl⟩
  · exact .refl r

/-- The inserts, spends and transitions of a batch. -/
theorem ofBatch (cells : List NewCell) (spends : List CellSpend) (transitions : List NewTransition)
    (hcells : st'.rgbppCells = spends.foldl Store.cellSpend (cells.foldl Store.cellInsert st.rgbppCells))
    (htransitions : st'.rgbppTransitions = transitions.foldl Store.transitionInsert st.rgbppTransitions)
    (hobservations : st'.btcOutpoints = st.btcOutpoints) (htxs : st'.btcTxs = st.btcTxs)
    (hanomalies : st'.rgbppAnomalies = st.rgbppAnomalies) : Permanent st st' := by
  have hinserted : st.rgbppCells.Grows CellRecord.Kept (cells.foldl Store.cellInsert st.rgbppCells) :=
    Table.grows_foldl CellRecord.Kept.refl CellRecord.Kept.trans
      (fun t c => Table.grows_upsert CellRecord.Kept.refl t c.key fun r => ⟨rfl, id⟩) cells _
  have hspent := Table.grows_foldl CellRecord.Kept.refl CellRecord.Kept.trans
    (f := Store.cellSpend) (fun t s => Table.grows_update CellRecord.Kept.refl t s.key fun r => ⟨rfl, fun _ => rfl⟩) spends
    (cells.foldl Store.cellInsert st.rgbppCells)
  have hwritten := Table.grows_foldl (R := fun _ _ => True) (fun _ => trivial) (fun _ _ _ _ _ => trivial)
    (f := Store.transitionInsert) (fun t n => Table.grows_upsert (fun _ => trivial) t n.ckbTxHash fun _ => trivial) transitions
    st.rgbppTransitions
  have hkept := refl st
  refine ⟨?_, ?_, hobservations ▸ hkept.observations, htxs ▸ hkept.txs, hanomalies ▸ hkept.anomalies⟩
  · rw [hcells]
    exact hinserted.trans CellRecord.Kept.trans hspent
  · rw [htransitions]
    exact hwritten

end Permanent

/-! ## Tasks -/

section
variable {r : Reconciler} {moment : Nat} {st : Store}

/-- A fetched transaction is cached, and its outputs are labelled. -/
theorem permanent_refreshBtcTx (txid : BtcTxid) : Permanent st (r.refreshBtcTx moment st txid).1 := by
  refine Reconciler.refreshBtcTx_keeps (.refl st) (fun tx labelled _ hrecord => ?_) fun s row h => h.trans (.upsertBtcTx ..)
  rcases recordAddresses_inv hrecord with hsame | hwritten
  · rw [hsame]
    exact .refl st
  · exact .recordBindingAddresses hwritten

theorem permanent_followUpSpend (status : OutpointSpendStatus) : Permanent st (r.followUpSpend moment st status).1 :=
  Reconciler.followUpSpend_keeps (.refl st) fun spender _ => permanent_refreshBtcTx spender

theorem permanent_refreshStep (pass : RefreshPass) (answer : Observed) :
    Permanent pass.store (r.refreshStep moment pass answer).1.store := by
  cases hanswer : answer.2 with
  | error e =>
    rw [Reconciler.refreshStep_of_error hanswer]
    exact .of_eq rfl rfl rfl rfl rfl
  | ok status =>
    have hwritten : Permanent pass.store (r.recordObservation pass.store answer.1 status none).1 := .upsertObservation ..
    rw [(Reconciler.refreshStep_written r moment pass answer hanswer).1]
    split
    · split
      · exact hwritten.trans (permanent_followUpSpend status)
      · exact hwritten
    · exact hwritten.trans (.resolveAnomaliesForOutpoint ..)

theorem permanent_detectStep (w : Sweeper) (now : DateTime) (tip : BtcTip) (moment : Nat) (found : MisspendsFound)
    (row : OutpointKey × ObservationRow) : Permanent st (w.detectStep now tip moment (st, found) row).1.1 := by
  have hlookup : ∀ fetched, w.reconciler.Fetched moment st fetched → Permanent st fetched := by
    rintro fetched (rfl | ⟨txid, rfl⟩)
    · exact .refl _
    · exact permanent_refreshBtcTx txid
  rcases w.detectStep_inv now tip moment st found row with
    ⟨-, fetched, result, hout, hfetched, -⟩ | ⟨-, hout⟩ | ⟨-, kind, o, detail, fetched, -, -, hfetched, hout⟩
  · rw [hout]
    exact hlookup fetched hfetched
  · rw [hout]
    exact .resolveAnomaliesForOutpoint ..
  · rw [hout]
    exact (hlookup fetched hfetched).trans (.recordAnomaly ..)

theorem permanent_verifyStep (v : CommitmentVerifier) (now : DateTime) (moment : Nat) (report : VerifyReport)
    (row : Bytes × TransitionRecord) : Permanent st (v.verifyStep now moment (st, report) row).1.1 := by
  unfold CommitmentVerifier.verifyStep
  dsimp only
  split
  · exact .refl st
  · split
    · exact .setCommitmentResult ..
    · split
      · exact .refl st
      · next txid _ =>
        have hfetched : Permanent st (v.reconciler.refreshBtcTx moment st txid).1 := permanent_refreshBtcTx txid
        generalize v.reconciler.refreshBtcTx moment st txid = fetched at hfetched ⊢
        obtain ⟨s, result⟩ := fetched
        cases result with
        | error e => exact hfetched
        | ok reply =>
          cases reply with
          | none => exact (hfetched.trans (.setCommitmentResult ..)).trans (.recordAnomaly ..)
          | some tx =>
            unfold CommitmentVerifier.checkCommitment
            dsimp only
            split
            · exact (hfetched.trans (.recordAnomaly ..)).trans (.setCommitmentResult ..)
            · exact hfetched.trans (.setCommitmentResult ..)

variable [Sha2] {cfg : Config} {errorText : IndexerError → String}

theorem permanent_scannerStep (env : ScanEnv) : Permanent st (scannerStep cfg env errorText st) := by
  rcases scannerStep_cases cfg env errorText st with hnoted | ⟨reads, batch, hcommitted⟩
  · rw [hnoted.facts]
    exact .of_eq rfl rfl rfl rfl rfl
  · rw [hcommitted.facts]
    exact .ofBatch batch.cells batch.spends batch.transitions rfl rfl rfl rfl rfl

namespace System

/-- Every event. -/
theorem permanent_apply (event : Event) : Permanent st (apply cfg errorText st event) := by
  cases event with
  | write event =>
    have hkept : ∀ {result : Except StoreError (Store × Nat)}, (∀ st' n, result = .ok (st', n) → Permanent st st') →
        Permanent st (Observations.kept st result) := by
      intro result hresult
      cases result with
      | error e => exact .refl st
      | ok written => exact hresult written.1 written.2 rfl
    cases event with
    | observe key status address source now => exact .upsertObservation ..
    | labelFunding txid outputs now => exact hkept fun _ _ h => .recordBindingAddresses h
    | labelAddress outpoints address now => exact hkept fun _ _ h => .recordOutpointAddresses h
    | scan env => exact permanent_scannerStep env
  | answer r moment answer => exact permanent_refreshStep (r := r) { store := st, out := [], observed := [] } answer
  | examine w now tip moment row => exact permanent_detectStep w now tip moment {} row
  | verify v now moment row => exact permanent_verifyStep v now moment {} row
  | cacheTx txid row => exact .upsertBtcTx ..
  | queue rows => exact .of_eq rfl rfl rfl rfl rfl

/-- **Nothing is taken back**, from any database, whatever all tasks do next. -/
theorem permanent_run (cfg : Config) (errorText : IndexerError → String) (st : Store) (events : List Event) :
    Permanent st (events.foldl (apply cfg errorText) st) := by
  induction events generalizing st with
  | nil => exact .refl st
  | cons event events ih => exact (permanent_apply event).trans (ih (apply cfg errorText st event))

end System
end
end RgbppIndexer
