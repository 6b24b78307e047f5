import RgbppIndexer.Indexer.System

/-!
# Facts and observations

"Neither path writes CKB facts. That is what keeps the two durability models
from leaking into each other" (docs/indexing.md:55), and a scan round "never
calls Bitcoin" (docs/indexing.md:28). Both are about all tasks together: the
scanner reads cells through a view that joins them with what Bitcoin last said,
and the other tasks write between any two of its rounds.

`SameCkb` is what two databases have in common whose CKB sides say the same. The
verdict of a commitment check stands in the row of a transition and is about
Bitcoin, so it is left out.

* `scannerStep_congr`: a round does the same on databases with the same CKB side.
* `ckb_side_is_scanned`: **after any run of all tasks, the CKB side is what the
  scan rounds alone would have made of it.**
-/
namespace RgbppIndexer

open RgbppIndexer.Core

/-- What a row says about the CKB transaction; the rest is the verdict of a check. -/
def TransitionRecord.onCkb (t : TransitionRecord) : TransitionRecord :=
  { t with observedCommitment := none, commitmentStatus := .unchecked }

/-- Two databases whose CKB sides say the same. -/
structure SameCkb (st st' : Store) : Prop where
  state : st.indexerState = st'.indexerState
  blocks : st.ckbBlocks = st'.ckbBlocks
  cells : st.rgbppCells = st'.rgbppCells
  transitions : ∀ hash, (st.rgbppTransitions.get? hash).map TransitionRecord.onCkb =
    (st'.rgbppTransitions.get? hash).map TransitionRecord.onCkb

theorem SameCkb.refl (st : Store) : SameCkb st st := ⟨rfl, rfl, rfl, fun _ => rfl⟩

/-! ## A scan round reads the CKB side only -/

section
variable {cfg : Config} {env : ScanEnv} {st st' : Store}

/-- The view of a cell has Bitcoin columns, and what is read of it is not in them. -/
theorem resolveInput_congr (h : st.rgbppCells = st'.rgbppCells) : resolveInput cfg env st = resolveInput cfg env st' := by
  funext outPoint inputIndex batch round
  unfold resolveInput Store.cellByOutPoint
  rw [h]
  split
  · rfl
  · split
    · rfl
    · cases st'.rgbppCells.get? ⟨outPoint.txHash.toVec, outPoint.index.toInt32⟩ with
      | none => rfl
      | some row => rfl

theorem processRecord_congr [Sha2] (h : st.rgbppCells = st'.rgbppCells) (headers : List (UInt64 × RpcHeader)) :
    processRecord cfg env st headers = processRecord cfg env st' headers := by
  have hmatched : resolveMatched cfg env st = resolveMatched cfg env st' := by
    funext record tx loop matched
    unfold resolveMatched
    rw [resolveInput_congr h]
  funext pass record
  unfold processRecord processTransaction
  rw [hmatched]

theorem buildRound_congr [Sha2] (h : st.rgbppCells = st'.rgbppCells) (state : StreamState) (chainTip target : UInt64) :
    buildRound cfg env st state chainTip target = buildRound cfg env st' state chainTip target := by
  unfold buildRound
  simp only [processRecord_congr h]

namespace SameCkb

/-! ## What the round writes -/

theorem insertStream (h : SameCkb st st') (stream : String) (startBlock : UInt64) (now : DateTime) :
    SameCkb (st.insertStream stream startBlock now) (st'.insertStream stream startBlock now) :=
  ⟨by rw [Store.insertStream, Store.insertStream, h.state], h.blocks, h.cells, h.transitions⟩

theorem setStreamError (h : SameCkb st st') (stream : String) (error : Option String) (now : DateTime) :
    SameCkb (st.setStreamError stream error now) (st'.setStreamError stream error now) :=
  ⟨by rw [Store.setStreamError, Store.setStreamError, h.state], h.blocks, h.cells, h.transitions⟩

theorem recordChainProgress (h : SameCkb st st') (stream : String) (chainTip target reorgLag : UInt64) (now : DateTime) :
    SameCkb (st.recordChainProgress stream chainTip target reorgLag now)
      (st'.recordChainProgress stream chainTip target reorgLag now) :=
  ⟨by rw [Store.recordChainProgress, Store.recordChainProgress, h.state], h.blocks, h.cells, h.transitions⟩

theorem getStreamState (h : SameCkb st st') (stream : String) : st.getStreamState stream = st'.getStreamState stream := by
  rw [Store.getStreamState, h.state]
  rfl

/-- An insert writes the same about CKB over rows that say the same about it. -/
theorem foldl_transitionInsert (inserts : List NewTransition) {t t' : Table Bytes TransitionRecord}
    (h : ∀ hash, (t.get? hash).map TransitionRecord.onCkb = (t'.get? hash).map TransitionRecord.onCkb) (hash : Bytes) :
    ((inserts.foldl Store.transitionInsert t).get? hash).map TransitionRecord.onCkb =
      ((inserts.foldl Store.transitionInsert t').get? hash).map TransitionRecord.onCkb := by
  induction inserts generalizing t t' with
  | nil => exact h hash
  | cons n inserts ih =>
    rw [List.foldl_cons, List.foldl_cons]
    refine ih fun k => ?_
    rw [Store.transitionInsert, Store.transitionInsert, Table.get?_upsert, Table.get?_upsert]
    by_cases hk : k = n.ckbTxHash
    · rw [if_pos hk, if_pos hk]
      rfl
    · rw [if_neg hk, if_neg hk]
      exact h k

theorem applyBatch (h : SameCkb st st') (batch : IndexBatch) (now : DateTime) :
    SameCkb (st.applyBatch batch now).1 (st'.applyBatch batch now).1 := by
  rw [Store.applyBatch_fst, Store.applyBatch_fst]
  exact ⟨by rw [h.state], by rw [h.blocks], by rw [h.cells], foldl_transitionInsert batch.transitions h.transitions⟩

/-- A round that commits does the same. -/
theorem commitRound (h : SameCkb st st') (batch : IndexBatch) (round : ScanRound) :
    SameCkb (commitRound cfg env st batch round).2 (commitRound cfg env st' batch round).2 ∧
      ∀ e, (RgbppIndexer.commitRound cfg env st batch round).1 = .error e ↔
        (RgbppIndexer.commitRound cfg env st' batch round).1 = .error e := by
  unfold RgbppIndexer.commitRound
  cases env.faults.applyBatch with
  | some e => exact ⟨h, fun _ => Iff.rfl⟩
  | none =>
    have happlied := h.applyBatch batch env.now
    dsimp only
    by_cases hkeep : keepFrom cfg round.toBlock > 0
    · rw [if_pos hkeep, if_pos hkeep]
      cases env.faults.pruneBlocks with
      | some e => exact ⟨happlied, fun _ => Iff.rfl⟩
      | none =>
        refine ⟨⟨happlied.state, ?_, happlied.cells, happlied.transitions⟩, fun _ => iff_of_false nofun nofun⟩
        dsimp only [Store.pruneBlocksBelow]
        rw [happlied.blocks]
    · rw [if_neg hkeep, if_neg hkeep]
      exact ⟨happlied, fun _ => iff_of_false nofun nofun⟩

end SameCkb

/-! ## A pass of the scanner -/

variable [Sha2]

/-- A round does the same, and fails alike. -/
theorem scanOnce_congr (h : SameCkb st st') :
    SameCkb (scanOnce cfg env st).2 (scanOnce cfg env st').2 ∧
      ∀ e, (scanOnce cfg env st).1 = .error e ↔ (scanOnce cfg env st').1 = .error e := by
  unfold scanOnce
  cases env.faults.initStream with
  | some e => exact ⟨h, fun _ => Iff.rfl⟩
  | none =>
    have hinit := h.insertStream CKB_STREAM cfg.ckb.startBlock env.now
    dsimp only
    rw [hinit.getStreamState]
    cases env.faults.getStreamState with
    | some e => exact ⟨hinit, fun _ => Iff.rfl⟩
    | none =>
      cases (st'.insertStream CKB_STREAM cfg.ckb.startBlock env.now).getStreamState CKB_STREAM with
      | none => exact ⟨hinit, fun _ => Iff.rfl⟩
      | some state =>
        dsimp only
        cases env.replies.syncedTip with
        | error e => exact ⟨hinit, fun _ => Iff.rfl⟩
        | ok chainTip =>
          dsimp only
          cases env.faults.recordChainProgress with
          | some e => exact ⟨hinit, fun _ => Iff.rfl⟩
          | none =>
            dsimp only
            cases cfg.safeCkbTarget chainTip with
            | none => exact ⟨hinit.recordChainProgress CKB_STREAM chainTip 0 cfg.ckb.reorgLag env.now, fun _ => Iff.rfl⟩
            | some target =>
              have hprogress := hinit.recordChainProgress CKB_STREAM chainTip target cfg.ckb.reorgLag env.now
              dsimp only
              by_cases hidle : target.toInt64 ≤ state.lastBlockNumber
              · rw [if_pos hidle, if_pos hidle]
                exact ⟨hprogress, fun _ => Iff.rfl⟩
              · rw [if_neg hidle, if_neg hidle, buildRound_congr hprogress.cells]
                split
                · exact ⟨hprogress, fun _ => Iff.rfl⟩
                · exact hprogress.commitRound _ _

/-- **A pass of the scanner does the same on databases with the same CKB side.** -/
theorem scannerStep_congr {errorText : IndexerError → String} (h : SameCkb st st') :
    SameCkb (scannerStep cfg env errorText st) (scannerStep cfg env errorText st') := by
  have hround : SameCkb (scanOnce cfg env st).2 (scanOnce cfg env st').2 ∧
      ∀ e, (scanOnce cfg env st).1 = .error e ↔ (scanOnce cfg env st').1 = .error e := scanOnce_congr h
  obtain ⟨hstore, herror⟩ := hround
  unfold scannerStep
  generalize scanOnce cfg env st = round at hstore herror ⊢
  generalize scanOnce cfg env st' = round' at hstore herror ⊢
  obtain ⟨result, after⟩ := round
  obtain ⟨result', after'⟩ := round'
  dsimp only at hstore herror
  cases result with
  | ok done =>
    cases result' with
    | ok done' => exact hstore
    | error e' => cases (herror e').mpr rfl
  | error e =>
    rw [(herror e).mp rfl]
    dsimp only
    cases env.faults.setStreamError with
    | some _ => exact hstore
    | none => exact hstore.setStreamError CKB_STREAM _ env.now

end

/-! ## The other tasks -/

section
variable {st st' : Store}

theorem SameCkb.of_ckbSame {st₁ : Store} (h : CkbSame st st₁) (hsame : SameCkb st st') : SameCkb st₁ st' where
  state := by rw [h.state, hsame.state]
  blocks := by rw [h.blocks, hsame.blocks]
  cells := by rw [h.cells, hsame.cells]
  transitions := by rw [h.transitions]; exact hsame.transitions

/-- A verdict is no fact. -/
theorem SameCkb.setCommitmentResult (h : SameCkb st st') (hash : Bytes) (observed : Option Bytes) (status : CommitmentStatus) :
    SameCkb (st.setCommitmentResult hash observed status) st' := by
  refine ⟨h.state, h.blocks, h.cells, fun k => ?_⟩
  rw [← h.transitions k, Store.setCommitmentResult, Table.get?_update]
  by_cases hk : k = hash
  · rw [if_pos hk, Option.map_map]
    rfl
  · rw [if_neg hk]

/-- Nor is an anomaly. -/
theorem SameCkb.recordForTransition (h : SameCkb st st') (kind : AnomalyKind) (hash : Bytes) (btcTxid : Option Bytes)
    (detail : JsonObject) (now : DateTime) : SameCkb (st.recordForTransition kind hash btcTxid detail now) st' :=
  ⟨h.state, h.blocks, h.cells, h.transitions⟩

/-- One commitment check. -/
theorem SameCkb.verifyStep (h : SameCkb st st') (v : CommitmentVerifier) (now : DateTime) (moment : Nat) (report : VerifyReport)
    (row : Bytes × TransitionRecord) : SameCkb (v.verifyStep now moment (st, report) row).1.1 st' := by
  unfold CommitmentVerifier.verifyStep
  cases row.2.btcTxid with
  | none => exact h
  | some btcTxid =>
    dsimp only
    split
    · exact h.setCommitmentResult row.1 none .notApplicable
    · cases BtcTxid.fromDisplaySlice btcTxid with
      | error e => exact h
      | ok txid =>
        obtain ⟨hckb, -⟩ := Reconciler.refreshBtcTx_same v.reconciler moment st txid
        have hfetched := SameCkb.of_ckbSame hckb h
        dsimp only
        generalize v.reconciler.refreshBtcTx moment st txid = fetched at hfetched ⊢
        obtain ⟨s, result⟩ := fetched
        cases result with
        | error e => exact hfetched
        | ok reply =>
          cases reply with
          | none => exact (hfetched.setCommitmentResult row.1 none .btcUnknown).recordForTransition ..
          | some tx =>
            unfold CommitmentVerifier.checkCommitment
            dsimp only
            split
            · exact (hfetched.recordForTransition ..).setCommitmentResult ..
            · exact hfetched.setCommitmentResult ..

end

namespace System

variable [Sha2] {cfg : Config} {errorText : IndexerError → String} {st st' : Store}

/-- The rounds of the scanner. -/
def Event.isScan : Event → Bool
  | .write (.scan _) => true
  | _ => false

omit [Sha2] in
theorem Event.isScan_eq_true {event : Event} : event.isScan = true ↔ ∃ env, event = .write (.scan env) := by
  cases event with
  | write event => cases event <;> simp [Event.isScan]
  | _ => simp [Event.isScan]

/-- What no scan round did, the CKB side does not show. -/
theorem sameCkb_of_hidden {event : Event} (hevent : event.isScan = false) (h : SameCkb st st') :
    SameCkb (apply cfg errorText st event) st' := by
  cases event with
  | write event =>
    rcases write_cases cfg errorText st event with ⟨env, rfl⟩ | hframe
    · cases hevent
    · rw [apply, hframe]
      exact ⟨h.state, h.blocks, h.cells, h.transitions⟩
  | answer r moment answer => exact .of_ckbSame (Reconciler.refreshStep_same r moment _ answer).1 h
  | examine w now tip moment row => exact .of_ckbSame (Sweeper.detectStep_cases w now tip moment st {} row).1 h
  | verify v now moment row => exact h.verifyStep v now moment {} row
  | cacheTx txid row => exact ⟨h.state, h.blocks, h.cells, h.transitions⟩
  | queue rows => exact ⟨h.state, h.blocks, h.cells, h.transitions⟩

theorem sameCkb_of_visible {event : Event} (hevent : event.isScan = true) (h : SameCkb st st') :
    SameCkb (apply cfg errorText st event) (apply cfg errorText st' event) := by
  obtain ⟨env, rfl⟩ := Event.isScan_eq_true.mp hevent
  exact scannerStep_congr h

/-- **After any run of all tasks, the CKB side is what the scan rounds alone make of it**: from whatever state of the
Bitcoin side, whatever the other tasks wrote in between. -/
theorem ckb_side_is_scanned (cfg : Config) (errorText : IndexerError → String) (events : List Event) :
    SameCkb (after cfg errorText events) (after cfg errorText (events.filter Event.isScan)) := by
  refine foldl_visible (R := SameCkb) ?_ ?_ (.refl .empty) events
  · intro s t event hhidden h
    exact sameCkb_of_hidden hhidden h
  · intro s t event hvisible h
    exact sameCkb_of_visible hvisible h

end System
end RgbppIndexer
