import RgbppIndexer.Scan.Runs

/-!
# The target a pass notes

Before a pass looks at any block it writes the tip it was told, and the target
it derives from that tip, into the stream row. The target column has no other
writer, and it is what the sweeper later measures the checkpoint against.

* `scannerStep_target`: what a pass leaves in that column, whatever becomes of
  the rest of the pass.
-/
namespace RgbppIndexer

open RgbppIndexer.Core

/-- The tip a pass records: the stream row was there, both endpoints answered, and the statement went through. -/
def ScanEnv.recordedTip (env : ScanEnv) : Option UInt64 :=
  match env.faults.initStream, env.faults.getStreamState, env.replies.syncedTip, env.faults.recordChainProgress with
  | none, none, .ok tip, none => some tip
  | _, _, _, _ => none

/-- The target recorded with it: 0 where there is none. mirrors crates/indexer/src/scanner.rs:121-133 -/
def Config.notedTarget (cfg : Config) (tip : UInt64) : UInt64 := (cfg.safeCkbTarget tip).getD 0

/-- The target column of the stream row. -/
def Store.target (st : Store) : Option Int64 := (st.getStreamState CKB_STREAM).bind StreamState.targetBlockNumber

/-! ## The statements -/

@[simp] theorem Store.target_insertStream (st : Store) (startBlock : UInt64) (now : DateTime) :
    (st.insertStream CKB_STREAM startBlock now).target = st.target := by
  unfold Store.target
  rw [Store.getStreamState_insertStream]
  cases st.getStreamState CKB_STREAM with
  | none => rfl
  | some s => rfl

@[simp] theorem Store.target_setStreamError (st : Store) (error : Option String) (now : DateTime) :
    (st.setStreamError CKB_STREAM error now).target = st.target := by
  unfold Store.target Store.setStreamError Store.getStreamState
  rw [Table.get?_update, if_pos rfl]
  cases st.indexerState.get? CKB_STREAM with
  | none => rfl
  | some s => rfl

theorem Store.target_recordChainProgress {st : Store} {state : StreamState}
    (h : st.getStreamState CKB_STREAM = some state) (chainTip target reorgLag : UInt64) (now : DateTime) :
    (st.recordChainProgress CKB_STREAM chainTip target reorgLag now).target = some target.toInt64 := by
  unfold Store.target
  rw [getStreamState_recordChainProgress h]
  rfl

theorem Store.target_applyBatch {st : Store} {state : StreamState} (h : st.getStreamState CKB_STREAM = some state)
    (b : IndexBatch) (now : DateTime) : (st.applyBatch b now).1.target = some b.target := by
  unfold Store.target Store.getStreamState
  unfold Store.getStreamState at h
  rw [Store.applyBatch_fst]
  dsimp only
  rw [Table.get?_update, if_pos rfl, h]
  rfl

section
variable {cfg : Config} {env : ScanEnv} {st : Store}

/-! ## The batch carries the target of its round -/

variable [Sha2]

theorem buildRound_target {state : StreamState} {chainTip target : UInt64} {batch : IndexBatch} {round : ScanRound}
    (h : buildRound cfg env st state chainTip target = .ok (batch, round)) : batch.target = target.toInt64 := by
  obtain ⟨-, records, headers, header, built, -, -, hbuilt, -, hbatch⟩ := buildRound_eq_ok h
  have hrows := (recordLoop_rowsAdded hbuilt).batch
  dsimp only at hrows
  rw [hbatch, hrows]

/-! ## A whole pass -/

omit [Sha2] in
theorem commitRound_target {state : StreamState} (h : st.getStreamState CKB_STREAM = some state) {batch : IndexBatch}
    (hbatch : some batch.target = st.target) (round : ScanRound) :
    (commitRound cfg env st batch round).2.target = st.target := by
  rcases commitRound_snd cfg env batch round with heq | ⟨blocks, heq⟩
  · rw [heq]
  · rw [heq, ← hbatch]
    exact Store.target_applyBatch h batch env.now

/-- **What a pass leaves in the target column.** -/
theorem scanOnce_target (cfg : Config) (env : ScanEnv) (st : Store) : (scanOnce cfg env st).2.target =
    match env.recordedTip with
    | some tip => some (cfg.notedTarget tip).toInt64
    | none => st.target := by
  unfold scanOnce ScanEnv.recordedTip
  cases env.faults.initStream with
  | some e => rfl
  | none =>
    dsimp only
    have hrow : ∃ state, (st.insertStream CKB_STREAM cfg.ckb.startBlock env.now).getStreamState CKB_STREAM = some state :=
      ⟨_, Store.getStreamState_insertStream ..⟩
    obtain ⟨state, hstate⟩ := hrow
    rw [hstate]
    cases env.faults.getStreamState with
    | some e => exact Store.target_insertStream ..
    | none =>
      dsimp only
      cases env.replies.syncedTip with
      | error e => exact Store.target_insertStream ..
      | ok tip =>
        dsimp only
        cases env.faults.recordChainProgress with
        | some e => exact Store.target_insertStream ..
        | none =>
          dsimp only
          unfold Config.notedTarget
          cases cfg.safeCkbTarget tip with
          | none => exact Store.target_recordChainProgress hstate ..
          | some target =>
            dsimp only
            have hnoted := Store.target_recordChainProgress hstate tip target cfg.ckb.reorgLag env.now
            have hrow := getStreamState_recordChainProgress hstate tip target cfg.ckb.reorgLag env.now
            by_cases hidle : target.toInt64 ≤ state.lastBlockNumber
            · rw [if_pos hidle]
              exact hnoted
            · rw [if_neg hidle]
              generalize hbuild : buildRound cfg env _ state tip target = built
              cases built with
              | error e => exact hnoted
              | ok b =>
                dsimp only
                rw [commitRound_target hrow (by rw [hnoted, buildRound_target hbuild])]
                exact hnoted

theorem scannerStep_target (cfg : Config) (env : ScanEnv) (errorText : IndexerError → String) (st : Store) :
    (scannerStep cfg env errorText st).target =
      match env.recordedTip with
      | some tip => some (cfg.notedTarget tip).toInt64
      | none => st.target := by
  rw [← scanOnce_target]
  unfold scannerStep
  generalize scanOnce cfg env st = result
  obtain ⟨outcome, st'⟩ := result
  cases outcome with
  | ok round => rfl
  | error e =>
    dsimp only
    cases env.faults.setStreamError with
    | some e' => rfl
    | none => exact Store.target_setStreamError ..

omit [Sha2] in
theorem ScanEnv.syncedTip_of_recorded {tip : UInt64} (h : env.recordedTip = some tip) : env.replies.syncedTip = .ok tip := by
  unfold ScanEnv.recordedTip at h
  split at h
  · rename_i htip _
    simp only [Option.some.injEq] at h
    rw [htip, h]
  · cases h

/-- A pass that records no tip commits nothing. -/
theorem scannerStep_unrecorded (errorText : IndexerError → String) (h : env.recordedTip = none) :
    Noted cfg st (scannerStep cfg env errorText st) := by
  have honce : Noted cfg st (scanOnce cfg env st).2 := by
    unfold scanOnce
    unfold ScanEnv.recordedTip at h
    cases hinit : env.faults.initStream with
    | some e => exact .refl cfg st
    | none =>
      dsimp only
      have hstarted := noted_insertStream cfg st env.now
      cases hget : env.faults.getStreamState with
      | some e => exact hstarted
      | none =>
        rw [Store.getStreamState_insertStream]
        dsimp only
        cases htip : env.replies.syncedTip with
        | error e => exact hstarted
        | ok tip =>
          dsimp only
          cases hprogress : env.faults.recordChainProgress with
          | some e => exact hstarted
          | none =>
            rw [hinit, hget, htip, hprogress] at h
            cases h
  unfold scannerStep
  generalize scanOnce cfg env st = result at honce
  obtain ⟨outcome, st'⟩ := result
  cases outcome with
  | ok round => exact honce
  | error e =>
    dsimp only
    cases env.faults.setStreamError with
    | some e' => exact honce
    | none => exact honce.trans (noted_setStreamError ..)

end
end RgbppIndexer
