import RgbppIndexer.Indexer.System

/-!
# A transition that names the spender masks a misspend

`detect_misspends` (crates/indexer/src/sweeper.rs:187-200) takes a spend for
settled as soon as `transitions_by_btc_txid` finds any transition that names
the spender, and resolves what was open. But `btc_txid` is derived from the
bindings of a transition's outputs (`derive_btc_txid`,
crates/indexer/src/extract.rs:132-145), so anybody who mints a cell onto an
output of the spender puts its txid there, without consuming anything.

The search is for a spend with "no matching ckb transition" (sweeper.rs:156,
228), and the verifier knows better: an issuance "binds cells to a Bitcoin
UTXO that already existed", whose transaction "knows nothing about RGB++"
(crates/indexer/src/verify.rs:79-82).

Counterexample: a bound outpoint is spent, and an issuance is bound to an
output of the spender. The search succeeds and flags nothing (`issuance_masks`).

* `flagged_iff`: **a search that reads all there is flags every misspend
  exactly when no indexed transition names one of the spenders; but for a
  count of confirmations that wraps, which leaves an outpoint as it was.**
-/
namespace RgbppIndexer.Bugs.MaskedMisspend

open RgbppIndexer.Core RgbppIndexer.System Store

/-- The outpoint has an unconsumed cell, and a valid observation that it is spent. -/
structure Misspent (st : Store) (o : BtcOutPoint) (spender : BtcTxid) (height : UInt32) : Prop where
  live : LiveBound o.key st
  spent : ∃ row, st.btcOutpoints.get? o.key = some row ∧ row.invalidatedAt = none ∧
    Store.spendStatus row = .ok (.spentConfirmed spender height)

/-- The confirmations of a spend at a tip; a spend above the tip has one. -/
def confirmationsAt (tip height : UInt32) : Nat := tip.toNat - height.toNat + 1

/-- The count of confirmations passes the largest `u32`. -/
def CountWraps (tip height : UInt32) : Prop := confirmationsAt tip height = 2 ^ 32

instance (tip height : UInt32) : Decidable (CountWraps tip height) := inferInstanceAs (Decidable (_ = _))

section
variable {w : Sweeper} {tip : BtcTip} {st st' : Store}

/-- Every misspend that is old enough is flagged. -/
def Flagged (w : Sweeper) (tip : BtcTip) (st st' : Store) : Prop :=
  ∀ o spender height, Misspent st o spender height →
    w.config.misspendGraceConfirmations.toNat ≤ confirmationsAt tip.height height → OpenFinding o.key st'

/-- No transition names the spender of one of them; where the count wraps, the outpoint was flagged before. -/
def Unmasked (w : Sweeper) (tip : BtcTip) (st : Store) : Prop :=
  ∀ o spender height, Misspent st o spender height →
    w.config.misspendGraceConfirmations.toNat ≤ confirmationsAt tip.height height →
      if CountWraps tip.height height ∧ 0 < w.config.misspendGraceConfirmations then OpenFinding o.key st
      else ∀ hash t, st.rgbppTransitions.get? hash = some t → t.btcTxid ≠ some spender.toDisplayVec

theorem toNat_confirmations (tip height : UInt32) :
    (Sweeper.confirmations tip height).toNat = confirmationsAt tip height % 2 ^ 32 := by
  have hone : (1 : UInt32).toNat = 1 := rfl
  have hzero : (0 : UInt32).toNat = 0 := rfl
  have htip := tip.toNat_lt
  unfold Sweeper.confirmations confirmationsAt
  rw [UInt32.toNat_add, hone]
  split
  · next hlt =>
    rw [UInt32.lt_iff_toNat_lt] at hlt
    rw [hzero]
    omega
  · next hle =>
    rw [UInt32.not_lt] at hle
    rw [UInt32.toNat_sub_of_le _ _ hle]

/-- A spend that is old enough is left alone only where the count wraps. -/
theorem confirmations_lt_iff {tip height grace : UInt32} (h : grace.toNat ≤ confirmationsAt tip height) :
    Sweeper.confirmations tip height < grace ↔ CountWraps tip height ∧ 0 < grace := by
  have hle : confirmationsAt tip height ≤ 2 ^ 32 := by
    have htip := tip.toNat_lt
    unfold confirmationsAt
    omega
  have hzero : (0 : UInt32).toNat = 0 := rfl
  rw [UInt32.lt_iff_toNat_lt, UInt32.lt_iff_toNat_lt, toNat_confirmations, hzero]
  unfold CountWraps
  omega

theorem Misspent.pending {o : BtcOutPoint} {spender : BtcTxid} {height : UInt32} (h : Misspent st o spender height) :
    ∃ row, (o.key, row) ∈ st.pendingRows ∧ Store.spendStatus row = .ok (.spentConfirmed spender height) := by
  obtain ⟨row, hrow, hvalid, hstatus⟩ := h.spent
  refine ⟨row, mem_pendingRows.mpr ⟨h.live, hrow, hvalid, ?_⟩, hstatus⟩
  exact isSpent_of_spendStatus hstatus rfl

/-- The verdict on a misspend. -/
theorem verdict_misspent {o : BtcOutPoint} {spender : BtcTxid} {height : UInt32} {row : ObservationRow}
    (h : Store.spendStatus row = .ok (.spentConfirmed spender height)) : w.verdict tip st (o.key, row) =
      if Sweeper.confirmations tip.height height < w.config.misspendGraceConfirmations then .skip
      else if st.transitionsByBtcTxid spender.toDisplayVec ≠ [] then .resolve
      else .flag := by
  have hkey : Store.outPointOfKey o.key = .ok o := Store.outPointOfKey_eq_ok.mpr rfl
  unfold Sweeper.verdict
  rw [hkey, h]
  rfl

variable [Sha2] {cfg : Config} {errorText : IndexerError → String}

/-- **The searches that flag every misspend.** -/
theorem flagged_iff {events : List Event} {env : DetectEnv} {n : Nat}
    (hrun : (tasks cfg errorText).Run .empty events st) (hgate : w.indexerIsCaughtUp st = true)
    (htip : env.tip = .ok tip) (hok : w.detectMisspends env st = (st', .ok n)) (hlimit : st.pendingRows.length ≤ 10000) :
    Flagged w tip st st' ↔ Unmasked w tip st := by
  refine forall_congr' fun o => forall_congr' fun spender => forall_congr' fun height => forall_congr' fun hmisspent =>
    forall_congr' fun hold => ?_
  obtain ⟨row, hpending, hstatus⟩ := hmisspent.pending
  rw [Sweeper.openFinding_detectMisspends (AnomaliesKeyed.run hrun) hgate hok htip hlimit hpending, verdict_misspent hstatus]
  by_cases hwraps : CountWraps tip.height height ∧ 0 < w.config.misspendGraceConfirmations
  · rw [if_pos ((confirmations_lt_iff hold).mpr hwraps), if_pos hwraps]
    rfl
  · rw [if_neg (mt (confirmations_lt_iff hold).mp hwraps), if_neg hwraps, ← transitionsByBtcTxid_eq_nil]
    by_cases hnil : st.transitionsByBtcTxid spender.toDisplayVec = []
    · rw [if_neg (not_not_intro hnil)]
      exact iff_of_true trivial hnil
    · rw [if_pos hnil]
      exact iff_of_false id hnil

end

/-! ## The counterexample -/

section
open Sample

local instance : Sha2 := .standard

def spent : OutpointSpendStatus := .spentConfirmed spender 100

/-- What there is to index is indexed, and the outpoint of the first issuance is reported spent. -/
def observed (replies : Replies) : List Event :=
  [.write (.scan (env replies)), .answer (reconciler spent) 1 (outpoint, .ok spent)]

def stateOf (replies : Replies) : Store := after (.testnet 64) (fun _ => "") (observed replies)

def detectEnv : DetectEnv where
  tip := .ok tip
  moment := 2
  now := 0
  rows := .storage

/-- The outpoint was spent a hundred blocks ago. -/
theorem misspent_mint : Misspent (stateOf (mintChain.serve 3)) outpoint spender 100 where
  live := by
    rw [← mem_liveBoundOutpoints]
    decide +kernel
  spent := ⟨Store.observationRow none spent none "esplora" 0, by decide +kernel, rfl, by decide +kernel⟩

/-- **The issuance masks the misspend**: no transition consumes anything, and the search flags nothing. -/
theorem issuance_masks :
    (tasks (.testnet 64) fun _ => "").Run .empty (observed (mintChain.serve 3)) (stateOf (mintChain.serve 3)) ∧
      (∀ e ∈ (stateOf (mintChain.serve 3)).rgbppTransitions.entries, e.2.kind = .issuance ∧ e.2.inputCellCount = 0) ∧
      sweeper.indexerIsCaughtUp (stateOf (mintChain.serve 3)) = true ∧
      (stateOf (mintChain.serve 3)).pendingRows.length ≤ 10000 ∧
      (sweeper.detectMisspends detectEnv (stateOf (mintChain.serve 3))).2 = .ok 0 ∧
      ¬ Flagged sweeper tip (stateOf (mintChain.serve 3)) (sweeper.detectMisspends detectEnv (stateOf (mintChain.serve 3))).1 := by
  refine ⟨run_after .., by decide +kernel, by decide +kernel, by decide +kernel, by decide +kernel, fun hflagged => ?_⟩
  obtain ⟨k, r, hr, -⟩ := hflagged outpoint spender 100 misspent_mint (by decide)
  have hnone : (sweeper.detectMisspends detectEnv (stateOf (mintChain.serve 3))).1.rgbppAnomalies.entries = [] := by
    decide +kernel
  have hmem := (Table.get?_eq_some_iff ..).mp hr
  rw [hnone] at hmem
  cases hmem

/-- Without the second issuance, the search reads the condition off the database. -/
theorem flagged_iff_lone :
    Flagged sweeper tip (stateOf (chain.serve 2)) (sweeper.detectMisspends detectEnv (stateOf (chain.serve 2))).1 ↔
    Unmasked sweeper tip (stateOf (chain.serve 2)) := by
  have hok : (sweeper.detectMisspends detectEnv (stateOf (chain.serve 2))).2 = .ok 1 := by decide +kernel
  exact flagged_iff (run_after ..) (by decide +kernel) rfl (Prod.ext rfl hok) (by decide +kernel)

end
end RgbppIndexer.Bugs.MaskedMisspend
