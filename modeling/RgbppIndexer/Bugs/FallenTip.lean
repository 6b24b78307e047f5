import RgbppIndexer.Indexer.System
import RgbppIndexer.Scan.Notes

/-!
# A fallen tip opens the gate of the search

`indexer_is_caught_up` (crates/indexer/src/sweeper.rs:123-154) lets the search
for misspends run when the checkpoint is close to the stored target, because
"while the indexer is still catching up" a missing transition means nothing,
and "running anyway would flag every historical binding". But every round
rewrites that target before it does anything else (crates/indexer/src/scanner.rs:120-133):
with `tip - reorg_lag` for whatever tip it is told, and with the placeholder 0
when that is below the first block, although the column is nullable and the
gate reads NULL as "not caught up".

Counterexample: a chain of four blocks of which one is indexed, and a node that
starts over and reports block 0. The target becomes 0, and the gate opens with
an issuance of block 2 unindexed (`gate_opens`).

* `caughtUp_of_run`: **in runs in which no tip falls below a recorded one that
  the checkpoint has not come close to, an open gate means that the checkpoint
  is within the allowance of every tip recorded so far.**
* `opens_iff`: a round told a lower tip opens the gate exactly when that tip's
  target is within the allowance.
-/
namespace RgbppIndexer.Bugs.FallenTip

open RgbppIndexer.Core

/-- The scanner, with the highest tip recorded so far beside the database. -/
def recorder [Sha2] (cfg : Config) (errorText : IndexerError → String) : Lts (Nat × Store) ScanEnv where
  init s := s = (0, .empty)
  step s env s' := s' = (max s.1 ((env.recordedTip.map UInt64.toNat).getD 0), scannerStep cfg env errorText s.2)

/-- What an open gate stands for: the checkpoint is within the allowance of what the highest tip settles. -/
def CaughtUp (cfg : Config) (w : Sweeper) (highest : Nat) (st : Store) : Prop :=
  (highest : Int) - cfg.ckb.reorgLag.toNat - w.config.requireSyncedWithinBlocks.toNat ≤ (st.checkpoint cfg).number.toInt

instance (cfg : Config) (w : Sweeper) (highest : Nat) (st : Store) : Decidable (CaughtUp cfg w highest st) :=
  inferInstanceAs (Decidable (_ ≤ _))

/-- No round is told less than what was recorded before, unless the index had caught up with that, and the end of
its range fits. -/
def Steady (cfg : Config) (w : Sweeper) (s : Nat × Store) (env : ScanEnv) : Prop :=
  ∀ tip, env.recordedTip = some tip → tip.toNat < 2 ^ 63 ∧
    (s.1 ≤ tip.toNat ∨ CaughtUp cfg w s.1 s.2 ∧ RangeFits cfg s.2)

section
variable {cfg : Config} {w : Sweeper} {env : ScanEnv} {errorText : IndexerError → String} {envs : List ScanEnv}
  {st : Store} {highest : Nat}

variable (cfg) in
/-- The gate compares two columns of the stream row. -/
theorem indexerIsCaughtUp_iff : w.indexerIsCaughtUp st = true ↔ ∃ target, st.target = some target ∧
    Sweeper.blocksBehind target (st.checkpoint cfg).number ≤ w.config.requireSyncedWithinBlocks.toNat := by
  unfold Sweeper.indexerIsCaughtUp Store.target
  cases hstate : st.getStreamState CKB_STREAM with
  | none => simp
  | some state =>
    rw [Store.checkpoint_of_state hstate]
    show _ ↔ ∃ target, state.targetBlockNumber = some target ∧ Sweeper.blocksBehind target state.lastBlockNumber ≤ _
    cases htarget : state.targetBlockNumber with
    | none => simp [htarget]
    | some target => simp [htarget]

variable (cfg) in
/-- The target as a number: 0 until the tip reaches the first block. -/
theorem toInt_notedTarget {tip : UInt64} (h : tip.toNat < 2 ^ 63) : (cfg.notedTarget tip).toInt64.toInt =
    if cfg.ckb.startBlock.toNat + cfg.ckb.reorgLag.toNat ≤ tip.toNat then (tip.toNat : Int) - cfg.ckb.reorgLag.toNat
    else 0 := by
  unfold Config.notedTarget Config.safeCkbTarget
  by_cases hlag : tip < cfg.ckb.reorgLag
  · rw [if_pos hlag, if_neg (by rw [UInt64.lt_iff_toNat_lt] at hlag; omega)]
    rfl
  · rw [if_neg hlag]
    rw [UInt64.lt_iff_toNat_lt, Nat.not_lt] at hlag
    have hsub := UInt64.toNat_sub_of_le tip cfg.ckb.reorgLag (UInt64.le_iff_toNat_le.mpr hlag)
    by_cases hstart : cfg.ckb.startBlock ≤ tip - cfg.ckb.reorgLag
    · have hstart' := UInt64.le_iff_toNat_le.mp hstart
      rw [if_pos hstart, if_pos (by omega), Option.getD_some, toInt_toInt64 (by omega), hsub]
      omega
    · rw [UInt64.le_iff_toNat_le] at hstart
      rw [if_neg (by rw [UInt64.le_iff_toNat_le]; exact hstart), if_neg (by omega)]
      rfl

/-- What the pair of columns has to do with the highest tip. -/
structure Tracked (cfg : Config) (w : Sweeper) (s : Nat × Store) : Prop where
  nonneg : 0 ≤ (s.2.checkpoint cfg).number.toInt
  /-- nothing is committed before a tip reaches the first block -/
  started : s.1 < cfg.ckb.startBlock.toNat + cfg.ckb.reorgLag.toNat →
    (cfg.ckb.startBlock.toNat : Int) - 1 ≤ (s.2.checkpoint cfg).number.toInt
  covered : ∀ target, s.2.target = some target →
    (s.1 : Int) ≤ target.toInt + cfg.ckb.reorgLag.toNat ∨ CaughtUp cfg w s.1 s.2

theorem Tracked.init (hstart : cfg.ckb.startBlock.toNat ≤ 2 ^ 63) : Tracked cfg w (0, .empty) := by
  have hnumber := toInt_checkpoint_empty hstart
  refine ⟨?_, fun _ => ?_, nofun⟩
  · rw [hnumber]
    omega
  · rw [hnumber]
    omega

variable [Sha2]

variable (errorText) in
/-- The checkpoint stands, or the round committed and its target is the one of the tip it was told. -/
theorem checkpoint_scannerStep {st : Store} {tip : UInt64} (hrecorded : env.recordedTip = some tip)
    (htip : tip.toNat < 2 ^ 63) (hnonneg : 0 ≤ (st.checkpoint cfg).number.toInt) :
    ((scannerStep cfg env errorText st).checkpoint cfg).number = (st.checkpoint cfg).number ∨
      0 ≤ ((scannerStep cfg env errorText st).checkpoint cfg).number.toInt ∧
        cfg.ckb.startBlock.toNat + cfg.ckb.reorgLag.toNat ≤ tip.toNat ∧
        (RangeFits cfg st →
          (st.checkpoint cfg).number.toInt ≤ ((scannerStep cfg env errorText st).checkpoint cfg).number.toInt) := by
  rcases scannerStep_cases cfg env errorText st with hnoted | ⟨reads, batch, hc⟩
  · exact .inl (by rw [hnoted.checkpoint])
  · right
    have hread := hc.tip.symm.trans (ScanEnv.syncedTip_of_recorded hrecorded)
    simp only [Except.ok.injEq] at hread
    obtain ⟨hvalue, hstart, hle⟩ := Config.safeCkbTarget_eq_some hc.target
    rw [hread] at hvalue hle
    rw [UInt64.le_iff_toNat_le] at hstart hle
    have hlt : reads.target.toNat < 2 ^ 63 := by omega
    refine ⟨?_, ?_, hc.checkpoint_mono hnonneg hlt⟩
    · rw [hc.checkpoint_toInt hlt]
      omega
    · by_cases hlag : tip < cfg.ckb.reorgLag
      · have hnone := hc.target
        unfold Config.safeCkbTarget at hnone
        rw [hread, if_pos hlag] at hnone
        cases hnone
      · rw [UInt64.lt_iff_toNat_lt] at hlag
        omega

theorem Tracked.step {s : Nat × Store} (h : Tracked cfg w s) (hsteady : Steady cfg w s env) : Tracked cfg w
    (max s.1 ((env.recordedTip.map UInt64.toNat).getD 0), scannerStep cfg env errorText s.2) := by
  have htarget := scannerStep_target cfg env errorText s.2
  cases hrecorded : env.recordedTip with
  | none =>
    rw [hrecorded] at htarget
    have hnoted : Noted cfg s.2 (scannerStep cfg env errorText s.2) := scannerStep_unrecorded errorText hrecorded
    have hcp := hnoted.checkpoint
    rw [Option.map_none, Option.getD_none, Nat.max_zero]
    refine ⟨?_, ?_, ?_⟩
    · rw [hcp]
      exact h.nonneg
    · rw [hcp]
      exact h.started
    · intro target ht
      have hcovered := h.covered target (htarget.symm.trans ht)
      unfold CaughtUp at hcovered ⊢
      rw [hcp]
      exact hcovered
  | some tip =>
    obtain ⟨htip, hkept⟩ := hsteady tip hrecorded
    rw [hrecorded] at htarget
    dsimp only at htarget
    have hnumber := toInt_notedTarget cfg htip
    rw [Option.map_some, Option.getD_some]
    have hcases := checkpoint_scannerStep errorText hrecorded htip h.nonneg
    have hnonneg := h.nonneg
    have hstarted := h.started
    unfold CaughtUp at hkept
    refine ⟨?_, ?_, ?_⟩
    · rcases hcases with heq | ⟨hnonneg', -⟩
      · dsimp only
        rw [heq]
        exact hnonneg
      · exact hnonneg'
    · intro hlow
      dsimp only at hlow ⊢
      rcases hcases with heq | ⟨-, hreached, -⟩
      · rw [heq]
        exact hstarted (by omega)
      · omega
    · intro target ht
      dsimp only at ht ⊢
      have hcolumn := htarget.symm.trans ht
      simp only [Option.some.injEq] at hcolumn
      rw [← hcolumn, hnumber]
      unfold CaughtUp
      by_cases hreached : cfg.ckb.startBlock.toNat + cfg.ckb.reorgLag.toNat ≤ tip.toNat
      · rw [if_pos hreached]
        rcases hkept with hle | ⟨hclose, hfits⟩
        · omega
        · rcases hcases with heq | ⟨-, -, hmono⟩
          · rw [heq]
            omega
          · have := hmono hfits
            omega
      · rw [if_neg hreached]
        rcases hcases with heq | ⟨-, hcontra, -⟩
        · rw [heq]
          rcases hkept with hle | ⟨hclose, -⟩
          · have := hstarted (by omega)
            omega
          · by_cases hlow : s.1 < cfg.ckb.startBlock.toNat + cfg.ckb.reorgLag.toNat
            · have := hstarted hlow
              omega
            · omega
        · exact absurd hcontra hreached

/-- **An open gate means that the index has caught up with every tip recorded so far.** -/
theorem caughtUp_of_run (hstart : cfg.ckb.startBlock.toNat ≤ 2 ^ 63)
    (hrun : ((recorder cfg errorText).restrict (Steady cfg w)).Run (0, .empty) envs (highest, st))
    (hgate : w.indexerIsCaughtUp st = true) : CaughtUp cfg w highest st := by
  have htracked : Tracked cfg w (highest, st) := by
    refine hrun.keeps (fun s env s' hs hstep => ?_) (Tracked.init hstart)
    obtain ⟨rfl, hsteady⟩ := hstep
    exact hs.step hsteady
  obtain ⟨target, htarget, hbehind⟩ := (indexerIsCaughtUp_iff cfg).mp hgate
  rcases htracked.covered target htarget with hle | hclose
  · have hnonneg := htracked.nonneg
    have hmax := target.toInt_lt
    unfold Sweeper.blocksBehind at hbehind
    unfold CaughtUp
    dsimp only at hle hnonneg
    omega
  · exact hclose

/-- **What a round leaves of the gate**, when it only records its tip: the stored target decides, whatever was
recorded before. -/
theorem opens_iff {tip : UInt64} (hrecorded : env.recordedTip = some tip)
    (hnoted : Noted cfg st (scannerStep cfg env errorText st)) :
    w.indexerIsCaughtUp (scannerStep cfg env errorText st) = true ↔
      Sweeper.blocksBehind (cfg.notedTarget tip).toInt64 (st.checkpoint cfg).number ≤
        w.config.requireSyncedWithinBlocks.toNat := by
  rw [indexerIsCaughtUp_iff cfg, scannerStep_target, hrecorded, hnoted.checkpoint]
  simp

end

/-! ## The counterexample -/

section
open Sample

local instance : Sha2 := .standard

/-- Batches of one block, so that a round leaves the index behind its target. -/
def cfg : Config := .testnet 1

/-- Block 1 is indexed; blocks 2 and 3 are not. -/
def behind : Store := scannerStep cfg (env (chain.serve 3)) (fun _ => "") .empty

/-- The node has started over: it reports block 0. -/
def fallen : Store := scannerStep cfg (env (chain.serve 0)) (fun _ => "") behind

theorem served : ∀ e ∈ [env (chain.serve 3), env (chain.serve 0)],
    Serves chain e.replies ∧ IndexerComplete chain e.replies := by
  have h3 : (3 : UInt64).toNat < chain.blocks.length := by decide +kernel
  have h0 : (0 : UInt64).toNat < chain.blocks.length := by decide +kernel
  simp only [List.mem_cons, List.not_mem_nil, or_false, forall_eq_or_imp, forall_eq]
  exact ⟨⟨Chain.serve_serves h3, Chain.serve_complete h3⟩, Chain.serve_serves h0, Chain.serve_complete h0⟩

/-- **The gate opens** with two settled blocks unindexed, one of which has an issuance. -/
theorem gate_opens :
    cfg.Valid ∧
      (∀ e ∈ [env (chain.serve 3), env (chain.serve 0)], Serves chain e.replies ∧ IndexerComplete chain e.replies) ∧
      (recorder cfg fun _ => "").Run (0, .empty) [env (chain.serve 3), env (chain.serve 0)] (3, fallen) ∧
      sweeper.indexerIsCaughtUp behind = false ∧ sweeper.indexerIsCaughtUp fallen = true ∧
      ¬ CaughtUp cfg sweeper 3 fallen := by
  refine ⟨Config.testnet_valid (by decide), served,
    Lts.Run.cons (t := (3, behind)) ?_ (Lts.Run.single ?_), by decide +kernel, by decide +kernel, by decide +kernel⟩
  · exact Prod.ext (by decide +kernel) rfl
  · exact Prod.ext (by decide +kernel) rfl

/-- The same chain, with a tip that grows: the gate is open after the second round. -/
theorem caughtUp_of_run_growing :
    sweeper.indexerIsCaughtUp (scannerStep (.testnet 64) (env (chain.serve 3)) (fun _ => "")
        (scannerStep (.testnet 64) (env (chain.serve 2)) (fun _ => "") .empty)) = true ∧
      CaughtUp (.testnet 64) sweeper 3 (scannerStep (.testnet 64) (env (chain.serve 3)) (fun _ => "")
        (scannerStep (.testnet 64) (env (chain.serve 2)) (fun _ => "") .empty)) := by
  have hgate : sweeper.indexerIsCaughtUp (scannerStep (.testnet 64) (env (chain.serve 3)) (fun _ => "")
      (scannerStep (.testnet 64) (env (chain.serve 2)) (fun _ => "") .empty)) = true := by decide +kernel
  have h2 : (env (chain.serve 2)).recordedTip = some 2 := by decide +kernel
  have h3 : (env (chain.serve 3)).recordedTip = some 3 := by decide +kernel
  refine ⟨hgate, caughtUp_of_run (by decide) (Lts.Run.cons (t := (2, scannerStep (.testnet 64) (env (chain.serve 2))
    (fun _ => "") .empty)) ⟨Prod.ext ?_ rfl, ?_⟩ (Lts.Run.single ⟨Prod.ext ?_ rfl, ?_⟩)) hgate⟩
  · rw [h2]
    rfl
  · intro tip htip
    rw [h2, Option.some.injEq] at htip
    rw [← htip]
    exact ⟨by decide, .inl (by decide)⟩
  · rw [h3]
    rfl
  · intro tip htip
    rw [h3, Option.some.injEq] at htip
    rw [← htip]
    exact ⟨by decide, .inl (by decide)⟩

end
end RgbppIndexer.Bugs.FallenTip
