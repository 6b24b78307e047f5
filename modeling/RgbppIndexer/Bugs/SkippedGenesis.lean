import RgbppIndexer.Chain.Serve
import RgbppIndexer.Core.Intervals
import RgbppIndexer.Scan.Notes

/-!
# A scan that starts at block 0 never reads it

The checkpoint means "fully processed up to and including this height, and
nothing has been processed yet" is written as `start_block - 1`
(crates/store/src/state.rs:28-33). The subtraction saturates, so a stream that
starts at block 0 stands at 0, which says that block 0 is processed, and the
first range starts at `checkpoint + 1 = 1` (crates/indexer/src/scanner.rs:147).

Counterexample: `start_block = 0` over a chain of four blocks (`genesis_skipped`).
The ranges also come apart when the end of one wraps (`Bugs.WrappedRange`).

* `consecutive_of_run`: **from a first block above 0, runs whose ranges fit
  commit consecutive ranges within the lag, cover every block up to the
  checkpoint once, and never move it back.**
* `le_toBlock_iff`: the range of a round is not empty exactly when it fits.
-/
namespace RgbppIndexer.Bugs.SkippedGenesis

open RgbppIndexer.Core

/-- The range of a committed round, and the tip it was told. -/
structure ScannedRange extends Interval where
  chainTip : Nat
  deriving DecidableEq, Repr

def scannedRange (cfg : Config) (st : Store) (reads : RoundReads) : ScannedRange where
  first := (st.nextBlock cfg).toNat
  last := (reads.toBlock cfg st).toNat
  chainTip := reads.chainTip.toNat

/-- The scanner, with the ranges committed so far beside the database. -/
def logged [Sha2] (cfg : Config) (errorText : IndexerError → String) : Lts (List ScannedRange × Store) ScanEnv where
  init s := s = ([], .empty)
  step s env s' := s'.2 = scannerStep cfg env errorText s.2 ∧
    (Noted cfg s.2 s'.2 ∧ s'.1 = s.1 ∨
      ∃ reads batch, Committed cfg env s.2 s'.2 reads batch ∧ s'.1 = s.1 ++ [scannedRange cfg s.2 reads])

/-- Tips are heights, and the end of the range fits its integer. -/
def Fits (cfg : Config) (s : List ScannedRange × Store) (env : ScanEnv) : Prop :=
  (∀ tip, env.replies.syncedTip = .ok tip → tip.toNat < 2 ^ 63) ∧ RangeFits cfg s.2

/-- What the committed ranges of a run should be. -/
structure Gapless (cfg : Config) (s : List ScannedRange × Store) : Prop where
  consecutive : Consecutive cfg.ckb.startBlock.toNat (s.1.map ScannedRange.toInterval)
  within : ∀ r ∈ s.1, r.last + cfg.ckb.reorgLag.toNat ≤ r.chainTip
  once : ∀ n : Nat, cfg.ckb.startBlock.toNat ≤ n → (n : Int) ≤ (s.2.checkpoint cfg).number.toInt →
    (s.1.map ScannedRange.toInterval).countP (Interval.covers n) = 1

section
variable [Sha2] {cfg : Config} {env : ScanEnv} {errorText : IndexerError → String} {st st' : Store} {reads : RoundReads}
  {batch : IndexBatch}

variable (cfg errorText) in
/-- Every pass of the scanner is a step of the logged system. -/
theorem exists_logged (s : List ScannedRange × Store) (env : ScanEnv) :
    ∃ log, (logged cfg errorText).step s env (log, scannerStep cfg env errorText s.2) := by
  rcases scannerStep_cases cfg env errorText s.2 with hnoted | ⟨reads, batch, hc⟩
  · exact ⟨s.1, rfl, .inl ⟨hnoted, rfl⟩⟩
  · exact ⟨s.1 ++ [scannedRange cfg s.2 reads], rfl, .inr ⟨reads, batch, hc, rfl⟩⟩

/-- A round whose end wraps ends before it starts; any other does not. -/
theorem le_toBlock_iff (hc : Committed cfg env st st' reads batch) (hbatch : 0 < cfg.ckb.batchBlocks)
    (hnonneg : 0 ≤ (st.checkpoint cfg).number.toInt) (htarget : reads.target.toNat < 2 ^ 63) :
    (st.nextBlock cfg).toNat ≤ (reads.toBlock cfg st).toNat ↔ RangeFits cfg st := by
  have hnext := hc.nextBlock_toNat htarget
  exact hc.nextBlock_le_toBlock_iff hbatch (by omega) htarget

/-- What a run keeps: the next range starts behind the checkpoint. -/
structure Joined (cfg : Config) (s : List ScannedRange × Store) : Prop where
  consecutive : Consecutive cfg.ckb.startBlock.toNat (s.1.map ScannedRange.toInterval)
  within : ∀ r ∈ s.1, r.last + cfg.ckb.reorgLag.toNat ≤ r.chainTip
  next : (s.2.checkpoint cfg).number.toInt + 1 = nextFirst cfg.ckb.startBlock.toNat (s.1.map ScannedRange.toInterval)

omit [Sha2] in
theorem Joined.init (hstart : 1 ≤ cfg.ckb.startBlock.toNat) (hfits : cfg.ckb.startBlock.toNat < 2 ^ 63) :
    Joined cfg ([], .empty) := by
  refine ⟨trivial, nofun, ?_⟩
  rw [toInt_checkpoint_empty (by omega)]
  simp only [List.map_nil, nextFirst]
  omega

omit [Sha2] in
theorem Joined.gapless {s : List ScannedRange × Store} (h : Joined cfg s) : Gapless cfg s where
  consecutive := h.consecutive
  within := h.within
  once := by
    intro n hstart hn
    have hnext := h.next
    exact h.consecutive.countP_covers hstart (by omega)

theorem Joined.step {s s' : List ScannedRange × Store} (hstart : 1 ≤ cfg.ckb.startBlock.toNat)
    (hbatch : 0 < cfg.ckb.batchBlocks) (h : Joined cfg s) (hfits : Fits cfg s env)
    (hstep : (logged cfg errorText).step s env s') :
    Joined cfg s' ∧ (s.2.checkpoint cfg).number.toInt ≤ (s'.2.checkpoint cfg).number.toInt := by
  obtain ⟨-, ⟨hnoted, hsame⟩ | ⟨reads, batch, hc, hlog⟩⟩ := hstep
  · refine ⟨⟨?_, ?_, ?_⟩, ?_⟩
    · rw [hsame]
      exact h.consecutive
    · rw [hsame]
      exact h.within
    · rw [hsame, hnoted.checkpoint]
      exact h.next
    · rw [hnoted.checkpoint]
  · have hnonneg : 0 ≤ (s.2.checkpoint cfg).number.toInt := by
      have hle := h.consecutive.start_le
      have hnext := h.next
      omega
    obtain ⟨hvalue, hfirst, hle⟩ := Config.safeCkbTarget_eq_some hc.target
    rw [UInt64.le_iff_toNat_le] at hle hfirst
    have htip := hfits.1 _ hc.tip
    have htarget : reads.target.toNat < 2 ^ 63 := by omega
    have hfrom := hc.nextBlock_toNat htarget
    have hto := hc.checkpoint_toInt htarget
    have htoTarget := reads.toBlock_le_target cfg s.2
    have hnext := h.next
    have hstartLe := h.consecutive.start_le
    have hcontinues : (s.2.nextBlock cfg).toNat =
        nextFirst cfg.ckb.startBlock.toNat (s.1.map ScannedRange.toInterval) := by omega
    refine ⟨⟨?_, ?_, ?_⟩, hc.checkpoint_mono hnonneg htarget hfits.2⟩
    · rw [hlog, List.map_append]
      exact consecutive_concat.mpr ⟨h.consecutive, hcontinues, (le_toBlock_iff hc hbatch hnonneg htarget).mpr hfits.2⟩
    · intro r hr
      rw [hlog] at hr
      rcases List.mem_append.mp hr with hr | hr
      · exact h.within r hr
      · rw [List.mem_singleton] at hr
        subst hr
        show (reads.toBlock cfg s.2).toNat + cfg.ckb.reorgLag.toNat ≤ reads.chainTip.toNat
        omega
    · rw [hlog, List.map_append, hto]
      exact (congrArg Int.ofNat (nextFirst_concat _ _ (scannedRange cfg s.2 reads).toInterval)).symm

/-- **Consecutive ranges, each block once, and a checkpoint that never decreases.** -/
theorem consecutive_of_run {before after : List ScanEnv} {s s' : List ScannedRange × Store} (hvalid : cfg.Valid)
    (hstart : 1 ≤ cfg.ckb.startBlock.toNat) (hheight : cfg.ckb.startBlock.toNat < 2 ^ 63)
    (hrun : ((logged cfg errorText).restrict (Fits cfg)).Run ([], .empty) before s)
    (hlater : ((logged cfg errorText).restrict (Fits cfg)).Run s after s') :
    Gapless cfg s' ∧ (s.2.checkpoint cfg).number.toInt ≤ (s'.2.checkpoint cfg).number.toInt := by
  have hjoined : Joined cfg s :=
    hrun.keeps (fun t env t' ht hstep => (ht.step hstart hvalid.batchBlocks hstep.2 hstep.1).1) (Joined.init hstart hheight)
  have hkept : Joined cfg s' ∧ (s.2.checkpoint cfg).number.toInt ≤ (s'.2.checkpoint cfg).number.toInt := by
    refine hlater.keeps (I := fun t => Joined cfg t ∧
      (s.2.checkpoint cfg).number.toInt ≤ (t.2.checkpoint cfg).number.toInt) (fun t env t' ht hstep => ?_)
      ⟨hjoined, Int.le_refl _⟩
    obtain ⟨hnext, hmono⟩ := ht.1.step hstart hvalid.batchBlocks hstep.2 hstep.1
    exact ⟨hnext, ht.2.trans hmono⟩
  exact ⟨hkept.1.gapless, hkept.2⟩

end

/-! ## The counterexample -/

section
open Sample

local instance : Sha2 := .standard

/-- The deployment, scanned from block 0. -/
def cfg : Config := { Config.testnet 64 with ckb := { (Config.testnet 64).ckb with startBlock := 0 } }

/-- What the first round leaves. -/
def scanned : Store := scannerStep cfg (env (chain.serve 3)) (fun _ => "") .empty

/-- **Block 0 is below the first range**, and the checkpoint passes it. -/
theorem genesis_skipped :
    cfg.Valid ∧ Serves chain (env (chain.serve 3)).replies ∧
      ∃ r, (logged cfg fun _ => "").Run ([], .empty) [env (chain.serve 3)] ([r], scanned) ∧ r.first = 1 ∧
        (scanned.checkpoint cfg).number = 3 ∧ ¬ Gapless cfg ([r], scanned) := by
  have hcheckpoint : (scanned.checkpoint cfg).number = 3 := by decide +kernel
  have hone : (Store.empty.nextBlock cfg).toNat = 1 := by decide +kernel
  refine ⟨⟨by decide, by decide, by decide +kernel, by decide +kernel⟩, Chain.serve_serves (by decide +kernel), ?_⟩
  obtain ⟨log, -, ⟨hnoted, -⟩ | ⟨reads, batch, hc, hlog⟩⟩ :=
    exists_logged cfg (fun _ => "") ([], .empty) (env (chain.serve 3))
  · have hsame : (scanned.checkpoint cfg).number = (Store.empty.checkpoint cfg).number :=
      congrArg Checkpoint.number hnoted.checkpoint
    rw [hcheckpoint] at hsame
    exact absurd hsame (by decide)
  · refine ⟨scannedRange cfg .empty reads, Lts.Run.single ⟨rfl, .inr ⟨reads, batch, hc, rfl⟩⟩, hone, hcheckpoint,
      fun h => ?_⟩
    have hfirst : (Store.empty.nextBlock cfg).toNat = 0 := h.consecutive.1
    rw [hone] at hfirst
    cases hfirst

/-- Two rounds from block 1. -/
theorem consecutive_of_run_two_rounds :
    ∃ log, Gapless (.testnet 64) (log, scannerStep (.testnet 64) (env (chain.serve 3)) (fun _ => "")
      (scannerStep (.testnet 64) (env (chain.serve 2)) (fun _ => "") .empty)) := by
  obtain ⟨log, hfirst⟩ :=
    exists_logged (.testnet 64) (fun _ => "") ([], .empty) (env (chain.serve 2))
  obtain ⟨log', hsecond⟩ :=
    exists_logged (.testnet 64) (fun _ => "")
      (log, scannerStep (.testnet 64) (env (chain.serve 2)) (fun _ => "") .empty) (env (chain.serve 3))
  refine ⟨log', (consecutive_of_run (Config.testnet_valid (by decide)) (by decide) (by decide)
    (Lts.Run.single ⟨hfirst, ?_, ?_⟩) (Lts.Run.single ⟨hsecond, ?_, ?_⟩)).1⟩
  · intro tip htip
    have htwo : (env (chain.serve 2)).replies.syncedTip = .ok 2 := rfl
    rw [htwo, Except.ok.injEq] at htip
    rw [← htip]
    decide
  · show RangeFits (.testnet 64) .empty
    decide +kernel
  · intro tip htip
    have hthree : (env (chain.serve 3)).replies.syncedTip = .ok 3 := rfl
    rw [hthree, Except.ok.injEq] at htip
    rw [← htip]
    decide
  · show RangeFits (.testnet 64) (scannerStep (.testnet 64) (env (chain.serve 2)) (fun _ => "") .empty)
    decide +kernel

end
end RgbppIndexer.Bugs.SkippedGenesis
