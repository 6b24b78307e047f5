import RgbppIndexer.Chain.Serve
import RgbppIndexer.Scan.Runs

/-!
# The end of a range wraps

`scan_once` (crates/indexer/src/scanner.rs:147-148) computes the end of its
range as `target.min(from + batch_blocks - 1)`. `batch_blocks` is any positive
`u64` (`CKB_BATCH_BLOCKS`; crates/types/src/config.rs:545, 606-607), so the sum
can pass `u64::MAX`, and a release build wraps it. The round then ends below
where it starts, finds nothing, and commits a checkpoint that has moved back,
while the rows of the blocks above it stay. The subtraction a few lines on
saturates (`to.saturating_sub`, line 246).

Counterexample: `batch_blocks = u64::MAX` over a chain of four blocks. The
first round indexes blocks 1 and 2, the second ends at block 1
(`checkpoint_moves_back`).

* `equalsReference_of_run`: **after any run whose rounds read a tip and whose
  ranges fit, the tables are those of one reference pass up to the checkpoint.**
-/
namespace RgbppIndexer.Bugs.WrappedRange

open RgbppIndexer.Core

/-- The rich indexer reports a tip, and the end of the range fits its integer. -/
def WithinLimits (cfg : Config) (st : Store) (env : ScanEnv) : Prop :=
  env.replies.getIndexerTip ≠ .ok none ∧ RangeFits cfg st

/-- **Runs within the limits end with the tables of the reference pass.** -/
theorem equalsReference_of_run [Sha2] {cfg : Config} {ch : Chain} {errorText : IndexerError → String}
    {envs : List ScanEnv} {st : Store} (hstart : 1 ≤ cfg.ckb.startBlock)
    (hserves : ∀ env ∈ envs, Serves ch env.replies ∧ IndexerComplete ch env.replies)
    (hrun : ((scanner cfg errorText).restrict (WithinLimits cfg)).Run .empty envs st) :
    ch.EqualsReference cfg cfg.ckb.startBlock.toNat (st.indexedTo cfg) st := by
  have hcomplete : Complete cfg ch st := Complete.run hrun hserves
  obtain ⟨entries, hmatch, hcovers⟩ := hcomplete.upToDate hstart
  exact Chain.equalsReference hmatch hcovers

/-! ## The counterexample -/

section
open Sample

local instance : Sha2 := .standard

def cfg : Config := .testnet 18446744073709551615

/-- What the first round leaves: blocks 1 and 2 are indexed. -/
def indexed : Store := scannerStep cfg (env (chain.serve 2)) (fun _ => "") .empty

/-- What the second round leaves. -/
def movedBack : Store := scannerStep cfg (env (chain.serve 3)) (fun _ => "") indexed

theorem served : ∀ e ∈ [env (chain.serve 2), env (chain.serve 3)],
    Serves chain e.replies ∧ IndexerComplete chain e.replies := by
  have h2 : (2 : UInt64).toNat < chain.blocks.length := by decide +kernel
  have h3 : (3 : UInt64).toNat < chain.blocks.length := by decide +kernel
  simp only [List.mem_cons, List.not_mem_nil, or_false, forall_eq_or_imp, forall_eq]
  exact ⟨⟨Chain.serve_serves h2, Chain.serve_complete h2⟩, Chain.serve_serves h3, Chain.serve_complete h3⟩

/-- **The checkpoint moves back below an indexed cell**, which the reference pass up to it does not have. -/
theorem checkpoint_moves_back :
    cfg.Valid ∧ 1 ≤ cfg.ckb.startBlock ∧
      (∀ e ∈ [env (chain.serve 2), env (chain.serve 3)], Serves chain e.replies ∧ IndexerComplete chain e.replies) ∧
      (∀ l, chain.Holds l → l.tx.inputs = []) ∧
      (scanner cfg fun _ => "").Run .empty [env (chain.serve 2), env (chain.serve 3)] movedBack ∧
      ¬ chain.EqualsReference cfg 1 (movedBack.indexedTo cfg) movedBack := by
  refine ⟨Config.testnet_valid (by decide), by decide, served,
    ?_, Lts.Run.cons (t := indexed) rfl (Lts.Run.single rfl), fun h => ?_⟩
  · intro l hl
    have hnone : ∀ l ∈ chain.located, l.tx.inputs = [] := by decide +kernel
    exact hnone l (Chain.mem_located.mpr hl)
  have hcell := h.cells cell
  revert hcell
  decide +kernel

/-- The same two rounds, with batches that fit. -/
theorem equalsReference_of_run_two_rounds :
    chain.EqualsReference (.testnet 64) 1 ((scannerStep (.testnet 64) (env (chain.serve 3)) (fun _ => "")
      (scannerStep (.testnet 64) (env (chain.serve 2)) (fun _ => "") .empty)).indexedTo (.testnet 64))
      (scannerStep (.testnet 64) (env (chain.serve 3)) (fun _ => "")
        (scannerStep (.testnet 64) (env (chain.serve 2)) (fun _ => "") .empty)) := by
  refine equalsReference_of_run (by decide) served
    (Lts.Run.cons (t := scannerStep (.testnet 64) (env (chain.serve 2)) (fun _ => "") .empty) ⟨rfl, ?_, ?_⟩
      (Lts.Run.single ⟨rfl, ?_, ?_⟩))
  · intro h
    cases h
  · decide +kernel
  · intro h
    cases h
  · decide +kernel

end
end RgbppIndexer.Bugs.WrappedRange
