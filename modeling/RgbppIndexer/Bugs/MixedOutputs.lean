import RgbppIndexer.Chain.Serve
import RgbppIndexer.Indexer.Transition
import RgbppIndexer.Scan.Reached

/-!
# Indexed cells reported as not reached

`CkbSeenAboveLag` is "Cells for this transaction exist on CKB, but above the
indexed range. [...] the indexer simply has not reached it yet"
(crates/indexer/src/reconcile.rs:73-74). That a transition is not indexed is
read off `rgbpp_transitions.btc_txid`, which `derive_btc_txid` leaves NULL when
the outputs are bound to several Bitcoin transactions
(crates/indexer/src/extract.rs:132-145). Such a transition is indexed and
never found. Neither are the transitions below the first block, whose cells
can be live.

Counterexample: one CKB transaction with two cells, bound to outputs of two
Bitcoin transactions. Block 2 is indexed, and the cell it created there is
reported as above the lag (`indexed_cell_seen_above`).

* `seenAbove_iff`: **the answer is right exactly when no listed cell at or
  below the checkpoint was created below the first block or beside an output
  bound to another Bitcoin transaction.** The runs are those whose rounds read
  a tip; what a round that reads none skips is in `Bugs.UnreachedRange`.
-/
namespace RgbppIndexer.Bugs.MixedOutputs

open RgbppIndexer.Core

/-- The live cells are cells of the chain. -/
def LiveOn (ch : Chain) (live : List LiveCellRecord) : Prop :=
  ∀ c ∈ live, ∃ creator, ch.HasOutput c.outPoint creator c.output ∧ c.blockNumber = creator.header.number

/-- The readable outputs of a transaction name several Bitcoin transactions. -/
def Mixed (p : ProtocolScripts) (l : Located) : Prop :=
  ∃ o ∈ l.outputs p, ∃ o' ∈ l.outputs p, o.binding.txid ≠ o'.binding.txid

/-- Every cell `CkbSeenAboveLag` lists was created above the height it reports. -/
def SeenAbove (r : Reconciler) (ch : Chain) (getCells : CellReplies) (moment : Nat) (st : Store) (txid : BtcTxid) : Prop :=
  ∀ cells indexedTo, (r.resolveTransition getCells moment st txid).2 = .ok (.ckbSeenAboveLag cells indexedTo) →
    ∀ op ∈ cells, ∀ creator output, ch.HasOutput op creator output → indexedTo.toInt < creator.height

/-- No listed cell at or below the checkpoint was created where the index cannot name its transaction. -/
def NoneNameless (r : Reconciler) (ch : Chain) (live : List LiveCellRecord) (getCells : CellReplies) (moment : Nat)
    (st : Store) (txid : BtcTxid) : Prop :=
  ∀ tx, (r.btc.moment moment).transaction txid = .ok (some tx) → r.Asked getCells moment st txid tx →
    ∀ c, Listed r.config.protocol live txid (lookupVouts tx) c → ∀ creator output, ch.HasOutput c.outPoint creator output →
      (creator.height : Int) ≤ st.reportedTo.toInt →
        ¬ (creator.height < r.config.firstBlock ∨ Mixed r.config.protocol creator)

section
variable [Sha2] {r : Reconciler} {ch : Chain} {live : List LiveCellRecord} {getCells : CellReplies} {moment : Nat}
  {st : Store} {txid : BtcTxid} {errorText : IndexerError → String} {top : Nat}

omit [Sha2] in
theorem deriveBtcTxid_of_not_mixed {p : ProtocolScripts} {l : Located} {o : RgbppOutput} (hmixed : ¬ Mixed p l)
    (ho : o ∈ l.outputs p) : deriveBtcTxid (l.outputs p) = some o.binding.txid := by
  refine deriveBtcTxid_eq_some.mpr ⟨List.ne_nil_of_mem ho, fun o' ho' => ?_⟩
  by_contra hne
  exact hmixed ⟨o', ho', o, ho, hne⟩

theorem reportedTo_le (h : Reached r.config ch top st) : st.reportedTo.toInt ≤ top := by
  have hcp := h.checkpoint
  unfold Store.reportedTo
  unfold Store.checkpoint at hcp
  cases hstate : st.getStreamState CKB_STREAM with
  | none => exact Int.natCast_nonneg top
  | some s =>
    rw [hstate] at hcp
    exact hcp

omit [Sha2] in
/-- A listed cell is one of its creator's outputs that name the transaction. -/
theorem Listed.output {p : ProtocolScripts} {voutCount : UInt32} {c : LiveCellRecord} {creator : Located} {output : CellOutput}
    (h : Listed p live txid voutCount c) (hlive : LiveOn ch live) (hout : ch.HasOutput c.outPoint creator output) :
    ∃ o ∈ creator.outputs p, o.binding.txid = txid := by
  obtain ⟨hmem, hsearched⟩ := h.searched
  obtain ⟨args, hkind, hparse, htxid, -⟩ := searched_iff.mp hsearched
  obtain ⟨creator', hout', -⟩ := hlive c hmem
  obtain ⟨rfl, rfl⟩ := hout.unique hout'
  have hcell : ch.HasCell p c.outPoint ⟨creator, c.output, .rgbpp args, creator.tx.outputsData.getD c.outPoint.index.toNat []⟩ :=
    ⟨hout, rfl, hkind, hparse⟩
  obtain ⟨o, ho, -, hsame⟩ := mem_outputs_of_hasCell hout.holds hcell hout.txHash
  refine ⟨o, ho, ?_⟩
  have hbinding : LockBinding.rgbpp args = o.binding := congrArg ChainCell.binding hsame
  rw [← hbinding]
  exact htxid

/-- **The questions `CkbSeenAboveLag` answers rightly.** -/
theorem seenAbove_iff {envs : List ScanEnv} (hrun : (scanner r.config errorText).Run .empty envs st)
    (hserves : ∀ env ∈ envs, Serves ch env.replies ∧ IndexerComplete ch env.replies)
    (htip : ∀ env ∈ envs, env.replies.getIndexerTip ≠ .ok none) (hlive : LiveOn ch live) (hcells : ServesCells live getCells) :
    SeenAbove r ch getCells moment st txid ↔ NoneNameless r ch live getCells moment st txid := by
  obtain ⟨top, hreached⟩ := Reached.run hrun hserves htip
  obtain ⟨entries, hmatch, hcovers⟩ := hreached.indexed
  constructor
  · rintro hseen tx htx ⟨hindex, hrefreshed, hanswered⟩ c hlisted creator output hout hle -
    obtain ⟨cells, hsearch⟩ := pointLookupCells_ok_iff.mpr hanswered
    have hmem : c.outPoint ∈ cells := (mem_pointLookupCells hcells hsearch).mpr ⟨c, hlisted, rfl⟩
    have hanswer : (r.resolveTransition getCells moment st txid).2 = .ok (.ckbSeenAboveLag cells st.reportedTo) :=
      Reconciler.seenAboveLag_iff.mpr ⟨hindex, rfl, List.ne_nil_of_mem hmem, tx, htx, hrefreshed, hsearch⟩
    have hlt := hseen cells _ hanswer c.outPoint hmem creator output hout
    omega
  · intro hnone cells indexedTo hanswer op hop creator output hout
    obtain ⟨hindex, rfl, -, tx, htx, hrefreshed, hsearch⟩ := Reconciler.seenAboveLag_iff.mp hanswer
    obtain ⟨c, hlisted, rfl⟩ := (mem_pointLookupCells hcells hsearch).mp hop
    by_contra hnot
    have hle : (creator.height : Int) ≤ st.reportedTo.toInt := by omega
    have hgood := hnone tx htx ⟨hindex, hrefreshed, pointLookupCells_ok_iff.mp ⟨cells, hsearch⟩⟩ c hlisted creator output hout hle
    -- the creator is in the indexed blocks, and its outputs name this transaction only
    obtain ⟨o, ho, rfl⟩ := Listed.output hlisted hlive hout
    have htop := reportedTo_le hreached
    have hderive := deriveBtcTxid_of_not_mixed (fun h => hgood (.inr h)) ho
    have hfirst : r.config.firstBlock ≤ creator.height := Nat.not_lt.mp fun h => hgood (.inl h)
    exact (hmatch.exists_transition_iff hcovers).mpr ⟨creator, hout.holds, hfirst, by omega, hderive⟩ hindex

end

/-! ## The counterexample -/

section
open Sample

local instance : Sha2 := .standard

/-- Two cells, bound to outputs of two Bitcoin transactions. -/
def mixed : RpcTransaction where
  hash := hash 4
  inputs := []
  outputs := [(boundOutput 142 btcTxid).cell, (boundOutput 142 spender).cell]
  outputsData := [[], []]

def mixedChain : Chain := .ofBlocks [block 0 [], block 1 [], block 2 [mixed], block 3 []] (by decide +kernel)

/-- All four blocks are indexed. -/
def scanned : Store := scannerStep (.testnet 64) (env (mixedChain.serve 3)) (fun _ => "") .empty

/-- The first of the two cells is live. -/
def liveCell : LiveCellRecord where
  outPoint := ⟨hash 4, 0⟩
  output := (boundOutput 142 btcTxid).cell
  outputData := none
  blockNumber := 2
  txIndex := 0

theorem hasOutput_liveCell : mixedChain.HasOutput liveCell.outPoint ⟨(block 2 [mixed]).header, 0, mixed⟩ liveCell.output where
  holds := ⟨block 2 [mixed], rfl, rfl, rfl⟩
  txHash := rfl
  output := rfl

theorem liveOn_liveCell : LiveOn mixedChain [liveCell] := by
  intro c hc
  obtain rfl := List.mem_singleton.mp hc
  exact ⟨_, hasOutput_liveCell, rfl⟩

theorem served : ∀ e ∈ [env (mixedChain.serve 3)], Serves mixedChain e.replies ∧ IndexerComplete mixedChain e.replies := by
  intro e he
  obtain rfl := List.mem_singleton.mp he
  exact ⟨Chain.serve_serves (by decide +kernel), Chain.serve_complete (by decide +kernel)⟩

theorem tips : ∀ e ∈ [env (mixedChain.serve 3)], e.replies.getIndexerTip ≠ .ok none := by
  intro e he
  obtain rfl := List.mem_singleton.mp he
  nofun

/-- **Block 2 is indexed, and its cell is reported as above the lag.** -/
theorem indexed_cell_seen_above :
    (scanner (.testnet 64) fun _ => "").Run .empty [env (mixedChain.serve 3)] scanned ∧
      (∀ e ∈ [env (mixedChain.serve 3)], Serves mixedChain e.replies ∧ IndexerComplete mixedChain e.replies) ∧
      LiveOn mixedChain [liveCell] ∧ ServesCells [liveCell] (liveReplies [liveCell]) ∧
      (tracker.resolveTransition (liveReplies [liveCell]) 0 scanned btcTxid).2 = .ok (.ckbSeenAboveLag [⟨hash 4, 0⟩] 3) ∧
      ¬ SeenAbove tracker mixedChain (liveReplies [liveCell]) 0 scanned btcTxid := by
  have hanswer : (tracker.resolveTransition (liveReplies [liveCell]) 0 scanned btcTxid).2 =
      .ok (.ckbSeenAboveLag [⟨hash 4, 0⟩] 3) := by decide +kernel
  refine ⟨Lts.Run.single rfl, served, liveOn_liveCell, servesCells_liveReplies _, hanswer, fun hseen => ?_⟩
  have hlt : (3 : Int64).toInt < (2 : Nat) :=
    hseen _ _ hanswer ⟨hash 4, 0⟩ (List.mem_singleton_self _) _ _ hasOutput_liveCell
  revert hlt
  decide

/-- The same question, read through the condition. -/
theorem seenAbove_iff_mixed : SeenAbove tracker mixedChain (liveReplies [liveCell]) 0 scanned btcTxid ↔
    NoneNameless tracker mixedChain [liveCell] (liveReplies [liveCell]) 0 scanned btcTxid :=
  seenAbove_iff (r := tracker) (Lts.Run.single rfl) served tips liveOn_liveCell
    (servesCells_liveReplies _)

end
end RgbppIndexer.Bugs.MixedOutputs
