import RgbppIndexer.Indexer.Transition

/-!
# `AwaitingCkb` does not look under every lock

`AwaitingCkb` is "Seen on Bitcoin; no CKB transaction found yet, anywhere"
(crates/indexer/src/reconcile.rs:68). Above the lag, what `resolve_transition`
looks for is the exact args `out_index || txid` under the RGB++ lock, for each
output the Bitcoin transaction has (reconcile.rs:389-421). The BTC time lock,
whose args name a Bitcoin transaction too (crates/types/src/protocol.rs), is
never searched, and no `out_index` past the outputs is.

Counterexample: a leap to CKB above the lag. Its cell is live under the BTC
time lock and names the transaction, and the answer is `AwaitingCkb`
(`leap_unseen`).

* `awaiting_sound_iff`: **the answer is right exactly when, once everything has
  been asked, a live cell that names the transaction means one under the RGB++
  lock at one of its outputs.**
-/
namespace RgbppIndexer.Bugs.UnsearchedLocks

open RgbppIndexer.Core

/-- The protocol lock of a live cell names the Bitcoin transaction. -/
def Names (p : ProtocolScripts) (txid : BtcTxid) (c : LiveCellRecord) : Prop :=
  ∃ binding, Readable p c.output binding ∧ binding.txid = txid

/-- How many outputs count: those the transaction has, or the default where it has none. -/
def outputCount (tx : BtcTxInfo) : Nat := if tx.outputs.length = 0 then 4 else tx.outputs.length

/-- It does so under the RGB++ lock, and the output it names is in the count. -/
def NamesOutput (p : ProtocolScripts) (txid : BtcTxid) (tx : BtcTxInfo) (c : LiveCellRecord) : Prop :=
  ∃ args : RgbppLockArgs, Readable p c.output (.rgbpp args) ∧ args.txid = txid ∧ args.outIndex.toNat < outputCount tx

/-- `AwaitingCkb` means that no live cell names the transaction. -/
def AwaitingSound (r : Reconciler) (live : List LiveCellRecord) (getCells : CellReplies) (moment : Nat) (st : Store)
    (txid : BtcTxid) : Prop :=
  (∃ confirmed height, (r.resolveTransition getCells moment st txid).2 = .ok (.awaitingCkb confirmed height)) →
    ∀ c ∈ live, ¬ Names r.config.protocol txid c

section
variable {p : ProtocolScripts} {txid : BtcTxid} {tx : BtcTxInfo} {c : LiveCellRecord} {r : Reconciler}
  {live : List LiveCellRecord} {getCells : CellReplies} {moment : Nat} {st : Store}

theorem lookupCount_lookupVouts (h : tx.outputs.length ≤ MAX_POINT_LOOKUP_VOUTS.toNat) :
    (lookupCount (lookupVouts tx)).toNat = outputCount tx := by
  have hmax : MAX_POINT_LOOKUP_VOUTS.toNat = 32 := rfl
  have hvouts : (lookupVouts tx).toNat = tx.outputs.length := by
    unfold lookupVouts
    have hsize : UInt32.size = 2 ^ 32 := rfl
    rw [UInt32.toNat_min, UInt32.toNat_ofNat_of_lt' (by omega)]
    omega
  have hzero : lookupVouts tx = 0 ↔ tx.outputs.length = 0 := by
    rw [← UInt32.toNat_inj, hvouts]
    rfl
  unfold lookupCount outputCount
  by_cases hnone : tx.outputs.length = 0
  · rw [if_pos (hzero.mpr hnone), if_pos hnone]
    rfl
  · rw [if_neg (mt hzero.mp hnone), if_neg hnone, hvouts]

/-- With at most as many outputs as are looked up, the searches are for the cells that name one of them. -/
theorem searched_iff_namesOutput (h : tx.outputs.length ≤ MAX_POINT_LOOKUP_VOUTS.toNat) :
    Searched p txid (lookupVouts tx) c.output.lock ↔ NamesOutput p txid tx c := by
  rw [searched_iff, lookupCount_lookupVouts h]
  constructor
  · rintro ⟨args, hkind, hparse, htxid, hlt⟩
    exact ⟨args, ⟨hkind, hparse⟩, htxid, hlt⟩
  · rintro ⟨args, ⟨hkind, hparse⟩, htxid, hlt⟩
    exact ⟨args, hkind, hparse, htxid, hlt⟩

/-- **The questions `AwaitingCkb` answers rightly.** -/
theorem awaiting_sound_iff (hserves : ServesCells live getCells)
    (htx : (r.btc.moment moment).transaction txid = .ok (some tx))
    (houtputs : tx.outputs.length ≤ MAX_POINT_LOOKUP_VOUTS.toNat) :
    AwaitingSound r live getCells moment st txid ↔
      (r.Asked getCells moment st txid tx → (∃ c ∈ live, Names r.config.protocol txid c) →
        ∃ c ∈ live, NamesOutput r.config.protocol txid tx c) := by
  unfold AwaitingSound
  rw [Reconciler.awaiting_iff htx]
  constructor
  · rintro hsound ⟨hindex, hrefreshed, hanswered⟩ ⟨c, hc, hnames⟩
    obtain ⟨cells, hcells⟩ := pointLookupCells_ok_iff.mpr hanswered
    by_contra hnone
    have hempty : cells = [] := by
      refine (pointLookupCells_eq_nil hserves hcells).mpr fun c' hc' hsearched => hnone ⟨c', hc', ?_⟩
      exact (searched_iff_namesOutput houtputs).mp hsearched
    rw [hempty] at hcells
    exact hsound ⟨hindex, hrefreshed, hcells⟩ c hc hnames
  · rintro hcondition ⟨hindex, hrefreshed, hcells⟩ c hc hnames
    have hanswered := pointLookupCells_ok_iff.mp ⟨[], hcells⟩
    obtain ⟨c', hc', hout⟩ := hcondition ⟨hindex, hrefreshed, hanswered⟩ ⟨c, hc, hnames⟩
    exact (pointLookupCells_eq_nil hserves hcells).mp rfl c' hc' ((searched_iff_namesOutput houtputs).mpr hout)

end

/-! ## The counterexample -/

section
open Sample

/-- The cell a leap to CKB leaves: locked until the Bitcoin transaction is old enough. -/
def leap : LiveCellRecord where
  outPoint := ⟨hash 3, 0⟩
  output :=
    { capacity := 142
      lock :=
        { codeHash := ProtocolScripts.testnet.btcTimeLock.codeHash, hashType := .type,
          args := (BtcTimeLockArgs.mk ⟨hash 0, .type, []⟩ 6 btcTxid).encode }
      type_ := none }
  outputData := none
  blockNumber := 3
  txIndex := 0

theorem leap_names : Names .testnet btcTxid leap :=
  ⟨.btcTime ⟨⟨hash 0, .type, []⟩, 6, btcTxid⟩, ⟨by decide +kernel, by decide +kernel⟩, rfl⟩

/-- **The leap is not seen.** -/
theorem leap_unseen :
    ServesCells [leap] (liveReplies [leap]) ∧ (tracker.btc.moment 0).transaction btcTxid = .ok (some btcTx) ∧
      btcTx.outputs.length ≤ MAX_POINT_LOOKUP_VOUTS.toNat ∧
      (tracker.resolveTransition (liveReplies [leap]) 0 .empty btcTxid).2 = .ok (.awaitingCkb false none) ∧
      ¬ AwaitingSound tracker [leap] (liveReplies [leap]) 0 .empty btcTxid := by
  have hanswer : (tracker.resolveTransition (liveReplies [leap]) 0 .empty btcTxid).2 = .ok (.awaitingCkb false none) := by
    decide +kernel
  refine ⟨servesCells_liveReplies _, rfl, by decide, hanswer, fun hsound => ?_⟩
  exact hsound ⟨false, none, hanswer⟩ leap (List.mem_singleton_self leap) leap_names

/-- The same question, read through the condition. -/
theorem awaiting_sound_iff_leap : AwaitingSound tracker [leap] (liveReplies [leap]) 0 .empty btcTxid ↔
    (tracker.Asked (liveReplies [leap]) 0 .empty btcTxid btcTx → (∃ c ∈ [leap], Names tracker.config.protocol btcTxid c) →
      ∃ c ∈ [leap], NamesOutput tracker.config.protocol btcTxid btcTx c) :=
  awaiting_sound_iff (servesCells_liveReplies _) rfl (by decide)

end
end RgbppIndexer.Bugs.UnsearchedLocks
