import RgbppIndexer.Bugs.WrappedRange
import RgbppIndexer.Indexer.Transition
import RgbppIndexer.Scan.Reached

/-!
# An issuance completes another's Bitcoin transaction

The schema says of `rgbpp_transitions.btc_txid`: "taken from the consumed
cells' lock args. NULL for issuance, which has no RGB++ inputs"
(migrations/0001_init.sql:153-155). The code takes it from the outputs of every
transition (crates/indexer/src/extract.rs:132-145, 279-294), and an issuance
chooses its outputs freely. Binding one to any Bitcoin transaction `T` makes
`resolve_transition(T)` answer `Indexed`.

Counterexample: two chains of four blocks, one with an issuance more, bound to
an output of `T` (`issuance_completes`).

* `agree_iff`: **extra issuances leave the answer `Indexed` alone exactly when
  none of them that is indexed derives `T`, or a common transaction does.**
-/
namespace RgbppIndexer.Bugs.IssuanceCompletes

open RgbppIndexer.Core

/-- No input of the transaction is a readable cell. -/
def ConsumesNothing (ch : Chain) (p : ProtocolScripts) (l : Located) : Prop :=
  ∀ (j : Nat) (op : CkbOutPoint) (cell : ChainCell), l.tx.inputs[j]? = some ⟨op⟩ → ¬ ch.HasCell p op cell

/-- The same transaction at the same height; its place in the block may be another. -/
def Counterpart (l l' : Located) : Prop := l'.tx = l.tx ∧ l'.height = l.height

/-- A transaction of the longer chain that the shorter one does not have. -/
def Extra (ch ch' : Chain) (l' : Located) : Prop := ch'.Holds l' ∧ ∀ l, ch.Holds l → ¬ Counterpart l l'

/-- The second chain has the transactions of the first, and issuances. -/
structure WithIssuances (p : ProtocolScripts) (ch ch' : Chain) : Prop where
  common : ∀ l, ch.Holds l → ∃ l', ch'.Holds l' ∧ Counterpart l l'
  extra : ∀ l', Extra ch ch' l' → ConsumesNothing ch' p l'

/-- The answer is `Indexed`, whatever the rest of the world says. -/
def AnswersIndexed (r : Reconciler) (getCells : CellReplies) (moment : Nat) (st : Store) (txid : BtcTxid) : Prop :=
  ∃ hash n, (r.resolveTransition getCells moment st txid).2 = .ok (.indexed hash n)

/-- The transaction is in the blocks read up to a checkpoint, and its outputs name `txid` only. -/
def Derives (cfg : Config) (checkpoint : Nat) (txid : BtcTxid) (l : Located) : Prop :=
  cfg.firstBlock ≤ l.height ∧ l.height ≤ checkpoint ∧ deriveBtcTxid (l.outputs cfg.protocol) = some txid

section
variable [Sha2] {cfg : Config} {ch ch' : Chain} {st st' : Store} {r r' : Reconciler} {getCells getCells' : CellReplies}
  {moment moment' : Nat} {txid : BtcTxid} {errorText : IndexerError → String}

theorem answersIndexed_iff (h : Complete cfg ch st) : AnswersIndexed r getCells moment st txid ↔
    ∃ l, ch.Holds l ∧ Derives cfg (st.indexedTo cfg) txid l := by
  obtain ⟨entries, hmatch, hcovers⟩ := h.indexed
  unfold AnswersIndexed
  rw [Reconciler.indexed_iff, hmatch.exists_transition_iff hcovers]
  rfl

omit [Sha2] in
theorem Counterpart.derives {checkpoint : Nat} {l l' : Located} (h : Counterpart l l') :
    Derives cfg checkpoint txid l' ↔ Derives cfg checkpoint txid l := by
  unfold Derives Located.outputs
  rw [h.1, h.2]

/-- **The extra issuances that change the answer.** -/
theorem agree_iff {envs envs' : List ScanEnv} (hextra : WithIssuances cfg.protocol ch ch')
    (hrun : ((scanner cfg errorText).restrict (WrappedRange.WithinLimits cfg)).Run .empty envs st)
    (hserves : ∀ env ∈ envs, Serves ch env.replies ∧ IndexerComplete ch env.replies)
    (hrun' : ((scanner cfg errorText).restrict (WrappedRange.WithinLimits cfg)).Run .empty envs' st')
    (hserves' : ∀ env ∈ envs', Serves ch' env.replies ∧ IndexerComplete ch' env.replies)
    (hcheckpoint : st'.indexedTo cfg = st.indexedTo cfg) :
    (AnswersIndexed r getCells moment st txid ↔ AnswersIndexed r' getCells' moment' st' txid) ↔
      ((∃ l', Extra ch ch' l' ∧ Derives cfg (st.indexedTo cfg) txid l') →
        ∃ l, ch.Holds l ∧ Derives cfg (st.indexedTo cfg) txid l) := by
  rw [answersIndexed_iff (Complete.run hrun hserves), answersIndexed_iff (Complete.run hrun' hserves'), hcheckpoint]
  constructor
  · rintro hagree ⟨l', hl', hderives⟩
    exact hagree.mpr ⟨l', hl'.1, hderives⟩
  · intro hcondition
    constructor
    · rintro ⟨l, hl, hderives⟩
      obtain ⟨l', hl', hsame⟩ := hextra.common l hl
      exact ⟨l', hl', hsame.derives.mpr hderives⟩
    · rintro ⟨l', hl', hderives⟩
      by_cases hcommon : ∃ l, ch.Holds l ∧ Counterpart l l'
      · obtain ⟨l, hl, hsame⟩ := hcommon
        exact ⟨l, hl, hsame.derives.mp hderives⟩
      · exact hcondition ⟨l', ⟨hl', fun l hl hsame => hcommon ⟨l, hl, hsame⟩⟩, hderives⟩

end

/-! ## The counterexample -/

section
open Sample

local instance : Sha2 := .standard

/-- Four blocks are indexed. -/
def scanned (ch : Chain) : Store := scannerStep (.testnet 64) (env (ch.serve 3)) (fun _ => "") .empty

theorem run_scanned (ch : Chain) :
    ((scanner (.testnet 64) fun _ => "").restrict (WrappedRange.WithinLimits (.testnet 64))).Run .empty [env (ch.serve 3)]
      (scanned ch) :=
  Lts.Run.single ⟨rfl, nofun, by show RangeFits (.testnet 64) .empty; decide +kernel⟩

theorem served {ch : Chain} (hlen : (3 : UInt64).toNat < ch.blocks.length) :
    ∀ e ∈ [env (ch.serve 3)], Serves ch e.replies ∧ IndexerComplete ch e.replies := by
  intro e he
  obtain rfl := List.mem_singleton.mp he
  exact ⟨Chain.serve_serves hlen, Chain.serve_complete hlen⟩

/-- `mintChain` is `chain` with an issuance more. -/
theorem withIssuances_mint : WithIssuances ProtocolScripts.testnet chain mintChain where
  common := by
    have hall : ∀ l ∈ chain.located, ∃ l' ∈ mintChain.located, l'.tx = l.tx ∧ l'.height = l.height := by decide +kernel
    intro l hl
    obtain ⟨l', hl', hsame⟩ := hall l (Chain.mem_located.mpr hl)
    exact ⟨l', Chain.mem_located.mp hl', hsame⟩
  extra := by
    have hnone : ∀ l ∈ mintChain.located, l.tx.inputs = [] := by decide +kernel
    intro l' hl' j op cell hinput
    rw [hnone l' (Chain.mem_located.mpr hl'.1)] at hinput
    cases hinput

/-- **The issuance completes the spender's transaction.** -/
theorem issuance_completes :
    WithIssuances ProtocolScripts.testnet chain mintChain ∧
      (scanner (.testnet 64) fun _ => "").Run .empty [env (chain.serve 3)] (scanned chain) ∧
      (scanner (.testnet 64) fun _ => "").Run .empty [env (mintChain.serve 3)] (scanned mintChain) ∧
      (scanned mintChain).indexedTo (.testnet 64) = (scanned chain).indexedTo (.testnet 64) ∧
      ¬ (AnswersIndexed tracker (liveReplies []) 0 (scanned chain) spender ↔
        AnswersIndexed tracker (liveReplies []) 0 (scanned mintChain) spender) := by
  have hchain : (scanned chain).transitionsByBtcTxid spender.toDisplayVec = [] := by decide +kernel
  have hmint : (scanned mintChain).transitionsByBtcTxid spender.toDisplayVec ≠ [] := by decide +kernel
  refine ⟨withIssuances_mint, (run_scanned chain).of_restrict, (run_scanned mintChain).of_restrict, by decide +kernel,
    fun hagree => ?_⟩
  exact Reconciler.indexed_iff.mp (hagree.mpr (Reconciler.indexed_iff.mpr hmint)) hchain

/-- The same two runs, read through the condition. -/
theorem agree_iff_mint :
    (AnswersIndexed tracker (liveReplies []) 0 (scanned chain) spender ↔
        AnswersIndexed tracker (liveReplies []) 0 (scanned mintChain) spender) ↔
      ((∃ l', Extra chain mintChain l' ∧ Derives (.testnet 64) ((scanned chain).indexedTo (.testnet 64)) spender l') →
        ∃ l, chain.Holds l ∧ Derives (.testnet 64) ((scanned chain).indexedTo (.testnet 64)) spender l) :=
  agree_iff withIssuances_mint (run_scanned chain) (served (by decide +kernel)) (run_scanned mintChain)
    (served (by decide +kernel)) (by decide +kernel)

end
end RgbppIndexer.Bugs.IssuanceCompletes
