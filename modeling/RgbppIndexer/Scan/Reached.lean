import RgbppIndexer.Scan.Runs
import RgbppIndexer.Store.Anomalies

/-!
# How far the index reaches

The checkpoint may move back (`Bugs.WrappedRange`), the rows stay. `Reached
top st` is what is left of `Complete` then: everything up to `top` is indexed,
and the checkpoint is not above.

* `Reached.step`: a pass that reads a tip keeps what is reached, wherever its
  range ends.
* `IndexMatch.exists_transition_iff`: which Bitcoin transactions the
  transitions of an index name.
-/
namespace RgbppIndexer

open RgbppIndexer.Core

/-- Everything from the first block to `top` is indexed, and the checkpoint is not above it. -/
structure Reached [Sha2] (cfg : Config) (ch : Chain) (top : Nat) (st : Store) : Prop where
  indexed : ∃ entries, IndexMatch cfg ch entries st ∧ Covers ch cfg.protocol cfg.firstBlock top entries
  checkpoint : (st.checkpoint cfg).number.toInt ≤ top
  first_le : cfg.firstBlock ≤ top + 1
  /-- a stream that starts at block 0 stands behind it -/
  nonneg : cfg.ckb.startBlock = 0 → 0 ≤ (st.checkpoint cfg).number.toInt

section
variable {cfg : Config} {ch : Chain} {p : ProtocolScripts} {entries done : List Entry} {first top lo hi : Nat}

variable [Sha2] {env : ScanEnv} {errorText : IndexerError → String} {st st' : Store} {reads : RoundReads}
  {batch : IndexBatch}

theorem Reached.init : Reached cfg ch (cfg.firstBlock - 1) .empty := by
  have hone := cfg.one_le_firstBlock
  have hlt := checkpoint_empty_lt cfg
  exact ⟨⟨[], .empty, Covers.nil (by omega)⟩, by omega, by omega, nonneg_checkpoint_empty⟩

theorem Reached.noted (h : Reached cfg ch top st) (hn : Noted cfg st st') : Reached cfg ch top st' where
  indexed := by
    obtain ⟨entries, hmatch, hcovers⟩ := h.indexed
    exact ⟨entries, hmatch.noted hn, hcovers⟩
  checkpoint := by
    rw [hn.checkpoint]
    exact h.checkpoint
  first_le := h.first_le
  nonneg := by
    rw [hn.checkpoint]
    exact h.nonneg

/-- A committed range that starts at the first block or behind it, and leaves no gap. -/
theorem Reached.commit (hmatch : IndexMatch cfg ch (entries ++ done) st')
    (hcovers : Covers ch cfg.protocol cfg.firstBlock top entries) (hdone : Covers ch cfg.protocol lo hi done)
    (hfirst : cfg.firstBlock ≤ lo) (hgap : lo ≤ top + 1) (hcp : (st'.checkpoint cfg).number.toInt = hi) :
    Reached cfg ch (max top hi) st' where
  indexed := ⟨entries ++ done, hmatch, hcovers.append hdone hfirst (by omega)⟩
  checkpoint := by omega
  first_le := by omega
  nonneg := by omega

/-- Where a range read off a reached checkpoint starts. -/
theorem Reached.nextBlock (h : Reached cfg ch top st) {next : Nat}
    (hnext : (next : Int) = max ((st.checkpoint cfg).number.toInt + 1) cfg.ckb.startBlock.toNat) :
    cfg.firstBlock ≤ next ∧ next ≤ top + 1 := by
  obtain ⟨hfirst, hgap⟩ := firstBlock_le_next h.checkpoint h.nonneg hnext
  have hle := h.first_le
  exact ⟨hfirst, by omega⟩

/-- **A pass that reads a tip keeps what is reached.** -/
theorem Reached.step (h : Reached cfg ch top st) (hserves : Serves ch env.replies)
    (hcomplete : IndexerComplete ch env.replies) (htip : env.replies.getIndexerTip ≠ .ok none) :
    ∃ top', top ≤ top' ∧ Reached cfg ch top' (scannerStep cfg env errorText st) := by
  rcases scannerStep_cases cfg env errorText st with hnoted | ⟨reads, batch, hc⟩
  · exact ⟨top, Nat.le_refl _, h.noted hnoted⟩
  · obtain ⟨entries, hmatch, hcovers⟩ := h.indexed
    obtain ⟨done, hentries, hmatch'⟩ := hmatch.commit hserves hc
    obtain ⟨t, ht⟩ := hc.reported htip
    have htarget := hc.target_fits hserves
    obtain ⟨hfirst, hgap⟩ := h.nextBlock (hc.nextBlock_toNat htarget)
    have hdone := hc.covers hserves hcomplete ht hentries
    exact ⟨max top (reads.toBlock cfg st).toNat, Nat.le_max_left .., .commit hmatch' hcovers hdone hfirst hgap
      (hc.checkpoint_toInt htarget)⟩

theorem Reached.run {envs : List ScanEnv} (hrun : (scanner cfg errorText).Run .empty envs st)
    (hserves : ∀ env ∈ envs, Serves ch env.replies ∧ IndexerComplete ch env.replies)
    (htip : ∀ env ∈ envs, env.replies.getIndexerTip ≠ .ok none) : ∃ top, Reached cfg ch top st := by
  have hrun' := Lts.run_restrict_iff.mpr ⟨Lts.run_restrict_iff.mpr ⟨hrun, hserves⟩, htip⟩
  refine hrun'.keeps (I := fun s => ∃ top, Reached cfg ch top s) (fun s env s' hs hstep => ?_) ⟨_, Reached.init⟩
  obtain ⟨⟨rfl, hserves, hcomplete⟩, htip⟩ := hstep
  obtain ⟨top, h⟩ := hs
  obtain ⟨top', -, h'⟩ := h.step hserves hcomplete htip
  exact ⟨top', h'⟩

/-! ## The transitions of an index -/

/-- The row of an indexed transaction names what its outputs derive. -/
theorem IndexMatch.btcTxid_eq (h : IndexMatch cfg ch entries st) {e : Entry} (he : e ∈ entries) {row : TransitionRecord}
    (hrow : st.rgbppTransitions.get? e.place.tx.hash.toVec = some row) :
    row.btcTxid = (deriveBtcTxid (e.place.outputs cfg.protocol)).map BtcTxid.toDisplayVec := by
  obtain ⟨t, ⟨e', he', rs, -, -, rfl⟩, hkey, rfl⟩ := h.transitions.row _ _ hrow
  have hsame : e.place = e'.place :=
    ch.hash_injective _ _ (h.good e he).holds (h.good e' he').holds (H256.toVec_injective hkey)
  rw [hsame]
  rfl

/-- A Bitcoin transaction is named by a stored transition exactly if a transaction of the covered blocks derives it. -/
theorem IndexMatch.exists_transition_iff (h : IndexMatch cfg ch entries st)
    (hcovers : Covers ch cfg.protocol lo hi entries) {txid : BtcTxid} :
    st.transitionsByBtcTxid txid.toDisplayVec ≠ [] ↔
      ∃ l, ch.Holds l ∧ lo ≤ l.height ∧ l.height ≤ hi ∧ deriveBtcTxid (l.outputs cfg.protocol) = some txid := by
  rw [ne_eq, Store.transitionsByBtcTxid_eq_nil]
  push Not
  constructor
  · rintro ⟨key, row, hrow, hbtc⟩
    obtain ⟨t, ⟨e, he, rs, hres, hne, rfl⟩, hkey, -⟩ := h.transitions.row _ _ hrow
    have hrow' : st.rgbppTransitions.get? e.place.tx.hash.toVec = some row := by
      rw [← hrow, hkey]
      rfl
    rw [h.btcTxid_eq he hrow', Option.map_eq_some_iff] at hbtc
    obtain ⟨txid', hderive, hsame⟩ := hbtc
    rw [BtcTxid.toDisplayVec_injective hsame] at hderive
    obtain ⟨hlo, hhi⟩ := hcovers.range e he
    exact ⟨e.place, (h.good e he).holds, hlo, hhi, hderive⟩
  · rintro ⟨l, hl, hlo, hhi, hderive⟩
    have hout := (deriveBtcTxid_eq_some.mp hderive).1
    obtain ⟨e, he, rfl⟩ := hcovers.complete l hl hlo hhi (.inl hout)
    obtain ⟨-, rs, hres⟩ := h.good e he
    have hpresent := h.transitions.present _ ⟨e, he, rs, hres, fun hnone => hout hnone.1, rfl⟩
    obtain ⟨row, hrow⟩ := Option.ne_none_iff_exists'.mp hpresent
    refine ⟨_, row, hrow, ?_⟩
    rw [h.btcTxid_eq he hrow, hderive]
    rfl

end
end RgbppIndexer
