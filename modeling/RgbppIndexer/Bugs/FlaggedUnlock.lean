import RgbppIndexer.Indexer.Preimage
import RgbppIndexer.Indexer.Verdicts

/-!
# An unlock that binds again is flagged

"Issuing assets, or leaping from CKB to Bitcoin, binds cells to a Bitcoin UTXO
that already existed. The transaction that created that UTXO knows nothing
about RGB++ and commits to nothing, so comparing against it would manufacture
a mismatch on every mint" (docs/commitments.md:69-72). The verifier exempts
the transitions of kind `issuance` (crates/indexer/src/verify.rs:79-92). A BTC
time lock input makes the kind `btc_time_unlock`, "whatever else it does"
(crates/indexer/src/extract.rs:92-93): a transaction that releases a leap and
leaps back is compared.

Counterexample: a transaction that unlocks a BTC time lock cell and binds its
output to an existing UTXO. Its transition becomes `missing` (`unlock_missing`).

* `neverFlagged_iff`: **a transaction without RGB++-lock inputs is exempt
  exactly when it has no protocol inputs at all, or its outputs name no single
  Bitcoin transaction.**
-/
namespace RgbppIndexer.Bugs.FlaggedUnlock

open RgbppIndexer.Core CommitmentVerifier

/-- The transition is stored, and nothing is held against its Bitcoin transaction. -/
structure Clean (t : NewTransition) (st : Store) : Prop where
  stored : ∃ row, st.rgbppTransitions.get? t.ckbTxHash = some row ∧ row.kind = t.kind ∧ row.btcTxid = t.btcTxid ∧
    row.expectedCommitment = t.expectedCommitment ∧ row.commitmentStatus ≠ .mismatch ∧ row.commitmentStatus ≠ .missing
  anomaly : st.rgbppAnomalies.get? (dedupKey .commitmentMismatch (hexText t.ckbTxHash)) = none

/-- No pass, whatever its data source says, holds anything against it. -/
def NeverFlagged (t : NewTransition) : Prop :=
  ∀ (v : CommitmentVerifier) (rows : RowOrder (Bytes × TransitionRecord)) (moment : Nat) (now : DateTime) (st : Store),
    Clean t st → Clean t (v.verifyOnce rows moment now st).1

/-- What is decided about the transition is not an accusation. -/
def Harmless (decided : Except IndexerError (Option CommitmentResult)) : Prop :=
  ∀ w, decided = .ok (some w) → w.status ≠ .mismatch ∧ w.status ≠ .missing

theorem Harmless.recorded {decided : Except IndexerError (Option CommitmentResult)} (h : Harmless decided) :
    recorded decided ≠ some .commitmentMismatch := by
  intro hrec
  unfold CommitmentVerifier.recorded at hrec
  split at hrec
  · next w =>
    have hne := (h w rfl).1
    unfold finding at hrec
    split at hrec
    · cases hrec
    · next hmismatch => exact hne hmismatch
    · cases hrec
  · cases hrec

/-- A transition that is never accused is never flagged. -/
theorem neverFlagged_of_harmless {t : NewTransition}
    (h : ∀ replies row, row.kind = t.kind → row.btcTxid = t.btcTxid → Harmless (verdict replies row)) : NeverFlagged t := by
  intro v rows moment now st hclean
  refine verifyOnce_keeps v now moment st (fun transitions s row decided after hselected hmem hdecided hs hstep => ?_) hclean
  obtain ⟨m, rfl⟩ := hdecided
  obtain ⟨kept, hkept, hkind, hbtc, hexpected, hmismatch, hmissing⟩ := hs.stored
  by_cases hrow : row.1 = t.ckbTxHash
  · -- the step is about the transition itself
    obtain ⟨first, hfirst, hkind₀, hbtc₀, -⟩ := hclean.stored
    have hsame := hselected.stored row hmem
    rw [hrow, hfirst] at hsame
    cases hsame
    have hharmless := h (v.reconciler.btc.moment m) row.2 hkind₀ hbtc₀
    refine ⟨?_, ?_⟩
    · rw [hstep.get?, if_pos hrow.symm, hkept]
      refine ⟨_, rfl, ?_⟩
      cases hdecided : verdict (v.reconciler.btc.moment m) row.2 with
      | error e => exact ⟨hkind, hbtc, hexpected, hmismatch, hmissing⟩
      | ok o =>
        cases o with
        | none => exact ⟨hkind, hbtc, hexpected, hmismatch, hmissing⟩
        | some w => exact ⟨hkind, hbtc, hexpected, hharmless w hdecided⟩
    · rw [hstep.get?_anomaly fun kind hrec hkey => ?_]
      · exact hs.anomaly
      · obtain ⟨rfl, -⟩ := dedupKey_inj hkey
        exact hharmless.recorded hrec
  · -- or about another one
    refine ⟨?_, ?_⟩
    · rw [hstep.get?, if_neg (Ne.symm hrow)]
      exact ⟨kept, hkept, hkind, hbtc, hexpected, hmismatch, hmissing⟩
    · rw [hstep.get?_anomaly fun kind hrec hkey => ?_]
      · exact hs.anomaly
      · exact hrow (hexText_injective (dedupKey_inj hkey).2).symm

/-- A data source that knows every transaction, and none that commits to anything. -/
def silentSource : BtcDataSource where
  name := "esplora"
  moment _ :=
    { transaction := fun txid => .ok (some { txid, confirmation := none, inputs := [], outputs := [], fee := none })
      outpointStatus := fun _ => .ok .unspent
      txOutspends := fun _ => .ok none
      addressUtxos := fun _ => .ok [] }

def verifier : CommitmentVerifier := ⟨1, ⟨.testnet 64, silentSource, .inOrder, 0⟩⟩

/-- The transition has just been indexed. -/
def indexed (t : NewTransition) : Store := Store.empty.insertTransition t

theorem clean_indexed (t : NewTransition) : Clean t (indexed t) :=
  ⟨⟨_, (Table.get?_upsert ..).trans (if_pos rfl), rfl, rfl, rfl, nofun, nofun⟩, rfl⟩

/-- If it names a Bitcoin transaction, it is what the next pass looks at. -/
theorem unchecked_indexed {t : NewTransition} (hbtc : t.btcTxid.isSome = true) :
    ∃ row, (indexed t).rgbppTransitions.get? t.ckbTxHash = some row ∧ row.kind = t.kind ∧ row.btcTxid = t.btcTxid ∧
      (indexed t).uncheckedTransitions .storage 1 = .ok [(t.ckbTxHash, row)] := by
  refine ⟨_, (Table.get?_upsert ..).trans (if_pos rfl), rfl, rfl, ?_⟩
  unfold Store.uncheckedTransitions Table.select
  rw [if_neg (by decide)]
  dsimp only
  have hentries : (indexed t).rgbppTransitions.entries = [(t.ckbTxHash, _)] := rfl
  rw [hentries, List.filter_cons_of_pos (by rw [hbtc]; rfl)]
  rfl

section
variable {inputs : List ResolvedInput} {outputs : List RgbppOutput}

/-- With BTC time lock inputs only, a transaction unlocks, or issues if it has none. -/
theorem classifyTransition_of_btcTime (h : ∀ i ∈ inputs, i.binding.kind = .btcTime) :
    classifyTransition inputs outputs = if inputs = [] then .issuance else .btcTimeUnlock := by
  have hall : inputs.filter (fun i => decide (i.binding.kind = .btcTime)) = inputs :=
    List.filter_eq_self.mpr fun i hi => decide_eq_true (h i hi)
  unfold classifyTransition
  rw [hall]
  by_cases hnil : inputs = []
  · rw [if_pos hnil, hnil]
    rfl
  · rw [if_neg hnil]
    dsimp only
    rw [if_pos (List.length_pos_iff.mpr hnil)]

end

/-- Compared with a transaction that commits to nothing, a transition is missing its commitment. -/
theorem flagged {t : NewTransition} {txid : BtcTxid} (hkind : t.kind ≠ .issuance) (hbtc : t.btcTxid = some txid.toDisplayVec) :
    ∃ row, (verifier.verifyOnce .storage 0 0 (indexed t)).1.rgbppTransitions.get? t.ckbTxHash = some row ∧
      row.commitmentStatus = .missing := by
  obtain ⟨row, hrow, hkind', hbtc', hselect⟩ := unchecked_indexed (t := t) (by rw [hbtc]; rfl)
  have hverdict : ∀ m, verdict (verifier.reconciler.btc.moment m) row = .ok (some ⟨none, .missing⟩) := by
    intro m
    unfold verdict
    rw [hbtc', hbtc, hkind']
    dsimp only
    rw [if_neg hkind, BtcTxid.fromDisplaySlice_toDisplayVec]
    cases row.expectedCommitment with
    | none => rfl
    | some e => rfl
  rcases verifier.verifyOnce_cases 0 0 (indexed t) hselect with ⟨hafter, -, -⟩ | ⟨pre, other, post, hsplit, -, -, hno, -⟩
  · have hnodup : ([(t.ckbTxHash, row)].map Prod.fst).Nodup := List.nodup_singleton _
    have hjudged := (verifier.judged_afterSteps 0 0 (indexed t) hnodup).2 [] _ [] rfl
    rw [hafter, hjudged]
    dsimp only
    rw [hverdict, hrow]
    exact ⟨_, rfl, rfl⟩
  · have hmem : other ∈ [(t.ckbTxHash, row)] := by
      rw [hsplit]
      simp
    obtain rfl := List.mem_singleton.mp hmem
    exact absurd ⟨_, hverdict _⟩ hno

section
variable {inputs : List ResolvedInput} {outputs : List RgbppOutput}

/-- **The transactions without RGB++-lock inputs that are exempt.** -/
theorem neverFlagged_iff [Sha2] (txHash : H256) (block : BlockContext) (h : ∀ i ∈ inputs, i.binding.kind = .btcTime) :
    NeverFlagged (transitionOf txHash block inputs outputs) ↔ inputs = [] ∨ deriveBtcTxid outputs = none := by
  have hkind : (transitionOf txHash block inputs outputs).kind = if inputs = [] then .issuance else .btcTimeUnlock :=
    classifyTransition_of_btcTime h
  constructor
  · intro hnever
    by_contra hnot
    rw [not_or] at hnot
    obtain ⟨hne, hderive⟩ := hnot
    obtain ⟨txid, htxid⟩ := Option.ne_none_iff_exists'.mp hderive
    have hbtc : (transitionOf txHash block inputs outputs).btcTxid = some txid.toDisplayVec := by
      unfold transitionOf
      rw [htxid, Option.map_some]
    rw [if_neg hne] at hkind
    obtain ⟨row, hrow, hmissing⟩ := flagged (by rw [hkind]; nofun) hbtc
    obtain ⟨row', hrow', -, -, -, -, hno⟩ := (hnever verifier .storage 0 0 _ (clean_indexed _)).stored
    rw [hrow] at hrow'
    cases hrow'
    exact hno hmissing
  · intro hexempt
    refine neverFlagged_of_harmless fun replies row hrowKind hrowBtc w hw => ?_
    unfold verdict at hw
    rcases hexempt with hnil | hnone
    · rw [hrowKind, hkind, if_pos hnil] at hw
      split at hw
      · cases hw
      · rw [if_pos rfl] at hw
        cases hw
        exact ⟨nofun, nofun⟩
    · have hbtc : (transitionOf txHash block inputs outputs).btcTxid = none := by
        unfold transitionOf
        rw [hnone, Option.map_none]
      rw [hrowBtc, hbtc] at hw
      cases hw

end

/-! ## The counterexample -/

section

local instance unlockHash : Sha2 := .standard

def lockArgs : BtcTimeLockArgs where
  targetLock := (boundOutput 142 .placeholder).cell.lock
  after := 6
  txid := .placeholder

/-- A BTC time lock cell that is consumed. -/
def timeLocked : ResolvedInput where
  inputIndex := 0
  outPoint := ⟨⟨.filled 32 1⟩, 0⟩
  binding := .btcTime lockArgs
  cell :=
    { capacity := 142
      lock :=
        { codeHash := ProtocolScripts.testnet.btcTimeLock.codeHash, hashType := .type, args := lockArgs.encode }
      type_ := none }
  data := []

/-- It is released, and bound to an output of a transaction that exists. -/
def relocked : NewTransition :=
  transitionOf ⟨.filled 32 2⟩ { number := 2, hash := ⟨.filled 32 3⟩, timestamp := 0, txIndex := 0 } [timeLocked]
    [boundOutput 142 .placeholder]

theorem timeLocked_only : ∀ i ∈ [timeLocked], i.binding.kind = .btcTime := by
  intro i hi
  obtain rfl := List.mem_singleton.mp hi
  rfl

/-- **The transition of an unlock becomes `missing`.** -/
theorem unlock_missing : (∀ i ∈ [timeLocked], i.binding.kind = .btcTime) ∧ Clean relocked (indexed relocked) ∧
    (∃ row, (verifier.verifyOnce .storage 0 0 (indexed relocked)).1.rgbppTransitions.get? relocked.ckbTxHash = some row ∧
      row.commitmentStatus = .missing) ∧ ¬ NeverFlagged relocked := by
  have hbtc : relocked.btcTxid = some BtcTxid.placeholder.toDisplayVec := rfl
  have hflagged := flagged (by nofun) hbtc
  refine ⟨timeLocked_only, clean_indexed relocked, hflagged, fun hnever => ?_⟩
  obtain ⟨row, hrow, hmissing⟩ := hflagged
  obtain ⟨row', hrow', -, -, -, -, hno⟩ := (hnever verifier .storage 0 0 _ (clean_indexed relocked)).stored
  rw [hrow] at hrow'
  cases hrow'
  exact hno hmissing

theorem neverFlagged_iff_relocked : NeverFlagged relocked ↔ [timeLocked] = [] ∨
    deriveBtcTxid [boundOutput 142 .placeholder] = none :=
  neverFlagged_iff _ _ timeLocked_only

end
end RgbppIndexer.Bugs.FlaggedUnlock
