import RgbppIndexer.Bugs.UnclosedFinding
import RgbppIndexer.Indexer.Judgements

/-!
# A transaction that was not found stays unknown

`btc_unknown` says that "the data source cannot see the Bitcoin transaction"
(docs/commitments.md:66). It is written when a lookup finds nothing
(crates/indexer/src/verify.rs:98-116), and the work list of the next pass holds
`unchecked` transitions only (crates/store/src/transitions.rs:87): when the
source sees the transaction later, nobody asks. `resolve_anomaly`
(crates/store/src/anomalies.rs:50-59) closes a finding by its key, and nothing
but a test calls it.

Counterexample: a transfer is checked while the source lags, and once more when
it does not. It stays `btc_unknown`, and its anomaly open (`never_found`).

* `stuck_of_missed`: after a check that found nothing, a transition is
  `btc_unknown` for good.
* `settled_iff`: **a further pass judges every transition that names a
  transaction by what that publishes exactly when no check before it missed
  the transaction.**
-/
namespace RgbppIndexer.Bugs.FinalNotFound

open RgbppIndexer.Core RgbppIndexer.System CommitmentVerifier

section
variable (T : BtcTxid) (c : Option Bytes)

/-- The transition is compared with what the transaction publishes. -/
def Names (a : Authorisation) : Prop := a.kind ≠ .issuance ∧ a.btcTxid = some T.toDisplayVec

/-- The event is a check that does not find the transaction. -/
def Misses : Event → Prop
  | .verify v _ moment row => Names T row.2.authorisation ∧ (v.reconciler.btc.moment moment).transaction T = .ok none
  | _ => False

/-- Whenever a check finds the transaction, it publishes this. -/
def Publishes : Event → Prop
  | .verify v _ moment _ => ∀ tx, (v.reconciler.btc.moment moment).transaction T = .ok (some tx) →
      tx.commitment.map ByteArr.bytes = c
  | _ => True

/-- What the transaction publishes has decided about every transition that names it, and no finding says otherwise. -/
def Settled (st : Store) : Prop :=
  ∀ hash t, st.rgbppTransitions.get? hash = some t → Names T t.authorisation →
    t.commitmentStatus ≠ .btcUnknown ∧ t.commitmentStatus = compareCommitments t.expectedCommitment c ∧
      ∀ a, st.rgbppAnomalies.get? (dedupKey .unknownBtcTx (hexText hash)) = some a → a.resolvedAt ≠ none

end

section
variable {T : BtcTxid} {c : Option Bytes} {replies : BtcReplies} {t : TransitionRecord}

theorem verdict_of_names (h : Names T t.authorisation) : verdict replies t =
    match replies.transaction T with
    | .error e => .error (.btc e)
    | .ok reply => .ok (some (judge t reply)) := by
  obtain ⟨hkind, hbtc⟩ := h
  have hkind : t.kind ≠ .issuance := hkind
  have hbtc : t.btcTxid = some T.toDisplayVec := hbtc
  unfold verdict
  rw [hbtc]
  dsimp only
  rw [if_neg hkind]
  have hread := BtcTxid.fromDisplaySlice_toDisplayVec T
  generalize BtcTxid.fromDisplaySlice T.toDisplayVec = read at hread ⊢
  subst hread
  rfl

theorem verdict_of_missed (h : Names T t.authorisation) (hmissed : replies.transaction T = .ok none) :
    verdict replies t = .ok (some ⟨none, .btcUnknown⟩) := by
  rw [verdict_of_names h, hmissed]
  rfl

theorem verdict_of_published (h : Names T t.authorisation) (hnot : replies.transaction T ≠ .ok none)
    (hpublishes : ∀ tx, replies.transaction T = .ok (some tx) → tx.commitment.map ByteArr.bytes = c) :
    (∃ e, verdict replies t = .error e) ∨ verdict replies t = .ok (some ⟨c, compareCommitments t.expectedCommitment c⟩) := by
  rw [verdict_of_names h]
  cases hreply : replies.transaction T with
  | error e => exact .inl ⟨_, rfl⟩
  | ok reply =>
    cases reply with
    | none => exact absurd hreply hnot
    | some tx =>
      right
      dsimp only [judge]
      rw [hpublishes tx hreply]

theorem compareCommitments_ne_btcUnknown (expected observed : Option Bytes) :
    compareCommitments expected observed ≠ .btcUnknown := by
  unfold compareCommitments
  split
  · nofun
  · split <;> nofun
  · nofun

theorem finding_ne_unknownBtcTx {status : CommitmentStatus} (h : status ≠ .btcUnknown) :
    finding status ≠ some .unknownBtcTx := by
  cases status with
  | btcUnknown => exact absurd rfl h
  | mismatch => nofun
  | _ => nofun

/-- Only a check that misses records that a transaction is unknown. -/
theorem recorded_ne_unknownBtcTx (h : Names T t.authorisation) (hnot : replies.transaction T ≠ .ok none) :
    recorded (verdict replies t) ≠ some .unknownBtcTx := by
  rw [verdict_of_names h]
  cases hreply : replies.transaction T with
  | error e => nofun
  | ok reply =>
    cases reply with
    | none => exact absurd hreply hnot
    | some tx => exact finding_ne_unknownBtcTx (compareCommitments_ne_btcUnknown _ _)

end

/-! ## Runs -/

section
variable [Sha2] {cfg : Config} {errorText : IndexerError → String} {what : Bytes → Authorisation} {T : BtcTxid}
  {c : Option Bytes} {st st' : Store} {events : List Event}

/-- Nothing has been decided about a transition but by what the transaction publishes. -/
structure Sound (what : Bytes → Authorisation) (T : BtcTxid) (c : Option Bytes) (st : Store) : Prop where
  keyed : AnomaliesKeyed st
  faithful : Faithful what st
  judged : ∀ hash t, st.rgbppTransitions.get? hash = some t → Names T (what hash) →
    t.commitmentStatus = .unchecked ∨ t.commitmentStatus = compareCommitments (what hash).expectedCommitment c
  silent : ∀ hash, Names T (what hash) → st.rgbppAnomalies.get? (dedupKey .unknownBtcTx (hexText hash)) = none

/-- A transition that names the transaction is `btc_unknown`. -/
def Stuck (what : Bytes → Authorisation) (T : BtcTxid) (st : Store) : Prop :=
  ∃ hash t, st.rgbppTransitions.get? hash = some t ∧ Names T (what hash) ∧ t.commitmentStatus = .btcUnknown

omit [Sha2] in
theorem Sound.empty : Sound what T c .empty where
  keyed := anomaliesKeyed_empty
  faithful := fun hash t ht => by cases ht
  judged := fun hash t ht => by cases ht
  silent := fun _ _ => rfl

omit [Sha2] in
/-- What is checked is stored with the authorisation it is checked with. -/
theorem authorisation_of_due {row : Bytes × TransitionRecord} (h : Faithful what st) (hdue : Due st row) :
    ∃ t, st.rgbppTransitions.get? row.1 = some t ∧ t.commitmentStatus = .unchecked ∧ row.2.authorisation = what row.1 := by
  obtain ⟨t, ht, hunchecked, hsame⟩ := hdue
  exact ⟨t, ht, hunchecked, hsame.symm.trans (h row.1 t ht)⟩

/-- **Soundness is kept by every event that does not miss the transaction.** -/
theorem Sound.step (h : Sound what T c st) {event : Event} (hregular : Regular cfg errorText what st event)
    (hpublishes : Publishes T c event) (hmisses : ¬ Misses T event) : Sound what T c (apply cfg errorText st event) := by
  have hkeyed : AnomaliesKeyed (apply cfg errorText st event) := AnomaliesKeyed.step h.keyed event
  have hfaithful : Faithful what (apply cfg errorText st event) := h.faithful.step hregular
  by_cases hcheck : ∃ v now moment row, event = .verify v now moment row
  · obtain ⟨v, now, moment, row, rfl⟩ := hcheck
    have hstep := verifyStep_spec v now moment st {} row
    obtain ⟨t, ht, hunchecked, hrow⟩ := authorisation_of_due h.faithful hregular
    have hfound : Names T (what row.1) → (v.reconciler.btc.moment moment).transaction T ≠ .ok none :=
      fun hnames hnone => hmisses ⟨hrow ▸ hnames, hnone⟩
    refine ⟨hkeyed, hfaithful, fun hash t' ht' hnames => ?_, fun hash hnames => ?_⟩
    · rw [apply, hstep.get?] at ht'
      by_cases hhash : hash = row.1
      · subst hhash
        rw [if_pos rfl, ht, Option.map_some, Option.some.injEq] at ht'
        subst ht'
        rcases verdict_of_published (hrow ▸ hnames) (hfound hnames) hpublishes with ⟨e, herror⟩ | hok
        · rw [herror]
          exact .inl hunchecked
        · rw [hok, ← hrow]
          exact .inr rfl
      · rw [if_neg hhash] at ht'
        exact h.judged hash t' ht' hnames
    · rw [apply, hstep.get?_anomaly fun kind hrec hkey => ?_]
      · exact h.silent hash hnames
      · obtain ⟨rfl, htext⟩ := dedupKey_inj hkey
        obtain rfl := hexText_injective htext
        exact recorded_ne_unknownBtcTx (hrow ▸ hnames) (hfound hnames) hrec
  · have hindexed : Indexed st (apply cfg errorText st event) :=
      indexed_apply h.keyed fun v now moment row heq => hcheck ⟨v, now, moment, row, heq⟩
    refine ⟨hkeyed, hfaithful, fun hash t' ht' hnames => ?_, fun hash hnames => ?_⟩
    · cases hold : st.rgbppTransitions.get? hash with
      | none => exact .inl (hindexed.fresh hash t' ht' hold)
      | some t =>
        obtain ⟨t'', ht'', hstatus⟩ := hindexed.kept hash t hold
        rw [ht'] at ht''
        cases ht''
        rw [hstatus]
        exact h.judged hash t hold hnames
    · rw [hindexed.findings .unknownBtcTx hash rfl]
      exact h.silent hash hnames

/-- A transition that is `btc_unknown` stays so: nobody checks it. -/
theorem Stuck.step (h : Stuck what T st) (hkeyed : AnomaliesKeyed st) {event : Event}
    (hregular : Regular cfg errorText what st event) : Stuck what T (apply cfg errorText st event) := by
  obtain ⟨hash, t, ht, hnames, hunknown⟩ := h
  by_cases hcheck : ∃ v now moment row, event = .verify v now moment row
  · obtain ⟨v, now, moment, row, rfl⟩ := hcheck
    have hstep := verifyStep_spec v now moment st {} row
    obtain ⟨t₀, ht₀, hunchecked, -⟩ := hregular
    refine ⟨hash, t, ?_, hnames, hunknown⟩
    have hne : hash ≠ row.1 := by
      rintro rfl
      rw [ht] at ht₀
      cases ht₀
      rw [hunknown] at hunchecked
      cases hunchecked
    rw [apply, hstep.get?, if_neg hne, ht]
  · have hindexed : Indexed st (apply cfg errorText st event) :=
      indexed_apply hkeyed fun v now moment row heq => hcheck ⟨v, now, moment, row, heq⟩
    obtain ⟨t', ht', hstatus⟩ := hindexed.kept hash t ht
    exact ⟨hash, t', ht', hnames, hstatus.trans hunknown⟩

theorem sound_of_run (hrun : ((tasks cfg errorText).restrict (Regular cfg errorText what)).Run .empty events st)
    (hpublishes : ∀ e ∈ events, Publishes T c e) (hmisses : ∀ e ∈ events, ¬ Misses T e) : Sound what T c st := by
  induction hrun with
  | nil => exact .empty
  | @snoc events s s' event hrun hstep ih =>
    obtain ⟨heq, hregular⟩ := hstep
    rw [show s' = _ from heq]
    have hbefore := ih (fun e he => hpublishes e (by simp [he])) (fun e he => hmisses e (by simp [he]))
    exact hbefore.step hregular (hpublishes event (by simp)) (hmisses event (by simp))

/-- **After a check that missed, a transition is `btc_unknown` for good.** -/
theorem stuck_of_missed (hrun : ((tasks cfg errorText).restrict (Regular cfg errorText what)).Run .empty events st)
    (hmissed : ∃ e ∈ events, Misses T e) : Stuck what T st := by
  suffices h : AnomaliesKeyed st ∧ Faithful what st ∧ ((∃ e ∈ events, Misses T e) → Stuck what T st) from h.2.2 hmissed
  clear hmissed
  induction hrun with
  | nil => exact ⟨anomaliesKeyed_empty, fun hash t ht => (by cases ht), fun h => by simp at h⟩
  | @snoc events s s' event hrun hstep ih =>
    obtain ⟨heq, hregular⟩ := hstep
    obtain rfl : s' = _ := heq
    obtain ⟨hkeyed, hfaithful, hstuck⟩ := ih
    refine ⟨AnomaliesKeyed.step hkeyed event, hfaithful.step hregular, fun hmissed => ?_⟩
    by_cases hearlier : ∃ e ∈ events, Misses T e
    · exact (hstuck hearlier).step hkeyed hregular
    · -- it is the last check that misses
      have hlast : Misses T event := by
        obtain ⟨e, he, hmisses⟩ := hmissed
        rcases List.mem_append.mp he with he | he
        · exact absurd ⟨e, he, hmisses⟩ hearlier
        · exact List.mem_singleton.mp he ▸ hmisses
      cases event with
      | verify v now moment row =>
        obtain ⟨hnames, hnone⟩ := hlast
        obtain ⟨t, ht, -, hrow⟩ := authorisation_of_due hfaithful hregular
        have hstep := verifyStep_spec v now moment s {} row
        refine ⟨row.1, settle (.ok (some ⟨none, .btcUnknown⟩)) t, ?_, hrow ▸ hnames, rfl⟩
        rw [apply, hstep.get?, if_pos rfl, verdict_of_missed hnames hnone, ht, Option.map_some]
      | write event => exact hlast.elim
      | answer r moment answer => exact hlast.elim
      | examine w now tip moment row => exact hlast.elim
      | cacheTx txid row => exact hlast.elim
      | queue rows => exact hlast.elim

/-! ## A further pass -/

variable {v : CommitmentVerifier} {rows : RowOrder (Bytes × TransitionRecord)} {moment : Nat} {now : DateTime}
  {report : VerifyReport}

omit [Sha2] in
theorem settled_of_sound (h : Sound what T c st) (hok : (v.verifyOnce rows moment now st).2 = .ok report)
    (hlimit : (st.rgbppTransitions.entries.length : Int) ≤ v.batchSize.toInt)
    (hvisible : ∀ m, ∃ tx, (v.reconciler.btc.moment m).transaction T = .ok (some tx) ∧ tx.commitment.map ByteArr.bytes = c) :
    Settled T c (v.verifyOnce rows moment now st).1 := by
  obtain ⟨batch, hselect, hall⟩ := v.verifyOnce_ok now moment st hok
  have hselected := selected_of_unchecked hselect
  obtain ⟨hreached, hother, hfindings⟩ := v.get?_verifyOnce now moment st hselect
  have hfound : ∀ m, (v.reconciler.btc.moment m).transaction T ≠ .ok none := by
    intro m hnone
    obtain ⟨tx, htx, -⟩ := hvisible m
    rw [hnone] at htx
    cases htx
  have hpublishes : ∀ m tx, (v.reconciler.btc.moment m).transaction T = .ok (some tx) → tx.commitment.map ByteArr.bytes = c := by
    intro m tx htx
    obtain ⟨tx', htx', hc⟩ := hvisible m
    rw [htx] at htx'
    cases htx'
    exact hc
  have hstored : ∀ done row, v.Reaches moment batch done row → row.2.authorisation = what row.1 := by
    intro done row hreach
    obtain ⟨rest, hsplit⟩ := hreach.split
    exact h.faithful row.1 row.2 (hselected.stored row (by rw [hsplit]; simp))
  intro hash t ht hnames
  have hsaid : t.authorisation = what hash := h.faithful.verifyOnce v rows moment now hash t ht
  have hnames' : Names T (what hash) := hsaid ▸ hnames
  have hstatus : t.commitmentStatus = compareCommitments t.expectedCommitment c := by
    by_cases hin : ∃ done row, v.Reaches moment batch done row ∧ row.1 = hash
    · obtain ⟨done, row, hreach, rfl⟩ := hin
      obtain ⟨rest, hsplit⟩ := hreach.split
      rw [hreached done row hreach] at ht
      cases ht
      obtain ⟨w, hw⟩ := (hall done row rest hsplit).2
      rcases verdict_of_published ((hstored done row hreach).symm ▸ hnames') (hfound _) (hpublishes _) with ⟨e, herror⟩ | hok
      · rw [herror] at hw
        cases hw
      · rw [hok]
        rfl
    · rw [hother hash fun done row hreach hrow => hin ⟨done, row, hreach, hrow⟩] at ht
      rcases h.judged hash t ht hnames' with hunchecked | hjudged
      · -- a batch that large holds it
        have hbtc : t.btcTxid = some T.toDisplayVec := hnames.2
        have hmem := mem_of_unchecked hselect hlimit ht hunchecked (by rw [hbtc]; rfl)
        obtain ⟨done, rest, hsplit⟩ := List.append_of_mem hmem
        exact absurd ⟨done, _, (hall done _ rest hsplit).1, rfl⟩ hin
      · rw [hjudged, ← hsaid]
        rfl
  refine ⟨hstatus ▸ compareCommitments_ne_btcUnknown _ _, hstatus, fun a ha => ?_⟩
  rw [hfindings .unknownBtcTx hash fun done row hreach hrow => ?_, h.silent hash hnames'] at ha
  · cases ha
  · subst hrow
    exact recorded_ne_unknownBtcTx ((hstored done row hreach).symm ▸ hnames') (hfound _)

omit [Sha2] in
/-- A pass does not check what is not unchecked. -/
theorem not_settled_of_stuck (h : Stuck what T st) (hfaithful : Faithful what st)
    (hok : (v.verifyOnce rows moment now st).2 = .ok report) : ¬ Settled T c (v.verifyOnce rows moment now st).1 := by
  obtain ⟨hash, t, ht, hnames, hunknown⟩ := h
  obtain ⟨batch, hselect, -⟩ := v.verifyOnce_ok now moment st hok
  have hselected := selected_of_unchecked hselect
  have hkept := (v.get?_verifyOnce now moment st hselect).2.1 hash fun done row hreach hrow => by
    obtain ⟨rest, hsplit⟩ := hreach.split
    have hrow' : row ∈ batch := by rw [hsplit]; simp
    have hstored := hselected.stored row hrow'
    rw [hrow, ht] at hstored
    cases hstored
    have hunchecked := (hselected.unchecked row hrow').1
    rw [hunknown] at hunchecked
    cases hunchecked
  intro hsettled
  exact (hsettled hash t (hkept.trans ht) ((hfaithful hash t ht).symm ▸ hnames)).1 hunknown

theorem faithful_of_run (hrun : ((tasks cfg errorText).restrict (Regular cfg errorText what)).Run .empty events st) :
    Faithful what st := by
  refine hrun.keeps (fun s event t hs hstep => ?_) fun hash t ht => by cases ht
  obtain ⟨heq, hregular⟩ := hstep
  rw [show t = _ from heq]
  exact hs.step hregular

/-- **When a further pass judges by what the transaction publishes.** -/
theorem settled_iff (hrun : ((tasks cfg errorText).restrict (Regular cfg errorText what)).Run .empty events st)
    (hpublishes : ∀ e ∈ events, Publishes T c e) (hok : (v.verifyOnce rows moment now st).2 = .ok report)
    (hlimit : (st.rgbppTransitions.entries.length : Int) ≤ v.batchSize.toInt)
    (hvisible : ∀ m, ∃ tx, (v.reconciler.btc.moment m).transaction T = .ok (some tx) ∧ tx.commitment.map ByteArr.bytes = c) :
    Settled T c (v.verifyOnce rows moment now st).1 ↔ ∀ e ∈ events, ¬ Misses T e := by
  constructor
  · intro hsettled e he hmisses
    exact not_settled_of_stuck (stuck_of_missed hrun ⟨e, he, hmisses⟩) (faithful_of_run hrun) hok hsettled
  · intro hmisses
    exact settled_of_sound (sound_of_run hrun hpublishes hmisses) hok hlimit hvisible

end

/-! ## The counterexample -/

section
open Sample

local instance foundHash : Sha2 := .standard

/-- A verifier of this data source. -/
def verifier (reply : Option BtcTxInfo) : CommitmentVerifier where
  batchSize := 100
  reconciler :=
    { reconciler .unspent with
      btc :=
        { name := "esplora"
          moment := fun _ =>
            { transaction := fun _ => .ok reply
              outpointStatus := fun _ => .ok .unspent
              txOutspends := fun _ => .ok none
              addressUtxos := fun _ => .ok [] } } }

def lagging : CommitmentVerifier := verifier none

/-- The source now sees the transaction, which publishes nothing. -/
def caughtUp : CommitmentVerifier :=
  verifier (some { txid := spender, confirmation := none, inputs := [], outputs := [], fee := none })

/-- An issuance is indexed, and then the transfer that `spender` authorises. -/
def indexed : Store := after (.testnet 64) (fun _ => "") UnclosedFinding.rounds

/-- What the indexed transactions say. -/
def said (hash : Bytes) : Authorisation :=
  ((indexed.rgbppTransitions.get? hash).map TransitionRecord.authorisation).getD ⟨.issuance, none, none⟩

theorem faithful_of_entries {st : Store} (h : ∀ e ∈ st.rgbppTransitions.entries, e.2.authorisation = said e.1) :
    Faithful said st := fun hash t ht => h (hash, t) ((Table.get?_eq_some_iff ..).mp ht)

theorem indexed_run : ((tasks (.testnet 64) fun _ => "").restrict (Regular (.testnet 64) (fun _ => "") said)).Run .empty
    UnclosedFinding.rounds indexed := by
  have hfirst : Faithful said (scannerStep (.testnet 64) (env (UnclosedFinding.lateChain.serve 2)) (fun _ => "") .empty) :=
    faithful_of_entries (by decide +kernel)
  have hsecond : Faithful said indexed := fun hash t ht => by rw [said, ht, Option.map_some, Option.getD_some]
  have hround : ∀ replies st, Faithful said (scannerStep (.testnet 64) (env replies) (fun _ => "") st) →
      ((tasks (.testnet 64) fun _ => "").restrict (Regular (.testnet 64) (fun _ => "") said)).step st
        (.write (.scan (env replies))) (scannerStep (.testnet 64) (env replies) (fun _ => "") st) :=
    fun replies st hfaithful => ⟨rfl, hfaithful⟩
  exact (Lts.Run.single (hround _ _ hfirst)).append (.single (hround _ _ hsecond))

theorem rounds_publish : ∀ e ∈ UnclosedFinding.rounds, Publishes spender none e := by
  intro e he
  rcases List.mem_pair.mp he with rfl | rfl
  · trivial
  · trivial

/-- The transfer was checked while the source lagged. -/
def missed : Store := (lagging.verifyOnce .storage 0 0 indexed).1

theorem visible : ∀ m, ∃ tx, (caughtUp.reconciler.btc.moment m).transaction spender = .ok (some tx) ∧
    tx.commitment.map ByteArr.bytes = none := fun _ => ⟨_, rfl, by decide⟩

/-- **A pass that finds the transaction leaves the transfer `btc_unknown`, and its anomaly open.** -/
theorem never_found : (∃ events,
      ((tasks (.testnet 64) fun _ => "").restrict (Regular (.testnet 64) (fun _ => "") said)).Run .empty events missed ∧
        ∀ e ∈ events, Publishes spender none e) ∧
    (∃ report, (caughtUp.verifyOnce .storage 0 0 missed).2 = .ok report) ∧
    (missed.rgbppTransitions.entries.length : Int) ≤ caughtUp.batchSize.toInt ∧
    (∀ m, ∃ tx, (caughtUp.reconciler.btc.moment m).transaction spender = .ok (some tx) ∧
      tx.commitment.map ByteArr.bytes = none) ∧
    (∃ t, (caughtUp.verifyOnce .storage 0 0 missed).1.rgbppTransitions.get? UnclosedFinding.transfer.hash.toVec = some t ∧
      Names spender t.authorisation ∧ t.commitmentStatus = .btcUnknown) ∧
    (∃ a, (caughtUp.verifyOnce .storage 0 0 missed).1.rgbppAnomalies.get?
        (dedupKey .unknownBtcTx (hexText UnclosedFinding.transfer.hash.toVec)) = some a ∧ a.resolvedAt = none) ∧
    ¬ Settled spender none (caughtUp.verifyOnce .storage 0 0 missed).1 := by
  have hchecked : ((caughtUp.verifyOnce .storage 0 0 missed).2.isOk = true) ∧
      (missed.rgbppTransitions.entries.length : Int) ≤ caughtUp.batchSize.toInt ∧
      ((caughtUp.verifyOnce .storage 0 0 missed).1.rgbppTransitions.get? UnclosedFinding.transfer.hash.toVec).any
        (fun t => t.kind ≠ .issuance ∧ t.btcTxid = some spender.toDisplayVec ∧ t.commitmentStatus = .btcUnknown) = true ∧
      ((caughtUp.verifyOnce .storage 0 0 missed).1.rgbppAnomalies.get?
        (dedupKey .unknownBtcTx (hexText UnclosedFinding.transfer.hash.toVec))).any
          (fun a => a.resolvedAt = none) = true := by decide +kernel
  obtain ⟨hok, hlimit, hstatus, hopen⟩ := hchecked
  obtain ⟨t, ht, htransfer⟩ := (Option.any_eq_true ..).mp hstatus
  obtain ⟨hkind, hbtc, hunknown⟩ := of_decide_eq_true htransfer
  obtain ⟨a, ha, hunresolved⟩ := (Option.any_eq_true ..).mp hopen
  obtain ⟨events, hrun, hevents⟩ := verifyOnce_regular (.testnet 64) (fun _ => "") said lagging .storage 0 0 indexed
  have hpublishes : ∀ e ∈ events, Publishes spender none e := by
    intro e he
    obtain ⟨m, row, rfl⟩ := hevents e he
    intro tx htx
    cases htx
  refine ⟨⟨_, indexed_run.append hrun, fun e he => ?_⟩, exists_ok_of_isOk hok, hlimit, visible, ⟨t, ht, ⟨hkind, hbtc⟩, hunknown⟩,
    ⟨a, ha, of_decide_eq_true hunresolved⟩, fun hsettled => (hsettled _ t ht ⟨hkind, hbtc⟩).1 hunknown⟩
  rcases List.mem_append.mp he with he | he
  · exact rounds_publish e he
  · exact hpublishes e he

/-- Had the source not lagged, the pass would have settled it. -/
theorem settled_iff_caughtUp : Settled spender none (caughtUp.verifyOnce .storage 0 0 indexed).1 ↔
    ∀ e ∈ UnclosedFinding.rounds, ¬ Misses spender e := by
  have hchecked : (caughtUp.verifyOnce .storage 0 0 indexed).2.isOk = true ∧
      (indexed.rgbppTransitions.entries.length : Int) ≤ caughtUp.batchSize.toInt := by decide +kernel
  obtain ⟨hok, hlimit⟩ := hchecked
  obtain ⟨report, hresult⟩ := exists_ok_of_isOk hok
  exact settled_iff indexed_run rounds_publish hresult hlimit visible

end
end RgbppIndexer.Bugs.FinalNotFound
