import RgbppIndexer.Indexer.System
import RgbppIndexer.Indexer.Verdicts

/-!
# A checked transition keeps its result when its commitment is replaced

`commitment_status` says whether "the two chains agree" (docs/commitments.md:61-66).
Two writers share the row. `insert_transition`, meeting a transition again, takes
over `expected_commitment` and leaves `observed_commitment` and
`commitment_status` (crates/store/src/transitions.rs:105-114);
`set_commitment_result` writes these two for a row the pass read earlier
(crates/indexer/src/verify.rs:144-160), whatever is expected by now. Only
`unchecked` transitions are looked at again (transitions.rs:87).

A mismatch is also recorded as a finding, with both commitments in its detail
(verify.rs:137-149). Nothing takes it back when the row is checked again or
indexed again.

* `current_batch_iff`: a batch keeps the stored results and findings true
  exactly if it brings a transition that is `match`, or has a finding, with the
  commitment it has.
* `current_check_iff`: so does a check, exactly if it compares with what is
  expected now, and observes what a finding says was observed.
* `current_of_run`: **in every run of such steps, every result is about the
  commitment that is expected now, and so is every finding.**
* `verifyOnce_run`: a pass of the verifier is a run.

Counterexample: a transfer is indexed, found to match, and indexed again with another
expected commitment. It is still `match` (`replaced_after_match`).

Fix: on a conflict that changes `expected_commitment`, set `commitment_status` back to
`unchecked` and resolve the finding, and write a result only where the row still expects
what was compared.
-/
namespace RgbppIndexer.Bugs.ReplacedCommitment

open RgbppIndexer.Core CommitmentVerifier

/-! ## Two writers -/

/-- The database and the rows the verifier has read. -/
structure World where
  store : Store
  read : List (Bytes × TransitionRecord)

inductive Event where
  | batch (b : IndexBatch) (now : DateTime)
  /-- a pass selects its work list -/
  | select (v : CommitmentVerifier) (rows : RowOrder (Bytes × TransitionRecord))
  /-- a pass checks one of the rows it has read -/
  | check (v : CommitmentVerifier) (now : DateTime) (moment : Nat) (row : Bytes × TransitionRecord)

/-- The database a check leaves. -/
def checkedStore (v : CommitmentVerifier) (now : DateTime) (moment : Nat) (st : Store) (row : Bytes × TransitionRecord) : Store :=
  (v.verifyStep now moment (st, {}) row).1.1

def World.check (w : World) (v : CommitmentVerifier) (now : DateTime) (moment : Nat) (row : Bytes × TransitionRecord) : World :=
  { w with store := checkedStore v now moment w.store row }

def start : World := ⟨.empty, []⟩

/-- Scan rounds and passes of verifiers, in any order, with any data source. -/
def writers : Lts World Event where
  init w := w = start
  step w event w' :=
    match event with
    | .batch b now => w' = { w with store := (w.store.applyBatch b now).1 }
    | .select v rows => ∃ transitions, w.store.uncheckedTransitions rows v.batchSize = .ok transitions ∧
        w' = { w with read := w.read ++ transitions }
    | .check v now moment row => row ∈ w.read ∧ w' = w.check v now moment row

/-! ## What results and findings promise -/

/-- The status compares the two commitments the row holds. -/
structure Agrees (t : TransitionRecord) : Prop where
  matched : t.commitmentStatus = .match → ∃ c, t.expectedCommitment = some c ∧ t.observedCommitment = some c
  mismatched : t.commitmentStatus = .mismatch →
    ∃ e o, t.expectedCommitment = some e ∧ t.observedCommitment = some o ∧ e ≠ o

/-- The finding stored about the commitment of the transition. -/
def mismatchOf (st : Store) (hash : Bytes) : Option AnomalyRow :=
  st.rgbppAnomalies.get? (dedupKey .commitmentMismatch (hexText hash))

/-- The finding names the commitment the transition expects now, and the one that is observed, where one is. -/
structure Names (a : AnomalyRow) (t : TransitionRecord) : Prop where
  expected : ∃ e, t.expectedCommitment = some e ∧ a.detail.getStr "expected" = some (hexText e)
  observed : ∀ o, t.observedCommitment = some o → a.detail.getStr "observed" = some (hexText o)

/-- Every stored comparison is true of its row, and no finding is about a commitment that was replaced. -/
structure Current (st : Store) : Prop where
  agrees : ∀ hash t, st.rgbppTransitions.get? hash = some t → Agrees t
  findings : ∀ hash a, mismatchOf st hash = some a → ∃ t, st.rgbppTransitions.get? hash = some t ∧ Names a t

/-! ## What the steps have to respect -/

/-- The last transition of a batch with this hash. -/
def lastFor (transitions : List NewTransition) (hash : Bytes) : Option NewTransition :=
  (transitions.filter fun n => n.ckbTxHash = hash).getLast?

/-- The batch brings every transition that is `match`, or has a finding, with the commitment the row has. -/
def KeepsExpected (st : Store) (b : IndexBatch) : Prop :=
  ∀ hash t, st.rgbppTransitions.get? hash = some t → t.commitmentStatus = .match ∨ (∃ a, mismatchOf st hash = some a) →
    ∀ n, lastFor b.transitions hash = some n → n.expectedCommitment = t.expectedCommitment

/-- The source answers the row with a Bitcoin transaction that publishes this commitment. -/
def Publishes (replies : BtcReplies) (t : TransitionRecord) (o : Bytes) : Prop :=
  t.kind ≠ .issuance ∧ ∃ btcTxid txid tx, t.btcTxid = some btcTxid ∧ BtcTxid.fromDisplaySlice btcTxid = .ok txid ∧
    replies.transaction txid = .ok (some tx) ∧ tx.commitment.map ByteArr.bytes = some o

/-- What is compared is still expected, and what is published is what a stored finding says, unless it is found to be a
mismatch again. -/
structure Timely (replies : BtcReplies) (st : Store) (row : Bytes × TransitionRecord) : Prop where
  expected : ∀ o e, Publishes replies row.2 o → row.2.expectedCommitment = some e →
    ∀ t, st.rgbppTransitions.get? row.1 = some t → t.expectedCommitment = some e
  observed : ∀ o a, Publishes replies row.2 o → mismatchOf st row.1 = some a →
    a.detail.getStr "observed" = some (hexText o) ∨ ∃ e, row.2.expectedCommitment = some e ∧ e ≠ o

def Steady (w : World) : Event → Prop
  | .batch b _ => KeepsExpected w.store b
  | .select _ _ => True
  | .check v _ moment row => Timely (v.reconciler.btc.moment moment) w.store row

/-- What holds in every run: the rows that were read are stored, and a mismatch has its finding. -/
structure Sound (w : World) : Prop where
  read : ∀ row ∈ w.read, ∃ t, w.store.rgbppTransitions.get? row.1 = some t
  reported : ∀ hash t, w.store.rgbppTransitions.get? hash = some t → t.commitmentStatus = .mismatch →
    ∃ a, mismatchOf w.store hash = some a

/-! ## Batches -/

/-- The row an insert leaves. -/
def insertedRow (old : Option TransitionRecord) (n : NewTransition) : TransitionRecord where
  blockNumber := n.blockNumber
  blockHash := n.blockHash
  txIndex := n.txIndex
  blockTimestamp := n.blockTimestamp
  kind := n.kind
  btcTxid := n.btcTxid
  inputCellCount := n.inputCellCount
  outputCellCount := n.outputCellCount
  expectedCommitment := n.expectedCommitment
  observedCommitment := old.bind TransitionRecord.observedCommitment
  commitmentStatus := (old.map TransitionRecord.commitmentStatus).getD .unchecked

theorem get?_transitionInsert (t : Table Bytes TransitionRecord) (n : NewTransition) (k : Bytes) :
    (Store.transitionInsert t n).get? k = if k = n.ckbTxHash then some (insertedRow (t.get? k) n) else t.get? k := by
  rw [Store.transitionInsert, Table.get?_upsert]
  by_cases hk : k = n.ckbTxHash
  · rw [if_pos hk, if_pos hk, hk]
    rfl
  · rw [if_neg hk, if_neg hk]

theorem insertedRow_insertedRow (old : Option TransitionRecord) (n n' : NewTransition) :
    insertedRow (some (insertedRow old n)) n' = insertedRow old n' := by
  cases old <;> rfl

/-- Of the inserts under one hash, the last one decides; the result is that of the row before the batch. -/
theorem get?_foldl_transitionInsert (transitions : List NewTransition) (t : Table Bytes TransitionRecord) (k : Bytes) :
    (transitions.foldl Store.transitionInsert t).get? k =
      ((lastFor transitions k).map (insertedRow (t.get? k))).or (t.get? k) := by
  induction transitions generalizing t with
  | nil => rfl
  | cons n transitions ih =>
    rw [List.foldl_cons, ih, get?_transitionInsert]
    unfold lastFor
    by_cases hk : k = n.ckbTxHash
    · rw [if_pos hk, List.filter_cons_of_pos (by simp [hk]), List.getLast?_cons]
      cases (transitions.filter fun n => n.ckbTxHash = k).getLast? with
      | none => rfl
      | some n' => simp only [Option.map_some, Option.some_or, insertedRow_insertedRow, Option.getD_some]
    · rw [if_neg hk, List.filter_cons_of_neg (by simp [Ne.symm hk])]

theorem applyBatch_transitions (st : Store) (b : IndexBatch) (now : DateTime) (hash : Bytes) :
    (st.applyBatch b now).1.rgbppTransitions.get? hash =
      ((lastFor b.transitions hash).map (insertedRow (st.rgbppTransitions.get? hash))).or
        (st.rgbppTransitions.get? hash) := by
  rw [Store.applyBatch_fst]
  exact get?_foldl_transitionInsert ..

/-- A row that was there keeps its result, with the expected commitment of the batch. -/
theorem get?_reindexed {st : Store} {b : IndexBatch} {hash : Bytes} {t : TransitionRecord}
    (ht : st.rgbppTransitions.get? hash = some t) (now : DateTime) :
    ∃ t', (st.applyBatch b now).1.rgbppTransitions.get? hash = some t' ∧ t'.observedCommitment = t.observedCommitment ∧
      t'.commitmentStatus = t.commitmentStatus ∧
      t'.expectedCommitment = ((lastFor b.transitions hash).map NewTransition.expectedCommitment).getD t.expectedCommitment := by
  rw [applyBatch_transitions, ht]
  cases lastFor b.transitions hash with
  | none => exact ⟨t, rfl, rfl, rfl, rfl⟩
  | some n => exact ⟨_, rfl, rfl, rfl, rfl⟩

/-- A row that was not there is unchecked. -/
theorem get?_indexed {st : Store} {b : IndexBatch} {hash : Bytes} {t' : TransitionRecord} {now : DateTime}
    (hnone : st.rgbppTransitions.get? hash = none)
    (ht' : (st.applyBatch b now).1.rgbppTransitions.get? hash = some t') : t'.commitmentStatus = .unchecked := by
  rw [applyBatch_transitions, hnone, Option.or_none] at ht'
  obtain ⟨n, -, rfl⟩ := Option.map_eq_some_iff.mp ht'
  rfl

@[simp] theorem mismatchOf_applyBatch (st : Store) (b : IndexBatch) (now : DateTime) (hash : Bytes) :
    mismatchOf (st.applyBatch b now).1 hash = mismatchOf st hash := by
  rw [Store.applyBatch_fst]
  rfl

/-- A row that is there after a batch is new and unchecked, or keeps its result, with the expected commitment of the
batch. -/
theorem reindexed_cases {st : Store} {b : IndexBatch} {hash : Bytes} {t' : TransitionRecord} {now : DateTime}
    (ht' : (st.applyBatch b now).1.rgbppTransitions.get? hash = some t') :
    (st.rgbppTransitions.get? hash = none ∧ t'.commitmentStatus = .unchecked) ∨
      ∃ t, st.rgbppTransitions.get? hash = some t ∧ t'.observedCommitment = t.observedCommitment ∧
        t'.commitmentStatus = t.commitmentStatus ∧ t'.expectedCommitment =
          ((lastFor b.transitions hash).map NewTransition.expectedCommitment).getD t.expectedCommitment := by
  cases ht : st.rgbppTransitions.get? hash with
  | none => exact .inl ⟨rfl, get?_indexed ht ht'⟩
  | some t =>
    obtain ⟨t'', ht'', hsame⟩ := get?_reindexed (b := b) ht now
    rw [ht', Option.some.injEq] at ht''
    exact .inr ⟨t, rfl, ht'' ▸ hsame⟩

/-- What a batch that keeps it expects of a row that is `match`, or has a finding. -/
theorem KeepsExpected.getD {st : Store} {b : IndexBatch} {hash : Bytes} {t : TransitionRecord} (h : KeepsExpected st b)
    (ht : st.rgbppTransitions.get? hash = some t)
    (hresult : t.commitmentStatus = .match ∨ ∃ a, mismatchOf st hash = some a) :
    ((lastFor b.transitions hash).map NewTransition.expectedCommitment).getD t.expectedCommitment = t.expectedCommitment := by
  cases hlast : lastFor b.transitions hash with
  | none => rfl
  | some n => exact h hash t ht hresult n hlast

/-- **Which batches keep results and findings true.** -/
theorem current_batch_iff {w : World} (h : Current w.store) (hsound : Sound w) (b : IndexBatch) (now : DateTime) :
    Current (w.store.applyBatch b now).1 ↔ KeepsExpected w.store b := by
  constructor
  · intro hafter hash t ht hresult n hn
    obtain ⟨t', ht', hobserved, hstatus, hexpected⟩ := get?_reindexed (b := b) ht now
    rw [hn, Option.map_some, Option.getD_some] at hexpected
    rw [← hexpected]
    rcases hresult with hmatch | ⟨a, ha⟩
    · obtain ⟨c, he, ho⟩ := (h.agrees hash t ht).matched hmatch
      obtain ⟨c', he', ho'⟩ := (hafter.agrees hash t' ht').matched (hstatus.trans hmatch)
      rw [hobserved, ho] at ho'
      rw [he', he, ← ho']
    · obtain ⟨t₁, ht₁, ⟨e, he, hdetail⟩, -⟩ := h.findings hash a ha
      obtain ⟨t₂, ht₂, ⟨e', he', hdetail'⟩, -⟩ := hafter.findings hash a (by rw [mismatchOf_applyBatch, ha])
      rw [ht, Option.some.injEq] at ht₁
      rw [ht', Option.some.injEq] at ht₂
      subst ht₁ ht₂
      rw [hdetail, Option.some.injEq] at hdetail'
      rw [he', he, hexText_injective hdetail']
  · intro hkeeps
    refine ⟨fun hash t' ht' => ?_, fun hash a ha => ?_⟩
    · rcases reindexed_cases ht' with ⟨-, hunchecked⟩ | ⟨t, ht, hobserved, hstatus, hexpected⟩
      · exact ⟨fun hbad => by simp [hunchecked] at hbad, fun hbad => by simp [hunchecked] at hbad⟩
      · -- a comparison is kept with what it compared
        have hsame : t.commitmentStatus = .match ∨ t.commitmentStatus = .mismatch →
            t'.expectedCommitment = t.expectedCommitment := fun hconcluded =>
          hexpected.trans (hkeeps.getD ht (hconcluded.imp_right fun hmismatch => hsound.reported hash t ht hmismatch))
        obtain ⟨hmatched, hmismatched⟩ := h.agrees hash t ht
        refine ⟨fun hmatch => ?_, fun hmismatch => ?_⟩
        · rw [hstatus] at hmatch
          rw [hsame (.inl hmatch), hobserved]
          exact hmatched hmatch
        · rw [hstatus] at hmismatch
          rw [hsame (.inr hmismatch), hobserved]
          exact hmismatched hmismatch
    · rw [mismatchOf_applyBatch] at ha
      obtain ⟨t, ht, hnames⟩ := h.findings hash a ha
      obtain ⟨t', ht', hobserved, -, hexpected⟩ := get?_reindexed (b := b) ht now
      rw [hkeeps.getD ht (.inr ⟨a, ha⟩)] at hexpected
      exact ⟨t', ht', by rw [hexpected]; exact hnames.expected, by rw [hobserved]; exact hnames.observed⟩

/-! ## Checks -/

/-- What is decided about a row the source answers with a published commitment. -/
theorem verdict_of_publishes {replies : BtcReplies} {t : TransitionRecord} {o : Bytes} (h : Publishes replies t o) :
    verdict replies t = .ok (some ⟨some o, compareCommitments t.expectedCommitment (some o)⟩) := by
  obtain ⟨hkind, btcTxid, txid, tx, hbtc, hparse, hlookup, hcommitment⟩ := h
  unfold verdict
  rw [hbtc]
  dsimp only
  rw [if_neg hkind, hparse]
  dsimp only
  rw [hlookup]
  dsimp only [judge]
  rw [hcommitment]

/-- Any other decision observes nothing and compares nothing. -/
theorem verdict_cases {replies : BtcReplies} {t : TransitionRecord} {r : CommitmentResult}
    (h : verdict replies t = .ok (some r)) :
    (∃ o, Publishes replies t o ∧ r = ⟨some o, compareCommitments t.expectedCommitment (some o)⟩) ∨
      (r.observed = none ∧ r.status ≠ .match ∧ r.status ≠ .mismatch) := by
  unfold verdict at h
  cases hbtc : t.btcTxid with
  | none =>
    rw [hbtc] at h
    cases h
  | some btcTxid =>
    rw [hbtc] at h
    dsimp only at h
    by_cases hkind : t.kind = .issuance
    · rw [if_pos hkind] at h
      obtain rfl := Option.some.inj (Except.ok.inj h)
      exact .inr ⟨rfl, nofun, nofun⟩
    · rw [if_neg hkind] at h
      cases hparse : BtcTxid.fromDisplaySlice btcTxid with
      | error e =>
        rw [hparse] at h
        cases h
      | ok txid =>
        rw [hparse] at h
        dsimp only at h
        cases hlookup : replies.transaction txid with
        | error e =>
          rw [hlookup] at h
          cases h
        | ok reply =>
          rw [hlookup] at h
          obtain rfl := Option.some.inj (Except.ok.inj h)
          cases reply with
          | none => exact .inr ⟨rfl, nofun, nofun⟩
          | some tx =>
            cases hcommitment : tx.commitment.map ByteArr.bytes with
            | none =>
              refine .inr ?_
              dsimp only [judge]
              rw [hcommitment]
              cases t.expectedCommitment <;> exact ⟨rfl, nofun, nofun⟩
            | some o =>
              refine .inl ⟨o, ⟨hkind, btcTxid, txid, tx, hbtc, hparse, hlookup, hcommitment⟩, ?_⟩
              dsimp only [judge]
              rw [hcommitment]

/-- A mismatch is recorded with what was expected and what was observed. -/
theorem verifyStep_mismatch (v : CommitmentVerifier) (now : DateTime) (moment : Nat) (st : Store)
    {row : Bytes × TransitionRecord} {e o : Bytes} (hpublishes : Publishes (v.reconciler.btc.moment moment) row.2 o)
    (he : row.2.expectedCommitment = some e) (hne : e ≠ o) :
    ∃ btcTxid txid, (v.verifyStep now moment (st, {}) row).1.1.rgbppAnomalies =
      (st.recordForTransition .commitmentMismatch row.1 (some btcTxid) (mismatchDetail e o txid) now).rgbppAnomalies := by
  obtain ⟨hkind, btcTxid, txid, tx, hbtc, hparse, hlookup, hcommitment⟩ := hpublishes
  have hresult := Reconciler.refreshBtcTx_result v.reconciler moment st txid
  obtain ⟨-, hsame⟩ := Reconciler.refreshBtcTx_same v.reconciler moment st txid
  refine ⟨btcTxid, txid, ?_⟩
  unfold verifyStep
  dsimp only
  rw [hbtc]
  dsimp only
  rw [if_neg hkind, hparse]
  dsimp only
  rw [hlookup] at hresult
  generalize v.reconciler.refreshBtcTx moment st txid = fetched at hresult hsame ⊢
  obtain ⟨s, result⟩ := fetched
  dsimp only at hresult hsame
  subst hresult
  dsimp only
  unfold checkCommitment
  dsimp only
  rw [hcommitment, he]
  dsimp only [compareCommitments]
  rw [if_neg hne]
  show (s.recordForTransition _ _ _ _ _).rgbppAnomalies = _
  unfold Store.recordForTransition Store.recordAnomaly
  dsimp only
  rw [hsame]

section
variable (v : CommitmentVerifier) (now : DateTime) (moment : Nat) (st : Store) {row : Bytes × TransitionRecord}
  {o e : Bytes} {t : TransitionRecord}

variable {st} in
theorem get?_checkedStore_ne {hash : Bytes} (h : hash ≠ row.1) :
    (checkedStore v now moment st row).rgbppTransitions.get? hash = st.rgbppTransitions.get? hash :=
  ((verifyStep_spec v now moment st {} row).get? hash).trans (if_neg h)

variable {st} in
theorem get?_checkedStore (ht : st.rgbppTransitions.get? row.1 = some t) :
    (checkedStore v now moment st row).rgbppTransitions.get? row.1 =
      some (settle (verdict (v.reconciler.btc.moment moment) row.2) t) := by
  refine ((verifyStep_spec v now moment st {} row).get? row.1).trans ?_
  rw [if_pos rfl, ht, Option.map_some]

/-- The finding of a transition is left alone, but for that of a row found to be a mismatch. -/
theorem mismatchOf_checkedStore {hash : Bytes}
    (h : hash ≠ row.1 ∨ recorded (verdict (v.reconciler.btc.moment moment) row.2) ≠ some .commitmentMismatch) :
    mismatchOf (checkedStore v now moment st row) hash = mismatchOf st hash := by
  refine (verifyStep_spec v now moment st {} row).get?_anomaly fun kind hkind hkey => ?_
  obtain ⟨rfl, htext⟩ := dedupKey_inj hkey
  rcases h with hne | hnot
  · exact hne (hexText_injective htext)
  · exact hnot hkind

variable {v moment} in
/-- What is recorded about a row with a published commitment. -/
theorem recorded_of_publishes (hpublishes : Publishes (v.reconciler.btc.moment moment) row.2 o) :
    recorded (verdict (v.reconciler.btc.moment moment) row.2) = some .commitmentMismatch ↔
      ∃ e, row.2.expectedCommitment = some e ∧ e ≠ o := by
  rw [verdict_of_publishes hpublishes]
  cases he : row.2.expectedCommitment with
  | none => simp [recorded, compareCommitments, finding]
  | some e =>
    by_cases heq : e = o
    · simp [recorded, compareCommitments, finding, heq]
    · simp [recorded, compareCommitments, finding, heq]

/-- A row found to be a mismatch has a finding that says so. -/
theorem mismatchOf_mismatch (hpublishes : Publishes (v.reconciler.btc.moment moment) row.2 o)
    (he : row.2.expectedCommitment = some e) (hne : e ≠ o) :
    ∃ a, mismatchOf (checkedStore v now moment st row) row.1 = some a ∧
      a.detail.getStr "expected" = some (hexText e) ∧ a.detail.getStr "observed" = some (hexText o) := by
  obtain ⟨btcTxid, txid, hrecorded⟩ := verifyStep_mismatch v now moment st hpublishes he hne
  unfold mismatchOf checkedStore
  rw [hrecorded, get?_recordForTransition, if_pos rfl]
  refine ⟨_, rfl, ?_⟩
  cases st.rgbppAnomalies.get? (dedupKey .commitmentMismatch (hexText row.1)) with
  | none => exact ⟨rfl, rfl⟩
  | some a => exact ⟨rfl, rfl⟩

/-- A finding is not lost. -/
theorem exists_mismatchOf_checkedStore {hash : Bytes} (h : ∃ a, mismatchOf st hash = some a) :
    ∃ a, mismatchOf (checkedStore v now moment st row) hash = some a := by
  by_cases hother : hash ≠ row.1 ∨ recorded (verdict (v.reconciler.btc.moment moment) row.2) ≠ some .commitmentMismatch
  · rw [mismatchOf_checkedStore v now moment st hother]
    exact h
  · rw [not_or, not_not, not_not] at hother
    obtain ⟨rfl, hrecorded⟩ := hother
    have hrecords := (verifyStep_spec v now moment st {} row).anomalies
    rw [hrecorded] at hrecords
    obtain ⟨btcTxid, detail, hanomalies⟩ := hrecords
    unfold mismatchOf checkedStore
    rw [hanomalies, get?_recordForTransition, if_pos rfl]
    exact ⟨_, rfl⟩

/-! ### What a check has to respect -/

variable {st}

/-- If results and findings are true after it, the check compared with what is expected. -/
theorem expected_of_current (h : Current (checkedStore v now moment st row))
    (hpublishes : Publishes (v.reconciler.btc.moment moment) row.2 o) (he : row.2.expectedCommitment = some e)
    (ht : st.rgbppTransitions.get? row.1 = some t) : t.expectedCommitment = some e := by
  have hrow := get?_checkedStore v now moment ht
  rw [verdict_of_publishes hpublishes, he] at hrow
  by_cases heq : e = o
  · obtain ⟨c, hc, ho⟩ := (h.agrees row.1 _ hrow).matched (by simp [settle, compareCommitments, heq])
    obtain rfl : o = c := Option.some.inj ho
    rw [heq]
    exact hc
  · obtain ⟨a, ha, hdetail, -⟩ := mismatchOf_mismatch v now moment st hpublishes he heq
    obtain ⟨t', ht', ⟨e', he', hnamed⟩, -⟩ := h.findings row.1 a ha
    rw [hrow, Option.some.injEq] at ht'
    subst ht'
    rw [hdetail, Option.some.injEq] at hnamed
    rw [hexText_injective hnamed]
    exact he'

/-- And it observed what a finding says, or wrote the finding anew. -/
theorem observed_of_current (hbefore : Current st) (h : Current (checkedStore v now moment st row))
    (hpublishes : Publishes (v.reconciler.btc.moment moment) row.2 o) {a : AnomalyRow} (ha : mismatchOf st row.1 = some a) :
    a.detail.getStr "observed" = some (hexText o) ∨ ∃ e, row.2.expectedCommitment = some e ∧ e ≠ o := by
  by_cases hmismatch : ∃ e, row.2.expectedCommitment = some e ∧ e ≠ o
  · exact .inr hmismatch
  · obtain ⟨t, ht, -⟩ := hbefore.findings row.1 a ha
    have hsame : mismatchOf (checkedStore v now moment st row) row.1 = mismatchOf st row.1 :=
      mismatchOf_checkedStore v now moment st (.inr fun hr => hmismatch ((recorded_of_publishes hpublishes).mp hr))
    obtain ⟨t', ht', hnames⟩ := h.findings row.1 a (hsame.trans ha)
    rw [get?_checkedStore v now moment ht, verdict_of_publishes hpublishes, Option.some.injEq] at ht'
    subst ht'
    exact .inl (hnames.observed o rfl)

/-- A row that is checked in time agrees with what is written into it. -/
theorem agrees_checked (h : Agrees t) (htimely : Timely (v.reconciler.btc.moment moment) st row)
    (ht : st.rgbppTransitions.get? row.1 = some t) :
    Agrees (settle (verdict (v.reconciler.btc.moment moment) row.2) t) := by
  cases hdecided : verdict (v.reconciler.btc.moment moment) row.2 with
  | error e => exact h
  | ok result =>
    cases result with
    | none => exact h
    | some r =>
      rcases verdict_cases hdecided with ⟨o, hpublishes, rfl⟩ | ⟨-, hmatch, hmismatch⟩
      · cases he : row.2.expectedCommitment with
        | none => exact ⟨nofun, nofun⟩
        | some e =>
          have hexpected := htimely.expected o e hpublishes he t ht
          by_cases heq : e = o
          · refine ⟨fun _ => ⟨o, heq ▸ hexpected, rfl⟩, fun hbad => ?_⟩
            simp [settle, compareCommitments, heq] at hbad
          · refine ⟨fun hbad => ?_, fun _ => ⟨e, o, hexpected, rfl, heq⟩⟩
            simp [settle, compareCommitments, heq] at hbad
      · exact ⟨fun hbad => absurd hbad hmatch, fun hbad => absurd hbad hmismatch⟩

/-- And its finding, old or new, names what the row holds. -/
theorem names_checked (h : Current st) (htimely : Timely (v.reconciler.btc.moment moment) st row)
    (ht : st.rgbppTransitions.get? row.1 = some t) {a : AnomalyRow}
    (ha : mismatchOf (checkedStore v now moment st row) row.1 = some a) :
    Names a (settle (verdict (v.reconciler.btc.moment moment) row.2) t) := by
  -- what the finding said, where it is not written anew
  have hold : recorded (verdict (v.reconciler.btc.moment moment) row.2) ≠ some .commitmentMismatch →
      mismatchOf st row.1 = some a ∧ Names a t := by
    intro hnot
    rw [mismatchOf_checkedStore v now moment st (.inr hnot)] at ha
    obtain ⟨t', ht', hnames⟩ := h.findings row.1 a ha
    rw [ht, Option.some.injEq] at ht'
    exact ⟨ha, ht' ▸ hnames⟩
  cases hdecided : verdict (v.reconciler.btc.moment moment) row.2 with
  | error e => exact (hold (by rw [hdecided]; nofun)).2
  | ok result =>
    cases result with
    | none => exact (hold (by rw [hdecided]; nofun)).2
    | some r =>
      rcases verdict_cases hdecided with ⟨o, hpublishes, rfl⟩ | ⟨hnone, -, hmismatch⟩
      · by_cases hagain : ∃ e, row.2.expectedCommitment = some e ∧ e ≠ o
        · obtain ⟨e, he, hne⟩ := hagain
          obtain ⟨a', ha', hexpected, hobserved⟩ := mismatchOf_mismatch v now moment st hpublishes he hne
          rw [ha', Option.some.injEq] at ha
          subst ha
          refine ⟨⟨e, htimely.expected o e hpublishes he t ht, hexpected⟩, fun o' ho' => ?_⟩
          rw [hobserved, Option.some.inj ho']
        · obtain ⟨hstored, hnames⟩ := hold fun hr => hagain ((recorded_of_publishes hpublishes).mp hr)
          refine ⟨hnames.expected, fun o' ho' => ?_⟩
          rcases htimely.observed o a hpublishes hstored with hsaid | hbad
          · rw [hsaid, Option.some.inj ho']
          · exact absurd hbad hagain
      · have hnot : recorded (verdict (v.reconciler.btc.moment moment) row.2) ≠ some .commitmentMismatch := by
          rw [hdecided]
          intro hr
          cases hstatus : r.status <;> simp [recorded, finding, hstatus] at hr
          exact hmismatch hstatus
        refine ⟨(hold hnot).2.expected, fun o' ho' => ?_⟩
        cases hnone.symm.trans ho'

/-- **Which checks keep results and findings true.** -/
theorem current_check_iff (h : Current st) (hstored : ∃ t, st.rgbppTransitions.get? row.1 = some t) :
    Current (checkedStore v now moment st row) ↔ Timely (v.reconciler.btc.moment moment) st row := by
  constructor
  · intro hafter
    exact ⟨fun o e hpublishes he t ht => expected_of_current v now moment hafter hpublishes he ht,
      fun o a hpublishes ha => observed_of_current v now moment h hafter hpublishes ha⟩
  · intro htimely
    obtain ⟨t, ht⟩ := hstored
    refine ⟨fun hash t' ht' => ?_, fun hash a ha => ?_⟩
    · by_cases hhash : hash = row.1
      · rw [hhash, get?_checkedStore v now moment ht, Option.some.injEq] at ht'
        subst ht'
        exact agrees_checked v moment (h.agrees row.1 t ht) htimely ht
      · rw [get?_checkedStore_ne v now moment hhash] at ht'
        exact h.agrees hash t' ht'
    · by_cases hhash : hash = row.1
      · subst hhash
        exact ⟨_, get?_checkedStore v now moment ht, names_checked v now moment h htimely ht ha⟩
      · rw [mismatchOf_checkedStore v now moment st (.inl hhash)] at ha
        rw [get?_checkedStore_ne v now moment hhash]
        exact h.findings hash a ha

end

/-! ## Runs -/

theorem current_start : Current start.store := by
  constructor
  · intro hash t ht
    cases ht
  · intro hash a ha
    cases ha

/-- The rows that were read stay stored, and a mismatch keeps its finding, whatever the steps are. -/
theorem Sound.step {w w' : World} {event : Event} (h : Sound w) (hstep : writers.step w event w') : Sound w' := by
  cases event with
  | batch b now =>
    obtain rfl := hstep
    refine ⟨fun row hrow => ?_, fun hash t' ht' hmismatch => ?_⟩
    · obtain ⟨t, ht⟩ := h.read row hrow
      obtain ⟨t', ht', -⟩ := get?_reindexed (b := b) ht now
      exact ⟨t', ht'⟩
    · rw [mismatchOf_applyBatch]
      rcases reindexed_cases ht' with ⟨-, hunchecked⟩ | ⟨t, ht, -, hstatus, -⟩
      · rw [hunchecked] at hmismatch
        cases hmismatch
      · exact h.reported hash t ht (hstatus.symm.trans hmismatch)
  | select v rows =>
    obtain ⟨transitions, hselect, rfl⟩ := hstep
    refine ⟨fun row hrow => ?_, h.reported⟩
    rcases List.mem_append.mp hrow with hrow | hrow
    · exact h.read row hrow
    · exact ⟨row.2, (selected_of_unchecked hselect).stored row hrow⟩
  | check v now moment row =>
    obtain ⟨hread, rfl⟩ := hstep
    refine ⟨fun other hother => ?_, fun hash t' ht' hmismatch => ?_⟩
    · obtain ⟨t, ht⟩ := h.read other hother
      by_cases heq : other.1 = row.1
      · exact ⟨_, heq ▸ get?_checkedStore v now moment (heq ▸ ht)⟩
      · exact ⟨t, (get?_checkedStore_ne v now moment heq).trans ht⟩
    · have hkept : ∀ t, w.store.rgbppTransitions.get? hash = some t → t.commitmentStatus = .mismatch →
          ∃ a, mismatchOf (w.check v now moment row).store hash = some a := fun t ht hold =>
        exists_mismatchOf_checkedStore v now moment w.store (h.reported hash t ht hold)
      by_cases hhash : hash = row.1
      · subst hhash
        obtain ⟨t, ht⟩ := h.read row hread
        have hrow : some t' = _ := ht'.symm.trans (get?_checkedStore v now moment ht)
        obtain rfl := Option.some.inj hrow
        cases hdecided : verdict (v.reconciler.btc.moment moment) row.2 with
        | error e =>
          rw [hdecided] at hmismatch
          exact hkept t ht hmismatch
        | ok result =>
          cases result with
          | none =>
            rw [hdecided] at hmismatch
            exact hkept t ht hmismatch
          | some r =>
            rw [hdecided] at hmismatch
            rcases verdict_cases hdecided with ⟨o, hpublishes, rfl⟩ | ⟨-, -, hnot⟩
            · cases he : row.2.expectedCommitment with
              | none =>
                rw [he] at hmismatch
                cases hmismatch
              | some e =>
                have hne : e ≠ o := fun heq => by simp [settle, compareCommitments, he, heq] at hmismatch
                obtain ⟨a, ha, -⟩ := mismatchOf_mismatch v now moment w.store hpublishes he hne
                exact ⟨a, ha⟩
            · exact absurd hmismatch hnot
      · exact hkept t' ((get?_checkedStore_ne v now moment hhash).symm.trans ht') hmismatch

/-- **In every run of steady steps, every result and every finding is about the commitment that is expected now.** -/
theorem current_of_run {w : World} {events : List Event} (hrun : (writers.restrict Steady).Run start events w) :
    Current w.store := by
  have hstart : Current start.store ∧ Sound start :=
    ⟨current_start, ⟨fun row hrow => (by cases hrow), fun hash t ht => (by cases ht)⟩⟩
  suffices h : Current w.store ∧ Sound w from h.1
  refine hrun.keeps (I := fun w => Current w.store ∧ Sound w) (fun w event w' h hstep => ?_) hstart
  obtain ⟨hcurrent, hsound⟩ := h
  obtain ⟨hstep, hsteady⟩ := hstep
  refine ⟨?_, hsound.step hstep⟩
  cases event with
  | batch b now =>
    obtain rfl := hstep
    exact (current_batch_iff hcurrent hsound b now).mpr hsteady
  | select v rows =>
    obtain ⟨transitions, -, rfl⟩ := hstep
    exact hcurrent
  | check v now moment row =>
    obtain ⟨hread, rfl⟩ := hstep
    exact (current_check_iff v now moment hcurrent (hsound.read row hread)).mpr hsteady

theorem run_afterSteps (w : World) (v : CommitmentVerifier) (now : DateTime) (moment : Nat)
    {done : List (Bytes × TransitionRecord)} (hread : ∀ row ∈ done, row ∈ w.read) :
    ∃ events, writers.Run w events { w with store := v.afterSteps now moment w.store done } := by
  induction done using List.reverseRecOn with
  | nil => exact ⟨[], .nil⟩
  | append_singleton done row ih =>
    obtain ⟨events, hrun⟩ := ih fun b hb => hread b (List.mem_append_left _ hb)
    have hnext : v.afterSteps now moment w.store (done ++ [row]) =
        (v.verifyStep now (moment + done.length) (v.afterSteps now moment w.store done, {}) row).1.1 := by
      unfold CommitmentVerifier.afterSteps
      rw [afterPasses_append]
      exact System.verifyStep_store v now (moment + done.length) _ row
    have hcheck : writers.step { w with store := v.afterSteps now moment w.store done }
        (.check v now (moment + done.length) row)
        (World.check { w with store := v.afterSteps now moment w.store done } v now (moment + done.length) row) :=
      ⟨hread row (by simp), rfl⟩
    refine ⟨events ++ [.check v now (moment + done.length) row], ?_⟩
    rw [hnext]
    exact hrun.snoc hcheck

/-- A pass of the verifier is a run. -/
theorem verifyOnce_run (w : World) (v : CommitmentVerifier) (rows : RowOrder (Bytes × TransitionRecord)) (moment : Nat)
    (now : DateTime) : ∃ events w', writers.Run w events w' ∧ w'.store = (v.verifyOnce rows moment now w.store).1 := by
  cases hselect : w.store.uncheckedTransitions rows v.batchSize with
  | error e =>
    refine ⟨[], w, .nil, ?_⟩
    unfold CommitmentVerifier.verifyOnce
    rw [hselect]
  | ok batch =>
    obtain ⟨steps, hpre, hafter, -⟩ := v.verifyOnce_steps now moment w.store hselect
    have hfirst : writers.step w (.select v rows) { w with read := w.read ++ batch } := ⟨batch, hselect, rfl⟩
    obtain ⟨events, hrun⟩ := run_afterSteps { w with read := w.read ++ batch } v now moment
      fun row hrow => List.mem_append_right _ (hpre.subset hrow)
    exact ⟨_, _, .cons hfirst hrun, hafter.symm⟩

/-! ## The counterexample -/

def txid : BtcTxid := ⟨.filled 32 9⟩

/-- The Bitcoin transaction publishes `0xab…`. -/
def published : BtcTxInfo where
  txid := txid
  confirmation := none
  inputs := []
  outputs := [{ value := 0, scriptPubkey := [0x6a, 0x20] ++ List.replicate 32 0xab, address := none }]
  fee := none

def verifier : CommitmentVerifier where
  batchSize := 100
  reconciler :=
    { config := .testnet 64
      btc :=
        { name := "esplora"
          moment := fun _ =>
            { transaction := fun _ => .ok (some published)
              outpointStatus := fun _ => .ok .unspent
              txOutspends := fun _ => .ok none
              addressUtxos := fun _ => .ok [] } }
      completion := .inOrder
      now := 0 }

/-- A transfer that expects this commitment. -/
def transfer (expected : UInt8) : NewTransition where
  ckbTxHash := List.replicate 32 1
  blockNumber := 100
  blockHash := List.replicate 32 2
  txIndex := 1
  blockTimestamp := none
  kind := .transfer
  btcTxid := some txid.toDisplayVec
  inputCellCount := 1
  outputCellCount := 1
  expectedCommitment := some (List.replicate 32 expected)

def round (expected : UInt8) : IndexBatch := { transitions := [transfer expected] }

/-- The transfer is indexed, with this commitment. -/
def indexed (expected : UInt8) : World := { start with store := (start.store.applyBatch (round expected) 0).1 }

/-- What the pass reads. -/
def readRow (expected : UInt8) : Bytes × TransitionRecord :=
  ((transfer expected).ckbTxHash, insertedRow none (transfer expected))

def selected (expected : UInt8) : World := { indexed expected with read := [readRow expected] }

def checked (expected : UInt8) : World := (selected expected).check verifier 0 0 (readRow expected)

/-- It is checked, and indexed again. -/
def reindexed (expected later : UInt8) : World :=
  { checked expected with store := ((checked expected).store.applyBatch (round later) 1).1 }

theorem step_indexed (expected : UInt8) : writers.step start (.batch (round expected) 0) (indexed expected) := rfl

theorem step_selected (expected : UInt8) :
    writers.step (indexed expected) (.select verifier .storage) (selected expected) := ⟨[readRow expected], rfl, rfl⟩

theorem step_checked (expected : UInt8) :
    writers.step (selected expected) (.check verifier 0 0 (readRow expected)) (checked expected) :=
  ⟨List.mem_singleton.mpr rfl, rfl⟩

theorem step_reindexed (expected later : UInt8) :
    writers.step (checked expected) (.batch (round later) 1) (reindexed expected later) := rfl

/-- **The transfer is still `match` after its expected commitment was replaced.** -/
theorem replaced_after_match :
    (∃ events, writers.Run start events (reindexed 0xab 0xcd)) ∧
    (∃ t, (reindexed 0xab 0xcd).store.rgbppTransitions.get? (transfer 0xab).ckbTxHash = some t ∧
      t.commitmentStatus = .match ∧ t.observedCommitment = some (List.replicate 32 0xab) ∧
      t.expectedCommitment = some (List.replicate 32 0xcd)) ∧
    ¬Current (reindexed 0xab 0xcd).store := by
  have hrow : ((reindexed 0xab 0xcd).store.rgbppTransitions.get? (transfer 0xab).ckbTxHash).any (fun t =>
      t.commitmentStatus = .match ∧ t.observedCommitment = some (List.replicate 32 0xab) ∧
        t.expectedCommitment = some (List.replicate 32 0xcd)) = true := by decide +kernel
  obtain ⟨t, ht, hfields⟩ := (Option.any_eq_true ..).mp hrow
  obtain ⟨hmatch, hobserved, hexpected⟩ := of_decide_eq_true hfields
  refine ⟨⟨_, .cons (step_indexed _) (.cons (step_selected _) (.cons (step_checked _) (.single (step_reindexed _ _))))⟩,
    ⟨t, ht, hmatch, hobserved, hexpected⟩, fun hcurrent => ?_⟩
  obtain ⟨c, he, ho⟩ := (hcurrent.agrees _ t ht).matched hmatch
  rw [hexpected] at he
  rw [hobserved, ← he] at ho
  exact absurd ho (by decide)

/-- A transfer found to be a mismatch, and indexed again as it was. -/
theorem current_of_run_mismatch : Current (reindexed 0xcd 0xcd).store ∧
    ∃ a, mismatchOf (reindexed 0xcd 0xcd).store (transfer 0xcd).ckbTxHash = some a := by
  have hindexed : (writers.restrict Steady).step start (.batch (round 0xcd) 0) (indexed 0xcd) :=
    ⟨step_indexed _, fun hash t ht => by cases ht⟩
  have hselected : (writers.restrict Steady).step (indexed 0xcd) (.select verifier .storage) (selected 0xcd) :=
    ⟨step_selected _, trivial⟩
  have hread : (selected 0xcd).store.rgbppTransitions.get? (readRow 0xcd).1 = some (readRow 0xcd).2 := by decide +kernel
  have hchecked : (writers.restrict Steady).step (selected 0xcd) (.check verifier 0 0 (readRow 0xcd)) (checked 0xcd) := by
    refine ⟨step_checked _, fun o e _ he t ht => ?_, fun o a _ ha => by cases ha⟩
    rw [hread] at ht
    exact Option.some.inj ht ▸ he
  have hreindexed : (writers.restrict Steady).step (checked 0xcd) (.batch (round 0xcd) 1) (reindexed 0xcd 0xcd) := by
    refine ⟨step_reindexed _ _, fun hash t ht _ n hn => ?_⟩
    have hmem := List.mem_filter.mp (List.mem_of_getLast? hn)
    obtain rfl := List.mem_singleton.mp hmem.1
    obtain rfl := of_decide_eq_true hmem.2
    have hrow := (get?_checkedStore verifier 0 0 hread).symm.trans ht
    rw [← Option.some.inj hrow]
    rfl
  have hfinding : (mismatchOf (reindexed 0xcd 0xcd).store (transfer 0xcd).ckbTxHash).isSome = true := by decide +kernel
  exact ⟨current_of_run (.cons hindexed (.cons hselected (.cons hchecked (.single hreindexed)))),
    Option.isSome_iff_exists.mp hfinding⟩

end RgbppIndexer.Bugs.ReplacedCommitment
