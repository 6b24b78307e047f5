import RgbppIndexer.Indexer.Verdicts

/-!
# One failing lookup starves the checks behind it

`verify_once` looks up the Bitcoin transaction of each unchecked transition,
and leaves with `?` at the first lookup that fails
(crates/indexer/src/verify.rs:98). The refresh and the misspend search answer
such an error item by item (crates/indexer/src/reconcile.rs:163-175). The work
list is ordered by block number (crates/store/src/transitions.rs:86-88), so
the failing transition stands where it stood in the next pass.

Counterexample: two unchecked transitions, and a data source that cannot look
up the transaction of the first. After any number of passes the second is
unchecked (`starved`).

The limit of the work list counts the failing ones too: as many of them as fit
into a batch hide every other stored transition. So what a failing lookup
keeps unchecked is not only in the batch. It is the `Turn` of a stored
transition when those ahead of it that are not looked up in vain leave room
for it.

* `checked_iff`: what a pass makes of one stored transition whose turn it is.
* `settles_iff`: **a pass checks every transition whose transaction the source
  answers exactly when none of them stands behind one whose lookup fails.**
  (And none of them lacks a digest to compare.)
* `neverKept_iff`: the same over any sequence of passes.
-/
namespace RgbppIndexer.Bugs.StarvedChecks

open RgbppIndexer.Core CommitmentVerifier

/-- The data source fails on exactly these transactions, whenever it is asked. -/
def FailsOn (btc : BtcDataSource) (fails : BtcTxid → Prop) : Prop :=
  ∀ m txid, (∃ e, (btc.moment m).transaction txid = .error e) ↔ fails txid

section
variable (fails : BtcTxid → Prop)

/-- The transition names a Bitcoin transaction that the source answers. -/
def Answered (t : TransitionRecord) : Prop :=
  ∃ btcTxid txid, t.btcTxid = some btcTxid ∧ BtcTxid.fromDisplaySlice btcTxid = .ok txid ∧ ¬ fails txid

/-- The transition is looked up in vain. -/
def Blocked (t : TransitionRecord) : Prop :=
  t.kind ≠ .issuance ∧ ∃ btcTxid, t.btcTxid = some btcTxid ∧
    ∀ txid, BtcTxid.fromDisplaySlice btcTxid = .ok txid → fails txid

end

/-- The transition has no digest, and its Bitcoin transaction publishes one: there is nothing to compare. -/
def Incomparable (replies : BtcReplies) (t : TransitionRecord) : Prop :=
  t.kind ≠ .issuance ∧ t.expectedCommitment = none ∧ ∃ btcTxid txid tx, t.btcTxid = some btcTxid ∧
    BtcTxid.fromDisplaySlice btcTxid = .ok txid ∧ replies.transaction txid = .ok (some tx) ∧ tx.commitment ≠ none

/-- A pass of the verifier, and what other tasks write before it. -/
structure Pass where
  v : CommitmentVerifier
  rows : RowOrder (Bytes × TransitionRecord)
  moment : Nat
  now : DateTime
  before : Store → Store

namespace Pass

variable (p : Pass) (fails : BtcTxid → Prop) (st : Store)

/-- The database a pass that finds `st` leaves. -/
def leaves : Store := (p.v.verifyOnce p.rows p.moment p.now st).1

/-- The transition is there, and no longer unchecked. -/
def Checked (hash : Bytes) : Prop := ∃ t, st.rgbppTransitions.get? hash = some t ∧ t.commitmentStatus ≠ .unchecked

/-- All stored transitions that wait for a check, in the order of the selection. -/
def waiting : List (Bytes × TransitionRecord) :=
  let unchecked := st.rgbppTransitions.select fun _ t => decide (t.commitmentStatus = .unchecked ∧ t.btcTxid.isSome = true)
  (p.rows.order unchecked).insertionSort fun a b => a.2.blockNumber ≤ b.2.blockNumber

open Classical in
/-- It is the turn of a transition behind these: but for those looked up in vain, they do not fill a batch. -/
def Turn (ahead : List (Bytes × TransitionRecord)) : Prop :=
  ahead.countP (fun b => ¬ Blocked fails b.2) < p.v.batchSize.toInt.toNat

/-- After the pass, every transition of its batch that the source answers is no longer unchecked; and so is every stored
one that the source answers and whose turn it is. -/
structure Settles : Prop where
  batch : ∀ batch, st.uncheckedTransitions p.rows p.v.batchSize = .ok batch → ∀ row ∈ batch, Answered fails row.2 →
    Checked (p.leaves st) row.1
  stored : ∀ ahead row behind, p.waiting st = ahead ++ row :: behind → p.Turn fails ahead → Answered fails row.2 →
    Checked (p.leaves st) row.1

/-- No transition that the source answers and whose turn it is stands behind one that is looked up in vain, or has
nothing to compare. -/
def Clear : Prop :=
  ∀ ahead row behind, p.waiting st = ahead ++ row :: behind → p.Turn fails ahead → Answered fails row.2 →
    (∀ b ∈ ahead, ¬ Blocked fails b.2) ∧ ¬ Incomparable (p.v.reconciler.btc.moment (p.moment + ahead.length)) row.2

end Pass

section
variable {fails : BtcTxid → Prop} {btc : BtcDataSource} {p : Pass} {st : Store}

/-- Nothing is decided about a transition exactly when it is looked up in vain. -/
theorem verdict_ok_iff (h : FailsOn btc fails) (m : Nat) (t : TransitionRecord) :
    (∃ w, verdict (btc.moment m) t = .ok w) ↔ ¬ Blocked fails t := by
  unfold verdict Blocked
  cases t.btcTxid with
  | none => exact iff_of_true ⟨_, rfl⟩ (by simp)
  | some btcTxid =>
    dsimp only
    by_cases hkind : t.kind = .issuance
    · rw [if_pos hkind]
      exact iff_of_true ⟨_, rfl⟩ fun hb => hb.1 hkind
    · rw [if_neg hkind]
      cases hparse : BtcTxid.fromDisplaySlice btcTxid with
      | error e =>
        refine iff_of_false (fun ⟨w, hw⟩ => by cases hw) fun hb => hb ⟨hkind, btcTxid, rfl, fun txid hok => ?_⟩
        rw [hparse] at hok
        cases hok
      | ok txid =>
        have hfails := h m txid
        dsimp only
        cases hlookup : (btc.moment m).transaction txid with
        | error e =>
          refine iff_of_false (fun ⟨w, hw⟩ => by cases hw) fun hb => hb ⟨hkind, btcTxid, rfl, fun txid' hok => ?_⟩
          rw [hparse] at hok
          cases hok
          exact hfails.mp ⟨e, hlookup⟩
        | ok reply =>
          refine iff_of_true ⟨_, rfl⟩ ?_
          rintro ⟨-, b, hb, hall⟩
          obtain rfl := Option.some.inj hb
          obtain ⟨e, he⟩ := hfails.mpr (hall txid hparse)
          rw [hlookup] at he
          cases he

/-- What an answered transition is left with, if it is reached. -/
theorem settle_unchecked_iff (h : FailsOn btc fails) (m : Nat) {t : TransitionRecord} (hanswered : Answered fails t) :
    (settle (verdict (btc.moment m) t) t).commitmentStatus = .unchecked ↔ Incomparable (btc.moment m) t := by
  obtain ⟨btcTxid, txid, hbtc, hparse, hno⟩ := hanswered
  unfold verdict Incomparable
  rw [hbtc]
  dsimp only
  by_cases hkind : t.kind = .issuance
  · rw [if_pos hkind]
    exact iff_of_false nofun fun hi => hi.1 hkind
  · rw [if_neg hkind, hparse]
    dsimp only
    cases hlookup : (btc.moment m).transaction txid with
    | error e => exact absurd ((h m txid).mp ⟨e, hlookup⟩) hno
    | ok reply =>
      have hrest : (∃ b txid' tx, some btcTxid = some b ∧ BtcTxid.fromDisplaySlice b = .ok txid' ∧
          (btc.moment m).transaction txid' = .ok (some tx) ∧ tx.commitment ≠ none) ↔
            ∃ tx, reply = some tx ∧ tx.commitment ≠ none := by
        constructor
        · rintro ⟨b, txid', tx, hb, hparse', htx, hc⟩
          obtain rfl := Option.some.inj hb
          rw [hparse] at hparse'
          cases hparse'
          rw [hlookup] at htx
          cases htx
          exact ⟨tx, rfl, hc⟩
        · rintro ⟨tx, rfl, hc⟩
          exact ⟨btcTxid, txid, tx, rfl, hparse, hlookup, hc⟩
      rw [hrest]
      dsimp only [settle]
      cases reply with
      | none => exact iff_of_false nofun fun hi => by simp at hi
      | some tx =>
        dsimp only [judge]
        cases t.expectedCommitment with
        | none => cases hc : tx.commitment <;> simp [compareCommitments, hkind, hc]
        | some e =>
          refine iff_of_false ?_ fun hi => by simp at hi
          cases tx.commitment with
          | none => nofun
          | some c =>
            dsimp only [Option.map_some, compareCommitments]
            split <;> nofun

/-- **What a pass leaves of one transition of its batch**: the verdict, if nothing in front of it blocks, else what it was. -/
theorem get?_leaves (h : FailsOn p.v.reconciler.btc fails) {batch done rest : List (Bytes × TransitionRecord)}
    {row : Bytes × TransitionRecord} (hselect : st.uncheckedTransitions p.rows p.v.batchSize = .ok batch)
    (hsplit : batch = done ++ row :: rest) :
    ((∀ b ∈ done, ¬ Blocked fails b.2) → (p.leaves st).rgbppTransitions.get? row.1 =
      some (settle (verdict (p.v.reconciler.btc.moment (p.moment + done.length)) row.2) row.2)) ∧
    (¬ (∀ b ∈ done, ¬ Blocked fails b.2) → (p.leaves st).rgbppTransitions.get? row.1 = some row.2) := by
  have hselected := selected_of_unchecked hselect
  have hdecides : ∀ {pre : List (Bytes × TransitionRecord)} {b : Bytes × TransitionRecord},
      p.v.Decides p.moment pre b ↔ ¬ Blocked fails b.2 := verdict_ok_iff h _ _
  have hfree : (∀ pre b post, done = pre ++ b :: post → p.v.Decides p.moment pre b) ↔ ∀ b ∈ done, ¬ Blocked fails b.2 := by
    constructor
    · intro hall b hb
      obtain ⟨pre, post, hdone⟩ := List.append_of_mem hb
      exact hdecides.mp (hall pre b post hdone)
    · intro hall pre b post hdone
      exact hdecides.mpr (hall b (by rw [hdone]; simp))
  obtain ⟨hreached, hother, -⟩ := p.v.get?_verifyOnce p.now p.moment st hselect
  refine ⟨fun hclear => hreached done row ⟨⟨rest, hsplit⟩, hfree.mpr hclear⟩, fun hno => ?_⟩
  refine (hother row.1 fun done' row' hr heq => hno (hfree.mp ?_)).trans (hselected.stored row (by rw [hsplit]; simp))
  -- a row is in its batch once
  obtain ⟨⟨rest', hsplit'⟩, hdecided⟩ := hr
  have hrow' : row' ∈ batch := by rw [hsplit']; simp
  have hrow : row ∈ batch := by rw [hsplit]; simp
  have hsame : row' = row := by
    refine Prod.ext heq (Option.some.inj ?_)
    rw [← hselected.stored row' hrow', heq, hselected.stored row hrow]
  have hnodup : (done ++ row :: rest).Nodup := hsplit ▸ hselected.nodup.of_map
  obtain ⟨hdone, hrest⟩ : row ∉ done ∧ row ∉ rest := by
    have hall := List.nodup_middle.mp hnodup
    rw [List.nodup_cons, List.mem_append, not_or] at hall
    exact hall.1
  have hsplits : done ++ row :: rest = done' ++ row :: rest' := by rw [← hsplit, hsplit', hsame]
  obtain ⟨rfl, -⟩ := (List.append_cons_inj_of_notMem hdone hrest).mp hsplits
  exact hdecided

theorem unchecked_eq_ok {batch : List (Bytes × TransitionRecord)} :
    st.uncheckedTransitions p.rows p.v.batchSize = .ok batch ↔
      ¬ p.v.batchSize < 0 ∧ batch = (p.waiting st).take p.v.batchSize.toInt.toNat := by
  unfold Store.uncheckedTransitions Pass.waiting
  by_cases hneg : p.v.batchSize < 0
  · rw [if_pos hneg]
    exact iff_of_false nofun fun hboth => hboth.1 hneg
  · rw [if_neg hneg, and_iff_right hneg, Except.ok.injEq]
    exact eq_comm

theorem stored_of_waiting {ahead behind : List (Bytes × TransitionRecord)} {row : Bytes × TransitionRecord}
    (hsplit : p.waiting st = ahead ++ row :: behind) :
    st.rgbppTransitions.get? row.1 = some row.2 ∧ row.2.commitmentStatus = .unchecked := by
  have h : row ∈ p.waiting st := by
    rw [hsplit]
    simp
  unfold Pass.waiting at h
  rw [List.mem_insertionSort, p.rows.mem_order, Table.mem_select, decide_eq_true_eq] at h
  exact ⟨h.1, h.2.1⟩

theorem waiting_nodup (p : Pass) (st : Store) : ((p.waiting st).map Prod.fst).Nodup := by
  have hperm := ((List.perm_insertionSort (fun a b : Bytes × TransitionRecord => a.2.blockNumber ≤ b.2.blockNumber) _).trans
    (p.rows.perm (st.rgbppTransitions.select fun _ t => decide (t.commitmentStatus = .unchecked ∧ t.btcTxid.isSome = true)))).map
    Prod.fst
  exact hperm.nodup_iff.mpr (Table.select_keys_nodup ..)

/-- A transition behind the limit is left as it was. -/
theorem get?_leaves_behind {ahead behind : List (Bytes × TransitionRecord)} {row : Bytes × TransitionRecord}
    (hsplit : p.waiting st = ahead ++ row :: behind) (hlimit : p.v.batchSize.toInt.toNat ≤ ahead.length) :
    (p.leaves st).rgbppTransitions.get? row.1 = some row.2 := by
  have hstored := (stored_of_waiting hsplit).1
  cases hselect : st.uncheckedTransitions p.rows p.v.batchSize with
  | error e =>
    unfold Pass.leaves verifyOnce
    rw [hselect]
    exact hstored
  | ok batch =>
    refine ((p.v.get?_verifyOnce p.now p.moment st hselect).2.1 row.1 fun done b hreaches heq => ?_).trans hstored
    -- the batch is a part of what stands ahead
    have hb : b ∈ batch := by
      obtain ⟨rest, hbatch⟩ := hreaches.split
      rw [hbatch]
      simp
    rw [(unchecked_eq_ok.mp hselect).2, hsplit, List.take_append_of_le_length hlimit] at hb
    have hnodup := waiting_nodup p st
    rw [hsplit, List.map_append, List.nodup_append] at hnodup
    exact hnodup.2.2 b.1 (List.mem_map_of_mem (List.mem_of_mem_take hb)) row.1 (by simp) heq

/-- A transition whose turn it is is checked exactly when nothing ahead of it blocks and there is something to compare. -/
theorem checked_iff (h : FailsOn p.v.reconciler.btc fails) {ahead behind : List (Bytes × TransitionRecord)}
    {row : Bytes × TransitionRecord} (hsplit : p.waiting st = ahead ++ row :: behind) (hturn : p.Turn fails ahead)
    (hanswered : Answered fails row.2) :
    Pass.Checked (p.leaves st) row.1 ↔
      (∀ b ∈ ahead, ¬ Blocked fails b.2) ∧ ¬ Incomparable (p.v.reconciler.btc.moment (p.moment + ahead.length)) row.2 := by
  have hunchecked := (stored_of_waiting hsplit).2
  have hleft : (p.leaves st).rgbppTransitions.get? row.1 = some row.2 → ¬ Pass.Checked (p.leaves st) row.1 := by
    rintro hrow ⟨t, ht, hchecked⟩
    rw [hrow] at ht
    cases ht
    exact hchecked hunchecked
  by_cases hlimit : ahead.length < p.v.batchSize.toInt.toNat
  · -- within the batch: it is reached when nothing ahead blocks
    have hneg : ¬ p.v.batchSize < 0 := by
      rw [Int64.lt_iff_toInt_lt]
      have hzero : (0 : Int64).toInt = 0 := rfl
      omega
    have hbatch : (p.waiting st).take p.v.batchSize.toInt.toNat =
        ahead ++ row :: behind.take (p.v.batchSize.toInt.toNat - ahead.length - 1) := by
      rw [hsplit, List.take_append, List.take_of_length_le (Nat.le_of_lt hlimit), List.take_cons (by omega)]
    obtain ⟨hreached, hskipped⟩ := get?_leaves h (unchecked_eq_ok.mpr ⟨hneg, rfl⟩) hbatch
    by_cases hclear : ∀ b ∈ ahead, ¬ Blocked fails b.2
    · rw [and_iff_right hclear, ← settle_unchecked_iff h _ hanswered]
      refine ⟨fun ⟨t, ht, hchecked⟩ => ?_, fun hchecked => ⟨_, hreached hclear, hchecked⟩⟩
      rw [hreached hclear] at ht
      cases ht
      exact hchecked
    · exact iff_of_false (hleft (hskipped hclear)) fun hboth => hclear hboth.1
  · -- behind the limit: those ahead fill more than a batch, so some of them are looked up in vain
    refine iff_of_false (hleft (get?_leaves_behind hsplit (Nat.le_of_not_lt hlimit))) fun hboth => hlimit ?_
    unfold Pass.Turn at hturn
    rwa [List.countP_eq_length.mpr fun b hb => by simpa using hboth.1 b hb] at hturn

/-- What is in the batch has its turn. -/
theorem turn_of_batch {batch : List (Bytes × TransitionRecord)} {row : Bytes × TransitionRecord}
    (hselect : st.uncheckedTransitions p.rows p.v.batchSize = .ok batch) (hrow : row ∈ batch) (fails : BtcTxid → Prop) :
    ∃ ahead behind, p.waiting st = ahead ++ row :: behind ∧ p.Turn fails ahead := by
  obtain ⟨-, rfl⟩ := unchecked_eq_ok.mp hselect
  obtain ⟨ahead, rest, hsplit⟩ := List.append_of_mem hrow
  refine ⟨ahead, rest ++ (p.waiting st).drop p.v.batchSize.toInt.toNat, ?_, ?_⟩
  · rw [← List.cons_append, ← List.append_assoc, ← hsplit, List.take_append_drop]
  · have hlength : (ahead ++ row :: rest).length ≤ p.v.batchSize.toInt.toNat := hsplit ▸ List.length_take_le ..
    rw [List.length_append, List.length_cons] at hlength
    exact Nat.lt_of_le_of_lt List.countP_le_length (by omega)

/-- **The passes that check whatever the source answers.** -/
theorem settles_iff (h : FailsOn p.v.reconciler.btc fails) : p.Settles fails st ↔ p.Clear fails st := by
  constructor
  · intro hsettles ahead row behind hsplit hturn hanswered
    exact (checked_iff h hsplit hturn hanswered).mp (hsettles.stored ahead row behind hsplit hturn hanswered)
  · intro hclear
    have hstored : ∀ ahead row behind, p.waiting st = ahead ++ row :: behind → p.Turn fails ahead → Answered fails row.2 →
        Pass.Checked (p.leaves st) row.1 := fun ahead row behind hsplit hturn hanswered =>
      (checked_iff h hsplit hturn hanswered).mpr (hclear ahead row behind hsplit hturn hanswered)
    refine ⟨fun batch hselect row hrow hanswered => ?_, hstored⟩
    obtain ⟨ahead, behind, hsplit, hturn⟩ := turn_of_batch hselect hrow fails
    exact hstored ahead row behind hsplit hturn hanswered

end

/-! ## Sequences of passes -/

/-- The database after a sequence of passes. -/
def after (st : Store) (passes : List Pass) : Store := passes.foldl (fun st p => p.leaves (p.before st)) st

/-- Every pass of the sequence checks whatever the source answers. -/
def NeverKept (fails : BtcTxid → Prop) (st : Store) (passes : List Pass) : Prop :=
  ∀ pre p post, passes = pre ++ p :: post → p.Settles fails (p.before (after st pre))

/-- **Over any passes, and whatever is written between them.** -/
theorem neverKept_iff {fails : BtcTxid → Prop} {st : Store} {passes : List Pass}
    (h : ∀ p ∈ passes, FailsOn p.v.reconciler.btc fails) :
    NeverKept fails st passes ↔ ∀ pre p post, passes = pre ++ p :: post → p.Clear fails (p.before (after st pre)) := by
  have hpass : ∀ pre p post, passes = pre ++ p :: post →
      (p.Settles fails (p.before (after st pre)) ↔ p.Clear fails (p.before (after st pre))) := by
    intro pre p post hsplit
    exact settles_iff (h p (by rw [hsplit]; simp))
  constructor
  · intro hkept pre p post hsplit
    exact (hpass pre p post hsplit).mp (hkept pre p post hsplit)
  · intro hclear pre p post hsplit
    exact (hpass pre p post hsplit).mpr (hclear pre p post hsplit)

/-- A pass whose first transition blocks changes no transition. -/
theorem leaves_of_blocked {fails : BtcTxid → Prop} {p : Pass} {st : Store} {first : Bytes × TransitionRecord}
    {rest : List (Bytes × TransitionRecord)} (h : FailsOn p.v.reconciler.btc fails)
    (hselect : st.uncheckedTransitions p.rows p.v.batchSize = .ok (first :: rest)) (hblocked : Blocked fails first.2) :
    (p.leaves st).rgbppTransitions = st.rgbppTransitions := by
  have hno : ¬ p.v.Decides p.moment [] first := fun hd => (verdict_ok_iff h _ _).mp hd hblocked
  have hundecided : ∀ w, verdict (p.v.reconciler.btc.moment (p.moment + [].length)) first.2 ≠ .ok (some w) :=
    fun w hw => hno ⟨some w, hw⟩
  unfold Pass.leaves
  rcases p.v.verifyOnce_cases p.now p.moment st hselect with
    ⟨-, -, hall⟩ | ⟨pre, stop, post, hstop, hafter, -, -, hbefore⟩
  · exact absurd (hall [] first rest rfl) hno
  · cases pre with
    | nil =>
      obtain ⟨rfl, -⟩ := List.cons.inj hstop
      obtain ⟨after, hstep, hlast⟩ := afterSteps_snoc p.v p.now p.moment st [] first
      rw [hafter, hlast, hstep.transitions, ← update_settle hundecided]
      rfl
    | cons other pre =>
      obtain ⟨rfl, -⟩ := List.cons.inj hstop
      exact absurd (hbefore [] first pre rfl) hno

/-! ## The counterexample -/

def lost : BtcTxid := ⟨.filled 32 1⟩

def known : BtcTxid := ⟨.filled 32 2⟩

/-- It cannot look up one transaction, and knows all others. -/
def source : BtcDataSource where
  name := "esplora"
  moment _ :=
    { transaction := fun txid =>
        if txid = lost then .error (.transport "connection reset")
        else .ok (some { txid, confirmation := none, inputs := [], outputs := [], fee := none })
      outpointStatus := fun _ => .ok .unspent
      txOutspends := fun _ => .ok none
      addressUtxos := fun _ => .ok [] }

theorem source_failsOn : FailsOn source fun txid => txid = lost := by
  intro m txid
  dsimp only [source]
  by_cases h : txid = lost
  · rw [if_pos h]
    exact iff_of_true ⟨_, rfl⟩ h
  · rw [if_neg h]
    exact iff_of_false (fun ⟨e, he⟩ => by cases he) h

/-- An unchecked transition of block `number`, authorised by `txid`. -/
def transfer (number : Int64) (txid : BtcTxid) : TransitionRecord where
  blockNumber := number
  blockHash := []
  txIndex := 0
  blockTimestamp := none
  kind := .transfer
  btcTxid := some txid.toDisplayVec
  inputCellCount := 1
  outputCellCount := 1
  expectedCommitment := some []
  observedCommitment := none
  commitmentStatus := .unchecked

def first : Bytes × TransitionRecord := ([1], transfer 1 lost)

def second : Bytes × TransitionRecord := ([2], transfer 2 known)

/-- The database with these transitions. -/
def stored (transitions : Table Bytes TransitionRecord) : Store := { Store.empty with rgbppTransitions := transitions }

def both : Store := stored ⟨[first, second], by decide⟩

def pass : Pass := ⟨⟨100, ⟨.testnet 64, source, .inOrder, 0⟩⟩, .storage, 0, 0, id⟩

theorem unchecked_both {st : Store} (h : st.rgbppTransitions = both.rgbppTransitions) :
    st.uncheckedTransitions .storage 100 = .ok [first, second] := by
  unfold Store.uncheckedTransitions
  rw [h]
  decide +kernel

theorem first_blocked : Blocked (fun txid => txid = lost) first.2 := by
  refine ⟨nofun, _, rfl, fun txid hparse => ?_⟩
  rw [BtcTxid.fromDisplaySlice_toDisplayVec] at hparse
  cases hparse
  rfl

theorem second_answered : Answered (fun txid => txid = lost) second.2 :=
  ⟨_, known, rfl, BtcTxid.fromDisplaySlice_toDisplayVec _, by decide +kernel⟩

/-- No number of passes gets past the first transition. -/
theorem stuck (n : Nat) : (after both (List.replicate n pass)).rgbppTransitions = both.rgbppTransitions := by
  have hpass : ∀ passes st, st.rgbppTransitions = both.rgbppTransitions → (∀ p ∈ passes, p = pass) →
      (after st passes).rgbppTransitions = both.rgbppTransitions := by
    intro passes
    induction passes with
    | nil => exact fun st hst _ => hst
    | cons p passes ih =>
      intro st hst hall
      obtain rfl := hall p (by simp)
      have hleaves := leaves_of_blocked (p := pass) source_failsOn (unchecked_both hst) first_blocked
      exact ih _ (hleaves.trans hst) fun p hp => hall p (List.mem_cons_of_mem _ hp)
  exact hpass _ both rfl fun p hp => List.eq_of_mem_replicate hp

/-- **The second transition is never checked, though the source knows its transaction.** -/
theorem starved : FailsOn source (fun txid => txid = lost) ∧ Answered (fun txid => txid = lost) second.2 ∧
    (∀ n, (after both (List.replicate n pass)).rgbppTransitions.get? second.1 = some second.2) ∧
    second.2.commitmentStatus = .unchecked ∧ ¬ NeverKept (fun txid => txid = lost) both [pass] := by
  refine ⟨source_failsOn, second_answered, fun n => by rw [stuck]; decide +kernel, rfl, fun hkept => ?_⟩
  obtain ⟨t, ht, hchecked⟩ := (hkept [] pass [] rfl).batch _ (unchecked_both rfl) second (by simp) second_answered
  have ht' : (after both (List.replicate 1 pass)).rgbppTransitions.get? second.1 = some t := ht
  have hstored : both.rgbppTransitions.get? second.1 = some second.2 := by decide +kernel
  rw [stuck, hstored] at ht'
  cases ht'
  exact hchecked rfl

/-- A batch of one, which the failing transition fills. -/
def narrow : Pass := ⟨⟨1, ⟨.testnet 64, source, .inOrder, 0⟩⟩, .storage, 0, 0, id⟩

theorem neverKept_iff_narrow : NeverKept (fun txid => txid = lost) both [narrow, pass] ↔
    ∀ pre p post, [narrow, pass] = pre ++ p :: post → p.Clear (fun txid => txid = lost) (p.before (after both pre)) := by
  refine neverKept_iff fun p hp => ?_
  rcases List.mem_cons.mp hp with rfl | hp
  · exact source_failsOn
  · obtain rfl := List.mem_singleton.mp hp
    exact source_failsOn

end RgbppIndexer.Bugs.StarvedChecks
