import RgbppIndexer.Ckb.Cells
import RgbppIndexer.Indexer.System

/-!
# Where an RGB++ transaction has got to

`resolve_transition` (crates/indexer/src/reconcile.rs:337-421) answers across
both chains: from the index, from the Bitcoin data source, and, past the lag,
from the cells that are live right now. The last is one search by exact lock
args for each output of the Bitcoin transaction, under the RGB++ lock.

* `indexed_iff`, `awaiting_iff`, `seenAboveLag_iff`: when it answers what.
* `mem_pointLookupCells`, `pointLookupCells_eq_nil`: what the searches find.
* `searched_iff`: which cells they can find at all.
-/
namespace RgbppIndexer

open RgbppIndexer.Core

/-- mirrors crates/indexer/src/reconcile.rs:25-30 -/
def DEFAULT_POINT_LOOKUP_VOUTS : UInt32 := 4

def MAX_POINT_LOOKUP_VOUTS : UInt32 := 32

/-- mirrors crates/indexer/src/reconcile.rs:62-84 -/
inductive TransitionResolution where
  | unknownBtcTx
  | awaitingCkb (btcConfirmed : Bool) (btcHeight : Option UInt32)
  | ckbSeenAboveLag (cells : List CkbOutPoint) (indexedTo : Int64)
  | indexed (ckbTxHash : String) (blockNumber : Int64)
  deriving DecidableEq, Repr

/-- The lock a cell bound to an output of a Bitcoin transaction has. -/
def boundLock (p : ProtocolScripts) (o : BtcOutPoint) : Script where
  codeHash := p.rgbppLock.codeHash
  hashType := p.rgbppLock.hashType
  args := { outIndex := o.vout, txid := o.txid : RgbppLockArgs }.encode

/-- How many outputs are looked up. -/
def lookupCount (voutCount : UInt32) : UInt32 := if voutCount = 0 then DEFAULT_POINT_LOOKUP_VOUTS else voutCount

/-- The outpoints a lookup searches for. -/
def lookupOutpoints (txid : BtcTxid) (voutCount : UInt32) : List BtcOutPoint :=
  (List.range (lookupCount voutCount).toNat).map fun vout => ⟨txid, UInt32.ofNat vout⟩

/-- One search. -/
def pointLookupStep (p : ProtocolScripts) (getCells : CellReplies) (found : List CkbOutPoint) (o : BtcOutPoint) :
    Except CkbError (List CkbOutPoint) := do
  let records ← getCells (.lockExact (boundLock p o)) 16
  return found ++ records.map LiveCellRecord.outPoint

/-- Live cells bound to specific outputs of a Bitcoin transaction.
mirrors crates/indexer/src/reconcile.rs:389-421 -/
def pointLookupCells (p : ProtocolScripts) (getCells : CellReplies) (txid : BtcTxid) (voutCount : UInt32) :
    Except CkbError (List CkbOutPoint) :=
  (lookupOutpoints txid voutCount).foldlM (pointLookupStep p getCells) []

/-- `(btc_tx.outputs.len() as u32).min(MAX_POINT_LOOKUP_VOUTS)`. -/
def lookupVouts (tx : BtcTxInfo) : UInt32 := min (UInt32.ofNat tx.outputs.length) MAX_POINT_LOOKUP_VOUTS

/-- The checkpoint as `resolve_transition` reports it. -/
def Store.reportedTo (st : Store) : Int64 := ((st.getStreamState CKB_STREAM).map StreamState.lastBlockNumber).getD 0

namespace Reconciler

variable (r : Reconciler)

/-- The point refresh: exactly the outpoints this transaction consumes. -/
def refreshInputs (moment : Nat) (st : Store) (tx : BtcTxInfo) : Store × Except IndexerError (List OutpointRefresh) :=
  if tx.inputs.isEmpty then (st, .ok [])
  else
    let refreshed := r.refreshOutpoints moment st tx.inputs
    (refreshed.store, refreshed.result)

/-- mirrors crates/indexer/src/reconcile.rs:339-380 -/
def resolveTransition (getCells : CellReplies) (moment : Nat) (st : Store) (txid : BtcTxid) :
    Store × Except IndexerError TransitionResolution :=
  match st.transitionsByBtcTxid txid.toDisplayVec with
  | (ckbTxHash, transition) :: _ => (st, .ok (.indexed (bytesToHex ckbTxHash) transition.blockNumber))
  | [] =>
    match r.refreshBtcTx moment st txid with
    | (st, .error e) => (st, .error e)
    | (st, .ok none) => (st, .ok .unknownBtcTx)
    | (st, .ok (some tx)) =>
      match r.refreshInputs (moment + 1) st tx with
      | (st, .error e) => (st, .error e)
      | (st, .ok _) =>
        -- past the lag: whether cells bound to this transaction's outputs exist right now
        match pointLookupCells r.config.protocol getCells txid (lookupVouts tx) with
        | .error e => (st, .error (.ckb e))
        | .ok [] => (st, .ok (.awaitingCkb tx.confirmation.isSome (tx.confirmation.map BtcBlockRef.height)))
        | .ok cells => (st, .ok (.ckbSeenAboveLag cells st.reportedTo))

end Reconciler

/-! ## The searches -/

/-- One of the searches for the outputs of a transaction asks for this lock. -/
def Searched (p : ProtocolScripts) (txid : BtcTxid) (voutCount : UInt32) (lock : Script) : Prop :=
  ∃ o ∈ lookupOutpoints txid voutCount, lock = boundLock p o

/-- One of the searches lists the cell: it is among the first that are live under its lock. -/
def Listed (p : ProtocolScripts) (live : List LiveCellRecord) (txid : BtcTxid) (voutCount : UInt32) (c : LiveCellRecord) : Prop :=
  ∃ o ∈ lookupOutpoints txid voutCount, c ∈ exactCells live (boundLock p o) 16

section
variable {p : ProtocolScripts} {live : List LiveCellRecord} {getCells : CellReplies} {txid : BtcTxid} {voutCount : UInt32}
  {outpoints : List BtcOutPoint} {found cells : List CkbOutPoint} {op : CkbOutPoint}

theorem pointLookupStep_eq_ok {o : BtcOutPoint} (hserves : ServesCells live getCells)
    (h : pointLookupStep p getCells found o = .ok cells) :
    cells = found ++ (exactCells live (boundLock p o) 16).map LiveCellRecord.outPoint := by
  unfold pointLookupStep at h
  cases hrecords : getCells (.lockExact (boundLock p o)) 16 with
  | error e =>
    rw [hrecords] at h
    cases h
  | ok records =>
    rw [hrecords] at h
    cases h
    rw [hserves _ _ _ hrecords]

theorem foldlM_pointLookupStep (hserves : ServesCells live getCells)
    (h : outpoints.foldlM (pointLookupStep p getCells) found = .ok cells) :
    cells = found ++ outpoints.flatMap fun o => (exactCells live (boundLock p o) 16).map LiveCellRecord.outPoint := by
  induction outpoints generalizing found with
  | nil =>
    cases h
    simp
  | cons o rest ih =>
    rw [List.foldlM_cons] at h
    obtain ⟨next, hnext, hrest⟩ := bind_eq_ok.mp h
    rw [ih hrest, pointLookupStep_eq_ok hserves hnext, List.flatMap_cons, List.append_assoc]

theorem pointLookupCells_eq (hserves : ServesCells live getCells)
    (h : pointLookupCells p getCells txid voutCount = .ok cells) :
    cells = (lookupOutpoints txid voutCount).flatMap fun o =>
      (exactCells live (boundLock p o) 16).map LiveCellRecord.outPoint := by
  rw [foldlM_pointLookupStep hserves h, List.nil_append]

theorem mem_pointLookupCells (hserves : ServesCells live getCells)
    (h : pointLookupCells p getCells txid voutCount = .ok cells) :
    op ∈ cells ↔ ∃ c, Listed p live txid voutCount c ∧ c.outPoint = op := by
  rw [pointLookupCells_eq hserves h, List.mem_flatMap]
  constructor
  · rintro ⟨o, ho, hmem⟩
    obtain ⟨c, hc, rfl⟩ := List.mem_map.mp hmem
    exact ⟨c, ⟨o, ho, hc⟩, rfl⟩
  · rintro ⟨c, ⟨o, ho, hc⟩, rfl⟩
    exact ⟨o, ho, List.mem_map.mpr ⟨c, hc, rfl⟩⟩

/-- What is listed is a live cell one of the searches asked for. -/
theorem Listed.searched {c : LiveCellRecord} (h : Listed p live txid voutCount c) :
    c ∈ live ∧ Searched p txid voutCount c.output.lock := by
  obtain ⟨o, ho, hmem⟩ := h
  obtain ⟨hlive, hlock⟩ := mem_of_mem_exactCells hmem
  exact ⟨hlive, o, ho, hlock⟩

/-- The searches come back empty only if there is nothing they ask for. -/
theorem pointLookupCells_eq_nil (hserves : ServesCells live getCells)
    (h : pointLookupCells p getCells txid voutCount = .ok cells) :
    cells = [] ↔ ∀ c ∈ live, ¬ Searched p txid voutCount c.output.lock := by
  have hlimit : 0 < (16 : UInt32).toNat := by decide
  have hsearch : ∀ o, (exactCells live (boundLock p o) 16).map LiveCellRecord.outPoint = [] ↔
      ∀ c ∈ live, c.output.lock ≠ boundLock p o := by
    intro o
    rw [List.map_eq_nil_iff, exactCells_eq_nil hlimit]
  rw [pointLookupCells_eq hserves h, List.flatMap_eq_nil_iff]
  constructor
  · rintro hnone c hc ⟨o, ho, hlock⟩
    exact (hsearch o).mp (hnone o ho) c hc hlock
  · intro hnone o ho
    exact (hsearch o).mpr fun c hc hlock => hnone c hc ⟨o, ho, hlock⟩

theorem foldlM_pointLookupStep_ok : (∃ cells, outpoints.foldlM (pointLookupStep p getCells) found = .ok cells) ↔
    ∀ o ∈ outpoints, ∃ records, getCells (.lockExact (boundLock p o)) 16 = .ok records := by
  induction outpoints generalizing found with
  | nil => exact iff_of_true ⟨found, rfl⟩ nofun
  | cons o rest ih =>
    rw [List.foldlM_cons, List.forall_mem_cons]
    cases hrecords : getCells (.lockExact (boundLock p o)) 16 with
    | error e =>
      have hstep : pointLookupStep p getCells found o = .error e := by
        unfold pointLookupStep
        rw [hrecords]
        rfl
      rw [hstep]
      refine iff_of_false ?_ ?_
      · rintro ⟨cells, h⟩
        cases h
      · rintro ⟨⟨records, h⟩, -⟩
        cases h
    | ok records =>
      have hstep : pointLookupStep p getCells found o = .ok (found ++ records.map LiveCellRecord.outPoint) := by
        unfold pointLookupStep
        rw [hrecords]
        rfl
      rw [hstep, and_iff_right ⟨records, rfl⟩]
      exact ih

/-- A lookup goes through when every search is answered. -/
theorem pointLookupCells_ok_iff : (∃ cells, pointLookupCells p getCells txid voutCount = .ok cells) ↔
    ∀ o ∈ lookupOutpoints txid voutCount, ∃ records, getCells (.lockExact (boundLock p o)) 16 = .ok records :=
  foldlM_pointLookupStep_ok

theorem mem_lookupOutpoints {o : BtcOutPoint} :
    o ∈ lookupOutpoints txid voutCount ↔ o.txid = txid ∧ o.vout.toNat < (lookupCount voutCount).toNat := by
  unfold lookupOutpoints
  rw [List.mem_map]
  constructor
  · rintro ⟨n, hn, rfl⟩
    have hlt := List.mem_range.mp hn
    have hcount := (lookupCount voutCount).toNat_lt
    refine ⟨rfl, ?_⟩
    rw [UInt32.toNat_ofNat_of_lt' (Nat.lt_trans hlt hcount)]
    exact hlt
  · rintro ⟨rfl, hlt⟩
    exact ⟨o.vout.toNat, List.mem_range.mpr hlt, by rw [UInt32.ofNat_toNat]⟩

theorem classify_boundLock (p : ProtocolScripts) (o : BtcOutPoint) : p.classify (boundLock p o) = some .rgbpp := by
  have hmatches : p.rgbppLock.matches (boundLock p o) = true := by simp [ScriptId.matches, boundLock]
  unfold ProtocolScripts.classify
  rw [if_pos hmatches]

theorem parse_boundLock (p : ProtocolScripts) (o : BtcOutPoint) :
    LockBinding.parse .rgbpp (boundLock p o).args = .ok (.rgbpp ⟨o.vout, o.txid⟩) := by
  have hparse : RgbppLockArgs.parse (boundLock p o).args = .ok ⟨o.vout, o.txid⟩ := RgbppLockArgs.parse_encode _
  unfold LockBinding.parse
  dsimp only
  rw [hparse]
  rfl

/-- A lock is searched exactly when its args are those of an RGB++ lock, and the output they name is in the count. -/
theorem searched_iff {lock : Script} : Searched p txid voutCount lock ↔
    ∃ args : RgbppLockArgs, p.classify lock = some .rgbpp ∧ LockBinding.parse .rgbpp lock.args = .ok (.rgbpp args) ∧
      args.txid = txid ∧ args.outIndex.toNat < (lookupCount voutCount).toNat := by
  constructor
  · rintro ⟨o, ho, rfl⟩
    obtain ⟨htxid, hlt⟩ := mem_lookupOutpoints.mp ho
    exact ⟨⟨o.vout, o.txid⟩, classify_boundLock p o, parse_boundLock p o, htxid, hlt⟩
  · rintro ⟨args, hkind, hparse, rfl, hlt⟩
    refine ⟨args.outPoint, mem_lookupOutpoints.mpr ⟨rfl, hlt⟩, ?_⟩
    have hargs := (LockBinding.encode_parse hparse).1
    rw [← ProtocolScripts.rebuilt_lock hkind, ← hargs]
    rfl

end

/-! ## The answers -/

namespace Reconciler

section
variable {r : Reconciler} {getCells : CellReplies} {moment : Nat} {st : Store} {txid : BtcTxid} {tx : BtcTxInfo}

/-- What the searches answer, once the input refresh is through. -/
def searchAnswer (st : Store) (tx : BtcTxInfo) : List CkbOutPoint → TransitionResolution
  | [] => .awaitingCkb tx.confirmation.isSome (tx.confirmation.map BtcBlockRef.height)
  | cells => .ckbSeenAboveLag cells st.reportedTo

theorem refreshInputs_same : CkbSame st (r.refreshInputs moment st tx).1 := by
  unfold refreshInputs
  split
  · exact .refl st
  · obtain ⟨done, -, hanswered⟩ := refreshOutpoints_answered r moment st tx.inputs
    exact hanswered.same

theorem reportedTo_of_same {st' : Store} (h : CkbSame st st') : st'.reportedTo = st.reportedTo := by
  unfold Store.reportedTo Store.getStreamState
  rw [h.state]

/-- The database an input refresh starts from. -/
def afterBtcTx (r : Reconciler) (moment : Nat) (st : Store) (txid : BtcTxid) : Store := (r.refreshBtcTx moment st txid).1

/-- The input refresh of a known transaction goes through. -/
def InputsRefreshed (r : Reconciler) (moment : Nat) (st : Store) (txid : BtcTxid) (tx : BtcTxInfo) : Prop :=
  ∃ out, (r.refreshInputs (moment + 1) (r.afterBtcTx moment st txid) tx).2 = .ok out

variable (r getCells moment st txid) in
/-- Every way to answer. -/
theorem resolveTransition_cases :
    (∃ hash n, st.transitionsByBtcTxid txid.toDisplayVec ≠ [] ∧
      (r.resolveTransition getCells moment st txid).2 = .ok (.indexed hash n)) ∨
    st.transitionsByBtcTxid txid.toDisplayVec = [] ∧
      ((∃ e, (r.resolveTransition getCells moment st txid).2 = .error e ∧
          ∀ tx, (r.btc.moment moment).transaction txid = .ok (some tx) → r.InputsRefreshed moment st txid tx →
            ∃ e, pointLookupCells r.config.protocol getCells txid (lookupVouts tx) = .error e) ∨
        (r.resolveTransition getCells moment st txid).2 = .ok .unknownBtcTx ∧
          (r.btc.moment moment).transaction txid = .ok none ∨
        ∃ tx cells, (r.btc.moment moment).transaction txid = .ok (some tx) ∧ r.InputsRefreshed moment st txid tx ∧
          pointLookupCells r.config.protocol getCells txid (lookupVouts tx) = .ok cells ∧
          (r.resolveTransition getCells moment st txid).2 = .ok (searchAnswer st tx cells)) := by
  unfold resolveTransition
  cases hindex : st.transitionsByBtcTxid txid.toDisplayVec with
  | cons t rest =>
    left
    exact ⟨_, _, List.cons_ne_nil t rest, rfl⟩
  | nil =>
    right
    refine ⟨rfl, ?_⟩
    have hsame := (refreshBtcTx_same r moment st txid).1
    cases htx : (r.btc.moment moment).transaction txid with
    | error e =>
      have hfetch : r.refreshBtcTx moment st txid = (st, .error (.btc e)) := by
        unfold refreshBtcTx
        rw [htx]
      rw [hfetch]
      exact .inl ⟨_, rfl, nofun⟩
    | ok reply =>
      cases reply with
      | none =>
        have hfetch : r.refreshBtcTx moment st txid = (st, .ok none) := by
          unfold refreshBtcTx
          rw [htx]
        rw [hfetch]
        exact .inr (.inl ⟨rfl, rfl⟩)
      | some tx =>
        have hfetch : r.refreshBtcTx moment st txid = (r.afterBtcTx moment st txid, .ok (some tx)) := by
          unfold afterBtcTx refreshBtcTx
          rw [htx]
        rw [hfetch]
        dsimp only
        have hinputs : CkbSame (r.afterBtcTx moment st txid) (r.refreshInputs (moment + 1) (r.afterBtcTx moment st txid) tx).1 :=
          refreshInputs_same
        cases hrefresh : r.refreshInputs (moment + 1) (r.afterBtcTx moment st txid) tx with
        | mk st' result =>
          rw [hrefresh] at hinputs
          cases result with
          | error e =>
            refine .inl ⟨_, rfl, ?_⟩
            rintro tx' htx' ⟨out, hout⟩
            cases htx'
            rw [hrefresh] at hout
            cases hout
          | ok out =>
            dsimp only
            cases hsearch : pointLookupCells r.config.protocol getCells txid (lookupVouts tx) with
            | error e =>
              refine .inl ⟨_, rfl, ?_⟩
              rintro tx' htx' -
              cases htx'
              exact ⟨e, hsearch⟩
            | ok cells =>
              refine .inr (.inr ⟨tx, cells, rfl, ⟨out, by rw [hrefresh]⟩, hsearch, ?_⟩)
              cases cells with
              | nil => rfl
              | cons c cs =>
                have hreported := reportedTo_of_same (hsame.trans hinputs)
                show Except.ok (TransitionResolution.ckbSeenAboveLag (c :: cs) st'.reportedTo) = _
                rw [hreported]
                rfl

/-- `Indexed` is what the index says, whatever the rest of the world does. -/
theorem indexed_iff : (∃ hash n, (r.resolveTransition getCells moment st txid).2 = .ok (.indexed hash n)) ↔
    st.transitionsByBtcTxid txid.toDisplayVec ≠ [] := by
  rcases resolveTransition_cases r getCells moment st txid with
    ⟨hash, n, hne, hanswer⟩ | ⟨hnil, ⟨e, hanswer, -⟩ | ⟨hanswer, -⟩ | ⟨tx, cells, -, -, -, hanswer⟩⟩
  · exact iff_of_true ⟨hash, n, hanswer⟩ hne
  · refine iff_of_false ?_ (not_not_intro hnil)
    rintro ⟨hash, n, h⟩
    rw [hanswer] at h
    cases h
  · refine iff_of_false ?_ (not_not_intro hnil)
    rintro ⟨hash, n, h⟩
    rw [hanswer] at h
    cases h
  · refine iff_of_false ?_ (not_not_intro hnil)
    rintro ⟨hash, n, h⟩
    rw [hanswer] at h
    cases cells <;> cases h

/-- `AwaitingCkb` is answered when the index and all searches come back empty. -/
theorem awaiting_iff (htx : (r.btc.moment moment).transaction txid = .ok (some tx)) :
    (∃ confirmed height, (r.resolveTransition getCells moment st txid).2 = .ok (.awaitingCkb confirmed height)) ↔
      st.transitionsByBtcTxid txid.toDisplayVec = [] ∧ r.InputsRefreshed moment st txid tx ∧
        pointLookupCells r.config.protocol getCells txid (lookupVouts tx) = .ok [] := by
  rcases resolveTransition_cases r getCells moment st txid with
    ⟨hash, n, hne, hanswer⟩ | ⟨hnil, ⟨e, hanswer, herror⟩ | ⟨hanswer, hnone⟩ | ⟨tx', cells, htx', hinputs, hsearch, hanswer⟩⟩
  · refine iff_of_false ?_ fun h => hne h.1
    rintro ⟨confirmed, height, h⟩
    rw [hanswer] at h
    cases h
  · refine iff_of_false ?_ ?_
    · rintro ⟨confirmed, height, h⟩
      rw [hanswer] at h
      cases h
    · rintro ⟨-, hrefreshed, hsearch⟩
      obtain ⟨e, he⟩ := herror tx htx hrefreshed
      rw [hsearch] at he
      cases he
  · rw [htx] at hnone
    cases hnone
  · rw [htx] at htx'
    cases htx'
    rw [hanswer]
    constructor
    · rintro ⟨confirmed, height, h⟩
      cases cells with
      | nil => exact ⟨hnil, hinputs, hsearch⟩
      | cons c cs => cases h
    · rintro ⟨-, -, hempty⟩
      rw [hsearch] at hempty
      cases hempty
      exact ⟨_, _, rfl⟩

/-- `CkbSeenAboveLag` is answered when the index comes back empty and a search does not. -/
theorem seenAboveLag_iff {cells : List CkbOutPoint} {indexedTo : Int64} :
    (r.resolveTransition getCells moment st txid).2 = .ok (.ckbSeenAboveLag cells indexedTo) ↔
      st.transitionsByBtcTxid txid.toDisplayVec = [] ∧ indexedTo = st.reportedTo ∧ cells ≠ [] ∧
        ∃ tx, (r.btc.moment moment).transaction txid = .ok (some tx) ∧ r.InputsRefreshed moment st txid tx ∧
          pointLookupCells r.config.protocol getCells txid (lookupVouts tx) = .ok cells := by
  rcases resolveTransition_cases r getCells moment st txid with
    ⟨hash, n, hne, hanswer⟩ | ⟨hnil, ⟨e, hanswer, herror⟩ | ⟨hanswer, hnone⟩ | ⟨tx, found, htx, hinputs, hsearch, hanswer⟩⟩
  · rw [hanswer]
    exact iff_of_false nofun fun h => hne h.1
  · rw [hanswer]
    refine iff_of_false nofun ?_
    rintro ⟨-, -, -, tx, htx, hinputs, hcells⟩
    obtain ⟨e, he⟩ := herror tx htx hinputs
    rw [hcells] at he
    cases he
  · rw [hanswer]
    refine iff_of_false nofun ?_
    rintro ⟨-, -, -, tx, htx, -⟩
    rw [hnone] at htx
    cases htx
  · rw [hanswer]
    constructor
    · intro h
      cases found with
      | nil => cases h
      | cons c cs =>
        cases h
        exact ⟨hnil, rfl, List.cons_ne_nil c cs, tx, htx, hinputs, hsearch⟩
    · rintro ⟨-, rfl, hne, tx', htx', -, hcells⟩
      rw [htx] at htx'
      cases htx'
      rw [hsearch] at hcells
      cases hcells
      cases cells with
      | nil => exact absurd rfl hne
      | cons c cs => rfl

/-- The index has nothing, the inputs are refreshed, and every search is answered. -/
structure Asked (r : Reconciler) (getCells : CellReplies) (moment : Nat) (st : Store) (txid : BtcTxid) (tx : BtcTxInfo) :
    Prop where
  unindexed : st.transitionsByBtcTxid txid.toDisplayVec = []
  refreshed : r.InputsRefreshed moment st txid tx
  answered : ∀ o ∈ lookupOutpoints txid (lookupVouts tx), ∃ records,
    getCells (.lockExact (boundLock r.config.protocol o)) 16 = .ok records

end

end Reconciler

/-! ## A small question -/

namespace Sample

/-- A Bitcoin transaction with one output. -/
def btcTx : BtcTxInfo where
  txid := btcTxid
  confirmation := none
  inputs := []
  outputs := [{ value := 546, scriptPubkey := [], address := none }]
  fee := none

/-- A reconciler whose data source knows that transaction. -/
def tracker : Reconciler where
  config := .testnet 64
  btc :=
    { name := "esplora"
      moment := fun _ =>
        { transaction := fun txid => .ok (if txid = btcTx.txid then some btcTx else none)
          outpointStatus := fun _ => .ok .unspent
          txOutspends := fun _ => .ok none
          addressUtxos := fun _ => .ok [] } }
  completion := .inOrder
  now := 0

end Sample
end RgbppIndexer
