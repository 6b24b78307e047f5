import Mathlib.Data.List.Sort
import RgbppIndexer.Store.Cells

/-!
# Bitcoin observations, the refresh queue and balances

`crates/store/src/btc.rs`, the writes of `queue.rs` and `anomalies.rs` the
refresh path uses, and `asset_balances_for_outpoints` of `stats.rs`.

A multi-row insert with `ON CONFLICT DO UPDATE` fails when its rows name a
key twice: the server refuses to update one row a second time in one
statement (`conflictTwice`).
-/
namespace RgbppIndexer

open RgbppIndexer.Core

/-- The `outpoint as (bytea, int)` form every statement binds. -/
def BtcOutPoint.key (o : BtcOutPoint) : OutpointKey := ⟨o.txid.toDisplayVec, o.vout.toInt32⟩

theorem BtcOutPoint.key_injective : Function.Injective BtcOutPoint.key := by
  intro a b h
  obtain ⟨at', av⟩ := a
  obtain ⟨bt, bv⟩ := b
  simp only [key, OutpointKey.mk.injEq] at h
  obtain ⟨ht, hv⟩ := h
  obtain rfl := BtcTxid.toDisplayVec_injective ht
  have hv' := congrArg Int32.toUInt32 hv
  simp only [UInt32.toUInt32_toInt32] at hv'; subst hv'
  rfl

/-- Priorities of the refresh queue. mirrors crates/store/src/queue.rs:14-21 -/
def ON_DEMAND : Int32 := 10

/-- The server's answer to a statement that would update one row twice. -/
def conflictTwice : StoreError := .sqlx "ON CONFLICT DO UPDATE command cannot affect row a second time"

namespace Store

/-! ## Observations -/

/-- What an observation leaves in the row of its outpoint. -/
def observationRow (old : Option ObservationRow) (status : OutpointSpendStatus) (address : Option String)
    (source : String) (now : DateTime) : ObservationRow where
  status := status.column
  spenderTxid := status.spender.map BtcTxid.toDisplayVec
  spentHeight := status.height.map UInt32.toInt32
  -- keep a known address if this observation did not carry one
  address := address <|> old.bind ObservationRow.address
  source := source
  observedAt := now
  invalidatedAt := none

/-- Write an observation; `true` when the spend status actually changed.
mirrors crates/store/src/btc.rs:49-92 -/
def upsertObservation (st : Store) (key : OutpointKey) (status : OutpointSpendStatus) (address : Option String)
    (source : String) (now : DateTime) : Store × Bool :=
  let previous := (st.btcOutpoints.get? key).map ObservationRow.status
  ({ st with
      btcOutpoints := st.btcOutpoints.upsert key fun old => observationRow old status address source now },
    decide (previous ≠ some status.column))

/-- `EXISTS (SELECT 1 FROM rgbpp_cells c WHERE c.btc_txid = … AND c.btc_vout = …)`. -/
def hasBoundCell (st : Store) (key : OutpointKey) : Bool :=
  st.rgbppCells.entries.any fun e => decide (e.2.btcTxid = key.txid ∧ e.2.btcVout = some key.vout)

/-- The row an address label leaves: only the address, never the observation. -/
def labelRow (old : Option ObservationRow) (address source : String) (now : DateTime) : ObservationRow :=
  match old with
  | some r => { r with address := some address }
  | none =>
    { status := .unknown, spenderTxid := none, spentHeight := none, address := some address, source,
      observedAt := now, invalidatedAt := none }

/-- One row of a labelling insert. -/
def labelOutpoint (source : String) (now : DateTime) (t : Table OutpointKey ObservationRow)
    (e : OutpointKey × String) : Table OutpointKey ObservationRow :=
  t.upsert e.1 fun old => labelRow old e.2 source now

/-- The labelling insert both address paths run: only outpoints a cell is bound to. -/
def labelOutpoints (st : Store) (source : String) (outputs : List (OutpointKey × String)) (now : DateTime) :
    Except StoreError (Store × Nat) :=
  let bound := outputs.filter fun e => st.hasBoundCell e.1
  if (bound.map Prod.fst).Nodup then
    .ok ({ st with btcOutpoints := bound.foldl (labelOutpoint source now) st.btcOutpoints }, bound.length)
  else .error conflictTwice

/-- mirrors crates/store/src/btc.rs:170-199 -/
def recordBindingAddresses (st : Store) (txid : Bytes) (outputs : List (Int32 × String)) (now : DateTime) :
    Except StoreError (Store × Nat) :=
  if outputs.isEmpty then .ok (st, 0)
  else st.labelOutpoints "funding-tx" (outputs.map fun (vout, address) => (⟨txid, vout⟩, address)) now

/-- mirrors crates/store/src/btc.rs:275-300 -/
def recordOutpointAddresses (st : Store) (outpoints : List OutpointKey) (address : String) (now : DateTime) :
    Except StoreError (Store × Nat) :=
  if outpoints.isEmpty then .ok (st, 0)
  else st.labelOutpoints "address-lookup" (outpoints.map fun o => (o, address)) now

/-- mirrors crates/store/src/btc.rs:115-157 -/
def upsertBtcTx (st : Store) (txid : Bytes) (row : BtcTxRow) : Store :=
  { st with
    btcTxs := st.btcTxs.upsert txid fun old =>
      -- never downgrade a known fee to NULL: not every source reports one
      { row with fee := row.fee <|> old.bind BtcTxRow.fee } }

/-- The status a row stands for; a spend without a readable spender counts as unknown.
mirrors crates/store/src/models.rs:256-277 -/
def spendStatus (r : ObservationRow) : Except StoreError OutpointSpendStatus :=
  let height := match r.spentHeight with
    | some h => if h < 0 then 0 else h.toUInt32
    | none => 0
  let read := fun spender : Option BtcTxid =>
    match r.status, spender with
    | .unspent, _ => .unspent
    | .spentUnconfirmed, some spender => .spentUnconfirmed spender
    | .spentConfirmed, some spender => .spentConfirmed spender height
    | _, _ => .unknown
  match r.spenderTxid with
  | none => .ok (read none)
  | some b =>
    match BtcTxid.fromDisplaySlice b with
    | .ok spender => .ok (read (some spender))
    | .error e => .error (.types e)

/-- mirrors crates/store/src/models.rs:249-254 -/
def outPointOfKey (key : OutpointKey) : Except StoreError BtcOutPoint :=
  match BtcTxid.fromDisplaySlice key.txid with
  | .ok txid => .ok ⟨txid, key.vout.toUInt32⟩
  | .error e => .error (.types e)

/-- mirrors crates/store/src/btc.rs:29-43 -/
def getObservations (st : Store) (outpoints : List OutpointKey) : List (OutpointKey × ObservationRow) :=
  st.btcOutpoints.select fun key _ => decide (key ∈ outpoints)

/-- `ORDER BY btc_txid, btc_vout`. -/
def outpointKeyLe (a b : OutpointKey) : Bool :=
  match compare a.txid b.txid with
  | .lt => true
  | .gt => false
  | .eq => decide (a.vout ≤ b.vout)

/-- Bound outpoints believed live for an address. mirrors crates/store/src/btc.rs:251-267 -/
def liveBoundOutpointsForAddress (st : Store) (address : String) : List OutpointKey :=
  ((st.rgbppCells.entries.filterMap fun e =>
    match e.2.btcVout with
    | some vout =>
      let key : OutpointKey := ⟨e.2.btcTxid, vout⟩
      if e.2.consumed = none ∧ (st.btcOutpoints.get? key).bind ObservationRow.address = some address then some key
      else none
    | none => none).dedup).insertionSort fun a b => outpointKeyLe a b

/-! ## The refresh queue and anomalies -/

/-- The row a queueing insert leaves; a single enqueue also replaces the reason. -/
def queueRow (old : Option QueueRow) (reason : String) (replaceReason : Bool) (priority : Int32) (now : DateTime) :
    QueueRow :=
  match old with
  | some r =>
    { r with
      reason := if replaceReason then reason else r.reason
      priority := if priority < r.priority then priority else r.priority
      nextAttemptAt := min r.nextAttemptAt now }
  | none => { reason, priority, attempts := 0, lastError := none, nextAttemptAt := now }

/-- mirrors crates/store/src/queue.rs:26-48 -/
def enqueueRefresh (st : Store) (key : OutpointKey) (reason : String) (priority : Int32) (now : DateTime) : Store :=
  { st with btcRefreshQueue := st.btcRefreshQueue.upsert key fun old => queueRow old reason true priority now }

/-- mirrors crates/store/src/queue.rs:50-75 -/
def enqueueRefreshMany (st : Store) (outpoints : List OutpointKey) (reason : String) (priority : Int32)
    (now : DateTime) : Except StoreError (Store × Nat) :=
  if outpoints.isEmpty then .ok (st, 0)
  else if outpoints.Nodup then
    .ok ({ st with
      btcRefreshQueue := outpoints.foldl
        (fun t key => t.upsert key fun old => queueRow old reason false priority now) st.btcRefreshQueue },
      outpoints.length)
  else .error conflictTwice

/-- mirrors crates/store/src/anomalies.rs:65-75 -/
def resolveAnomaliesForOutpoint (st : Store) (key : OutpointKey) (now : DateTime) : Store :=
  { st with
    rgbppAnomalies := st.rgbppAnomalies.mapRows fun _ r =>
      if r.resolvedAt = none ∧ r.btcTxid = some key.txid ∧ r.btcVout = some key.vout then
        { r with resolvedAt := some now }
      else r }

/-! ## Balances -/

/-- One asset's total across a set of cells. mirrors crates/store/src/models.rs:341-347 -/
structure AssetBalanceRow where
  typeHash : Option Bytes
  assetKind : AssetKind
  cellCount : Nat
  totalCapacity : Int
  totalAmount : Nat
  deriving DecidableEq, Repr

/-- The rows the `WHERE` of the balance query keeps. -/
def balanceRows (st : Store) (outpoints : List OutpointKey) (includePending : Bool) : List CellRow :=
  (st.rgbppCells.entries.map fun e => st.rgbppCellStatus e.1 e.2).filter fun r =>
    (match r.btcVout with
      | some vout => decide (⟨r.btcTxid, vout⟩ ∈ outpoints)
      | none => false) &&
    (r.status = .live || (includePending && r.status = .pendingCkb))

/-- `GROUP BY type_hash, asset_kind` of one group. -/
def balanceGroup (rows : List CellRow) (g : Option Bytes × AssetKind) : AssetBalanceRow :=
  let rows := rows.filter fun r => decide ((r.typeHash, r.assetKind) = g)
  { typeHash := g.1, assetKind := g.2, cellCount := rows.length,
    totalCapacity := (rows.map fun r => r.capacity.toInt).sum,
    totalAmount := (rows.map fun r => r.udtAmount.getD 0).sum }

/-- `ORDER BY asset_kind, type_hash`: the kind's text first, a NULL hash last. -/
def groupLe (a b : Option Bytes × AssetKind) : Bool :=
  match compare a.2.asStr b.2.asStr with
  | .lt => true
  | .gt => false
  | .eq =>
    match a.1, b.1 with
    | _, none => true
    | none, some _ => false
    | some x, some y => (compare x y).isLE

/-- mirrors crates/store/src/stats.rs:127-150 -/
def assetBalancesForOutpoints (st : Store) (outpoints : List OutpointKey) (includePending : Bool) :
    List AssetBalanceRow :=
  let rows := st.balanceRows outpoints includePending
  let groups := (rows.map fun r => (r.typeHash, r.assetKind)).dedup.insertionSort fun a b => groupLe a b
  groups.map (balanceGroup rows)

/-! ## What the statements do -/

theorem outPointOfKey_eq_ok {key : OutpointKey} {o : BtcOutPoint} : outPointOfKey key = .ok o ↔ o.key = key := by
  constructor
  · intro h
    unfold outPointOfKey at h
    cases htxid : BtcTxid.fromDisplaySlice key.txid with
    | error e =>
      rw [htxid] at h
      cases h
    | ok txid =>
      rw [htxid] at h
      cases h
      simp only [BtcOutPoint.key, BtcTxid.toDisplayVec_of_fromDisplaySlice htxid, Int32.toInt32_toUInt32]
  · rintro rfl
    unfold outPointOfKey
    simp [BtcOutPoint.key]

/-- A key of 32 bytes is the key of an outpoint; the column of its output number holds every `u32`. -/
theorem exists_outPoint {key : OutpointKey} (h : key.txid.length = 32) : ∃ o : BtcOutPoint, o.key = key := by
  obtain ⟨txid, -, hbytes⟩ := BtcTxid.fromDisplaySlice_of_length h
  refine ⟨⟨txid, key.vout.toUInt32⟩, ?_⟩
  simp only [BtcOutPoint.key, hbytes, Int32.toInt32_toUInt32]

theorem exists_outpoints (page : List OutpointKey) (hkeys : ∀ key ∈ page, ∃ o : BtcOutPoint, o.key = key) :
    ∃ outpoints : List BtcOutPoint, outpoints.map BtcOutPoint.key = page := by
  induction page with
  | nil => exact ⟨[], rfl⟩
  | cons key page ih =>
    obtain ⟨o, ho⟩ := hkeys key (by simp)
    obtain ⟨outpoints, hrest⟩ := ih fun key hkey => hkeys key (List.mem_cons_of_mem _ hkey)
    exact ⟨o :: outpoints, by rw [List.map_cons, ho, hrest]⟩

/-- A row that reads as a spend is one. -/
theorem isSpent_of_spendStatus {r : ObservationRow} {status : OutpointSpendStatus} (h : spendStatus r = .ok status)
    (hspent : status.isSpent = true) : r.status.isSpent = true := by
  by_contra hnot
  have hread : spendStatus r = .ok .unspent ∨ spendStatus r = .ok .unknown ∨ ∃ e, spendStatus r = .error e := by
    unfold spendStatus
    cases hcolumn : r.status with
    | spentUnconfirmed => exact absurd (by rw [hcolumn]; rfl) hnot
    | spentConfirmed => exact absurd (by rw [hcolumn]; rfl) hnot
    | unknown =>
      cases r.spenderTxid with
      | none => exact .inr (.inl rfl)
      | some b =>
        cases hb : BtcTxid.fromDisplaySlice b with
        | ok spender => simp [hb]
        | error e => simp [hb]
    | unspent =>
      cases r.spenderTxid with
      | none => exact .inl rfl
      | some b =>
        cases hb : BtcTxid.fromDisplaySlice b with
        | ok spender => simp [hb]
        | error e => simp [hb]
  rw [h] at hread
  rcases hread with heq | heq | ⟨e, heq⟩
  · rw [Except.ok.inj heq] at hspent
    cases hspent
  · rw [Except.ok.inj heq] at hspent
    cases hspent
  · cases heq

/-- Reading keys as outpoints loses nothing. -/
theorem map_key_of_mapM {α : Type} {key : α → OutpointKey} {xs : List α} {os : List BtcOutPoint}
    (h : (xs.mapM fun x => outPointOfKey (key x)) = .ok os) : os.map BtcOutPoint.key = xs.map key := by
  rw [mapM_eq_ok] at h
  induction h with
  | nil => rfl
  | cons hhead _ ih =>
    have hkey := outPointOfKey_eq_ok.mp hhead
    rw [List.map_cons, List.map_cons, ih, hkey]

/-- And the other way round. -/
theorem mapM_outPointOfKey {page : List OutpointKey} {os : List BtcOutPoint} (h : os.map BtcOutPoint.key = page) :
    page.mapM outPointOfKey = .ok os := by
  rw [mapM_eq_ok, ← h, List.forall₂_map_left_iff, List.forall₂_same]
  exact fun o _ => outPointOfKey_eq_ok.mpr rfl

@[simp] theorem outPointOfKey_key (o : BtcOutPoint) : outPointOfKey o.key = .ok o := outPointOfKey_eq_ok.mpr rfl

@[simp] theorem upsertObservation_rgbppCells (st : Store) (key : OutpointKey) (status : OutpointSpendStatus)
    (address : Option String) (source : String) (now : DateTime) :
    (st.upsertObservation key status address source now).1.rgbppCells = st.rgbppCells := rfl

@[simp] theorem upsertObservation_btcRefreshQueue (st : Store) (key : OutpointKey) (status : OutpointSpendStatus)
    (address : Option String) (source : String) (now : DateTime) :
    (st.upsertObservation key status address source now).1.btcRefreshQueue = st.btcRefreshQueue := rfl

theorem get?_upsertObservation (st : Store) (key k : OutpointKey) (status : OutpointSpendStatus)
    (address : Option String) (source : String) (now : DateTime) :
    (st.upsertObservation key status address source now).1.btcOutpoints.get? k =
      if k = key then some (observationRow (st.btcOutpoints.get? key) status address source now)
      else st.btcOutpoints.get? k := Table.get?_upsert ..

theorem get?_labelOutpoint (source : String) (now : DateTime) (t : Table OutpointKey ObservationRow)
    (e : OutpointKey × String) (k : OutpointKey) :
    (labelOutpoint source now t e).get? k =
      if k = e.1 then some (labelRow (t.get? e.1) e.2 source now) else t.get? k := Table.get?_upsert ..

theorem get?_enqueueRefresh (st : Store) (key k : OutpointKey) (reason : String) (priority : Int32) (now : DateTime) :
    (st.enqueueRefresh key reason priority now).btcRefreshQueue.get? k =
      if k = key then some (queueRow (st.btcRefreshQueue.get? key) reason true priority now)
      else st.btcRefreshQueue.get? k := Table.get?_upsert ..

/-! ## Labelling writes addresses only -/

/-- What a label may do to the row under a key: change its address, or add a row that claims nothing. -/
def LabelledRow : Option ObservationRow → Option ObservationRow → Prop
  | some row, new => ∃ address, new = some { row with address }
  | none, new => ∀ row, new = some row → row.status = .unknown

/-- Every row of `t'` is the row of `t` up to labels. -/
def Labelled (t t' : Table OutpointKey ObservationRow) : Prop := ∀ k, LabelledRow (t.get? k) (t'.get? k)

theorem LabelledRow.refl (o : Option ObservationRow) : LabelledRow o o := by
  cases o with
  | none => intro row h; cases h
  | some row => exact ⟨row.address, rfl⟩

theorem LabelledRow.trans {a b c : Option ObservationRow} (hab : LabelledRow a b) (hbc : LabelledRow b c) :
    LabelledRow a c := by
  cases a with
  | some row =>
    obtain ⟨address, rfl⟩ := hab
    obtain ⟨address', rfl⟩ := hbc
    exact ⟨address', rfl⟩
  | none =>
    cases b with
    | none => exact hbc
    | some row =>
      obtain ⟨address, rfl⟩ := hbc
      intro row' h
      simp only [Option.some.injEq] at h
      rw [← h]
      exact hab row rfl

theorem Labelled.refl (t : Table OutpointKey ObservationRow) : Labelled t t := fun _ => LabelledRow.refl _

theorem Labelled.trans {t t' t'' : Table OutpointKey ObservationRow} (h : Labelled t t') (h' : Labelled t' t'') :
    Labelled t t'' := fun k => (h k).trans (h' k)

theorem labelOutpoint_labelled (source : String) (now : DateTime) (t : Table OutpointKey ObservationRow)
    (e : OutpointKey × String) : Labelled t (labelOutpoint source now t e) := by
  intro k
  rw [get?_labelOutpoint]
  by_cases hk : k = e.1
  · rw [if_pos hk, hk]
    unfold labelRow
    cases t.get? e.1 with
    | none =>
      intro row h
      simp only [Option.some.injEq] at h
      rw [← h]
    | some row => exact ⟨some e.2, rfl⟩
  · rw [if_neg hk]
    exact LabelledRow.refl _

/-- A labelling insert that succeeds changes one table, and there only labels. -/
theorem labelOutpoints_eq_ok {st st' : Store} {source : String} {outputs : List (OutpointKey × String)}
    {now : DateTime} {n : Nat} (h : st.labelOutpoints source outputs now = .ok (st', n)) :
    st' = { st with btcOutpoints := st'.btcOutpoints } ∧ Labelled st.btcOutpoints st'.btcOutpoints := by
  have hfold : ∀ (es : List (OutpointKey × String)) (t : Table OutpointKey ObservationRow),
      Labelled t (es.foldl (labelOutpoint source now) t) := by
    intro es
    induction es with
    | nil => exact Labelled.refl
    | cons e es ih => intro t; exact (labelOutpoint_labelled source now t e).trans (ih _)
  unfold labelOutpoints at h
  simp only at h
  split at h
  · simp only [Except.ok.injEq, Prod.mk.injEq] at h
    obtain ⟨rfl, -⟩ := h
    exact ⟨rfl, hfold _ _⟩
  · cases h

theorem recordBindingAddresses_eq_ok {st st' : Store} {txid : Bytes} {outputs : List (Int32 × String)}
    {now : DateTime} {n : Nat} (h : st.recordBindingAddresses txid outputs now = .ok (st', n)) :
    st' = { st with btcOutpoints := st'.btcOutpoints } ∧ Labelled st.btcOutpoints st'.btcOutpoints := by
  unfold recordBindingAddresses at h
  split at h
  · simp only [Except.ok.injEq, Prod.mk.injEq] at h
    obtain ⟨rfl, -⟩ := h
    exact ⟨rfl, Labelled.refl _⟩
  · exact labelOutpoints_eq_ok h

theorem recordOutpointAddresses_eq_ok {st st' : Store} {outpoints : List OutpointKey} {address : String}
    {now : DateTime} {n : Nat} (h : st.recordOutpointAddresses outpoints address now = .ok (st', n)) :
    st' = { st with btcOutpoints := st'.btcOutpoints } ∧ Labelled st.btcOutpoints st'.btcOutpoints := by
  unfold recordOutpointAddresses at h
  split at h
  · simp only [Except.ok.injEq, Prod.mk.injEq] at h
    obtain ⟨rfl, -⟩ := h
    exact ⟨rfl, Labelled.refl _⟩
  · exact labelOutpoints_eq_ok h

/-! ### The row under one key -/

theorem get?_foldl_labelOutpoint_of_notMem {source : String} {now : DateTime} {es : List (OutpointKey × String)}
    {t : Table OutpointKey ObservationRow} {k : OutpointKey} (h : k ∉ es.map Prod.fst) :
    (es.foldl (labelOutpoint source now) t).get? k = t.get? k := by
  induction es generalizing t with
  | nil => rfl
  | cons e es ih =>
    rw [List.map_cons, List.mem_cons, not_or] at h
    rw [List.foldl_cons, ih h.2, get?_labelOutpoint, if_neg h.1]

theorem get?_foldl_labelOutpoint_of_mem {source : String} {now : DateTime} {es : List (OutpointKey × String)}
    {t : Table OutpointKey ObservationRow} {k : OutpointKey} {address : String} (hnodup : (es.map Prod.fst).Nodup)
    (h : (k, address) ∈ es) :
    (es.foldl (labelOutpoint source now) t).get? k = some (labelRow (t.get? k) address source now) := by
  induction es generalizing t with
  | nil => cases h
  | cons e es ih =>
    rw [List.map_cons, List.nodup_cons] at hnodup
    rw [List.foldl_cons]
    rcases List.mem_cons.mp h with rfl | hmem
    · rw [get?_foldl_labelOutpoint_of_notMem hnodup.1, get?_labelOutpoint, if_pos rfl]
    · have hne : k ≠ e.1 := fun heq => hnodup.1 (heq ▸ List.mem_map_of_mem hmem)
      rw [ih hnodup.2 hmem, get?_labelOutpoint, if_neg hne]

section
variable {st st' : Store} {source : String} {outputs : List (OutpointKey × String)} {now : DateTime} {n : Nat}
  {k : OutpointKey} {address : String}

/-- A label that is given replaces the one there was. -/
theorem get?_labelOutpoints_of_mem (h : st.labelOutpoints source outputs now = .ok (st', n)) (hmem : (k, address) ∈ outputs)
    (hbound : st.hasBoundCell k = true) :
    st'.btcOutpoints.get? k = some (labelRow (st.btcOutpoints.get? k) address source now) := by
  unfold labelOutpoints at h
  dsimp only at h
  split at h
  · next hnodup =>
    simp only [Except.ok.injEq, Prod.mk.injEq] at h
    rw [← h.1]
    exact get?_foldl_labelOutpoint_of_mem hnodup (List.mem_filter.mpr ⟨hmem, hbound⟩)
  · cases h

/-- Without a label, or without a cell bound to it, a row stays as it is. -/
theorem get?_labelOutpoints_of_notMem (h : st.labelOutpoints source outputs now = .ok (st', n))
    (hnone : k ∈ outputs.map Prod.fst → st.hasBoundCell k = false) :
    st'.btcOutpoints.get? k = st.btcOutpoints.get? k := by
  unfold labelOutpoints at h
  dsimp only at h
  split at h
  · simp only [Except.ok.injEq, Prod.mk.injEq] at h
    rw [← h.1]
    refine get?_foldl_labelOutpoint_of_notMem fun hmem => ?_
    obtain ⟨e, he, rfl⟩ := List.mem_map.mp hmem
    obtain ⟨hmem, hbound⟩ := List.mem_filter.mp he
    rw [hnone (List.mem_map_of_mem hmem)] at hbound
    cases hbound
  · cases h

theorem get?_recordOutpointAddresses {outpoints : List OutpointKey}
    (h : st.recordOutpointAddresses outpoints address now = .ok (st', n)) :
    st'.btcOutpoints.get? k =
      if k ∈ outpoints ∧ st.hasBoundCell k = true then
        some (labelRow (st.btcOutpoints.get? k) address "address-lookup" now)
      else st.btcOutpoints.get? k := by
  unfold recordOutpointAddresses at h
  split at h
  · next hempty =>
    simp only [Except.ok.injEq, Prod.mk.injEq] at h
    rw [List.isEmpty_iff.mp hempty, if_neg (fun hmem => List.not_mem_nil hmem.1), ← h.1]
  · by_cases hmem : k ∈ outpoints ∧ st.hasBoundCell k = true
    · rw [if_pos hmem]
      exact get?_labelOutpoints_of_mem h (List.mem_map.mpr ⟨k, hmem.1, rfl⟩) hmem.2
    · rw [if_neg hmem]
      refine get?_labelOutpoints_of_notMem h fun hkey => ?_
      rw [List.map_map, List.mem_map] at hkey
      obtain ⟨k', hk', rfl⟩ := hkey
      exact Bool.eq_false_iff.mpr fun hbound => hmem ⟨hk', hbound⟩

end

/-! ## What is queued -/

/-- An outpoint has an entry in the refresh queue. -/
def Queued (st : Store) (key : OutpointKey) : Prop := (st.btcRefreshQueue.get? key).isSome = true

instance (st : Store) (key : OutpointKey) : Decidable (st.Queued key) := inferInstanceAs (Decidable (_ = true))

theorem queued_enqueueRefresh {st : Store} {key k : OutpointKey} {reason : String} {priority : Int32} {now : DateTime} :
    (st.enqueueRefresh key reason priority now).Queued k ↔ k = key ∨ st.Queued k := by
  unfold Queued
  rw [get?_enqueueRefresh]
  by_cases hk : k = key
  · simp [hk]
  · simp [hk]

/-- A multi-row queueing insert takes distinct outpoints. -/
theorem enqueueRefreshMany_ok_iff {st : Store} {outpoints : List OutpointKey} {reason : String} {priority : Int32}
    {now : DateTime} : (∃ done, st.enqueueRefreshMany outpoints reason priority now = .ok done) ↔ outpoints.Nodup := by
  unfold enqueueRefreshMany
  split
  · next hnil =>
    rw [List.isEmpty_iff.mp hnil]
    exact iff_of_true ⟨_, rfl⟩ List.nodup_nil
  · split
    · next hnodup => exact iff_of_true ⟨_, rfl⟩ hnodup
    · next hnodup => exact iff_of_false (fun ⟨done, h⟩ => by cases h) hnodup

/-- A multi-row queueing insert that succeeds writes the row of each of its outpoints and nothing else. -/
theorem get?_enqueueRefreshMany {st st' : Store} {outpoints : List OutpointKey} {reason : String} {priority : Int32}
    {now : DateTime} {n : Nat} (h : st.enqueueRefreshMany outpoints reason priority now = .ok (st', n)) :
    st' = { st with btcRefreshQueue := st'.btcRefreshQueue } ∧
      ∀ k, st'.btcRefreshQueue.get? k =
        if k ∈ outpoints then some (queueRow (st.btcRefreshQueue.get? k) reason false priority now)
        else st.btcRefreshQueue.get? k := by
  unfold enqueueRefreshMany at h
  by_cases hnil : outpoints.isEmpty
  · rw [if_pos hnil] at h
    simp only [Except.ok.injEq, Prod.mk.injEq] at h
    obtain ⟨rfl, -⟩ := h
    rw [List.isEmpty_iff] at hnil
    exact ⟨rfl, fun k => by simp [hnil]⟩
  · rw [if_neg hnil] at h
    split at h
    · next hnodup =>
      simp only [Except.ok.injEq, Prod.mk.injEq] at h
      obtain ⟨rfl, -⟩ := h
      exact ⟨rfl, Table.get?_foldl_upsert _ hnodup _⟩
    · cases h

/-- A multi-row queueing insert that succeeds queues its outpoints and nothing else. -/
theorem enqueueRefreshMany_eq_ok {st st' : Store} {outpoints : List OutpointKey} {reason : String} {priority : Int32}
    {now : DateTime} {n : Nat} (h : st.enqueueRefreshMany outpoints reason priority now = .ok (st', n)) :
    st' = { st with btcRefreshQueue := st'.btcRefreshQueue } ∧
      ∀ k, st'.Queued k ↔ k ∈ outpoints ∨ st.Queued k := by
  obtain ⟨hframe, hrow⟩ := get?_enqueueRefreshMany h
  refine ⟨hframe, fun k => ?_⟩
  unfold Queued
  rw [hrow]
  by_cases hk : k ∈ outpoints
  · simp [hk]
  · simp [hk]

end Store
end RgbppIndexer
