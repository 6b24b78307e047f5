import Mathlib.Data.List.Dedup
import Std.Data.String.ToNat
import RgbppIndexer.Core.Keyset
import RgbppIndexer.Store.Btc

/-!
# Anomalies

`crates/store/src/anomalies.rs` and the kinds of `crates/types/src/state.rs`:
findings under a dedup key, which the caller makes from the kind and the
subject, so that detecting a problem again updates one row. A conflict only
refreshes the detail and reopens the row; the columns that say what the row is
about keep the values of its first insert.

* `dedupKey_inj`, `BtcOutPoint.text_injective`: a key names one kind and one
  subject.
* `AnomaliesKeyed`: the rows are about what their keys say. It makes reopening
  safe, and every write keeps it.
* `openFinding_recordMisspend`, `openFinding_resolve`: what recording and
  resolving do to the findings of an outpoint.
-/
namespace RgbppIndexer

open RgbppIndexer.Core

/-- mirrors crates/types/src/state.rs:141-151 -/
inductive AnomalyKind where
  | btcSpentWithoutCkb
  | commitmentMismatch
  | unknownBtcTx
  | noCommitmentInSpender
  deriving DecidableEq, Repr

namespace AnomalyKind

/-- mirrors crates/types/src/state.rs:154-161 -/
def asStr : AnomalyKind → String
  | btcSpentWithoutCkb => "btc_spent_without_ckb"
  | commitmentMismatch => "commitment_mismatch"
  | unknownBtcTx => "unknown_btc_tx"
  | noCommitmentInSpender => "no_commitment_in_spender"

/-- The kinds misspend detection records. -/
def isMisspend : AnomalyKind → Bool
  | btcSpentWithoutCkb => true
  | noCommitmentInSpender => true
  | _ => false

/-- No kind's text begins like another's. -/
theorem asStr_head_injective {k k' : AnomalyKind} (h : k.asStr.toList.head? = k'.asStr.toList.head?) : k = k' := by
  revert h
  cases k <;> cases k' <;> decide

theorem asStr_injective : Function.Injective asStr := by
  intro k k' h
  exact asStr_head_injective (by rw [h])

theorem asStr_ne_nil (k : AnomalyKind) : k.asStr.toList ≠ [] := by
  cases k <;> decide

end AnomalyKind

/-- Stable identity for an anomaly. mirrors crates/store/src/anomalies.rs:108-110 -/
def dedupKey (kind : AnomalyKind) (subject : String) : String := kind.asStr ++ ":" ++ subject

/-- mirrors crates/types/src/bitcoin.rs:114-118 -/
def BtcOutPoint.text (o : BtcOutPoint) : String := hexText o.txid.toDisplayVec ++ ":" ++ Nat.repr o.vout.toNat

theorem dedupKey_inj {k k' : AnomalyKind} {s s' : String} (h : dedupKey k s = dedupKey k' s') : k = k' ∧ s = s' := by
  have hlist := congrArg String.toList h
  unfold dedupKey at hlist
  rw [String.toList_append, String.toList_append, String.toList_append, String.toList_append, List.append_assoc,
    List.append_assoc] at hlist
  have hhead := congrArg List.head? hlist
  rw [List.head?_append_of_ne_nil _ k.asStr_ne_nil, List.head?_append_of_ne_nil _ k'.asStr_ne_nil] at hhead
  obtain rfl := AnomalyKind.asStr_head_injective hhead
  have htail := List.append_cancel_left (List.append_cancel_left hlist)
  exact ⟨rfl, String.toList_inj.mp htail⟩

theorem hexText_injective : Function.Injective hexText := by
  intro a b h
  have hdecode := hexDecode_hexText a
  rw [h, hexDecode_hexText b] at hdecode
  exact (Except.ok.inj hdecode).symm

theorem length_hexText (b : Bytes) : (hexText b).toList.length = 2 * b.length := by
  unfold hexText asciiText
  rw [String.toList_ofList, List.length_map, hexEncode_length]

theorem BtcOutPoint.text_injective : Function.Injective BtcOutPoint.text := by
  intro o o' h
  have hlist := congrArg String.toList h
  unfold BtcOutPoint.text at hlist
  rw [String.toList_append, String.toList_append, String.toList_append, String.toList_append, List.append_assoc,
    List.append_assoc] at hlist
  have hlength : (hexText o.txid.toDisplayVec).toList.length = (hexText o'.txid.toDisplayVec).toList.length := by
    rw [length_hexText, length_hexText, BtcTxid.toDisplayVec_length, BtcTxid.toDisplayVec_length]
  obtain ⟨hhex, hrest⟩ := List.append_inj hlist hlength
  have hvout := List.append_cancel_left hrest
  have htxid := BtcTxid.toDisplayVec_injective (hexText_injective (String.toList_inj.mp hhex))
  have hv := UInt32.toNat_inj.mp (Nat.repr_injective (String.toList_inj.mp hvout))
  cases o
  cases o'
  simp only at htxid hv
  rw [htxid, hv]

namespace Store

/-- mirrors crates/store/src/anomalies.rs:19-48 -/
def recordAnomaly (st : Store) (kind : AnomalyKind) (dedupKey : String) (btcTxid : Option Bytes) (btcVout : Option Int32)
    (ckbTxHash : Option Bytes) (ckbOutputIndex : Option Int32) (detail : JsonObject) (now : DateTime) : Store :=
  { st with
    rgbppAnomalies := st.rgbppAnomalies.upsert dedupKey fun old =>
      match old with
      | some r => { r with detail, lastSeenAt := now, resolvedAt := none }
      | none =>
        { kind := kind.asStr, btcTxid, btcVout, ckbTxHash, ckbOutputIndex, detail, detectedAt := now,
          lastSeenAt := now, resolvedAt := none } }

/-- A finding of misspend detection, with the columns it is recorded under.
mirrors crates/indexer/src/sweeper.rs:231-241 -/
def recordMisspend (st : Store) (kind : AnomalyKind) (outpoint : BtcOutPoint) (detail : JsonObject) (now : DateTime) :
    Store :=
  st.recordAnomaly kind (dedupKey kind outpoint.text) (some outpoint.key.txid) (some outpoint.key.vout) none none detail now

/-- A finding of the verifier. mirrors crates/indexer/src/verify.rs:166-185 -/
def recordForTransition (st : Store) (kind : AnomalyKind) (ckbTxHash : Bytes) (btcTxid : Option Bytes)
    (detail : JsonObject) (now : DateTime) : Store :=
  st.recordAnomaly kind (dedupKey kind (hexText ckbTxHash)) btcTxid none (some ckbTxHash) none detail now

/-! ## The work lists of the sweeper -/

/-- The join of the pending query: one row for each unconsumed cell bound to an outpoint observed as spent. -/
def pendingRows (st : Store) : List (OutpointKey × ObservationRow) :=
  st.rgbppCells.entries.filterMap fun e =>
    match e.2.btcVout, e.2.consumed with
    | some vout, none =>
      let key : OutpointKey := ⟨e.2.btcTxid, vout⟩
      (st.btcOutpoints.get? key).bind fun row =>
        if row.invalidatedAt = none ∧ row.status.isSpent then some (key, row) else none
    | _, _ => none

/-- mirrors crates/store/src/btc.rs:96-110 -/
def pendingCkbOutpoints (st : Store) (rows : RowOrder (OutpointKey × ObservationRow)) (limit : Nat) :
    List (OutpointKey × ObservationRow) :=
  ((rows.order st.pendingRows).insertionSort fun a b => a.2.observedAt ≤ b.2.observedAt).take limit

/-- mirrors crates/store/src/transitions.rs:41-50 -/
def transitionsByBtcTxid (st : Store) (btcTxid : Bytes) : List (Bytes × TransitionRecord) :=
  (st.rgbppTransitions.select fun _ t => decide (t.btcTxid = some btcTxid)).insertionSort fun a b =>
    a.2.blockNumber < b.2.blockNumber ∨ a.2.blockNumber = b.2.blockNumber ∧ a.2.txIndex ≤ b.2.txIndex

/-- The outpoints backing live cells, in key order. -/
def liveBoundOutpoints (st : Store) : List OutpointKey :=
  ((st.rgbppCells.entries.filterMap fun e =>
    match e.2.btcVout with
    | some vout => if e.2.consumed = none then some (⟨e.2.btcTxid, vout⟩ : OutpointKey) else none
    | none => none).dedup).insertionSort fun a b => outpointKeyLe a b

/-- A page of them. mirrors crates/store/src/cells.rs:146-171 -/
def liveBoundOutpointsAfter (st : Store) (after : Option OutpointKey) (limit : Int64) :
    Except StoreError (List OutpointKey) :=
  if limit < 0 then .error (.sqlx "LIMIT must not be negative")
  else
    .ok ((st.liveBoundOutpoints.filter fun key =>
      match after with
      | some cursor => !outpointKeyLe key cursor
      | none => true).take limit.toInt.toNat)

/-! ## Pages -/

theorem compare_self_ne_lt (b : Bytes) : compare b b ≠ .lt := by
  intro h
  cases h.symm.trans (Std.ReflOrd.compare_self (a := b))

theorem outpointKeyLe_iff {a b : OutpointKey} :
    outpointKeyLe a b = true ↔ compare a.txid b.txid = .lt ∨ a.txid = b.txid ∧ a.vout ≤ b.vout := by
  unfold outpointKeyLe
  cases hcmp : compare a.txid b.txid with
  | lt => simp
  | eq => simp [Std.LawfulEqCmp.eq_of_compare hcmp]
  | gt =>
    have hne : a.txid ≠ b.txid := fun heq => by
      rw [heq] at hcmp
      exact compare_self_ne_lt b.txid (Std.OrientedCmp.lt_of_gt hcmp)
    simp [hne]

theorem outpointKeyLe_isOrder : Keyset.IsOrder outpointKeyLe where
  total a b := by
    rw [outpointKeyLe_iff, outpointKeyLe_iff]
    cases hcmp : compare a.txid b.txid with
    | lt => exact .inl (.inl rfl)
    | gt => exact .inr (.inl (Std.OrientedCmp.lt_of_gt hcmp))
    | eq =>
      have heq := Std.LawfulEqCmp.eq_of_compare hcmp
      rcases Int32.le_total a.vout b.vout with hle | hle
      · exact .inl (.inr ⟨heq, hle⟩)
      · exact .inr (.inr ⟨heq.symm, hle⟩)
  trans a b c hab hbc := by
    rw [outpointKeyLe_iff] at hab hbc ⊢
    rcases hab with hab | ⟨hab, hab'⟩
    · rcases hbc with hbc | ⟨hbc, -⟩
      · exact .inl (Std.TransCmp.lt_trans hab hbc)
      · exact .inl (hbc ▸ hab)
    · rcases hbc with hbc | ⟨hbc, hbc'⟩
      · exact .inl (hab ▸ hbc)
      · exact .inr ⟨hab.trans hbc, Int32.le_trans hab' hbc'⟩
  antisymm a b hab hba := by
    rw [outpointKeyLe_iff] at hab hba
    rcases hab with hab | ⟨hab, hab'⟩
    · rcases hba with hba | ⟨hba, -⟩
      · cases hab.symm.trans (Std.OrientedCmp.gt_of_lt hba)
      · rw [hba] at hab
        exact absurd hab (compare_self_ne_lt a.txid)
    · rcases hba with hba | ⟨-, hba'⟩
      · rw [hab] at hba
        exact absurd hba (compare_self_ne_lt b.txid)
      · cases a
        cases b
        rw [OutpointKey.mk.injEq]
        exact ⟨hab, Int32.le_antisymm hab' hba'⟩

theorem liveBoundOutpoints_sorted (st : Store) : st.liveBoundOutpoints.Pairwise fun a b => outpointKeyLe a b = true :=
  outpointKeyLe_isOrder.pairwise_insertionSort _

theorem liveBoundOutpoints_nodup (st : Store) : st.liveBoundOutpoints.Nodup :=
  (List.perm_insertionSort _ _).nodup_iff.mpr (List.nodup_dedup _)

/-- The pages of the walk are pages of the live outpoints. -/
theorem liveBoundOutpointsAfter_eq_ok {st : Store} {cursor : Option OutpointKey} {limit : Int64} {page : List OutpointKey} :
    st.liveBoundOutpointsAfter cursor limit = .ok page ↔
      ¬ limit < 0 ∧ page = Keyset.page outpointKeyLe cursor limit.toInt.toNat st.liveBoundOutpoints := by
  unfold liveBoundOutpointsAfter
  by_cases hlimit : limit < 0
  · simp [hlimit]
  · have hpage : ((st.liveBoundOutpoints.filter fun key =>
        match cursor with
        | some cursor => !outpointKeyLe key cursor
        | none => true).take limit.toInt.toNat) =
          Keyset.page outpointKeyLe cursor limit.toInt.toNat st.liveBoundOutpoints := by
      cases cursor with
      | none => rfl
      | some cursor => rfl
    rw [if_neg hlimit, Except.ok.injEq, hpage]
    exact ⟨fun h => ⟨hlimit, h.symm⟩, fun h => h.2.symm⟩

/-! ## Membership in the work lists -/

/-- An unconsumed cell is bound to the outpoint. -/
def LiveBound (key : OutpointKey) (st : Store) : Prop :=
  ∃ k c, st.rgbppCells.get? k = some c ∧ c.btcTxid = key.txid ∧ c.btcVout = some key.vout ∧ c.consumed = none

section
variable {st : Store} {key : OutpointKey} {row : ObservationRow}

theorem mem_pendingRows : (key, row) ∈ st.pendingRows ↔
    LiveBound key st ∧ st.btcOutpoints.get? key = some row ∧ row.invalidatedAt = none ∧ row.status.isSpent = true := by
  unfold pendingRows
  rw [List.mem_filterMap]
  constructor
  · rintro ⟨⟨k, c⟩, hc, hrow⟩
    dsimp only at hrow
    split at hrow
    · next vout hvout hconsumed =>
      obtain ⟨row', hrow', hif⟩ := Option.bind_eq_some_iff.mp hrow
      split at hif
      · next hspent =>
        obtain ⟨rfl, rfl⟩ := Prod.mk.inj (Option.some.inj hif)
        exact ⟨⟨k, c, (Table.get?_eq_some_iff ..).mpr hc, rfl, hvout, hconsumed⟩, hrow', hspent⟩
      · cases hif
    · cases hrow
  · rintro ⟨⟨k, c, hc, htxid, hvout, hconsumed⟩, hrow, hspent⟩
    refine ⟨(k, c), (Table.get?_eq_some_iff ..).mp hc, ?_⟩
    simp only [hvout, hconsumed, htxid, hrow, Option.bind_some, if_pos hspent]

/-- Below its limit the pending query returns the whole join. -/
theorem mem_pendingCkbOutpoints {rows : RowOrder (OutpointKey × ObservationRow)} {limit : Nat}
    (hlimit : st.pendingRows.length ≤ limit) {e : OutpointKey × ObservationRow} :
    e ∈ st.pendingCkbOutpoints rows limit ↔ e ∈ st.pendingRows := by
  unfold pendingCkbOutpoints
  rw [List.take_of_length_le, List.mem_insertionSort, rows.mem_order]
  rw [List.length_insertionSort, (rows.perm _).length_eq]
  exact hlimit

theorem mem_of_mem_pendingCkbOutpoints {rows : RowOrder (OutpointKey × ObservationRow)} {limit : Nat}
    {e : OutpointKey × ObservationRow} (h : e ∈ st.pendingCkbOutpoints rows limit) : e ∈ st.pendingRows := by
  have hmem := List.mem_of_mem_take h
  rw [List.mem_insertionSort, rows.mem_order] at hmem
  exact hmem

theorem mem_liveBoundOutpoints : key ∈ st.liveBoundOutpoints ↔ LiveBound key st := by
  unfold liveBoundOutpoints
  rw [List.mem_insertionSort, List.mem_dedup, List.mem_filterMap]
  constructor
  · rintro ⟨⟨k, c⟩, hc, hkey⟩
    dsimp only at hkey
    split at hkey
    · next vout hvout =>
      split at hkey
      · next hconsumed =>
        obtain rfl := Option.some.inj hkey
        exact ⟨k, c, (Table.get?_eq_some_iff ..).mpr hc, rfl, hvout, hconsumed⟩
      · cases hkey
    · cases hkey
  · rintro ⟨k, c, hc, htxid, hvout, hconsumed⟩
    refine ⟨(k, c), (Table.get?_eq_some_iff ..).mp hc, ?_⟩
    simp only [hvout, hconsumed, htxid, if_true]

theorem liveBound_of_eq {st' : Store} (h : st'.rgbppCells = st.rgbppCells) : LiveBound key st' ↔ LiveBound key st := by
  unfold LiveBound
  rw [h]

/-- A batch makes no outpoint live but those its cells are bound to. -/
theorem liveBound_applyBatch {b : IndexBatch} {now : DateTime} (h : LiveBound key (st.applyBatch b now).1) :
    LiveBound key st ∨ ∃ c ∈ b.cells, c.btcTxid = key.txid ∧ c.btcVout = some key.vout := by
  rw [applyBatch_fst] at h
  obtain ⟨k, r, hrow, htxid, hvout, hconsumed⟩ := h
  rcases unconsumed_foldl_cellInsert (unconsumed_foldl_cellSpend hrow hconsumed) hconsumed with
    ⟨r', hrow', hbody, hconsumed'⟩ | ⟨c, hc, hbody⟩
  · exact .inl ⟨k, r', hrow', (congrArg CellBody.btcTxid hbody).trans htxid, (congrArg CellBody.btcVout hbody).trans hvout,
      hconsumed'⟩
  · exact .inr ⟨c, hc, (congrArg CellBody.btcTxid hbody).trans htxid, (congrArg CellBody.btcVout hbody).trans hvout⟩

theorem liveBoundOutpoints_of_eq {st' : Store} (h : st'.rgbppCells = st.rgbppCells) :
    st'.liveBoundOutpoints = st.liveBoundOutpoints := by
  unfold liveBoundOutpoints
  rw [h]

theorem transitionsByBtcTxid_eq_nil {btcTxid : Bytes} :
    st.transitionsByBtcTxid btcTxid = [] ↔ ∀ h t, st.rgbppTransitions.get? h = some t → t.btcTxid ≠ some btcTxid := by
  unfold transitionsByBtcTxid
  constructor
  · intro hnil h t ht hbtc
    have hmem : (h, t) ∈ (st.rgbppTransitions.select fun _ t => decide (t.btcTxid = some btcTxid)) :=
      (Table.mem_select ..).mpr ⟨ht, by simpa using hbtc⟩
    rw [← List.mem_insertionSort (fun a b : Bytes × TransitionRecord =>
      a.2.blockNumber < b.2.blockNumber ∨ a.2.blockNumber = b.2.blockNumber ∧ a.2.txIndex ≤ b.2.txIndex), hnil] at hmem
    cases hmem
  · intro hnone
    rw [List.eq_nil_iff_forall_not_mem]
    rintro ⟨h, t⟩ hmem
    rw [List.mem_insertionSort, Table.mem_select] at hmem
    exact hnone h t hmem.1 (by simpa using hmem.2)

end

end Store

/-! ## Findings -/

/-- The row is about the outpoint. -/
def AnomalyRow.Attached (key : OutpointKey) (r : AnomalyRow) : Prop :=
  r.btcTxid = some key.txid ∧ r.btcVout = some key.vout

theorem AnomalyRow.Attached.unique {k k' : OutpointKey} {r : AnomalyRow} (h : r.Attached k) (h' : r.Attached k') : k = k' := by
  cases k
  cases k'
  rw [OutpointKey.mk.injEq]
  exact ⟨Option.some.inj (h.1.symm.trans h'.1), Option.some.inj (h.2.symm.trans h'.2)⟩

theorem AnomalyRow.not_attached {key : OutpointKey} {r : AnomalyRow} (h : r.btcVout = none) : ¬ r.Attached key := by
  intro hattached
  cases h.symm.trans hattached.2

/-- The row under a dedup key is an open anomaly of the outpoint. -/
def OpenAnomaly (k : String) (key : OutpointKey) (st : Store) : Prop :=
  ∃ r, st.rgbppAnomalies.get? k = some r ∧ r.Attached key ∧ r.resolvedAt = none

instance (key : OutpointKey) (r : AnomalyRow) : Decidable (r.Attached key) := inferInstanceAs (Decidable (_ ∧ _))

instance (k : String) (key : OutpointKey) (st : Store) : Decidable (OpenAnomaly k key st) :=
  decidable_of_iff (((st.rgbppAnomalies.get? k).any fun r => decide (r.Attached key ∧ r.resolvedAt = none)) = true) <| by
    simp only [Option.any_eq_true, decide_eq_true_eq, OpenAnomaly]

/-- An anomaly of misspend detection is open for the outpoint. -/
def OpenFinding (key : OutpointKey) (st : Store) : Prop :=
  ∃ k r, st.rgbppAnomalies.get? k = some r ∧ r.Attached key ∧ r.resolvedAt = none ∧
    ∃ kind : AnomalyKind, kind.isMisspend = true ∧ r.kind = kind.asStr

/-- What a row says about itself is what its key says. -/
inductive RowKeyed (k : String) (r : AnomalyRow) : Prop
  | misspend (kind : AnomalyKind) (o : BtcOutPoint) (hkind : kind.isMisspend = true) (hk : k = dedupKey kind o.text)
      (htext : r.kind = kind.asStr) (hattached : r.Attached o.key)
  | transition (kind : AnomalyKind) (hash : Bytes) (hkind : kind.isMisspend = false) (hk : k = dedupKey kind (hexText hash))
      (htext : r.kind = kind.asStr) (hvout : r.btcVout = none)

def AnomaliesKeyed (st : Store) : Prop := ∀ k r, st.rgbppAnomalies.get? k = some r → RowKeyed k r

section
variable {st : Store} {key : OutpointKey} {o : BtcOutPoint} {kind : AnomalyKind} {detail : JsonObject} {now : DateTime}

theorem RowKeyed.attached {r : AnomalyRow} (h : RowKeyed (dedupKey kind o.text) r) (hkind : kind.isMisspend = true) :
    r.kind = kind.asStr ∧ r.Attached o.key := by
  cases h with
  | misspend kind' o' hkind' hk htext hattached =>
    obtain ⟨rfl, ho⟩ := dedupKey_inj hk
    obtain rfl := BtcOutPoint.text_injective ho
    exact ⟨htext, hattached⟩
  | transition kind' hash hkind' hk htext hvout =>
    obtain ⟨rfl, -⟩ := dedupKey_inj hk
    rw [hkind] at hkind'
    cases hkind'

theorem get?_recordMisspend (k : String) : (st.recordMisspend kind o detail now).rgbppAnomalies.get? k =
    if k = dedupKey kind o.text then
      some (match st.rgbppAnomalies.get? k with
        | some r => { r with detail, lastSeenAt := now, resolvedAt := none }
        | none =>
          { kind := kind.asStr, btcTxid := some o.key.txid, btcVout := some o.key.vout, ckbTxHash := none,
            ckbOutputIndex := none, detail, detectedAt := now, lastSeenAt := now, resolvedAt := none })
    else st.rgbppAnomalies.get? k := by
  unfold Store.recordMisspend Store.recordAnomaly
  rw [Table.get?_upsert]
  split
  · next hk =>
    subst hk
    rfl
  · rfl

variable (detail now) in
/-- The row a finding is recorded in, which is open and about the outpoint. -/
theorem recordMisspend_row (h : AnomaliesKeyed st) (hkind : kind.isMisspend = true) :
    ∃ r, (st.recordMisspend kind o detail now).rgbppAnomalies.get? (dedupKey kind o.text) = some r ∧
      r.Attached o.key ∧ r.kind = kind.asStr ∧ r.resolvedAt = none := by
  rw [get?_recordMisspend, if_pos rfl]
  cases hold : st.rgbppAnomalies.get? (dedupKey kind o.text) with
  | none => exact ⟨_, rfl, ⟨rfl, rfl⟩, rfl, rfl⟩
  | some r =>
    obtain ⟨htext, hattached⟩ := (h _ r hold).attached hkind
    exact ⟨_, rfl, hattached, htext, rfl⟩

theorem AnomaliesKeyed.recordMisspend (h : AnomaliesKeyed st) (hkind : kind.isMisspend = true) :
    AnomaliesKeyed (st.recordMisspend kind o detail now) := by
  intro k r hr
  by_cases hk : k = dedupKey kind o.text
  · subst hk
    obtain ⟨r', hr', hattached, htext, -⟩ := recordMisspend_row detail now h hkind (o := o)
    rw [hr'] at hr
    obtain rfl := Option.some.inj hr
    exact .misspend kind o hkind rfl htext hattached
  · rw [get?_recordMisspend, if_neg hk] at hr
    exact h k r hr

/-- Only misspend detection attaches a row to an outpoint. -/
theorem openFinding_iff (h : AnomaliesKeyed st) : OpenFinding key st ↔ ∃ k, OpenAnomaly k key st := by
  constructor
  · rintro ⟨k, r, hr, hattached, hopen, -⟩
    exact ⟨k, r, hr, hattached, hopen⟩
  · rintro ⟨k, r, hr, hattached, hopen⟩
    refine ⟨k, r, hr, hattached, hopen, ?_⟩
    cases h k r hr with
    | misspend kind o hkind hk htext hattached' => exact ⟨kind, hkind, htext⟩
    | transition kind hash hkind hk htext hvout => exact absurd hattached (AnomalyRow.not_attached hvout)

/-- Recording a finding opens it, and leaves all other anomalies alone. -/
theorem openAnomaly_recordMisspend (h : AnomaliesKeyed st) (hkind : kind.isMisspend = true) {k : String} :
    OpenAnomaly k key (st.recordMisspend kind o detail now) ↔
      k = dedupKey kind o.text ∧ key = o.key ∨ OpenAnomaly k key st := by
  obtain ⟨r, hr, hattached, -, hopen⟩ := recordMisspend_row detail now h hkind (o := o)
  by_cases hk : k = dedupKey kind o.text
  · subst hk
    constructor
    · rintro ⟨r', hr', hattached', -⟩
      rw [hr] at hr'
      obtain rfl := Option.some.inj hr'
      exact .inl ⟨rfl, hattached'.unique hattached⟩
    · intro hcases
      have hkey : key = o.key := by
        rcases hcases with ⟨-, hkey⟩ | ⟨r', hr', hattached', -⟩
        · exact hkey
        · exact hattached'.unique ((h _ r' hr').attached hkind).2
      exact ⟨r, hr, hkey ▸ hattached, hopen⟩
  · unfold OpenAnomaly
    rw [get?_recordMisspend, if_neg hk]
    constructor
    · exact .inr
    · rintro (⟨hk', -⟩ | hold)
      · exact absurd hk' hk
      · exact hold

theorem openFinding_recordMisspend (h : AnomaliesKeyed st) (hkind : kind.isMisspend = true) :
    OpenFinding key (st.recordMisspend kind o detail now) ↔ key = o.key ∨ OpenFinding key st := by
  rw [openFinding_iff h, openFinding_iff (h.recordMisspend hkind)]
  simp only [openAnomaly_recordMisspend h hkind]
  constructor
  · rintro ⟨k, ⟨-, hkey⟩ | hold⟩
    · exact .inl hkey
    · exact .inr ⟨k, hold⟩
  · rintro (hkey | ⟨k, hold⟩)
    · exact ⟨_, .inl ⟨rfl, hkey⟩⟩
    · exact ⟨k, .inr hold⟩

/-! ### Findings about a transition -/

theorem RowKeyed.of_transition {hash : Bytes} {r : AnomalyRow} (h : RowKeyed (dedupKey kind (hexText hash)) r)
    (hkind : kind.isMisspend = false) : r.kind = kind.asStr ∧ r.btcVout = none := by
  cases h with
  | misspend kind' o' hkind' hk htext hattached =>
    obtain ⟨rfl, -⟩ := dedupKey_inj hk
    rw [hkind] at hkind'
    cases hkind'
  | transition kind' hash' hkind' hk htext hvout =>
    obtain ⟨rfl, -⟩ := dedupKey_inj hk
    exact ⟨htext, hvout⟩

variable {ckbTxHash : Bytes} {btcTxid : Option Bytes}

theorem get?_recordForTransition (k : String) :
    (st.recordForTransition kind ckbTxHash btcTxid detail now).rgbppAnomalies.get? k =
      if k = dedupKey kind (hexText ckbTxHash) then
        some (match st.rgbppAnomalies.get? k with
          | some r => { r with detail, lastSeenAt := now, resolvedAt := none }
          | none =>
            { kind := kind.asStr, btcTxid, btcVout := none, ckbTxHash := some ckbTxHash, ckbOutputIndex := none, detail,
              detectedAt := now, lastSeenAt := now, resolvedAt := none })
      else st.rgbppAnomalies.get? k := by
  unfold Store.recordForTransition Store.recordAnomaly
  rw [Table.get?_upsert]
  split
  · next hk =>
    subst hk
    rfl
  · rfl

/-- The row it is recorded in is about no outpoint. -/
theorem recordForTransition_row (h : AnomaliesKeyed st) (hkind : kind.isMisspend = false) {r : AnomalyRow}
    (hr : (st.recordForTransition kind ckbTxHash btcTxid detail now).rgbppAnomalies.get?
      (dedupKey kind (hexText ckbTxHash)) = some r) : r.kind = kind.asStr ∧ r.btcVout = none := by
  rw [get?_recordForTransition, if_pos rfl] at hr
  cases hold : st.rgbppAnomalies.get? (dedupKey kind (hexText ckbTxHash)) with
  | none =>
    rw [hold] at hr
    obtain rfl := Option.some.inj hr
    exact ⟨rfl, rfl⟩
  | some old =>
    rw [hold] at hr
    obtain rfl := Option.some.inj hr
    exact (h _ old hold).of_transition hkind

theorem AnomaliesKeyed.recordForTransition (h : AnomaliesKeyed st) (hkind : kind.isMisspend = false) :
    AnomaliesKeyed (st.recordForTransition kind ckbTxHash btcTxid detail now) := by
  intro k r hr
  by_cases hk : k = dedupKey kind (hexText ckbTxHash)
  · subst hk
    obtain ⟨htext, hvout⟩ := recordForTransition_row h hkind hr
    exact .transition kind ckbTxHash hkind rfl htext hvout
  · rw [get?_recordForTransition, if_neg hk] at hr
    exact h k r hr

theorem openAnomaly_recordForTransition (h : AnomaliesKeyed st) (hkind : kind.isMisspend = false) {k : String} :
    OpenAnomaly k key (st.recordForTransition kind ckbTxHash btcTxid detail now) ↔ OpenAnomaly k key st := by
  by_cases hk : k = dedupKey kind (hexText ckbTxHash)
  · subst hk
    constructor
    · rintro ⟨r, hr, hattached, -⟩
      exact absurd hattached (AnomalyRow.not_attached (recordForTransition_row h hkind hr).2)
    · rintro ⟨r, hr, hattached, -⟩
      exact absurd hattached (AnomalyRow.not_attached ((h _ r hr).of_transition hkind).2)
  · unfold OpenAnomaly
    rw [get?_recordForTransition, if_neg hk]

/-! ### Resolving -/

theorem get?_resolveAnomaliesForOutpoint (k : String) :
    (st.resolveAnomaliesForOutpoint key now).rgbppAnomalies.get? k = (st.rgbppAnomalies.get? k).map fun r =>
      if r.resolvedAt = none ∧ r.btcTxid = some key.txid ∧ r.btcVout = some key.vout then
        { r with resolvedAt := some now }
      else r := Table.get?_mapRows ..

theorem AnomaliesKeyed.resolve (h : AnomaliesKeyed st) : AnomaliesKeyed (st.resolveAnomaliesForOutpoint key now) := by
  intro k r hr
  rw [get?_resolveAnomaliesForOutpoint] at hr
  obtain ⟨r₀, hr₀, rfl⟩ := Option.map_eq_some_iff.mp hr
  have hkeyed := h k r₀ hr₀
  split
  · cases hkeyed with
    | misspend kind o hkind hk htext hattached => exact .misspend kind o hkind hk htext hattached
    | transition kind hash hkind hk htext hvout => exact .transition kind hash hkind hk htext hvout
  · exact hkeyed

/-- Resolving closes the anomalies of the outpoint and leaves those of others alone. -/
theorem openAnomaly_resolve {k : String} {key' : OutpointKey} :
    OpenAnomaly k key (st.resolveAnomaliesForOutpoint key' now) ↔ key ≠ key' ∧ OpenAnomaly k key st := by
  constructor
  · rintro ⟨r, hr, hattached, hopen⟩
    rw [get?_resolveAnomaliesForOutpoint] at hr
    obtain ⟨r₀, hr₀, rfl⟩ := Option.map_eq_some_iff.mp hr
    by_cases hcond : r₀.resolvedAt = none ∧ r₀.btcTxid = some key'.txid ∧ r₀.btcVout = some key'.vout
    · rw [if_pos hcond] at hopen
      cases hopen
    · rw [if_neg hcond] at hattached hopen
      exact ⟨fun hkey => hcond ⟨hopen, hkey ▸ hattached⟩, r₀, hr₀, hattached, hopen⟩
  · rintro ⟨hkey, r, hr, hattached, hopen⟩
    have hcond : ¬ (r.resolvedAt = none ∧ r.btcTxid = some key'.txid ∧ r.btcVout = some key'.vout) := by
      rintro ⟨-, hother⟩
      exact hkey (hattached.unique hother)
    refine ⟨r, ?_, hattached, hopen⟩
    rw [get?_resolveAnomaliesForOutpoint, hr, Option.map_some, if_neg hcond]

theorem openFinding_resolve {key' : OutpointKey} (h : AnomaliesKeyed st) :
    OpenFinding key (st.resolveAnomaliesForOutpoint key' now) ↔ key ≠ key' ∧ OpenFinding key st := by
  rw [openFinding_iff h, openFinding_iff h.resolve]
  simp only [openAnomaly_resolve, exists_and_left]

/-! ### What is recorded about transitions stays -/

/-- Nothing that is done about outpoints touches a finding about a transition. -/
theorem get?_resolve_transition (h : AnomaliesKeyed st) (hkind : kind.isMisspend = false) (hash : Bytes) :
    (st.resolveAnomaliesForOutpoint key now).rgbppAnomalies.get? (dedupKey kind (hexText hash)) =
      st.rgbppAnomalies.get? (dedupKey kind (hexText hash)) := by
  rw [get?_resolveAnomaliesForOutpoint]
  cases hrow : st.rgbppAnomalies.get? (dedupKey kind (hexText hash)) with
  | none => rfl
  | some r =>
    have hvout := ((h _ r hrow).of_transition hkind).2
    have hnot : ¬ (r.resolvedAt = none ∧ r.btcTxid = some key.txid ∧ r.btcVout = some key.vout) :=
      fun hattached => AnomalyRow.not_attached hvout hattached.2
    rw [Option.map_some, if_neg hnot]

theorem get?_recordMisspend_transition {kind' : AnomalyKind} (hkind : kind.isMisspend = true)
    (hkind' : kind'.isMisspend = false) (hash : Bytes) :
    (st.recordMisspend kind o detail now).rgbppAnomalies.get? (dedupKey kind' (hexText hash)) =
      st.rgbppAnomalies.get? (dedupKey kind' (hexText hash)) := by
  rw [get?_recordMisspend, if_neg]
  intro hkey
  obtain ⟨rfl, -⟩ := dedupKey_inj hkey
  rw [hkind] at hkind'
  cases hkind'

/-! ### Writes elsewhere -/

theorem openFinding_of_eq {st' : Store} (h : st'.rgbppAnomalies = st.rgbppAnomalies) :
    OpenFinding key st' ↔ OpenFinding key st := by
  unfold OpenFinding
  rw [h]

theorem openAnomaly_of_eq {st' : Store} {k : String} (h : st'.rgbppAnomalies = st.rgbppAnomalies) :
    OpenAnomaly k key st' ↔ OpenAnomaly k key st := by
  unfold OpenAnomaly
  rw [h]

theorem AnomaliesKeyed.of_eq {st' : Store} (hkeyed : AnomaliesKeyed st) (h : st'.rgbppAnomalies = st.rgbppAnomalies) :
    AnomaliesKeyed st' := by
  unfold AnomaliesKeyed
  rw [h]
  exact hkeyed

theorem anomaliesKeyed_empty : AnomaliesKeyed .empty := by
  intro k r hr
  cases hr

end
end RgbppIndexer
