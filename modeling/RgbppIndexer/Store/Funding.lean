import RgbppIndexer.Store.Anomalies

/-!
# Funding transactions to look up

`funding_txids_missing_address` of `crates/store/src/btc.rs`: the transactions
that funded a binding whose owner is not known, once each, in txid order,
after a cursor.

* `fundingTxidsMissingAddress_eq_ok`: what the query returns is a page.
* `Unlabelled.of_recordBindingAddresses`: a label never adds to the set.
-/
namespace RgbppIndexer

open RgbppIndexer.Core

/-- Txids in the order of their bytes. -/
def txidLe (a b : Bytes) : Bool := (compare a b).isLE

namespace Store

/-- The owner recorded for an outpoint: `NULL` without a row, and where the row has none. -/
def ownerOf (st : Store) (key : OutpointKey) : Option String := (st.btcOutpoints.get? key).bind ObservationRow.address

/-- The funding transactions with a binding whose owner is not known, in txid order. -/
def missingAddress (st : Store) : List Bytes :=
  ((st.rgbppCells.entries.filterMap fun e =>
    match e.2.btcVout with
    | some vout => if st.ownerOf ⟨e.2.btcTxid, vout⟩ = none then some e.2.btcTxid else none
    | none => none).dedup).insertionSort fun a b => txidLe a b

/-- A page of them. mirrors crates/store/src/btc.rs:207-228 -/
def fundingTxidsMissingAddress (st : Store) (after : Option Bytes) (limit : Int64) : Except StoreError (List Bytes) :=
  if limit < 0 then .error (.sqlx "LIMIT must not be negative")
  else
    .ok ((st.missingAddress.filter fun txid =>
      match after with
      | some cursor => !txidLe txid cursor
      | none => true).take limit.toInt.toNat)

/-- A binding of the funding transaction has no known owner. -/
def Unlabelled (txid : Bytes) (st : Store) : Prop :=
  ∃ k c vout, st.rgbppCells.get? k = some c ∧ c.btcTxid = txid ∧ c.btcVout = some vout ∧ st.ownerOf ⟨txid, vout⟩ = none

section
variable {st st' : Store} {txid : Bytes} {now : DateTime} {n : Nat}

theorem mem_missingAddress : txid ∈ st.missingAddress ↔ Unlabelled txid st := by
  unfold missingAddress
  rw [List.mem_insertionSort, List.mem_dedup, List.mem_filterMap]
  constructor
  · rintro ⟨⟨k, c⟩, hc, htxid⟩
    dsimp only at htxid
    split at htxid
    · next vout hvout =>
      split at htxid
      · next hnone =>
        obtain rfl := Option.some.inj htxid
        exact ⟨k, c, vout, (Table.get?_eq_some_iff ..).mpr hc, rfl, hvout, hnone⟩
      · cases htxid
    · cases htxid
  · rintro ⟨k, c, vout, hc, rfl, hvout, hnone⟩
    refine ⟨(k, c), (Table.get?_eq_some_iff ..).mp hc, ?_⟩
    simp only [hvout, hnone, if_true]

instance (txid : Bytes) (st : Store) : Decidable (Unlabelled txid st) :=
  decidable_of_iff (st.missingAddress.contains txid = true) (List.contains_iff_mem.trans mem_missingAddress)

theorem txidLe_isOrder : Keyset.IsOrder txidLe := Keyset.isOrder_compare

theorem missingAddress_sorted (st : Store) : st.missingAddress.Pairwise fun a b => txidLe a b = true :=
  txidLe_isOrder.pairwise_insertionSort _

theorem missingAddress_nodup (st : Store) : st.missingAddress.Nodup :=
  (List.perm_insertionSort _ _).nodup_iff.mpr (List.nodup_dedup _)

/-- The query returns a page of the set. -/
theorem fundingTxidsMissingAddress_eq_ok {cursor : Option Bytes} {limit : Int64} {page : List Bytes} :
    st.fundingTxidsMissingAddress cursor limit = .ok page ↔
      ¬ limit < 0 ∧ page = Keyset.page txidLe cursor limit.toInt.toNat st.missingAddress := by
  unfold fundingTxidsMissingAddress
  by_cases hlimit : limit < 0
  · simp [hlimit]
  · have hpage : ((st.missingAddress.filter fun txid =>
        match cursor with
        | some cursor => !txidLe txid cursor
        | none => true).take limit.toInt.toNat) =
          Keyset.page txidLe cursor limit.toInt.toNat st.missingAddress := by
      cases cursor with
      | none => rfl
      | some cursor => rfl
    rw [if_neg hlimit, Except.ok.injEq, hpage]
    exact ⟨fun h => ⟨hlimit, h.symm⟩, fun h => h.2.symm⟩

/-! ## Writes that only label -/

/-- A write that leaves the cells alone, and no owner away, adds no transaction. -/
theorem Unlabelled.of_owners (hcells : st'.rgbppCells = st.rgbppCells)
    (howners : ∀ key, st'.ownerOf key = none → st.ownerOf key = none) (h : Unlabelled txid st') : Unlabelled txid st := by
  obtain ⟨k, c, vout, hc, htxid, hvout, hnone⟩ := h
  exact ⟨k, c, vout, hcells ▸ hc, htxid, hvout, howners _ hnone⟩

theorem ownerOf_of_labelOutpoints {source : String} {outputs : List (OutpointKey × String)}
    (h : st.labelOutpoints source outputs now = .ok (st', n)) {key : OutpointKey} (hnone : st'.ownerOf key = none) :
    st.ownerOf key = none := by
  unfold ownerOf at hnone ⊢
  by_cases hmem : key ∈ outputs.map Prod.fst ∧ st.hasBoundCell key = true
  · obtain ⟨⟨key', address⟩, he, rfl⟩ := List.mem_map.mp hmem.1
    rw [get?_labelOutpoints_of_mem h he hmem.2] at hnone
    unfold labelRow at hnone
    split at hnone <;> cases hnone
  · rw [get?_labelOutpoints_of_notMem h fun hin => Bool.eq_false_iff.mpr fun hbound => hmem ⟨hin, hbound⟩] at hnone
    exact hnone

theorem Unlabelled.of_recordBindingAddresses {funding : Bytes} {outputs : List (Int32 × String)}
    (h : st.recordBindingAddresses funding outputs now = .ok (st', n)) (hunlabelled : Unlabelled txid st') :
    Unlabelled txid st := by
  have hframe := (recordBindingAddresses_eq_ok h).1
  refine hunlabelled.of_owners (by rw [hframe]) fun key hnone => ?_
  unfold recordBindingAddresses at h
  split at h
  · simp only [Except.ok.injEq, Prod.mk.injEq] at h
    rw [h.1]
    exact hnone
  · exact ownerOf_of_labelOutpoints h hnone

end
end Store
end RgbppIndexer
