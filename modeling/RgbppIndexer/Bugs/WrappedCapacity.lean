import RgbppIndexer.Api.Deltas
import RgbppIndexer.Api.Paging

/-!
# A capacity of `2^63` is not taken back

`DeltaAccumulator::apply` multiplies the capacity of a cell by its sign before
it adds it up: `BigDecimal::from(cell.capacity * sign)`
(crates/api/src/dto.rs:801). The product is one of two `i64`. A capacity of
`2^63` shannons is stored as `i64::MIN`, whose negation is itself: where the
cell was received, `-2^63` is booked, and where it was sent, `-2^63` again. (A
build with overflow checks panics there.) Everything else adds up: "the whole
point of the endpoint" (dto.rs:726-728).

* `historyUnits_eq`: what a history adds up to, in every index.
* `history_agrees_iff`: **history and balance agree if and only if no consumed
  cell of the asset has this capacity.**
* `amounts_agree`: amounts and numbers of cells do in any case.
* `capacity_booked_twice`: two transactions, and a history `2^64` below the
  balance.
-/
namespace RgbppIndexer.Bugs.WrappedCapacity

open RgbppIndexer.Core

/-- The cells of the asset the address owns and CKB has not consumed. -/
def liveUnits (st : Store) (address : String) (key : AssetKey) : Units :=
  (((st.holdings address key).filter fun e => e.2.consumed = none).map fun e => e.2.units).sum

/-- The backfilled ones: their creating transaction has no transition row. -/
def backfilledUnits (st : Store) (address : String) (key : AssetKey) : Units :=
  (((st.holdings address key).filter fun e =>
    e.2.createdTxIndex = UNKNOWN_TX_INDEX ∧ st.rgbppTransitions.get? e.1.ckbTxHash = none).map fun e => e.2.units).sum

/-- History and balance agree, to the last unit of amount, capacity and number of cells. -/
def Agrees (st : Store) (address : String) (key : AssetKey) (found : List ActivityEntryDto) : Prop :=
  historyUnits found key = liveUnits st address key - backfilledUnits st address key

/-- The cell is consumed and its stored capacity has no negation. -/
def Wraps (e : CellKey × CellRecord) : Prop := e.2.consumed ≠ none ∧ e.2.capacity = Int64.minValue

instance (e : CellKey × CellRecord) : Decidable (Wraps e) :=
  inferInstanceAs (Decidable (e.2.consumed ≠ none ∧ e.2.capacity = Int64.minValue))

/-- What is missing for `n` capacities of `2^63`. -/
def shortfall (n : Nat) : Units := (0, -2 ^ 64 * (n : Int), 0)

theorem shortfall_zero : shortfall 0 = 0 := by
  unfold shortfall
  rw [Nat.cast_zero, mul_zero]
  rfl

theorem shortfall_succ (n : Nat) : shortfall (n + 1) = shortfall 1 + shortfall n := by
  unfold shortfall
  rw [Prod.mk_add_mk, Prod.mk_add_mk, Nat.cast_add, mul_add, add_zero, add_comm (-2 ^ 64 * (n : Int))]

theorem shortfall_eq_zero {n : Nat} : shortfall n = 0 ↔ n = 0 := by
  unfold shortfall
  rw [Prod.mk_eq_zero, Prod.mk_eq_zero]
  simp

/-! ## One cell -/

theorem toInt_mul_neg_one (x : Int64) :
    (x * (-1)).toInt = if x = Int64.minValue then -2 ^ 63 else -x.toInt := by
  have hneg : x * (-1) = -x := by rw [Int64.mul_neg, Int64.mul_one]
  rw [hneg]
  by_cases hmin : x = Int64.minValue
  · subst hmin
    decide
  · rw [if_neg hmin, Int64.toInt_neg]
    have hlow := x.le_toInt
    have hhigh := x.toInt_lt
    have hne : x.toInt ≠ -2 ^ 63 := fun heq => hmin (Int64.toInt_inj.mp (heq.trans (by decide)))
    exact Int.bmod_eq_of_le (by omega) (by omega)

/-- What is left of a cell that came up and went down. -/
theorem gain_add_loss (e : CellKey × CellRecord) :
    cellAccount.gain e + cellAccount.loss e = if e.2.capacity = Int64.minValue then shortfall 1 else 0 := by
  have hgain : cellAccount.gain e = (((e.2.udtAmount.getD 0 : Nat) : Int), e.2.capacity.toInt, 1) := rfl
  have hloss : cellAccount.loss e = (((e.2.udtAmount.getD 0 : Nat) : Int) * (-1), (e.2.capacity * (-1)).toInt, -1) := rfl
  rw [hgain, hloss, toInt_mul_neg_one, Prod.mk_add_mk, Prod.mk_add_mk, mul_neg_one, add_neg_cancel, add_neg_cancel]
  by_cases hmin : e.2.capacity = Int64.minValue
  · rw [if_pos hmin, if_pos hmin, hmin, Int64.toInt_minValue]
    unfold shortfall
    norm_num
  · rw [if_neg hmin, if_neg hmin, add_neg_cancel]
    rfl

/-- What is left of many. -/
theorem sum_residue (cells : List (CellKey × CellRecord)) :
    ((cells.filter fun e => cellAccount.died e ≠ none).map fun e => cellAccount.gain e + cellAccount.loss e).sum =
      shortfall (cells.countP fun e => Wraps e) := by
  have hdied : ∀ e, cellAccount.died e ≠ none ↔ e.2.consumed ≠ none := fun e => by
    rw [Ne, Ne, cellAccount, Option.map_eq_none_iff]
  induction cells with
  | nil => exact shortfall_zero.symm
  | cons e es ih =>
    rw [List.countP_cons]
    by_cases hconsumed : e.2.consumed = none
    · have hwraps : ¬ Wraps e := fun h => h.1 hconsumed
      rw [List.filter_cons_of_neg (by simp [hdied, hconsumed]), ih, if_neg (by simpa using hwraps), Nat.add_zero]
    · rw [List.filter_cons_of_pos (by simp [hdied, hconsumed]), List.map_cons, List.sum_cons, ih, gain_add_loss]
      by_cases hmin : e.2.capacity = Int64.minValue
      · have hwraps : Wraps e := ⟨hconsumed, hmin⟩
        rw [if_pos hmin, if_pos (by simpa using hwraps)]
        exact (shortfall_succ _).symm
      · have hwraps : ¬ Wraps e := fun h => hmin h.2
        rw [if_neg hmin, if_neg (by simpa using hwraps), zero_add, Nat.add_zero]

/-! ## A whole history -/

section
variable [Sha2] {cfg : Config} {ch : Chain} {errorText : IndexerError → String} {st : Store} {entries : List Entry}
  {orders : Nat → ActivityOrders} {address : String} {pageSize : Int64} {found : List ActivityEntryDto}

theorem counted (h : IndexMatch cfg ch entries st) : st.Counted := by
  intro key row hrow hkind
  obtain ⟨op, cell, -, -, -, hfor⟩ := h.cells.row key row hrow
  have hamount : row.udtAmount = fungibleAmount row.assetKind cell.data := by
    have hkind : row.assetKind = (cell.body cfg.assets).assetKind := congrArg CellBody.assetKind hfor.body
    rw [hkind]
    exact congrArg CellBody.udtAmount hfor.body
  rw [hamount, fungibleAmount, hkind]
  rfl

/-- The history has the transitions that touch the address, each once. -/
theorem follow_hashes (hreach : Relation.ReflTransGen (IndexStep cfg ch errorText) .empty st) (hsize : 1 ≤ pageSize)
    {fuel : Nat} (h : follow orders (fun _ => st) address pageSize fuel 0 none = some found) {hashes : List Bytes}
    (hhashes : found.map ActivityEntryDto.ckbTxHash = hashes.map bytesToHex) :
    hashes.Nodup ∧ ∀ hash, hash ∈ hashes ↔ st.rgbppTransitions.get? hash ≠ none ∧ hash ∈ st.touched address := by
  have hnodup := follow_nodup hreach (fun _ => .refl) hsize h
  rw [hhashes] at hnodup
  refine ⟨List.Nodup.of_map _ hnodup, fun hash => ⟨fun hmem => ?_, ?_⟩⟩
  · have htext : bytesToHex hash ∈ found.map ActivityEntryDto.ckbTxHash := hhashes ▸ List.mem_map_of_mem hmem
    obtain ⟨entry, hentry, heq⟩ := List.mem_map.mp htext
    obtain ⟨-, t, ht, hhash, -⟩ := mem_follow hsize h hentry
    obtain ⟨hrow, htouched⟩ := Store.mem_touchedTransitions.mp ht
    have hkey : t.1 = hash := bytesToHex_injective (hhash.symm.trans heq)
    rw [hkey] at hrow htouched
    exact ⟨by rw [hrow]; exact nofun, htouched⟩
  · rintro ⟨hsome, htouched⟩
    obtain ⟨row, hrow⟩ := Option.ne_none_iff_exists'.mp hsome
    have hmem := mem_of_follow hreach (fun _ => .refl) hsize h
      (Store.mem_touchedTransitions.mpr ⟨hrow, htouched⟩ : (hash, row) ∈ st.touchedTransitions address)
    rw [hhashes] at hmem
    obtain ⟨hash', hmem', heq⟩ := List.mem_map.mp hmem
    have hkey : hash' = hash := bytesToHex_injective heq
    exact hkey ▸ hmem'

/-- **What a history adds up to**: the balance less the backfilled cells, and
`2^64` less for each consumed cell whose capacity wraps. -/
theorem historyUnits_eq (hreach : Relation.ReflTransGen (IndexStep cfg ch errorText) .empty st) (hsize : 1 ≤ pageSize)
    {fuel : Nat} (h : follow orders (fun _ => st) address pageSize fuel 0 none = some found) (key : AssetKey) :
    historyUnits found key = liveUnits st address key - backfilledUnits st address key +
      shortfall ((st.holdings address key).countP fun e => Wraps e) := by
  obtain ⟨entries, hmatch⟩ := exists_indexMatch hreach
  obtain ⟨hashes, hunits⟩ := follow_units key (counted hmatch) hsize h
  have hhashes : found.map ActivityEntryDto.ckbTxHash = hashes.map bytesToHex := by
    have hfst := congrArg (List.map Prod.fst) hunits
    simpa only [List.map_map, Function.comp_def] using hfst
  have hsum : historyUnits found key =
      (hashes.map fun hash => Ledger.booked cellAccount hash (st.holdings address key)).sum := by
    have hsnd := congrArg (List.map Prod.snd) hunits
    unfold historyUnits
    simp only [List.map_map, Function.comp_def] at hsnd
    rw [hsnd]
  obtain ⟨hnodup, hmem⟩ := follow_hashes hreach hsize h hhashes
  have howned : ∀ e ∈ st.holdings address key, e ∈ st.owned address := fun e he => (List.mem_filter.mp he).1
  -- every transition that consumed one of the cells is in the history
  have hdied : ∀ e ∈ st.holdings address key, ∀ hash, cellAccount.died e = some hash → hash ∈ hashes := by
    intro e he hash hhash
    obtain ⟨c, hc, rfl⟩ := Option.map_eq_some_iff.mp hhash
    exact (hmem _).mpr ⟨hmatch.consumer_present (Store.mem_owned.mp (howned e he)).1 hc,
      Store.mem_touched.mpr ⟨e, howned e he, .inr hhash⟩⟩
  have hlive : ∀ e, cellAccount.died e = none ↔ e.2.consumed = none := fun e => by rw [cellAccount, Option.map_eq_none_iff]
  -- and every transition that created one, unless it is backfilled
  have hborn : ∀ e ∈ st.holdings address key, cellAccount.born e ∉ hashes ↔
      e.2.createdTxIndex = UNKNOWN_TX_INDEX ∧ st.rgbppTransitions.get? e.1.ckbTxHash = none := by
    intro e he
    have htouched : e.1.ckbTxHash ∈ st.touched address := Store.mem_touched.mpr ⟨e, howned e he, .inl rfl⟩
    have hborn : cellAccount.born e = e.1.ckbTxHash := rfl
    rw [hborn, hmem]
    constructor
    · intro hnot
      have hnone : st.rgbppTransitions.get? e.1.ckbTxHash = none := by
        by_contra hsome
        exact hnot ⟨hsome, htouched⟩
      exact ⟨hmatch.backfilled (Store.mem_owned.mp (howned e he)).1 hnone, hnone⟩
    · rintro ⟨-, hnone⟩ ⟨hsome, -⟩
      exact hsome hnone
  rw [hsum, Ledger.telescope hnodup hdied, sum_residue]
  refine congrArg (· + shortfall _) (congrArg₂ (· - ·) ?_ ?_)
  · exact congrArg (fun cells => (cells.map cellAccount.gain).sum)
      (List.filter_congr fun e _ => decide_eq_decide.mpr (hlive e))
  · exact congrArg (fun cells => (cells.map cellAccount.gain).sum)
      (List.filter_congr fun e he => decide_eq_decide.mpr (hborn e he))

theorem agrees_iff (hreach : Relation.ReflTransGen (IndexStep cfg ch errorText) .empty st) (hsize : 1 ≤ pageSize)
    {fuel : Nat} (h : follow orders (fun _ => st) address pageSize fuel 0 none = some found) (key : AssetKey) :
    Agrees st address key found ↔ ∀ e ∈ st.holdings address key, ¬ Wraps e := by
  unfold Agrees
  rw [historyUnits_eq hreach hsize h key, add_eq_left, shortfall_eq_zero, List.countP_eq_zero]
  simp only [decide_eq_true_eq]

/-- Amounts and numbers of cells agree whatever the capacities are. -/
theorem amounts_agree (hreach : Relation.ReflTransGen (IndexStep cfg ch errorText) .empty st) (hsize : 1 ≤ pageSize)
    {fuel : Nat} (h : follow orders (fun _ => st) address pageSize fuel 0 none = some found) (key : AssetKey) :
    (historyUnits found key).1 = (liveUnits st address key).1 - (backfilledUnits st address key).1 ∧
      (historyUnits found key).2.2 = (liveUnits st address key).2.2 - (backfilledUnits st address key).2.2 := by
  rw [historyUnits_eq hreach hsize h key]
  exact ⟨add_zero _, add_zero _⟩

/-- **History and balance agree if and only if no consumed cell of the asset has a capacity of `2^63`.** -/
theorem history_agrees_iff (hreach : Relation.ReflTransGen (IndexStep cfg ch errorText) .empty st) (hsize : 1 ≤ pageSize)
    {fuel : Nat} (hfuel : st.rgbppTransitions.entries.length < fuel) (key : AssetKey) :
    ∃ found, follow orders (fun _ => st) address pageSize fuel 0 none = some found ∧
      (Agrees st address key found ↔ ∀ e ∈ st.holdings address key, ¬ Wraps e) := by
  obtain ⟨found, hfound⟩ := follow_ends orders (fun _ => st) hreach (fun _ => .refl) hsize hfuel
  exact ⟨found, hfound, agrees_iff hreach hsize hfound key⟩

end

/-! ## The counterexample -/

section
open Sample

local instance : Sha2 := .standard

/-- Two pages of ordinary cells. -/
theorem history_agrees_iff_third :
    ∃ found, follow (fun _ => ⟨.storage, .storage⟩) (fun _ => beforeThird) "owner" 1 3 0 none = some found ∧
      (Agrees beforeThird "owner" (.none, none) found ↔
        ∀ e ∈ beforeThird.holdings "owner" (.none, none), ¬ Wraps e) :=
  history_agrees_iff beforeThird_reached (by decide) (by decide +kernel) (.none, none)

/-- It creates a cell of `2^63` shannons. -/
def huge : RpcTransaction := { issuance with outputs := [(boundOutput 0x8000000000000000 btcTxid).cell] }

/-- It consumes the cell. -/
def exit : RpcTransaction where
  hash := hash 2
  inputs := [⟨cell⟩]
  outputs := []
  outputsData := []

def hugeChain : Chain := .ofBlocks [block 0 [], block 1 [huge], block 2 [exit]] (by decide +kernel)

/-- Both are indexed, and the outpoint is the owner's. -/
def spentHuge : Store := labelOwner (scannerStep (.testnet 64) (env (hugeChain.serve 2)) (fun _ => "") .empty) btcTxid

/-- **The capacity is booked twice**: the cell came and went, and the history is `2^64` below the empty balance. -/
theorem capacity_booked_twice :
    Relation.ReflTransGen (IndexStep (.testnet 64) hugeChain fun _ => "") .empty spentHuge ∧
      ∃ found, follow (fun _ => ⟨.storage, .storage⟩) (fun _ => spentHuge) "owner" 10 3 0 none = some found ∧
        historyUnits found (.none, none) = (0, -2 ^ 64, 0) ∧ liveUnits spentHuge "owner" (.none, none) = 0 ∧
        ¬ Agrees spentHuge "owner" (.none, none) found := by
  have hreach : Relation.ReflTransGen (IndexStep (.testnet 64) hugeChain fun _ => "") .empty spentHuge := by
    unfold spentHuge
    exact (Relation.ReflTransGen.single (.round (env (hugeChain.serve 2)) (Chain.serve_serves (by decide +kernel)))).tail
      (indexStep_labelOwner _ btcTxid)
  obtain ⟨found, hfound⟩ := follow_ends (fun _ => ⟨.storage, .storage⟩) (fun _ => spentHuge) hreach (fun _ => .refl)
    (show (1 : Int64) ≤ 10 by decide) (show spentHuge.rgbppTransitions.entries.length < 3 by decide +kernel)
  -- one evaluation of the database answers all of it
  have hcells : liveUnits spentHuge "owner" (.none, none) = 0 ∧ backfilledUnits spentHuge "owner" (.none, none) = 0 ∧
      ((spentHuge.holdings "owner" (.none, none)).countP fun e => Wraps e) = 1 := by decide +kernel
  obtain ⟨hlive, hbackfilled, hwraps⟩ := hcells
  have hunits := historyUnits_eq hreach (by decide) hfound (.none, none)
  rw [hlive, hbackfilled, hwraps, sub_zero, zero_add] at hunits
  have hshort : shortfall 1 = (0, -2 ^ 64, 0) := by
    unfold shortfall
    rw [Nat.cast_one, mul_one]
  refine ⟨hreach, found, hfound, hunits.trans hshort, hlive, ?_⟩
  unfold Agrees
  rw [hlive, hbackfilled, hunits, sub_zero, shortfall_eq_zero]
  exact one_ne_zero

end
end RgbppIndexer.Bugs.WrappedCapacity
