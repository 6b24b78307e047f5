import RgbppIndexer.Store.Btc

/-!
# The refresh queue

`crates/store/src/queue.rs`: claiming, completing, failing and dropping
entries; the two inserts are in `RgbppIndexer.Store.Btc`, where the refresh
path uses them. Each call is one autocommitted statement, so no row is locked
when another statement runs and `SKIP LOCKED` skips nothing.

A claim counts the attempt and sets the next due time in the same statement.
`POWER(2, n)` is a double, which overflows from `n = 1024` on; the statement
then fails.

* `claimRefreshBatch_eq_ok`: what a claim that succeeds hands out and leaves.
* `claimed_before`: an entry in the batch comes no later, in the order of the
  queue, than a due entry that is left behind.
-/
namespace RgbppIndexer

open RgbppIndexer.Core

/-- A claimed entry. mirrors crates/store/src/models.rs:307-313 -/
structure QueueItem where
  key : OutpointKey
  reason : String
  priority : Int32
  attempts : Int32
  deriving DecidableEq, Repr

/-- mirrors crates/store/src/models.rs:316-321 -/
def QueueItem.outPoint (item : QueueItem) : Except StoreError BtcOutPoint := Store.outPointOfKey item.key

/-- Milliseconds until an entry claimed for the `attempts`-th time is due again: `LEAST(300, POWER(2, attempts))`
seconds. The column starts at 0 and is only incremented, so it is no negative power. -/
def backoff (attempts : Int32) : Int := 1000 * min 300 (2 ^ attempts.toInt.toNat)

/-- The orders a claim leaves to the database: of rows that `ORDER BY` does not tell apart, and of the rows `UPDATE`
returns. -/
structure ClaimOrder where
  ties : RowOrder (OutpointKey × QueueRow)
  returned : RowOrder QueueItem

def ClaimOrder.storage : ClaimOrder := ⟨.storage, .storage⟩

namespace Store

/-- `ORDER BY priority, next_attempt_at`. -/
def queueLe (a b : OutpointKey × QueueRow) : Bool :=
  decide (a.2.priority < b.2.priority ∨ a.2.priority = b.2.priority ∧ a.2.nextAttemptAt ≤ b.2.nextAttemptAt)

/-- `WHERE next_attempt_at <= now()`. -/
def dueRefreshes (st : Store) (now : DateTime) : List (OutpointKey × QueueRow) :=
  st.btcRefreshQueue.select fun _ r => decide (r.nextAttemptAt ≤ now)

/-- The rows of the `picked` subquery. -/
def pickedRefreshes (st : Store) (rows : RowOrder (OutpointKey × QueueRow)) (limit : Int64) (now : DateTime) :
    List (OutpointKey × QueueRow) :=
  ((rows.order (st.dueRefreshes now)).insertionSort fun a b => queueLe a b).take limit.toInt.toNat

/-- The row a claim leaves. -/
def claimedRow (now : DateTime) (r : QueueRow) : QueueRow :=
  { r with attempts := r.attempts + 1, nextAttemptAt := now + backoff (r.attempts + 1) }

/-- What `RETURNING` reports for a picked row. -/
def claimedItem (now : DateTime) (e : OutpointKey × QueueRow) : QueueItem :=
  let r := claimedRow now e.2
  { key := e.1, reason := r.reason, priority := r.priority, attempts := r.attempts }

/-- mirrors crates/store/src/queue.rs:77-102 -/
def claimRefreshBatch (st : Store) (rows : ClaimOrder) (limit : Int64) (now : DateTime) :
    Except StoreError (Store × List QueueItem) :=
  if limit < 0 then .error (.sqlx "LIMIT must not be negative")
  else
    let picked := st.pickedRefreshes rows.ties limit now
    if picked.any fun e => decide (1023 ≤ e.2.attempts) then .error (.sqlx "value out of range: overflow")
    else
      .ok ({ st with
          btcRefreshQueue := st.btcRefreshQueue.mapRows fun key r =>
            if key ∈ picked.map Prod.fst then claimedRow now r else r },
        rows.returned.order (picked.map (claimedItem now)))

/-- mirrors crates/store/src/queue.rs:104-111 -/
def completeRefresh (st : Store) (key : OutpointKey) : Store :=
  { st with btcRefreshQueue := st.btcRefreshQueue.erase key }

/-- mirrors crates/store/src/queue.rs:113-121 -/
def failRefresh (st : Store) (key : OutpointKey) (error : String) : Store :=
  { st with btcRefreshQueue := st.btcRefreshQueue.update key fun r => { r with lastError := some error } }

/-- mirrors crates/store/src/queue.rs:123-133 -/
def dropExhaustedRefreshes (st : Store) (maxAttempts : Int32) : Store × List OutpointKey :=
  ({ st with btcRefreshQueue := st.btcRefreshQueue.filter fun _ r => decide (r.attempts < maxAttempts) },
    (st.btcRefreshQueue.select fun _ r => decide (maxAttempts ≤ r.attempts)).map Prod.fst)

/-! ## What the statements do -/

@[simp] theorem get?_completeRefresh (st : Store) (key k : OutpointKey) :
    (st.completeRefresh key).btcRefreshQueue.get? k = if k = key then none else st.btcRefreshQueue.get? k :=
  Table.get?_erase ..

@[simp] theorem get?_failRefresh (st : Store) (key k : OutpointKey) (error : String) :
    (st.failRefresh key error).btcRefreshQueue.get? k =
      if k = key then (st.btcRefreshQueue.get? k).map fun r => { r with lastError := some error }
      else st.btcRefreshQueue.get? k := Table.get?_update ..

@[simp] theorem get?_dropExhaustedRefreshes (st : Store) (maxAttempts : Int32) (k : OutpointKey) :
    (st.dropExhaustedRefreshes maxAttempts).1.btcRefreshQueue.get? k =
      (st.btcRefreshQueue.get? k).filter fun r => decide (r.attempts < maxAttempts) := Table.get?_filter ..

theorem mem_dropExhaustedRefreshes {st : Store} {maxAttempts : Int32} {k : OutpointKey} :
    k ∈ (st.dropExhaustedRefreshes maxAttempts).2 ↔ ∃ r, st.btcRefreshQueue.get? k = some r ∧ maxAttempts ≤ r.attempts := by
  unfold dropExhaustedRefreshes
  simp only [List.mem_map, Table.mem_select, decide_eq_true_eq]
  constructor
  · rintro ⟨e, ⟨hget, hle⟩, rfl⟩
    exact ⟨e.2, hget, hle⟩
  · rintro ⟨r, hget, hle⟩
    exact ⟨(k, r), ⟨hget, hle⟩, rfl⟩

theorem mem_dueRefreshes {st : Store} {now : DateTime} {e : OutpointKey × QueueRow} :
    e ∈ st.dueRefreshes now ↔ st.btcRefreshQueue.get? e.1 = some e.2 ∧ e.2.nextAttemptAt ≤ now := by
  unfold dueRefreshes
  rw [Table.mem_select, decide_eq_true_eq]

section
variable {st : Store} {rows : RowOrder (OutpointKey × QueueRow)} {limit : Int64} {now : DateTime}

/-- A picked row is due. -/
theorem due_of_mem_pickedRefreshes {e : OutpointKey × QueueRow} (h : e ∈ st.pickedRefreshes rows limit now) :
    e ∈ st.dueRefreshes now := by
  have hmem := List.mem_of_mem_take h
  rw [List.mem_insertionSort, rows.mem_order] at hmem
  exact hmem

theorem pickedRefreshes_keys_nodup : ((st.pickedRefreshes rows limit now).map Prod.fst).Nodup := by
  have hdue : ((st.dueRefreshes now).map Prod.fst).Nodup := Table.select_keys_nodup ..
  have hperm : (((rows.order (st.dueRefreshes now)).insertionSort fun a b => queueLe a b).map Prod.fst).Perm
      ((st.dueRefreshes now).map Prod.fst) := ((List.perm_insertionSort _ _).trans (rows.perm _)).map _
  exact (hperm.nodup_iff.mpr hdue).sublist ((List.take_sublist _ _).map _)

/-- What a claim that succeeds hands out, and the queue it leaves. -/
theorem claimRefreshBatch_eq_ok {rows : ClaimOrder} {st' : Store} {items : List QueueItem}
    (h : st.claimRefreshBatch rows limit now = .ok (st', items)) :
    items.Perm ((st.pickedRefreshes rows.ties limit now).map (claimedItem now)) ∧
      st' = { st with btcRefreshQueue := st'.btcRefreshQueue } ∧
      ∀ k, st'.btcRefreshQueue.get? k =
        (st.btcRefreshQueue.get? k).map fun r => if k ∈ items.map QueueItem.key then claimedRow now r else r := by
  unfold claimRefreshBatch at h
  split at h
  · cases h
  dsimp only at h
  split at h
  · cases h
  simp only [Except.ok.injEq, Prod.mk.injEq] at h
  obtain ⟨rfl, rfl⟩ := h
  have hperm := rows.returned.perm ((st.pickedRefreshes rows.ties limit now).map (claimedItem now))
  have hkeys : ((st.pickedRefreshes rows.ties limit now).map (claimedItem now)).map QueueItem.key =
      (st.pickedRefreshes rows.ties limit now).map Prod.fst := by
    rw [List.map_map]
    rfl
  refine ⟨hperm, rfl, fun k => ?_⟩
  have hmem := (hperm.map QueueItem.key).mem_iff (a := k)
  rw [hkeys] at hmem
  simp only [hmem]
  exact Table.get?_mapRows ..

/-- The keys a claim hands out are those it picked. -/
theorem mem_claimed {rows : ClaimOrder} {st' : Store} {items : List QueueItem} {key : OutpointKey}
    (h : st.claimRefreshBatch rows limit now = .ok (st', items)) :
    key ∈ items.map QueueItem.key ↔ ∃ r, (key, r) ∈ st.pickedRefreshes rows.ties limit now := by
  rw [((claimRefreshBatch_eq_ok h).1.map QueueItem.key).mem_iff, List.map_map, List.mem_map]
  constructor
  · rintro ⟨⟨k, r⟩, hmem, rfl⟩
    exact ⟨r, hmem⟩
  · rintro ⟨r, hmem⟩
    exact ⟨(key, r), hmem, rfl⟩

/-- A claim that succeeds leaves room for one more attempt of each row. -/
theorem attempts_lt_of_claimed {rows : ClaimOrder} {c : Store × List QueueItem} {key : OutpointKey} {r : QueueRow}
    (h : st.claimRefreshBatch rows limit now = .ok c) (he : (key, r) ∈ st.pickedRefreshes rows.ties limit now) :
    r.attempts < 1023 := by
  unfold claimRefreshBatch at h
  split at h
  · cases h
  dsimp only at h
  split at h
  · cases h
  · next hfew =>
    simp only [List.any_eq_true, decide_eq_true_eq, not_exists, not_and] at hfew
    exact Int32.not_le.mp (hfew (key, r) he)

end

/-! ## The order of the queue -/

theorem queueLe_total (a b : OutpointKey × QueueRow) : queueLe a b = true ∨ queueLe b a = true := by
  unfold queueLe
  simp only [decide_eq_true_eq, Int32.lt_iff_toInt_lt, ← Int32.toInt_inj]
  rcases Int.lt_trichotomy a.2.priority.toInt b.2.priority.toInt with h | h | h
  · exact .inl (.inl h)
  · rcases Int.le_total a.2.nextAttemptAt b.2.nextAttemptAt with hle | hle
    · exact .inl (.inr ⟨h, hle⟩)
    · exact .inr (.inr ⟨h.symm, hle⟩)
  · exact .inr (.inl h)

theorem queueLe_trans {a b c : OutpointKey × QueueRow} (hab : queueLe a b = true) (hbc : queueLe b c = true) :
    queueLe a c = true := by
  unfold queueLe at *
  simp only [decide_eq_true_eq, Int32.lt_iff_toInt_lt, ← Int32.toInt_inj] at *
  rcases hab with hab | ⟨hab, hab'⟩
  · rcases hbc with hbc | ⟨hbc, -⟩
    · exact .inl (Int.lt_trans hab hbc)
    · exact .inl (hbc ▸ hab)
  · rcases hbc with hbc | ⟨hbc, hbc'⟩
    · exact .inl (hab ▸ hbc)
    · exact .inr ⟨hab.trans hbc, Int.le_trans hab' hbc'⟩

/-- What is picked comes before what is left behind. -/
theorem claimed_before {st : Store} {rows : RowOrder (OutpointKey × QueueRow)} {limit : Int64} {now : DateTime}
    {e e' : OutpointKey × QueueRow} (h : e ∈ st.pickedRefreshes rows limit now) (hdue : e' ∈ st.dueRefreshes now)
    (hleft : e' ∉ st.pickedRefreshes rows limit now) : queueLe e e' = true := by
  have : Std.Total fun a b : OutpointKey × QueueRow => queueLe a b = true := ⟨queueLe_total⟩
  have : IsTrans (OutpointKey × QueueRow) fun a b => queueLe a b = true := ⟨fun _ _ _ => queueLe_trans⟩
  have hsorted : ((rows.order (st.dueRefreshes now)).insertionSort fun a b => queueLe a b).Pairwise
      fun a b => queueLe a b = true := List.pairwise_insertionSort _ _
  have hmem : e' ∈ (rows.order (st.dueRefreshes now)).insertionSort fun a b => queueLe a b := by
    rw [List.mem_insertionSort, rows.mem_order]
    exact hdue
  unfold pickedRefreshes at h hleft
  rw [← List.take_append_drop limit.toInt.toNat ((rows.order (st.dueRefreshes now)).insertionSort fun a b => queueLe a b),
    List.mem_append] at hmem
  rw [← List.take_append_drop limit.toInt.toNat ((rows.order (st.dueRefreshes now)).insertionSort fun a b => queueLe a b),
    List.pairwise_append] at hsorted
  exact hsorted.2.2 e h e' (hmem.resolve_left hleft)

/-- A due row may be picked without a due row it comes no later than. -/
theorem picked_before {st : Store} {now : DateTime} {e e' : OutpointKey × QueueRow} (h : e ∈ st.dueRefreshes now)
    (hne : e ≠ e') (hle : queueLe e e' = true) (hrows : (st.dueRefreshes now).length < 2 ^ 63) :
    ∃ ties limit, ¬ limit < 0 ∧ e ∈ st.pickedRefreshes ties limit now ∧ e' ∉ st.pickedRefreshes ties limit now := by
  obtain ⟨ties, n, hn, hin, hout⟩ :=
    RowOrder.exists_limit (r := fun a b => queueLe a b = true) h hne hle
  have hlimit : (Int64.ofNat n).toInt = n := Int64.toInt_ofNat_of_lt (by omega)
  refine ⟨ties, Int64.ofNat n, ?_, ?_, ?_⟩
  · rw [Int64.lt_iff_toInt_lt, hlimit]
    exact Int.not_lt.mpr (Int.natCast_nonneg n)
  · rw [pickedRefreshes, hlimit]
    exact hin
  · rw [pickedRefreshes, hlimit]
    exact hout

end Store
end RgbppIndexer
