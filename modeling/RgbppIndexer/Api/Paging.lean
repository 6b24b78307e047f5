import RgbppIndexer.Api.Activity
import RgbppIndexer.Indexer.System
import RgbppIndexer.Scan.Growth

/-!
# Paging through a history that grows

A client follows `next_cursor` while the scanner commits rounds. "Keyset
pagination on `(block_number, tx_index)`: an offset would drift as the scanner
appends, silently repeating or skipping entries mid-scroll"
(crates/store/src/activity.rs:19-22).

* `Meanwhile`: what may happen between two statements: rounds that index new
  blocks above the indexed ones, and writes that leave the labels of the
  address alone.
* `Touching`: a transition touches an address when it created or consumed a cell
  bound to an outpoint labelled with it.
* `touchedTransitions_kept`: what touches the address goes on touching it.
* `follow_complete`: **the pages have every transition once, newest first, and
  come to an end.**
-/
namespace RgbppIndexer

open RgbppIndexer.Core

/-- What is new stands in a block above all that is indexed. -/
def Appends (st st' : Store) : Prop :=
  ∀ e e' : Bytes × TransitionRecord, st'.rgbppTransitions.get? e.1 = some e.2 → st.rgbppTransitions.get? e.1 = none →
    st.rgbppTransitions.get? e'.1 = some e'.2 → e'.2.blockNumber < e.2.blockNumber

instance (st st' : Store) : Decidable (Appends st st') :=
  decidable_of_iff (∀ e ∈ st'.rgbppTransitions.entries, st.rgbppTransitions.get? e.1 = none →
    ∀ e' ∈ st.rgbppTransitions.entries, e'.2.blockNumber < e.2.blockNumber) (by
      simp only [Appends, Table.get?_eq_some_iff, Prod.mk.eta]
      exact ⟨fun h e e' he hnone he' => h e he hnone e' he', fun h e he hnone e' he' => h e e' he hnone he'⟩)

/-- The address has the outpoints it had. -/
def SameOwner (address : String) (st st' : Store) : Prop :=
  ∀ key, (st'.btcOutpoints.get? key).bind ObservationRow.address = some address ↔
    (st.btcOutpoints.get? key).bind ObservationRow.address = some address

/-- One step of the database while a client pages through the history of the address. -/
structure Meanwhile [Sha2] (cfg : Config) (ch : Chain) (errorText : IndexerError → String) (address : String)
    (st st' : Store) : Prop where
  step : IndexStep cfg ch errorText st st'
  appends : Appends st st'
  owner : SameOwner address st st'

/-- The cell is bound to an outpoint the address is recorded for. -/
def HeldBy (st : Store) (address : String) (c : CellRecord) : Prop :=
  ∃ vout row, c.btcVout = some vout ∧ st.btcOutpoints.get? ⟨c.btcTxid, vout⟩ = some row ∧ row.address = some address

/-- The transaction created or consumed a cell of the address. -/
def Touching (st : Store) (address : String) (hash : Bytes) : Prop :=
  ∃ key c, st.rgbppCells.get? key = some c ∧ HeldBy st address c ∧
    (key.ckbTxHash = hash ∨ ∃ spent, c.consumed = some spent ∧ spent.txHash = hash)

/-- `a` is older than `b`. -/
def Older (a b : ChainPosition) : Prop := a.1 < b.1 ∨ a.1 = b.1 ∧ a.2 < b.2

theorem older_of_not_newestFirst {a b : ChainPosition} (h : newestFirst b a ≠ true) : Older b a := by
  rw [Ne, newestFirst_iff, Int64.lt_iff_toInt_lt, Int32.le_iff_toInt_le, ← Int64.toInt_inj] at h
  unfold Older
  rw [Int64.lt_iff_toInt_lt, Int32.lt_iff_toInt_lt, ← Int64.toInt_inj]
  omega

theorem Older.irrefl (a : ChainPosition) : ¬ Older a a := by
  unfold Older
  rw [Int64.lt_iff_toInt_lt, Int32.lt_iff_toInt_lt]
  omega

section
variable [Sha2] {cfg : Config} {ch : Chain} {errorText : IndexerError → String} {address : String} {st st' : Store}
  {entries done : List Entry}

/-! ## What the join finds -/

omit [Sha2] in
theorem heldBy_iff {c : CellRecord} :
    HeldBy st address c ↔ (st.observationOf c).bind ObservationRow.address = some address := by
  unfold HeldBy Store.observationOf
  cases c.btcVout with
  | none => simp
  | some vout => simp [Option.bind_eq_some_iff]

omit [Sha2] in
theorem touching_iff {hash : Bytes} : Touching st address hash ↔ hash ∈ st.touched address := by
  rw [Store.mem_touched]
  unfold Touching
  simp only [heldBy_iff, Prod.exists, Store.mem_owned, Option.map_eq_some_iff, and_assoc]

/-! ## What stays between two requests -/

omit [Sha2] in
theorem SameOwner.observationOf (h : SameOwner address st st') {c c' : CellRecord} (hbody : c'.toCellBody = c.toCellBody)
    (howner : (st.observationOf c).bind ObservationRow.address = some address) :
    (st'.observationOf c').bind ObservationRow.address = some address := by
  have hvout : c'.btcVout = c.btcVout := congrArg CellBody.btcVout hbody
  have htxid : c'.btcTxid = c.btcTxid := congrArg CellBody.btcTxid hbody
  unfold Store.observationOf at howner ⊢
  rw [hvout, htxid]
  cases hv : c.btcVout with
  | none =>
    rw [hv] at howner
    cases howner
  | some vout =>
    rw [hv] at howner
    exact (h _).mpr howner

theorem touched_kept (h : IndexMatch cfg ch entries st) (h' : IndexMatch cfg ch (entries ++ done) st')
    (howner : SameOwner address st st') {hash : Bytes} (htouched : hash ∈ st.touched address) :
    hash ∈ st'.touched address := by
  obtain ⟨⟨key, row⟩, hmem, hhash⟩ := Store.mem_touched.mp htouched
  obtain ⟨hrow, hlabel⟩ := Store.mem_owned.mp hmem
  obtain ⟨row', hrow', hbody, hconsumed⟩ := h.cell_kept h' hrow
  refine Store.mem_touched.mpr ⟨(key, row'), Store.mem_owned.mpr ⟨hrow', howner.observationOf hbody hlabel⟩, ?_⟩
  refine hhash.imp_right fun hspent => ?_
  obtain ⟨c, hc, rfl⟩ := Option.map_eq_some_iff.mp hspent
  exact Option.map_eq_some_iff.mpr ⟨c, hconsumed c hc, rfl⟩

/-- A transition that touches the address keeps doing so, at its position. -/
theorem touchedTransitions_kept (h : IndexMatch cfg ch entries st) (h' : IndexMatch cfg ch (entries ++ done) st')
    (howner : SameOwner address st st') {e : Bytes × TransitionRecord} (he : e ∈ st.touchedTransitions address) :
    ∃ e' ∈ st'.touchedTransitions address, e'.1 = e.1 ∧ Store.positionOf e' = Store.positionOf e := by
  obtain ⟨hrow, htouched⟩ := Store.mem_touchedTransitions.mp he
  obtain ⟨row', hrow', hposition⟩ := h.transition_kept h' hrow
  exact ⟨(e.1, row'), Store.mem_touchedTransitions.mpr ⟨hrow', touched_kept h h' howner htouched⟩, rfl, hposition⟩

/-- Any number of steps is one. -/
theorem Meanwhile.steps (h : IndexMatch cfg ch entries st)
    (hsteps : Relation.ReflTransGen (Meanwhile cfg ch errorText address) st st') :
    ∃ done, IndexMatch cfg ch (entries ++ done) st' ∧ Appends st st' ∧ SameOwner address st st' := by
  induction hsteps with
  | refl => exact ⟨[], by rw [List.append_nil]; exact h, fun e _ hnew hnone => by simp [hnew] at hnone, fun _ => Iff.rfl⟩
  | @tail mid st' _ hstep ih =>
    obtain ⟨done, hmid, happend, howner⟩ := ih
    obtain ⟨more, hlast⟩ := hmid.indexStep hstep.step
    refine ⟨done ++ more, by rw [← List.append_assoc]; exact hlast, ?_, fun key => (hstep.owner key).trans (howner key)⟩
    intro e e' hnew hnone hold
    obtain ⟨old, hkept, hplace⟩ := h.transition_kept hmid hold
    have hnumber : old.blockNumber = e'.2.blockNumber := congrArg Prod.fst hplace
    cases hmidrow : mid.rgbppTransitions.get? e.1 with
    | none => exact hnumber ▸ hstep.appends e (e'.1, old) hnew hmidrow hkept
    | some row =>
      have hplace' := (hmid.position_iff hlast (e.1, row) e hmidrow hnew).mpr rfl
      have hnumber' : row.blockNumber = e.2.blockNumber := congrArg Prod.fst hplace'
      exact hnumber' ▸ happend (e.1, row) e' hmidrow hnone hold

/-! ## Positions of one index -/

theorem IndexMatch.positions_nodup (h : IndexMatch cfg ch entries st) {rows : List (Bytes × TransitionRecord)}
    (hrows : ∀ e ∈ rows, st.rgbppTransitions.get? e.1 = some e.2) (hkeys : (rows.map Prod.fst).Nodup) :
    (rows.map Store.positionOf).Nodup := by
  rw [List.Nodup, List.pairwise_map] at hkeys ⊢
  refine hkeys.imp_of_mem fun {a b} ha hb hne hsame => hne ?_
  exact (h.position_iff h a b (hrows a ha) (hrows b hb)).mp hsame

theorem IndexMatch.history_sorted (h : IndexMatch cfg ch entries st) (address : String) :
    (st.history address).Pairwise fun a b => newestFirst b a ≠ true :=
  Store.history_sorted (h.positions_nodup (fun _ he => (Store.mem_touchedTransitions.mp he).1)
    (st.touchedTransitions_nodup address))

/-- The positions of all transitions. -/
def Store.positions (st : Store) : List ChainPosition := st.rgbppTransitions.entries.map Store.positionOf

omit [Sha2] in
theorem mem_positions {p : ChainPosition} : p ∈ st.positions ↔
    ∃ e : Bytes × TransitionRecord, st.rgbppTransitions.get? e.1 = some e.2 ∧ Store.positionOf e = p := by
  unfold Store.positions
  rw [List.mem_map]
  simp only [Table.get?_eq_some_iff, Prod.mk.eta]

theorem IndexMatch.positions (h : IndexMatch cfg ch entries st) : st.positions.Nodup :=
  h.positions_nodup (fun e he => (st.rgbppTransitions.get?_eq_some_iff e.1 e.2).mpr he) st.rgbppTransitions.nodupKeys

/-! ## The client -/

variable {orders : Nat → ActivityOrders} {world : Nat → Store} {pageSize : Int64}

/-- Two moments of the same history. -/
theorem world_steps (hmeanwhile : ∀ i, Relation.ReflTransGen (Meanwhile cfg ch errorText address) (world i) (world (i + 1)))
    {i j : Nat} (hij : i ≤ j) : Relation.ReflTransGen (Meanwhile cfg ch errorText address) (world i) (world j) := by
  induction hij with
  | refl => exact .refl
  | step _ ih => exact ih.trans (hmeanwhile _)

theorem world_index (hreach : Relation.ReflTransGen (IndexStep cfg ch errorText) .empty (world 0))
    (hmeanwhile : ∀ i, Relation.ReflTransGen (Meanwhile cfg ch errorText address) (world i) (world (i + 1))) (i : Nat) :
    ∃ entries, IndexMatch cfg ch entries (world i) := by
  obtain ⟨entries, hstart⟩ := exists_indexMatch hreach
  obtain ⟨done, hdone, -⟩ := Meanwhile.steps hstart (world_steps hmeanwhile (Nat.zero_le i))
  exact ⟨_, hdone⟩

/-- What pages are read from grows at the front only. -/
theorem history_grows (hreach : Relation.ReflTransGen (IndexStep cfg ch errorText) .empty (world 0))
    (hmeanwhile : ∀ i, Relation.ReflTransGen (Meanwhile cfg ch errorText address) (world i) (world (i + 1))) :
    Keyset.Grows newestFirst (fun i => (world (3 * i)).history address) fun i => (world (3 * i)).positions where
  part := by
    intro i p hp
    obtain ⟨e, he, hposition⟩ := Store.mem_history.mp hp
    exact mem_positions.mpr ⟨e, (Store.mem_touchedTransitions.mp he).1, hposition⟩
  nodup := by
    intro i
    obtain ⟨entries, hmatch⟩ := world_index hreach hmeanwhile (3 * i)
    exact hmatch.positions
  front := by
    intro i p hp
    obtain ⟨e, hrow, rfl⟩ := mem_positions.mp hp
    obtain ⟨entries, hmatch⟩ := world_index hreach hmeanwhile (3 * i)
    obtain ⟨done, hmatch', happend, -⟩ := Meanwhile.steps hmatch (world_steps hmeanwhile (j := 3 * (i + 1)) (by omega))
    cases hold : (world (3 * i)).rgbppTransitions.get? e.1 with
    | some row => exact .inl (mem_positions.mpr ⟨(e.1, row), hold, (hmatch.position_iff hmatch' (e.1, row) e hold hrow).mpr rfl⟩)
    | none =>
      refine .inr fun q hq => ?_
      obtain ⟨e', hrow', rfl⟩ := mem_positions.mp hq
      exact newestFirst_iff.mpr (.inl (happend e e' hrow hold hrow'))

section
variable (hreach : Relation.ReflTransGen (IndexStep cfg ch errorText) .empty (world 0))
  (hmeanwhile : ∀ i, Relation.ReflTransGen (Meanwhile cfg ch errorText address) (world i) (world (i + 1)))
include hreach hmeanwhile

theorem pages_sorted (i : Nat) : ((world (3 * i)).history address).Pairwise fun a b => newestFirst b a ≠ true := by
  obtain ⟨entries, hmatch⟩ := world_index hreach hmeanwhile (3 * i)
  exact hmatch.history_sorted address

variable (orders world) in
/-- The pages come to an end. -/
theorem follow_ends (hsize : 1 ≤ pageSize) {fuel : Nat} (hfuel : (world 0).rgbppTransitions.entries.length < fuel) :
    ∃ found, follow orders world address pageSize fuel 0 none = some found := by
  have hbound : (((world (3 * 0)).positions).filter (Keyset.beyond newestFirst none)).length < fuel := by
    refine Nat.lt_of_le_of_lt (List.length_filter_le ..) ?_
    rw [Store.positions, List.length_map]
    exact hfuel
  obtain ⟨out, hout⟩ := Keyset.walk_ends (n := pageSize.toInt.toNat) newestFirst_isOrder (history_grows hreach hmeanwhile) hbound
  have hfollow := follow_positions orders world address hsize fuel 0 none
  rw [Option.bind_none, hout] at hfollow
  obtain ⟨found, hfound, -⟩ := Option.map_eq_some_iff.mp hfollow
  exact ⟨found, hfound⟩

variable {fuel : Nat} {found : List ActivityEntryDto}

/-- Its entries go from the newest to the oldest. -/
theorem follow_sorted (hsize : 1 ≤ pageSize) (h : follow orders world address pageSize fuel 0 none = some found) :
    (found.map ActivityEntryDto.position).Pairwise fun a b => Older b a := by
  have hwalk := follow_positions orders world address hsize fuel 0 none
  rw [h, Option.map_some] at hwalk
  exact (Keyset.walk_sorted newestFirst_isOrder (toNat_limit_pos hsize) (pages_sorted hreach hmeanwhile) hwalk.symm).imp
    older_of_not_newestFirst

/-- One entry for each transaction. -/
theorem follow_nodup (hsize : 1 ≤ pageSize) (h : follow orders world address pageSize fuel 0 none = some found) :
    (found.map ActivityEntryDto.ckbTxHash).Nodup := by
  have hsorted := follow_sorted hreach hmeanwhile hsize h
  rw [List.pairwise_map] at hsorted
  rw [List.Nodup, List.pairwise_map]
  refine hsorted.imp_of_mem fun {a b} ha hb holder hsame => ?_
  obtain ⟨j, t, ht, hhash, hposition⟩ := mem_follow hsize h ha
  obtain ⟨j', t', ht', hhash', hposition'⟩ := mem_follow hsize h hb
  obtain ⟨entries, hmatch⟩ := world_index hreach hmeanwhile (3 * j)
  obtain ⟨entries', hmatch'⟩ := world_index hreach hmeanwhile (3 * j')
  have hkey : t.1 = t'.1 := bytesToHex_injective (hhash.symm.trans (hsame.trans hhash'))
  have hequal := (hmatch.position_iff hmatch' t t' (Store.mem_touchedTransitions.mp ht).1
    (Store.mem_touchedTransitions.mp ht').1).mpr hkey
  rw [hposition, hposition', hequal] at holder
  exact Older.irrefl _ holder

/-- What touched the address at the first request is collected. -/
theorem mem_of_follow (hsize : 1 ≤ pageSize) (h : follow orders world address pageSize fuel 0 none = some found)
    {e : Bytes × TransitionRecord} (he : e ∈ (world 0).touchedTransitions address) :
    bytesToHex e.1 ∈ found.map ActivityEntryDto.ckbTxHash := by
  have hwalk := follow_positions orders world address hsize fuel 0 none
  rw [h, Option.map_some] at hwalk
  -- the transition is in every state a page is read from, hence in one of the pages
  obtain ⟨entries, hstart⟩ := exists_indexMatch hreach
  have hstays : ∀ j, 0 ≤ j → Store.positionOf e ∈ (world (3 * j)).history address := fun j _ => by
    obtain ⟨done, hdone, -, howner⟩ := Meanwhile.steps hstart (world_steps hmeanwhile (Nat.zero_le (3 * j)))
    obtain ⟨e', he', -, hposition⟩ := touchedTransitions_kept hstart hdone howner he
    exact Store.mem_history.mpr ⟨e', he', hposition⟩
  have hmem := Keyset.walk_complete newestFirst_isOrder (toNat_limit_pos hsize) (pages_sorted hreach hmeanwhile) hstays rfl
    hwalk.symm
  obtain ⟨entry, hentry, hposition⟩ := List.mem_map.mp hmem
  obtain ⟨j, t, ht, hhash, hposition'⟩ := mem_follow hsize h hentry
  obtain ⟨entries', hmatch'⟩ := world_index hreach hmeanwhile (3 * j)
  have hkey := (hmatch'.position_iff hstart t e (Store.mem_touchedTransitions.mp ht).1
    (Store.mem_touchedTransitions.mp he).1).mp (hposition'.symm.trans hposition)
  exact List.mem_map.mpr ⟨entry, hentry, by rw [hhash, hkey]⟩

end

/-- **Following `next_cursor` returns every transition that touched the address
at the first request exactly once, in strictly decreasing order, and ends.** -/
theorem follow_complete (hreach : Relation.ReflTransGen (IndexStep cfg ch errorText) .empty (world 0))
    (hmeanwhile : ∀ i, Relation.ReflTransGen (Meanwhile cfg ch errorText address) (world i) (world (i + 1)))
    (hsize : 1 ≤ pageSize) {fuel : Nat} (hfuel : (world 0).rgbppTransitions.entries.length < fuel) :
    ∃ found, follow orders world address pageSize fuel 0 none = some found ∧
      (found.map ActivityEntryDto.position).Pairwise (fun a b => Older b a) ∧
      ∀ hash t, (world 0).rgbppTransitions.get? hash = some t → Touching (world 0) address hash →
        (found.map ActivityEntryDto.ckbTxHash).count (bytesToHex hash) = 1 := by
  obtain ⟨found, hfound⟩ := follow_ends orders world hreach hmeanwhile hsize hfuel
  refine ⟨found, hfound, follow_sorted hreach hmeanwhile hsize hfound, fun hash t ht htouching => ?_⟩
  have hmem : (hash, t) ∈ (world 0).touchedTransitions address :=
    Store.mem_touchedTransitions.mpr ⟨ht, touching_iff.mp htouching⟩
  exact List.count_eq_one_of_mem (follow_nodup hreach hmeanwhile hsize hfound)
    (mem_of_follow hreach hmeanwhile hsize hfound hmem)

end

/-! ## A small history -/

namespace Sample

local instance pagingHash : Sha2 := .standard

/-- The funding transaction pays its output 0 to the owner. -/
def labelOwner (st : Store) (txid : BtcTxid) : Store :=
  Observations.kept st (st.recordBindingAddresses txid.toDisplayVec [(0, "owner")] 0)

/-- Three issuances onto output 0 of one Bitcoin transaction, a block after the other. -/
def issuances : Chain :=
  .ofBlocks [block 0 [], block 1 [issuance], block 2 [{ issuance with hash := hash 2 }],
    block 3 [{ issuance with hash := hash 3 }]] (by decide +kernel)

/-- The first two are indexed and their outpoint is the owner's. -/
def beforeThird : Store :=
  labelOwner (scannerStep (.testnet 64) (env (issuances.serve 2)) (fun _ => "") .empty) btcTxid

/-- The third is indexed behind the first page. -/
def paged : Nat → Store
  | 0 => beforeThird
  | _ + 1 => scannerStep (.testnet 64) (env (issuances.serve 3)) (fun _ => "") beforeThird

theorem indexStep_labelOwner {ch : Chain} {cfg : Config} {errorText : IndexerError → String} (st : Store) (txid : BtcTxid) :
    IndexStep cfg ch errorText st (labelOwner st txid) := by
  unfold labelOwner
  cases hlabel : st.recordBindingAddresses txid.toDisplayVec [(0, "owner")] 0 with
  | error e => exact .elsewhere rfl rfl
  | ok labelled =>
    obtain ⟨hst, -⟩ := Store.recordBindingAddresses_eq_ok hlabel
    exact .elsewhere (by rw [Observations.kept, hst]) (by rw [Observations.kept, hst])

theorem issuances_serve (tip : UInt64) (htip : tip ≤ 3) : Serves issuances (env (issuances.serve tip)).replies :=
  Chain.serve_serves (Nat.lt_of_le_of_lt htip (by decide +kernel))

theorem beforeThird_reached : Relation.ReflTransGen (IndexStep (.testnet 64) issuances fun _ => "") .empty beforeThird := by
  unfold beforeThird
  exact (Relation.ReflTransGen.single (.round (env (issuances.serve 2)) (issuances_serve 2 (by decide)))).tail
    (indexStep_labelOwner _ btcTxid)

/-- Pages of one entry, and a block that comes between them. -/
theorem follow_complete_paged :
    ∃ found, follow (fun _ => ⟨.storage, .storage⟩) paged "owner" 1 3 0 none = some found ∧
      (found.map ActivityEntryDto.position).Pairwise (fun a b => Older b a) ∧
      ∀ hash t, (paged 0).rgbppTransitions.get? hash = some t → Touching (paged 0) "owner" hash →
        (found.map ActivityEntryDto.ckbTxHash).count (bytesToHex hash) = 1 := by
  refine follow_complete beforeThird_reached (fun i => ?_) (by decide) (by decide +kernel)
  cases i with
  | zero =>
    refine .single ⟨.round (env (issuances.serve 3)) (issuances_serve 3 (by decide)), by decide +kernel, fun key => ?_⟩
    rw [paged, paged, Observations.scannerStep_btcOutpoints]
  | succ i => exact .refl

end Sample
end RgbppIndexer
