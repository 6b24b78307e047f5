import Mathlib.Data.List.Sort
import Mathlib.Data.List.Dedup
import Std.Data.TreeMap.Lemmas
import RgbppIndexer.Types.Config

/-!
# The Bitcoin data source

`crates/btc/src/error.rs` and `crates/btc/src/source.rs`: what a backend is
asked, and `observe_many`, which groups questions by transaction.

A backend is a parameter. `BtcReplies` is what it answers at one moment,
`BtcDataSource` what it answers over time: the world may change, and a
request may fail, between two questions. `observe_many` collects its groups
as they complete, so the order is a parameter too, any permutation.

`mem_observeMany` is what callers rely on: every outpoint asked for is
answered, once, and nothing else is.
-/
namespace RgbppIndexer

open RgbppIndexer.Core

/-- mirrors crates/btc/src/error.rs:6-30 -/
inductive BtcError where
  | transport (msg : String)
  | status (code : Nat) (url : String)
  | rateLimited (url : String)
  | decode (what reason : String)
  | unsupported (feature sourceName : String)
  | types (e : TypesError)
  deriving DecidableEq, Repr

/-- Where a transaction sits in the chain. mirrors crates/btc/src/source.rs:22-28 -/
structure BtcBlockRef where
  height : UInt32
  hash : BtcBlockHash
  time : Int64
  deriving DecidableEq, Repr

/-- mirrors crates/btc/src/source.rs:30-36 -/
structure BtcTxOutput where
  value : UInt64
  scriptPubkey : Bytes
  address : Option String
  deriving DecidableEq, Repr

/-- mirrors crates/btc/src/source.rs:38-49 -/
structure BtcTxInfo where
  txid : BtcTxid
  confirmation : Option BtcBlockRef
  inputs : List BtcOutPoint
  outputs : List BtcTxOutput
  fee : Option UInt64
  deriving DecidableEq, Repr

/-- The RGB++ commitment published in this transaction. mirrors crates/btc/src/source.rs:53-55 -/
def BtcTxInfo.commitment (tx : BtcTxInfo) : Option (ByteArr 32) :=
  findCommitment (tx.outputs.map BtcTxOutput.scriptPubkey)

/-- mirrors crates/btc/src/source.rs:57-59 -/
def BtcTxInfo.spends (tx : BtcTxInfo) (outpoint : BtcOutPoint) : Bool := tx.inputs.contains outpoint

/-- mirrors crates/btc/src/source.rs:62-67 -/
structure BtcUtxo where
  outpoint : BtcOutPoint
  value : UInt64
  confirmation : Option BtcBlockRef
  deriving DecidableEq, Repr

/-- What the backend answers at one moment. mirrors crates/btc/src/source.rs:92-122 -/
structure BtcReplies where
  transaction : BtcTxid → Except BtcError (Option BtcTxInfo)
  outpointStatus : BtcOutPoint → Except BtcError OutpointSpendStatus
  txOutspends : BtcTxid → Except BtcError (Option (List OutpointSpendStatus))
  addressUtxos : String → Except BtcError (List BtcUtxo)

/-- A backend over time; the argument counts the steps of the caller. -/
structure BtcDataSource where
  name : String
  moment : Nat → BtcReplies

abbrev Observed := BtcOutPoint × Except BtcError OutpointSpendStatus

/-- `by_txid.entry(txid).or_default().push(vout)`. -/
def pushVout (m : Std.TreeMap BtcTxid (List UInt32)) (o : BtcOutPoint) : Std.TreeMap BtcTxid (List UInt32) :=
  m.alter o.txid fun vouts => some (vouts.getD [] ++ [o.vout])

def groupByTxid (outpoints : List BtcOutPoint) : Std.TreeMap BtcTxid (List UInt32) :=
  outpoints.foldl pushVout {}

/-- `sort_unstable` then `dedup`. -/
def sortedVouts (vouts : List UInt32) : List UInt32 := (vouts.insertionSort fun a b => a ≤ b).dedup

/-- One group: a single call for the whole transaction when it is worth it, per-outpoint questions otherwise.
mirrors crates/btc/src/source.rs:142-178 -/
def observeGroup (source : BtcReplies) (group : BtcTxid × List UInt32) : List Observed :=
  let vouts := sortedVouts group.2
  let perOutpoint := vouts.map fun vout => (⟨group.1, vout⟩, source.outpointStatus ⟨group.1, vout⟩)
  if 1 < vouts.length then
    match source.txOutspends group.1 with
    | .ok (some statuses) => vouts.map fun vout => (⟨group.1, vout⟩, .ok (statuses.getD vout.toNat .unknown))
    | .ok none => perOutpoint
    -- a batch failure should not poison outpoints that could still be answered
    | .error _ => perOutpoint
  else perOutpoint

/-- The order in which concurrently asked groups complete. -/
structure Completion where
  order : List (List Observed) → List (List Observed)
  perm : ∀ l, (order l).Perm l

def Completion.inOrder : Completion := ⟨id, fun l => List.Perm.refl l⟩

/-- mirrors crates/btc/src/source.rs:125-184 -/
def observeMany (source : BtcReplies) (completion : Completion) (outpoints : List BtcOutPoint) : List Observed :=
  (completion.order ((groupByTxid outpoints).toList.map (observeGroup source))).flatten

/-! ## What is asked is answered -/

theorem getElem?_foldl_pushVout (m : Std.TreeMap BtcTxid (List UInt32)) (os : List BtcOutPoint) (t : BtcTxid) :
    (os.foldl pushVout m)[t]? =
      if (os.filter fun o => o.txid = t) = [] then m[t]?
      else some (m[t]?.getD [] ++ (os.filter fun o => o.txid = t).map BtcOutPoint.vout) := by
  induction os generalizing m with
  | nil => simp
  | cons o os ih =>
    rw [List.foldl_cons, ih, pushVout, Std.TreeMap.getElem?_alter]
    by_cases ht : o.txid = t
    · subst ht
      simp only [Std.ReflCmp.compare_self, if_true, decide_true, List.filter_cons_of_pos, reduceCtorEq, if_false,
        List.map_cons, Option.getD_some, List.append_assoc, List.cons_append, List.nil_append]
      split
      · next h => simp [h]
      · rfl
    · have hne : compare o.txid t ≠ .eq := fun he => ht (Std.LawfulEqCmp.eq_of_compare he)
      simp [ht, hne]

/-- A group holds exactly the requested vouts of its transaction. -/
theorem mem_groupByTxid {outpoints : List BtcOutPoint} {t : BtcTxid} {vouts : List UInt32}
    (h : (t, vouts) ∈ (groupByTxid outpoints).toList) (v : UInt32) : v ∈ vouts ↔ (⟨t, v⟩ : BtcOutPoint) ∈ outpoints := by
  rw [Std.TreeMap.mem_toList_iff_getElem?_eq_some, groupByTxid, getElem?_foldl_pushVout] at h
  split at h
  · simp at h
  · simp only [Std.TreeMap.getElem?_emptyc, Option.getD_none, List.nil_append, Option.some.injEq] at h
    subst h
    simp only [List.mem_map, List.mem_filter, decide_eq_true_eq]
    constructor
    · rintro ⟨o, ⟨ho, rfl⟩, rfl⟩; exact ho
    · intro ho; exact ⟨_, ⟨ho, rfl⟩, rfl⟩

theorem exists_group {outpoints : List BtcOutPoint} {o : BtcOutPoint} (h : o ∈ outpoints) :
    ∃ vouts, (o.txid, vouts) ∈ (groupByTxid outpoints).toList := by
  have hne : ¬ (outpoints.filter fun p => p.txid = o.txid) = [] := by
    intro he
    have : o ∈ outpoints.filter fun p => p.txid = o.txid := List.mem_filter.mpr ⟨h, by simp⟩
    rw [he] at this; cases this
  refine ⟨(outpoints.filter fun p => p.txid = o.txid).map BtcOutPoint.vout,
    Std.TreeMap.mem_toList_iff_getElem?_eq_some.mpr ?_⟩
  rw [groupByTxid, getElem?_foldl_pushVout, if_neg hne]; simp

theorem mem_sortedVouts {v : UInt32} {vouts : List UInt32} : v ∈ sortedVouts vouts ↔ v ∈ vouts := by
  rw [sortedVouts, List.mem_dedup, List.mem_insertionSort]

theorem observeGroup_map_fst (source : BtcReplies) (group : BtcTxid × List UInt32) :
    (observeGroup source group).map Prod.fst = (sortedVouts group.2).map fun vout => ⟨group.1, vout⟩ := by
  unfold observeGroup
  simp only
  split
  · split <;> simp [Function.comp_def]
  · simp [Function.comp_def]

/-- The answers before they are flattened, in group order. -/
theorem observeMany_perm (source : BtcReplies) (completion : Completion) (outpoints : List BtcOutPoint) :
    (observeMany source completion outpoints).Perm
      ((groupByTxid outpoints).toList.flatMap (observeGroup source)) := by
  rw [observeMany, List.flatMap_def]
  exact (completion.perm _).flatten

theorem mem_observeMany {source : BtcReplies} {completion : Completion} {outpoints : List BtcOutPoint}
    {o : BtcOutPoint} :
    o ∈ (observeMany source completion outpoints).map Prod.fst ↔ o ∈ outpoints := by
  rw [((observeMany_perm source completion outpoints).map Prod.fst).mem_iff, List.map_flatMap, List.mem_flatMap]
  constructor
  · rintro ⟨⟨t, vouts⟩, hg, ho⟩
    rw [observeGroup_map_fst, List.mem_map] at ho
    obtain ⟨v, hv, rfl⟩ := ho
    exact (mem_groupByTxid hg v).mp (mem_sortedVouts.mp hv)
  · intro ho
    obtain ⟨vouts, hg⟩ := exists_group ho
    refine ⟨_, hg, ?_⟩
    rw [observeGroup_map_fst, List.mem_map]
    exact ⟨o.vout, mem_sortedVouts.mpr ((mem_groupByTxid hg _).mpr ho), rfl⟩

/-- An answer of a call is the backend's own: to the outpoint, or the entry of its transaction's list. -/
theorem answer_of_mem_observeMany {source : BtcReplies} {completion : Completion} {outpoints : List BtcOutPoint}
    {o : BtcOutPoint} {answer : Except BtcError OutpointSpendStatus}
    (h : (o, answer) ∈ observeMany source completion outpoints) :
    answer = source.outpointStatus o ∨ ∃ statuses, source.txOutspends o.txid = .ok (some statuses) ∧
      answer = .ok (statuses.getD o.vout.toNat .unknown) := by
  rw [(observeMany_perm source completion outpoints).mem_iff, List.mem_flatMap] at h
  obtain ⟨group, -, h⟩ := h
  have hper : ∀ {vouts : List UInt32}, (o, answer) ∈ (vouts.map fun vout =>
      ((⟨group.1, vout⟩ : BtcOutPoint), source.outpointStatus ⟨group.1, vout⟩)) → answer = source.outpointStatus o := by
    intro vouts hmem
    obtain ⟨vout, -, he⟩ := List.mem_map.mp hmem
    obtain ⟨rfl, hanswer⟩ := Prod.mk.inj he
    exact hanswer.symm
  unfold observeGroup at h
  dsimp only at h
  split at h
  · split at h
    · next statuses hbatch =>
      obtain ⟨vout, -, he⟩ := List.mem_map.mp h
      obtain ⟨rfl, hanswer⟩ := Prod.mk.inj he
      exact .inr ⟨statuses, hbatch, hanswer.symm⟩
    · exact .inl (hper h)
    · exact .inl (hper h)
  · exact .inl (hper h)

/-- The backend answers every question about an outpoint or a transaction. -/
structure BtcReplies.AnswersAll (source : BtcReplies) : Prop where
  outpointStatus : ∀ o, ∃ status, source.outpointStatus o = .ok status
  transaction : ∀ txid, ∃ reply, source.transaction txid = .ok reply

/-- Then every outpoint of a call is answered. -/
theorem BtcReplies.AnswersAll.observeMany {source : BtcReplies} (h : source.AnswersAll) {completion : Completion}
    {outpoints : List BtcOutPoint} {a : Observed} (ha : a ∈ observeMany source completion outpoints) :
    ∃ status, a.2 = .ok status := by
  obtain ⟨o, answer⟩ := a
  rcases answer_of_mem_observeMany ha with rfl | ⟨statuses, -, rfl⟩
  · exact h.outpointStatus o
  · exact ⟨_, rfl⟩

/-- The source says this of an outpoint: on its own, or among the outspends of its transaction. -/
def BtcReplies.Says (source : BtcReplies) (o : BtcOutPoint) (status : OutpointSpendStatus) : Prop :=
  source.outpointStatus o = .ok status ∨
    ∃ statuses, source.txOutspends o.txid = .ok (some statuses) ∧ status = statuses.getD o.vout.toNat .unknown

theorem says_of_mem_observeMany {source : BtcReplies} {completion : Completion} {outpoints : List BtcOutPoint}
    {o : BtcOutPoint} {status : OutpointSpendStatus} (h : (o, .ok status) ∈ observeMany source completion outpoints) :
    source.Says o status := by
  rcases answer_of_mem_observeMany h with hsingle | ⟨statuses, hbatch, heq⟩
  · exact .inl hsingle.symm
  · exact .inr ⟨statuses, hbatch, Except.ok.inj heq⟩

/-- No outpoint is answered twice in one call. -/
theorem observeMany_nodup (source : BtcReplies) (completion : Completion) (outpoints : List BtcOutPoint) :
    ((observeMany source completion outpoints).map Prod.fst).Nodup := by
  rw [((observeMany_perm source completion outpoints).map Prod.fst).nodup_iff, List.map_flatMap,
    List.nodup_flatMap]
  constructor
  · rintro ⟨t, vouts⟩ -
    rw [observeGroup_map_fst]
    exact (List.nodup_dedup _).map fun v w h => by simpa using h
  · -- groups of different transactions share no outpoint
    refine (Std.TreeMap.distinct_keys_toList (t := groupByTxid outpoints)).imp ?_
    rintro ⟨t, vouts⟩ ⟨t', vouts'⟩ hne
    simp only [Function.onFun, observeGroup_map_fst]
    intro o ho ho'
    obtain ⟨v, -, rfl⟩ := List.mem_map.mp ho
    obtain ⟨v', -, he⟩ := List.mem_map.mp ho'
    simp only [BtcOutPoint.mk.injEq] at he
    exact hne (by rw [he.1]; exact Std.ReflCmp.compare_self)

end RgbppIndexer
