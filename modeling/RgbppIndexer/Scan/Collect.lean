import Mathlib.Data.List.Induction
import RgbppIndexer.Scan.Process

/-!
# What a round collects

The two lock searches, page by page, merged into one list of records.

* `collectPages_eq`: pages that cut up a list give back the list, as far as
  it is in range.
* `MergeOf.foldl`: the merge map holds one record for each key, with the cells
  of both searches.
* `cells_foldl_mergeRecord`: in the order in which they were listed first.
* `collectRange_collected`: every collected record is about the chain and in
  range, no transaction has two, and if the rich indexer is complete up to the
  end of the range, no match is missing.
-/
namespace RgbppIndexer

open RgbppIndexer.Core

/-! ## One search -/

section
variable {r : Replies} {key : SearchKey} {limit : UInt32} {fromBlock toBlock : UInt64}

/-- Everything collected came on some page, and is in range. -/
theorem mem_collectPages {fuel : Nat} {cursor : Option String} {out res : List TxRecord}
    (h : r.collectPages key limit fromBlock toBlock fuel cursor out = .ok res) :
    ∀ record ∈ res, record ∈ out ∨ (Replies.inRange fromBlock toBlock record = true ∧
      ∃ limit cursor page, r.getTransactionsPage key .asc limit cursor = .ok page ∧ record ∈ page.objects) := by
  induction fuel generalizing cursor out with
  | zero => cases h
  | succ fuel ih =>
    unfold Replies.collectPages at h
    rw [bind_eq_ok] at h
    obtain ⟨page, hpage, h⟩ := h
    have hnew : ∀ record ∈ out ++ page.objects.filter (Replies.inRange fromBlock toBlock), record ∈ out ∨
        (Replies.inRange fromBlock toBlock record = true ∧
          ∃ limit cursor page, r.getTransactionsPage key .asc limit cursor = .ok page ∧ record ∈ page.objects) := by
      intro record hmem
      rcases List.mem_append.mp hmem with hmem | hmem
      · exact .inl hmem
      · obtain ⟨hobj, hrange⟩ := List.mem_filter.mp hmem
        exact .inr ⟨hrange, limit, cursor, page, hpage, hobj⟩
    dsimp only at h
    split at h
    · rw [pure_eq_ok] at h
      subst h
      exact hnew
    · intro record hmem
      rcases ih h record hmem with hmem | hmem
      · exact hnew record hmem
      · exact .inr hmem

/-- A page at a position of a list: the next records, and a cursor for what follows them, unless nothing does. -/
structure PageAt (list : List TxRecord) (limit : UInt32) (At : Option String → Nat → Prop) (p : Nat) (page : Pagination) :
    Prop where
  objects : page.objects = (list.drop p).take limit.toNat
  continues : page.lastCursor ≠ [] → At (some (bytesToHex page.lastCursor)) (p + page.objects.length)
  exhausted : page.lastCursor = [] → list.length ≤ p + limit.toNat

variable {list : List TxRecord} {At : Option String → Nat → Prop} {p fuel : Nat} {cursor : Option String}
  {out res : List TxRecord}

/-- The cursors of the pages of a search name positions. -/
theorem Paged.cursors (h : Paged r key list) : ∃ At : Option String → Nat → Prop, At none 0 ∧
    ∀ limit cursor p page, At cursor p → r.getTransactionsPage key .asc limit cursor = .ok page → PageAt list limit At p page := by
  obtain ⟨position, hstart, hpaged⟩ := h
  refine ⟨fun cursor p => position cursor = p, hstart, ?_⟩
  rintro limit cursor p page rfl hpage
  obtain ⟨hobjects, hnext, hend⟩ := hpaged limit cursor page hpage
  exact ⟨hobjects, hnext, hend⟩

/-- Pages that cut up a list give back the rest of it, as far as it is in range. -/
theorem collectPages_eq
    (hpaged : ∀ cursor p page, At cursor p → r.getTransactionsPage key .asc limit cursor = .ok page → PageAt list limit At p page)
    (hat : At cursor p) (h : r.collectPages key limit fromBlock toBlock fuel cursor out = .ok res) :
    res = out ++ (list.drop p).filter (Replies.inRange fromBlock toBlock) := by
  induction fuel generalizing cursor out p with
  | zero => cases h
  | succ fuel ih =>
    unfold Replies.collectPages at h
    rw [bind_eq_ok] at h
    obtain ⟨page, hpage, h⟩ := h
    obtain ⟨hobjects, hnext, hend⟩ := hpaged cursor p page hat hpage
    dsimp only at h
    split at h
    · next hlast =>
      rw [pure_eq_ok] at h
      subst h
      -- the page is short, or nothing follows it: it is all that was left
      have hall : page.objects = list.drop p := by
        rw [hobjects]
        apply List.take_of_length_le
        rcases hlast with hshort | hnone
        · rw [hobjects, List.length_take] at hshort
          omega
        · have := hend (List.isEmpty_iff.mp hnone)
          rw [List.length_drop]
          omega
      rw [hall]
    · next hmore =>
      rw [not_or, List.isEmpty_iff] at hmore
      rw [ih (hnext hmore.2) h, List.append_assoc, ← List.filter_append, ← List.drop_drop]
      have hlen : page.objects.length = min limit.toNat (list.drop p).length := by
        rw [hobjects, List.length_take]
      have hsplit : page.objects ++ (list.drop p).drop page.objects.length = list.drop p := by
        rw [hlen]
        conv_lhs => rw [hobjects]
        by_cases hle : limit.toNat ≤ (list.drop p).length
        · rw [min_eq_left hle, List.take_append_drop]
        · rw [min_eq_right (by omega), List.take_of_length_le (by omega), List.drop_length, List.append_nil]
      rw [hsplit]

/-- With every page answered and fuel for every record, the loop ends. -/
theorem collectPages_succeeds
    (hpaged : ∀ cursor p page, At cursor p → r.getTransactionsPage key .asc limit cursor = .ok page → PageAt list limit At p page)
    (hreply : ∀ cursor p, At cursor p → ∃ page, r.getTransactionsPage key .asc limit cursor = .ok page)
    (hlimit : 0 < limit.toNat) (hat : At cursor p) (hfuel : list.length - p < fuel) :
    ∃ res, r.collectPages key limit fromBlock toBlock fuel cursor out = .ok res := by
  induction fuel generalizing cursor out p with
  | zero => omega
  | succ fuel ih =>
    obtain ⟨page, hpage⟩ := hreply cursor p hat
    obtain ⟨hobjects, hnext, -⟩ := hpaged cursor p page hat hpage
    unfold Replies.collectPages
    rw [hpage]
    simp only [bind, Except.bind]
    split
    · exact ⟨_, rfl⟩
    · next hmore =>
      rw [not_or, List.isEmpty_iff] at hmore
      have hlen : page.objects.length = min limit.toNat (list.length - p) := by
        rw [hobjects, List.length_take, List.length_drop]
      exact ih (hnext hmore.2) (by omega)

end

/-! ## Merging -/

theorem mem_mergeCells {existing cells : List MatchedCell} {c : MatchedCell} :
    c ∈ mergeCells existing cells ↔ c ∈ existing ∨ c ∈ cells := by
  unfold mergeCells
  induction cells generalizing existing with
  | nil => simp
  | cons x xs ih =>
    rw [List.foldl_cons, ih, List.mem_cons]
    by_cases hx : x ∈ existing
    · rw [if_pos hx]
      constructor
      · rintro (h | h)
        · exact .inl h
        · exact .inr (.inr h)
      · rintro (h | rfl | h)
        · exact .inl h
        · exact .inl hx
        · exact .inr h
    · rw [if_neg hx]
      simp [or_assoc]

theorem nodup_mergeCells {existing cells : List MatchedCell} (h : existing.Nodup) : (mergeCells existing cells).Nodup := by
  unfold mergeCells
  induction cells generalizing existing with
  | nil => exact h
  | cons x xs ih =>
    rw [List.foldl_cons]
    apply ih
    by_cases hx : x ∈ existing
    · rw [if_pos hx]
      exact h
    · rw [if_neg hx, List.nodup_append]
      refine ⟨h, by simp, ?_⟩
      intro a ha b hb hab
      rw [List.mem_singleton] at hb
      exact hx (hb ▸ hab ▸ ha)

theorem TrueRecord.merged {ch : Chain} {p : ProtocolScripts} {kind : LockKind} {l : Located} {record : TxRecord}
    (h : TrueRecord ch (lockSearchScript p kind) l record) : MergedRecord ch p l record :=
  ⟨h.holds, h.txHash, h.blockNumber, h.txIndex, h.nodup, fun c hc => ⟨kind, h.cells c hc⟩⟩

/-- Two records of one transaction have one key, and the other way round. -/
theorem MergedRecord.place_eq {ch : Chain} {p : ProtocolScripts} {l l' : Located} {record record' : TxRecord}
    (h : MergedRecord ch p l record) (h' : MergedRecord ch p l' record') (hhash : record.txHash = record'.txHash) :
    l = l' ∧ record.key = record'.key := by
  have hl : l = l' := ch.hash_injective _ _ h.holds h'.holds (by rw [← h.txHash, hhash, h'.txHash])
  subst hl
  refine ⟨rfl, ?_⟩
  unfold TxRecord.key
  rw [h.blockNumber, h'.blockNumber, h.txIndex, h'.txIndex, hhash]

/-- What the merge map holds of the records listed so far: one under each of their keys, with the cells of all of them. -/
structure MergeOf (listed : List TxRecord) (m : Std.TreeMap RecordKey TxRecord) : Prop where
  sound : ∀ (k : RecordKey) (record : TxRecord), m[k]? = some record → record.key = k ∧ ∃ x ∈ listed, x.key = k
  complete : ∀ x ∈ listed, ∃ record, m[x.key]? = some record
  cells : ∀ (k : RecordKey) (record : TxRecord), m[k]? = some record → ∀ c, c ∈ record.cells ↔ ∃ x ∈ listed, x.key = k ∧ c ∈ x.cells
  nodup : (∀ x ∈ listed, x.cells.Nodup) → ∀ (k : RecordKey) (record : TxRecord), m[k]? = some record → record.cells.Nodup

theorem MergeOf.empty : MergeOf [] {} where
  sound k record h := by simp at h
  complete x hx := by cases hx
  cells k record h := by simp at h
  nodup _ k record h := by simp at h

theorem getElem?_mergeRecord (m : Std.TreeMap RecordKey TxRecord) (record : TxRecord) (k : RecordKey) :
    (mergeRecord m record)[k]? =
      if k = record.key then
        some (m[record.key]?.elim record fun existing =>
          { existing with cells := mergeCells existing.cells record.cells })
      else m[k]? := by
  unfold mergeRecord
  rw [Std.TreeMap.getElem?_alter]
  by_cases hk : k = record.key
  · rw [if_pos hk, if_pos (by rw [hk]; exact Std.ReflCmp.compare_self)]
    cases m[record.key]? <;> rfl
  · rw [if_neg hk, if_neg fun he => hk (Std.LawfulEqCmp.eq_of_compare he).symm]

section
variable {listed records : List TxRecord} {m : Std.TreeMap RecordKey TxRecord}

/-- What is under a key after a merge: the new record, alone or with its cells added to the one it met, or what was there. -/
theorem mergeRecord_cases {record rec : TxRecord} {k : RecordKey} (h : (mergeRecord m record)[k]? = some rec) :
    (record.key = k ∧ m[k]? = none ∧ rec = record) ∨
      (record.key = k ∧ ∃ existing, m[k]? = some existing ∧
        rec = { existing with cells := mergeCells existing.cells record.cells }) ∨
      (record.key ≠ k ∧ m[k]? = some rec) := by
  rw [getElem?_mergeRecord] at h
  by_cases hk : k = record.key
  · subst hk
    rw [if_pos rfl] at h
    obtain rfl := Option.some.inj h
    cases hold : m[record.key]? with
    | none => exact .inl ⟨rfl, rfl, rfl⟩
    | some existing => exact .inr (.inl ⟨rfl, existing, rfl, rfl⟩)
  · rw [if_neg hk] at h
    exact .inr (.inr ⟨Ne.symm hk, h⟩)

/-- The cells listed under a key, with one more record listed. -/
theorem listed_snoc {record : TxRecord} {k : RecordKey} {c : MatchedCell} :
    (∃ x ∈ listed ++ [record], x.key = k ∧ c ∈ x.cells) ↔
      (∃ x ∈ listed, x.key = k ∧ c ∈ x.cells) ∨ record.key = k ∧ c ∈ record.cells := by
  simp only [List.mem_append, List.mem_singleton, or_and_right, exists_or, exists_eq_left]

theorem MergeOf.step (h : MergeOf listed m) (record : TxRecord) : MergeOf (listed ++ [record]) (mergeRecord m record) where
  sound k rec hrec := by
    rcases mergeRecord_cases hrec with ⟨hk, -, rfl⟩ | ⟨hk, existing, hold, rfl⟩ | ⟨-, hold⟩
    · exact ⟨hk, rec, by simp, hk⟩
    · exact ⟨(h.sound k existing hold).1, record, by simp, hk⟩
    · obtain ⟨hkey, x, hx, hxk⟩ := h.sound k rec hold
      exact ⟨hkey, x, List.mem_append_left _ hx, hxk⟩
  complete x hx := by
    rw [getElem?_mergeRecord]
    by_cases hk : x.key = record.key
    · rw [if_pos hk]
      exact ⟨_, rfl⟩
    · rw [if_neg hk]
      rcases List.mem_append.mp hx with hx | hx
      · exact h.complete x hx
      · exact absurd (congrArg TxRecord.key (List.mem_singleton.mp hx)) hk
  cells k rec hrec c := by
    rw [listed_snoc]
    rcases mergeRecord_cases hrec with ⟨hk, hold, rfl⟩ | ⟨hk, existing, hold, rfl⟩ | ⟨hk, hold⟩
    · rw [and_iff_right hk]
      refine (or_iff_right ?_).symm
      rintro ⟨x, hx, hxk, -⟩
      obtain ⟨found, hfound⟩ := h.complete x hx
      rw [hxk, hold] at hfound
      cases hfound
    · rw [and_iff_right hk]
      exact mem_mergeCells.trans (or_congr_left (h.cells k existing hold c))
    · rw [or_iff_left fun hnew => hk hnew.1]
      exact h.cells k rec hold c
  nodup hnodup k rec hrec := by
    have hlisted : ∀ x ∈ listed, x.cells.Nodup := fun x hx => hnodup x (List.mem_append_left _ hx)
    rcases mergeRecord_cases hrec with ⟨-, -, rfl⟩ | ⟨-, existing, hold, rfl⟩ | ⟨-, hold⟩
    · exact hnodup rec (by simp)
    · exact nodup_mergeCells (h.nodup hlisted k existing hold)
    · exact h.nodup hlisted k rec hold

theorem MergeOf.foldl (h : MergeOf listed m) (records : List TxRecord) :
    MergeOf (listed ++ records) (records.foldl mergeRecord m) := by
  induction records generalizing listed m with
  | nil => simpa using h
  | cons x xs ih =>
    rw [List.foldl_cons]
    have hrest := ih (h.step x)
    simpa using hrest

theorem MergeOf.get? (h : MergeOf listed m) {record : TxRecord} (hmem : record ∈ m.toList.map Prod.snd) :
    m[record.key]? = some record := by
  obtain ⟨e, he, rfl⟩ := List.mem_map.mp hmem
  have hrow := Std.TreeMap.mem_toList_iff_getElem?_eq_some.mp he
  rw [(h.sound _ _ hrow).1]
  exact hrow

/-- The records come out in the order of their keys. -/
theorem MergeOf.ordered (h : MergeOf listed m) :
    (m.toList.map Prod.snd).Pairwise fun a b => compare a.key b.key = .lt := by
  rw [List.pairwise_map]
  refine (Std.TreeMap.ordered_keys_toList (t := m)).imp_of_mem ?_
  intro a b ha hb hlt
  rw [(h.sound _ _ (Std.TreeMap.mem_toList_iff_getElem?_eq_some.mp ha)).1,
    (h.sound _ _ (Std.TreeMap.mem_toList_iff_getElem?_eq_some.mp hb)).1]
  exact hlt

/-- And no key comes out twice. -/
theorem nodup_of_ordered (h : records.Pairwise fun a b => compare a.key b.key = .lt) : (records.map TxRecord.key).Nodup := by
  rw [List.Nodup, List.pairwise_map]
  refine h.imp fun {a b} hlt heq => ?_
  have hself : compare b.key b.key = .eq := Std.ReflCmp.compare_self
  rw [heq, hself] at hlt
  cases hlt

/-- The cells some records of one transaction list, each where it comes first. -/
def mergedCells : List TxRecord → List MatchedCell
  | [] => []
  | x :: xs => xs.foldl (fun cells y => mergeCells cells y.cells) x.cells

theorem mergedCells_snoc {xs : List TxRecord} (hne : xs ≠ []) (record : TxRecord) :
    mergedCells (xs ++ [record]) = mergeCells (mergedCells xs) record.cells := by
  cases xs with
  | nil => exact absurd rfl hne
  | cons x xs =>
    have hfold : mergedCells (x :: xs ++ [record]) =
        (xs ++ [record]).foldl (fun cells y => mergeCells cells y.cells) x.cells := rfl
    rw [hfold, List.foldl_append]
    rfl

/-- The records listed under a key, with one more record listed. -/
theorem filter_key_snoc (listed : List TxRecord) (record : TxRecord) (k : RecordKey) :
    (listed ++ [record]).filter (fun x => x.key = k) =
      (listed.filter fun x => x.key = k) ++ if record.key = k then [record] else [] := by
  rw [List.filter_append]
  by_cases hk : record.key = k
  · simp [hk]
  · simp [hk]

/-- **A merged record lists its cells in the order in which they were listed first.** -/
theorem cells_foldl_mergeRecord (listed : List TxRecord) {k : RecordKey} {record : TxRecord}
    (h : (listed.foldl mergeRecord {})[k]? = some record) :
    record.cells = mergedCells (listed.filter fun x => x.key = k) := by
  induction listed using List.reverseRecOn generalizing record with
  | nil => simp at h
  | append_singleton listed x ih =>
    have hmerged : MergeOf listed (listed.foldl mergeRecord {}) := by simpa using MergeOf.empty.foldl listed
    rw [List.foldl_append, List.foldl_cons, List.foldl_nil] at h
    rw [filter_key_snoc]
    rcases mergeRecord_cases h with ⟨hk, hold, rfl⟩ | ⟨hk, existing, hold, rfl⟩ | ⟨hk, hold⟩
    · -- nothing was listed under the key before
      have hnone : (listed.filter fun y => y.key = k) = [] := by
        rw [List.filter_eq_nil_iff]
        intro y hy hyk
        obtain ⟨found, hfound⟩ := hmerged.complete y hy
        rw [of_decide_eq_true hyk, hold] at hfound
        cases hfound
      rw [hnone, if_pos hk, List.nil_append]
      rfl
    · have hsome : (listed.filter fun y => y.key = k) ≠ [] := by
        obtain ⟨-, y, hy, hyk⟩ := hmerged.sound k existing hold
        exact List.ne_nil_of_mem (List.mem_filter.mpr ⟨hy, decide_eq_true hyk⟩)
      rw [if_pos hk, mergedCells_snoc hsome, ih hold]
    · rw [if_neg hk, List.append_nil]
      exact ih hold

/-- If what is listed is about the chain, so is what it merges to. -/
theorem MergeOf.mergedRecord {ch : Chain} {p : ProtocolScripts} (h : MergeOf listed m)
    (hlisted : ∀ x ∈ listed, ∃ l, MergedRecord ch p l x) {k : RecordKey} {record : TxRecord} (hrecord : m[k]? = some record) :
    ∃ l, MergedRecord ch p l record := by
  obtain ⟨hkey, x, hx, hxk⟩ := h.sound k record hrecord
  obtain ⟨l, hl⟩ := hlisted x hx
  have hplace : record.key = x.key := hkey.trans hxk.symm
  refine ⟨l, hl.holds, ?_, ?_, ?_, ?_, ?_⟩
  · exact (congrArg RecordKey.txHash hplace).trans hl.txHash
  · exact (congrArg RecordKey.blockNumber hplace).trans hl.blockNumber
  · exact (congrArg RecordKey.txIndex hplace).trans hl.txIndex
  · refine h.nodup (fun y hy => ?_) k record hrecord
    obtain ⟨_, hl'⟩ := hlisted y hy
    exact hl'.nodup
  · intro c hc
    obtain ⟨y, hy, hyk, hcy⟩ := (h.cells k record hrecord c).mp hc
    obtain ⟨l', hl'⟩ := hlisted y hy
    have hhash : y.txHash = x.txHash := congrArg RecordKey.txHash (hyk.trans hxk.symm)
    obtain ⟨rfl, -⟩ := hl'.place_eq hl hhash
    exact hl'.cells c hcy

end

/-! ## A range -/

section
variable {cfg : Config} {ch : Chain} {env : ScanEnv} {fromBlock toBlock : UInt64}

/-- What one lock search returns. -/
theorem collectTransactionsInRange_merged {kind : LockKind} {limit : UInt32} {fuel : Nat} {res : List TxRecord}
    (hserves : IndexerServes ch env.replies)
    (h : env.replies.collectTransactionsInRange limit fuel (lockSearchScript cfg.protocol kind) fromBlock toBlock = .ok res) :
    ∀ record ∈ res, fromBlock ≤ record.blockNumber ∧ record.blockNumber ≤ toBlock ∧
      ∃ l, MergedRecord ch cfg.protocol l record := by
  unfold Replies.collectTransactionsInRange at h
  by_cases hrange : fromBlock > toBlock
  · rw [if_pos hrange] at h
    simp only [Except.ok.injEq] at h
    subst h
    intro record hmem
    cases hmem
  · rw [if_neg hrange, bind_eq_ok] at h
    obtain ⟨out, hout, h⟩ := h
    rw [pure_eq_ok] at h
    subst h
    intro record hmem
    rw [List.mem_insertionSort] at hmem
    rcases mem_collectPages hout record hmem with hmem | ⟨hin, limit, cursor, page, hpage, hobj⟩
    · cases hmem
    · obtain ⟨l, htrue⟩ := hserves _ _ _ _ _ _ hpage record hobj
      unfold Replies.inRange at hin
      simp only [Bool.not_eq_true', Bool.or_eq_false_iff, decide_eq_false_iff_not, UInt64.not_lt] at hin
      exact ⟨hin.1, hin.2, l, htrue.merged⟩

/-- Up to the tip the rich indexer reports, one lock search misses nothing. -/
theorem collectTransactionsInRange_complete {kind : LockKind} {limit : UInt32} {fuel : Nat} {res : List TxRecord}
    {t : IndexerTip} (hcomplete : IndexerComplete ch env.replies) (ht : env.replies.getIndexerTip = .ok (some t))
    (hle : toBlock ≤ t.blockNumber)
    (h : env.replies.collectTransactionsInRange limit fuel (lockSearchScript cfg.protocol kind) fromBlock toBlock = .ok res)
    {l : Located} {c : MatchedCell} (hl : ch.Holds l) (hfrom : fromBlock.toNat ≤ l.height) (hto : l.height ≤ toBlock.toNat)
    (hmatch : TrueMatch ch (lockSearchScript cfg.protocol kind) l c) :
    ∃ record ∈ res, record.txHash = l.tx.hash ∧ c ∈ record.cells := by
  unfold Replies.collectTransactionsInRange at h
  have hrange : ¬ fromBlock > toBlock := by
    rw [gt_iff_lt, UInt64.lt_iff_toNat_lt]
    omega
  rw [if_neg hrange, bind_eq_ok] at h
  obtain ⟨out, hout, h⟩ := h
  rw [pure_eq_ok] at h
  subst h
  obtain ⟨list, hpaged, hall⟩ := hcomplete t ht (lockSearchScript cfg.protocol kind) fromBlock toBlock hle
  obtain ⟨At, hstart, hpages⟩ := hpaged.cursors
  obtain ⟨record, hmem, htrue, hc⟩ := hall l c hl hfrom hto hmatch
  have hres := collectPages_eq (hpages limit) hstart hout
  rw [List.drop_zero, List.nil_append] at hres
  refine ⟨record, ?_, htrue.txHash, hc⟩
  rw [List.mem_insertionSort, hres, List.mem_filter]
  refine ⟨hmem, ?_⟩
  have hnumber : record.blockNumber.toNat = l.height := congrArg UInt64.toNat htrue.blockNumber
  unfold Replies.inRange
  simp only [Bool.not_eq_true', Bool.or_eq_false_iff, decide_eq_false_iff_not, UInt64.lt_iff_toNat_lt, gt_iff_lt]
  omega

/-- What a round collects: records of the chain, in range, one for each transaction. -/
structure Collected (ch : Chain) (p : ProtocolScripts) (fromBlock toBlock : UInt64) (records : List TxRecord) : Prop where
  merged : ∀ record ∈ records, ∃ l, MergedRecord ch p l record
  inRange : ∀ record ∈ records, fromBlock ≤ record.blockNumber ∧ record.blockNumber ≤ toBlock
  once : (records.map TxRecord.key).Nodup

theorem collectRange_eq_ok {records : List TxRecord} (h : collectRange cfg env fromBlock toBlock = .ok records) :
    ∃ found : LockKind → List TxRecord,
      (∀ kind, env.replies.collectTransactionsInRange (clientPageLimit cfg) env.pageFuel (lockSearchScript cfg.protocol kind)
        fromBlock toBlock = .ok (found kind)) ∧
      records = ((found .btcTime).foldl mergeRecord ((found .rgbpp).foldl mergeRecord {})).toList.map Prod.snd := by
  unfold collectRange at h
  dsimp only at h
  rw [bind_eq_ok] at h
  obtain ⟨rgbpp, hrgbpp, h⟩ := h
  rw [bind_eq_ok] at h
  obtain ⟨btcTime, hbtcTime, h⟩ := h
  rw [pure_eq_ok] at h
  refine ⟨fun kind => if kind = .rgbpp then rgbpp else btcTime, ?_, h.symm⟩
  intro kind
  cases kind with
  | rgbpp => exact Except.intoIndexer_eq_ok.mp hrgbpp
  | btcTime => exact Except.intoIndexer_eq_ok.mp hbtcTime

theorem mergeOf_found (found : LockKind → List TxRecord) : MergeOf (found .rgbpp ++ found .btcTime)
    ((found .btcTime).foldl mergeRecord ((found .rgbpp).foldl mergeRecord {})) := by
  have h := (MergeOf.empty.foldl (found .rgbpp)).foldl (found .btcTime)
  rwa [List.nil_append] at h

/-- What the two searches list is about the chain, and in range. -/
theorem listed_merged (hserves : IndexerServes ch env.replies) {found : LockKind → List TxRecord}
    (hfound : ∀ kind, env.replies.collectTransactionsInRange (clientPageLimit cfg) env.pageFuel
      (lockSearchScript cfg.protocol kind) fromBlock toBlock = .ok (found kind)) :
    ∀ x ∈ found .rgbpp ++ found .btcTime, fromBlock ≤ x.blockNumber ∧ x.blockNumber ≤ toBlock ∧
      ∃ l, MergedRecord ch cfg.protocol l x := by
  intro x hx
  rcases List.mem_append.mp hx with hx | hx
  · exact collectTransactionsInRange_merged hserves (hfound .rgbpp) x hx
  · exact collectTransactionsInRange_merged hserves (hfound .btcTime) x hx

/-- The records of a range stand in the order of their keys. -/
theorem collectRange_sorted {records : List TxRecord} (h : collectRange cfg env fromBlock toBlock = .ok records) :
    records.Pairwise fun a b => compare a.key b.key = .lt := by
  obtain ⟨found, -, rfl⟩ := collectRange_eq_ok h
  exact (mergeOf_found found).ordered

theorem collectRange_collected {records : List TxRecord} (hserves : IndexerServes ch env.replies)
    (h : collectRange cfg env fromBlock toBlock = .ok records) : Collected ch cfg.protocol fromBlock toBlock records := by
  have hsorted := collectRange_sorted h
  obtain ⟨found, hfound, rfl⟩ := collectRange_eq_ok h
  have hlisted := listed_merged hserves hfound
  have hmerged := mergeOf_found found
  refine ⟨?_, ?_, nodup_of_ordered hsorted⟩
  · intro record hr
    exact hmerged.mergedRecord (fun x hx => (hlisted x hx).2.2) (hmerged.get? hr)
  · intro record hr
    obtain ⟨hkey, x, hx, hxk⟩ := hmerged.sound _ _ (hmerged.get? hr)
    have hnumber : x.blockNumber = record.blockNumber := congrArg RecordKey.blockNumber hxk
    rw [← hnumber]
    exact ⟨(hlisted x hx).1, (hlisted x hx).2.1⟩

/-- Two records of one transaction are one record. -/
theorem Collected.unique {records : List TxRecord} (h : Collected ch cfg.protocol fromBlock toBlock records)
    {record record' : TxRecord} (hmem : record ∈ records) (hmem' : record' ∈ records)
    (hhash : record.txHash = record'.txHash) : record = record' := by
  obtain ⟨l, hl⟩ := h.merged record hmem
  obtain ⟨l', hl'⟩ := h.merged record' hmem'
  exact List.inj_on_of_nodup_map h.once hmem hmem' (hl.place_eq hl' hhash).2

/-- Up to the tip the rich indexer reports, a round misses no match. -/
theorem collectRange_complete {records : List TxRecord} {t : IndexerTip} (hserves : IndexerServes ch env.replies)
    (hcomplete : IndexerComplete ch env.replies) (ht : env.replies.getIndexerTip = .ok (some t))
    (hle : toBlock ≤ t.blockNumber) (h : collectRange cfg env fromBlock toBlock = .ok records) {kind : LockKind}
    {l : Located} {c : MatchedCell} (hl : ch.Holds l) (hfrom : fromBlock.toNat ≤ l.height) (hto : l.height ≤ toBlock.toNat)
    (hmatch : TrueMatch ch (lockSearchScript cfg.protocol kind) l c) :
    ∃ record ∈ records, MergedRecord ch cfg.protocol l record ∧ c ∈ record.cells := by
  obtain ⟨found, hfound, rfl⟩ := collectRange_eq_ok h
  obtain ⟨x, hx, hhash, hc⟩ := collectTransactionsInRange_complete hcomplete ht hle (hfound kind) hl hfrom hto hmatch
  have hmerged := mergeOf_found found
  have hlisted : x ∈ found .rgbpp ++ found .btcTime := by
    cases kind with
    | rgbpp => exact List.mem_append_left _ hx
    | btcTime => exact List.mem_append_right _ hx
  obtain ⟨record, hget⟩ := hmerged.complete x hlisted
  obtain ⟨hkey, -⟩ := hmerged.sound _ _ hget
  obtain ⟨l', hl'⟩ := hmerged.mergedRecord (fun x hx => (listed_merged hserves hfound x hx).2.2) hget
  have htx : record.txHash = x.txHash := congrArg RecordKey.txHash hkey
  have hsame : l' = l := ch.hash_injective _ _ hl'.holds hl (by rw [← hl'.txHash, htx, hhash])
  subst hsame
  exact ⟨record, List.mem_map.mpr ⟨(x.key, record), Std.TreeMap.mem_toList_iff_getElem?_eq_some.mpr hget, rfl⟩, hl',
    (hmerged.cells _ _ hget c).mpr ⟨x, hlisted, rfl, hc⟩⟩

end

end RgbppIndexer
