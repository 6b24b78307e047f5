import RgbppIndexer.Scan.Resolve

/-!
# One transaction of a round

A round turns records into a batch. `BatchMatch I D batch` says what the batch
holds when the entries `D` have been processed on top of the entries `I` of
earlier rounds: its cells, put into the table, account for the creations and
inputs of both; its spends and transitions are those of `D`.

* `resolveMatched_inputs`: what the input loop does.
* `processTransaction_match`: a processed record adds its entry.

The proofs read the batch as a set of facts, so nothing depends on the order
in which records arrive.
-/
namespace RgbppIndexer

open RgbppIndexer.Core

/-- An indexed transaction, and its inputs in the order in which they were matched. -/
structure Entry where
  place : Located
  inputs : List Nat

/-- The inputs of a transaction, resolved against the chain. -/
def Resolves (ch : Chain) (p : ProtocolScripts) (l : Located) (inputs : List Nat) (resolved : List ResolvedInput) : Prop :=
  List.Forall₂ (fun j r => ∃ op cell, l.tx.inputs[j]? = some ⟨op⟩ ∧ ch.HasCell p op cell ∧
    r = resolvedOf op cell (UInt32.ofNat j)) inputs resolved

/-- The readable outputs of a transaction. -/
def Located.outputs (l : Located) (p : ProtocolScripts) : List RgbppOutput :=
  classifyOutputs p l.tx.outputs l.tx.outputsData

/-- The entry is about the chain, and its inputs consume readable cells of it. -/
structure Entry.Good (ch : Chain) (p : ProtocolScripts) (e : Entry) : Prop where
  holds : ch.Holds e.place
  resolves : ∃ resolved, Resolves ch p e.place e.inputs resolved

/-- The creation of the cell is indexed. -/
def CreatedBy (entries : List Entry) (op : CkbOutPoint) : Prop := ∃ e ∈ entries, op.txHash = e.place.tx.hash

/-- An indexed input consumes the cell. -/
def TouchedBy (entries : List Entry) (op : CkbOutPoint) : Prop :=
  ∃ e ∈ entries, ∃ j ∈ e.inputs, e.place.tx.inputs[j]? = some ⟨op⟩

/-- An indexed input consumes the cell, and this is its anchor. -/
def ConsumedBy (entries : List Entry) (op : CkbOutPoint) (c : Consumption) : Prop :=
  ∃ e ∈ entries, ∃ j ∈ e.inputs, e.place.tx.inputs[j]? = some ⟨op⟩ ∧ c = e.place.consumption j

/-- The spend an input writes. -/
def Located.spendAt (l : Located) (j : Nat) (op : CkbOutPoint) : CellSpend where
  ckbTxHash := op.txHash.toVec
  outputIndex := op.index.toInt32
  consumed := l.consumption j

/-- The transition an entry writes, if it writes one. -/
def Entry.Writes [Sha2] (ch : Chain) (p : ProtocolScripts) (e : Entry) (t : NewTransition) : Prop :=
  ∃ resolved, Resolves ch p e.place e.inputs resolved ∧ ¬ (e.place.outputs p = [] ∧ resolved = []) ∧
    t = transitionOf e.place.tx.hash e.place.context resolved (e.place.outputs p)

/-- What a half-built batch holds. -/
structure BatchMatch [Sha2] (cfg : Config) (ch : Chain) (st : Store) (indexed done : List Entry) (batch : IndexBatch) : Prop where
  good : ∀ e ∈ done, e.Good ch cfg.protocol
  known : KnownCells cfg ch batch.cells
  cells : CellsMatch cfg ch (CreatedBy (indexed ++ done)) (TouchedBy (indexed ++ done)) (ConsumedBy indexed)
    (batch.cells.foldl Store.cellInsert st.rgbppCells)
  spends : ∀ s, s ∈ batch.spends ↔ ∃ e ∈ done, ∃ j ∈ e.inputs, ∃ op, e.place.tx.inputs[j]? = some ⟨op⟩ ∧
    s = e.place.spendAt j op
  transitions : ∀ t, t ∈ batch.transitions ↔ ∃ e ∈ done, e.Writes ch cfg.protocol t

/-- A record of the merged list: about a transaction of the chain, its cells true matches of some protocol lock. -/
structure MergedRecord (ch : Chain) (p : ProtocolScripts) (l : Located) (record : TxRecord) : Prop where
  holds : ch.Holds l
  txHash : record.txHash = l.tx.hash
  blockNumber : record.blockNumber = l.header.number
  txIndex : record.txIndex = UInt32.ofNat l.index
  nodup : record.cells.Nodup
  cells : ∀ c ∈ record.cells, ∃ kind, TrueMatch ch (lockSearchScript p kind) l c

/-- The entry a record becomes. -/
def TxRecord.entry (record : TxRecord) (l : Located) : Entry where
  place := l
  inputs := (matchedInputs record).map fun c => c.ioIndex.toNat

/-! ## Sets of entries -/

theorem CreatedBy.append (xs ys : List Entry) {op : CkbOutPoint} :
    CreatedBy (xs ++ ys) op ↔ CreatedBy xs op ∨ CreatedBy ys op := by
  unfold CreatedBy
  simp only [List.mem_append, or_and_right, exists_or]

theorem TouchedBy.append (xs ys : List Entry) {op : CkbOutPoint} :
    TouchedBy (xs ++ ys) op ↔ TouchedBy xs op ∨ TouchedBy ys op := by
  unfold TouchedBy
  simp only [List.mem_append, or_and_right, exists_or]

theorem ConsumedBy.append {xs ys : List Entry} {op : CkbOutPoint} {c : Consumption} :
    ConsumedBy (xs ++ ys) op c ↔ ConsumedBy xs op c ∨ ConsumedBy ys op c := by
  unfold ConsumedBy
  simp only [List.mem_append, or_and_right, exists_or]

theorem ConsumedBy.touched {entries : List Entry} {op : CkbOutPoint} {c : Consumption} (h : ConsumedBy entries op c) :
    TouchedBy entries op := by
  obtain ⟨e, he, j, hj, hin, -⟩ := h
  exact ⟨e, he, j, hj, hin⟩

/-- Only the readable cells of the chain matter to a match. -/
theorem CellsMatch.congr_cells {cfg : Config} {ch : Chain} {created touched created' touched' : CkbOutPoint → Prop}
    {consumed consumed' : CkbOutPoint → Consumption → Prop} {t : Table CellKey CellRecord}
    (h : CellsMatch cfg ch created touched consumed t)
    (hsame : ∀ op cell, ch.HasCell cfg.protocol op cell →
      (created op ↔ created' op) ∧ (touched op ↔ touched' op) ∧ ∀ c, consumed op c ↔ consumed' op c) :
    CellsMatch cfg ch created' touched' consumed' t where
  row := by
    intro key row hrow
    obtain ⟨op, cell, hkey, hcell, hseen, hfor⟩ := h.row key row hrow
    obtain ⟨hc, ht, hs⟩ := hsame op cell hcell
    refine ⟨op, cell, hkey, hcell, hseen.imp hc.mp ht.mp, hfor.body, ?_, ?_, ?_⟩
    · exact fun hx => hfor.anchor_created (hc.mpr hx)
    · exact fun hx => hfor.anchor_backfilled fun hy => hx (hc.mp hy)
    · exact fun c => (hfor.consumed c).trans (hs c)
  absent := by
    intro op cell hcell hnone
    obtain ⟨hc, ht, -⟩ := hsame op cell hcell
    obtain ⟨h1, h2⟩ := h.absent op cell hcell hnone
    exact ⟨fun hx => h1 (hc.mpr hx), fun hx => h2 (ht.mpr hx)⟩

/-! ## Cells of a batch in the table -/

theorem foldl_cellInsert_of_notMem {cells : List NewCell} {t : Table CellKey CellRecord} {k : CellKey}
    (h : ∀ c ∈ cells, c.key ≠ k) : (cells.foldl Store.cellInsert t).get? k = t.get? k := by
  induction cells generalizing t with
  | nil => rfl
  | cons c cs ih =>
    rw [List.foldl_cons, ih fun x hx => h x (List.mem_cons_of_mem _ hx), Store.get?_cellInsert,
      if_neg fun hk => h c (by simp) hk.symm]

theorem foldl_cellInsert_ne_none {cells : List NewCell} {t : Table CellKey CellRecord} {k : CellKey}
    (h : (∃ c ∈ cells, c.key = k) ∨ t.get? k ≠ none) : (cells.foldl Store.cellInsert t).get? k ≠ none := by
  induction cells generalizing t with
  | nil =>
    rcases h with ⟨c, hc, -⟩ | h
    · cases hc
    · exact h
  | cons c cs ih =>
    rw [List.foldl_cons]
    apply ih
    by_cases hk : k = c.key
    · right
      rw [Store.get?_cellInsert, if_pos hk]
      simp
    · rcases h with ⟨x, hx, hxk⟩ | h
      · rcases List.mem_cons.mp hx with rfl | hx
        · exact absurd hxk.symm hk
        · exact .inl ⟨x, hx, hxk⟩
      · right
        rw [Store.get?_cellInsert, if_neg hk]
        exact h

/-- Inserting a list of cells under their true anchors. -/
theorem CellsMatch.insert_list {cfg : Config} {ch : Chain} {created touched : CkbOutPoint → Prop}
    {consumed : CkbOutPoint → Consumption → Prop} {t : Table CellKey CellRecord}
    (h : CellsMatch cfg ch created touched consumed t) (hseen : ∀ op c, consumed op c → touched op)
    {found : List (CkbOutPoint × ChainCell)} (hfound : ∀ f ∈ found, ch.HasCell cfg.protocol f.1 f.2) :
    CellsMatch cfg ch (fun op => created op ∨ op ∈ found.map Prod.fst) touched consumed
      ((found.map fun f => f.2.newCell cfg.assets f.1 f.2.created).foldl Store.cellInsert t) := by
  induction found generalizing created t with
  | nil => exact h.congr (fun op => by simp) (fun _ => Iff.rfl) (fun _ _ => Iff.rfl)
  | cons f fs ih =>
    have hstep := h.insert_created (hfound f (by simp)) (hseen f.1)
    have hrest := ih hstep fun x hx => hfound x (List.mem_cons_of_mem _ hx)
    refine hrest.congr (fun op => ?_) (fun _ => Iff.rfl) (fun _ _ => Iff.rfl)
    rw [List.map_cons, List.mem_cons, or_assoc]

/-! ## The readable outputs of a transaction -/

/-- A readable output as a cell of the chain. -/
def Located.cellOf (l : Located) (o : RgbppOutput) : ChainCell := ⟨l, o.cell, o.binding, o.data⟩

section
variable {ch : Chain} {p : ProtocolScripts} {l : Located}

theorem mem_outputs {o : RgbppOutput} :
    o ∈ l.outputs p ↔ ∃ i cell, l.tx.outputs[i]? = some cell ∧ classifyOutput p l.tx.outputsData i cell = some o := by
  unfold Located.outputs classifyOutputs
  rw [List.mem_filterMap]
  constructor
  · rintro ⟨⟨cell, i⟩, hmem, ho⟩
    exact ⟨i, cell, List.mem_zipIdx_iff_getElem?.mp hmem, ho⟩
  · rintro ⟨i, cell, hget, ho⟩
    exact ⟨⟨cell, i⟩, List.mem_zipIdx_iff_getElem?.mpr hget, ho⟩

theorem hasCell_of_mem_outputs (hl : ch.Holds l) {o : RgbppOutput} (ho : o ∈ l.outputs p) :
    ch.HasCell p ⟨l.tx.hash, o.index⟩ (l.cellOf o) := by
  obtain ⟨i, cell, hget, hclass⟩ := mem_outputs.mp ho
  obtain ⟨hread, hindex, hcell, hdata⟩ := classifyOutput_eq_some.mp hclass
  have hlt : i < 2 ^ 32 := by
    have hlen := (ch.fits l hl).2.2
    have hi := (List.getElem?_eq_some_iff.mp hget).1
    omega
  have htoNat : o.index.toNat = i := by
    rw [hindex, UInt32.toNat_ofNat']
    omega
  subst hcell
  refine ⟨⟨hl, rfl, ?_⟩, ?_, hread⟩
  · rw [htoNat]
    exact hget
  · rw [htoNat]
    exact hdata

theorem mem_outputs_of_hasCell {op : CkbOutPoint} {cell : ChainCell} (hl : ch.Holds l) (hcell : ch.HasCell p op cell)
    (htx : op.txHash = l.tx.hash) : ∃ o ∈ l.outputs p, op = ⟨l.tx.hash, o.index⟩ ∧ cell = l.cellOf o := by
  have hcreator : cell.creator = l :=
    ch.hash_injective _ _ hcell.hasOutput.holds hl (hcell.hasOutput.txHash.symm.trans htx)
  have hget := hcell.hasOutput.output
  rw [hcreator] at hget
  let o : RgbppOutput := { index := op.index, binding := cell.binding, cell := cell.output, data := cell.data }
  have ho : o ∈ l.outputs p := by
    refine mem_outputs.mpr ⟨op.index.toNat, cell.output, hget, classifyOutput_eq_some.mpr ⟨hcell.readable, ?_, rfl, ?_⟩⟩
    · exact UInt32.ofNat_toNat.symm
    · rw [← hcreator]
      exact hcell.data
  refine ⟨o, ho, ?_, ?_⟩
  · rw [← htx]
  · cases cell
    simp only at hcreator
    rw [hcreator]
    rfl

/-- The row written for a readable output. -/
theorem buildNewCell_eq (assets : AssetScripts) (o : RgbppOutput) :
    buildNewCell assets l.tx.hash o l.context =
      (l.cellOf o).newCell assets ⟨l.tx.hash, o.index⟩ (l.cellOf o).created := rfl

end

/-! ## The input loop -/

section
variable {cfg : Config} {ch : Chain} {env : ScanEnv} {st : Store} {tip : UInt64} {l : Located} {record : TxRecord}

/-- A matched input names a cell under a protocol lock, created no later than its consumer. -/
theorem MergedRecord.input (h : MergedRecord ch cfg.protocol l record) {m : MatchedCell} (hm : m ∈ matchedInputs record) :
    ∃ op creator output kind, l.tx.inputs[m.ioIndex.toNat]? = some ⟨op⟩ ∧ ch.HasOutput op creator output ∧
      creator.height ≤ l.height ∧ cfg.protocol.classify output.lock = some kind := by
  have hmem := List.mem_filter.mp hm
  obtain ⟨kind, htrue⟩ := h.cells m hmem.1
  have hio : m.ioType = .input := by simpa using hmem.2
  unfold TrueMatch at htrue
  rw [hio] at htrue
  obtain ⟨op, creator, output, hin, hout, hmatch⟩ := htrue
  obtain ⟨kind', hkind⟩ := (exists_lockMatches_iff cfg.protocol output.lock).mp ⟨kind, hmatch⟩
  have hspends : ch.Spends l m.ioIndex.toNat op := ⟨h.holds, hin⟩
  exact ⟨op, creator, output, kind', hin, hout, hspends.creator_le hout, hkind⟩

/-- Where the input loop stands after the matches `done`: what is resolved, and which cells were backfilled. -/
structure InputsMatch (cfg : Config) (ch : Chain) (st : Store) (l : Located) (created touched : CkbOutPoint → Prop)
    (consumed : CkbOutPoint → Consumption → Prop) (batch : IndexBatch) (done : List MatchedCell) (loop : InputLoop) : Prop where
  resolved : Resolves ch cfg.protocol l (done.map fun m => m.ioIndex.toNat) loop.1
  frame : loop.2.1 = { batch with cells := loop.2.1.cells }
  known : KnownCells cfg ch loop.2.1.cells
  cells : CellsMatch cfg ch created
    (fun op => touched op ∨ ∃ m ∈ done, l.tx.inputs[m.ioIndex.toNat]? = some ⟨op⟩) consumed
    (loop.2.1.cells.foldl Store.cellInsert st.rgbppCells)

/-- The out points touched by one more match. -/
theorem touched_snoc (touched : CkbOutPoint → Prop) {m : MatchedCell} {op : CkbOutPoint}
    (hin : l.tx.inputs[m.ioIndex.toNat]? = some ⟨op⟩) (done : List MatchedCell) (op' : CkbOutPoint) :
    ((touched op' ∨ ∃ x ∈ done, l.tx.inputs[x.ioIndex.toNat]? = some ⟨op'⟩) ∨ op' = op) ↔
      (touched op' ∨ ∃ x ∈ done ++ [m], l.tx.inputs[x.ioIndex.toNat]? = some ⟨op'⟩) := by
  have hlast : l.tx.inputs[m.ioIndex.toNat]? = some ⟨op'⟩ ↔ op' = op := by
    rw [hin]
    simp [eq_comm]
  simp only [List.mem_append, List.mem_singleton, or_and_right, exists_or, exists_eq_left, hlast, or_assoc]

/-- One more resolved match. -/
theorem Resolves.snoc {p : ProtocolScripts} {done : List MatchedCell} {rs : List ResolvedInput}
    (h : Resolves ch p l (done.map fun m => m.ioIndex.toNat) rs) {m : MatchedCell} {op : CkbOutPoint} {cell : ChainCell}
    (hin : l.tx.inputs[m.ioIndex.toNat]? = some ⟨op⟩) (hcell : ch.HasCell p op cell) :
    Resolves ch p l ((done ++ [m]).map fun x => x.ioIndex.toNat) (rs ++ [resolvedOf op cell m.ioIndex]) := by
  have hindex : UInt32.ofNat m.ioIndex.toNat = m.ioIndex := UInt32.ofNat_toNat
  rw [List.map_append]
  refine List.rel_append h (List.Forall₂.cons ⟨op, cell, hin, hcell, ?_⟩ List.Forall₂.nil)
  rw [hindex]

/-- A matched input that resolves consumes a readable cell: one the batch or the database has, or one the node gave. -/
theorem resolveMatched_ok_cases (hnode : NodeServes ch env.replies) (htip : env.replies.getTipBlockNumber = .ok tip)
    (hheight : l.height ≤ tip.toNat) (hrows : KnownRows cfg ch st.rgbppCells)
    (hrecord : MergedRecord ch cfg.protocol l record) {m : MatchedCell} {loop loop' : InputLoop}
    (hm : m ∈ matchedInputs record) (hknown : KnownCells cfg ch loop.2.1.cells)
    (hok : resolveMatched cfg env st record l.tx loop m = .ok loop') :
    ∃ op cell, l.tx.inputs[m.ioIndex.toNat]? = some ⟨op⟩ ∧ ch.HasCell cfg.protocol op cell ∧
      (((∃ c ∈ loop.2.1.cells, c.key = op.key) ∨ st.rgbppCells.get? op.key ≠ none) ∧
          loop' = (loop.1 ++ [resolvedOf op cell m.ioIndex], loop.2.1, loop.2.2) ∨
        (∀ c ∈ loop.2.1.cells, c.key ≠ op.key) ∧ st.rgbppCells.get? op.key = none ∧
          loop' = (loop.1 ++ [resolvedOf op cell m.ioIndex],
            pushBackfilled loop.2.1 loop.2.2 (cell.newCell cfg.assets op cell.backfilled))) := by
  obtain ⟨op, creator, output, kind, hin, hout, hle, hkind⟩ := hrecord.input hm
  have hres := resolveInput_resolution m.ioIndex loop.2.1 loop.2.2 hnode htip hknown hrows hout (by omega) hkind
  unfold resolveMatched at hok
  rw [hin] at hok
  dsimp only at hok
  rw [bind_eq_ok] at hok
  obtain ⟨⟨resolved, batch', round'⟩, hresolve, hok⟩ := hok
  rw [hresolve] at hres
  cases hres with
  | known cell hcell hpresent =>
    rw [pure_eq_ok] at hok
    exact ⟨op, cell, hin, hcell, .inl ⟨hpresent, hok.symm⟩⟩
  | backfilled cell hcell hfresh habsent =>
    rw [pure_eq_ok] at hok
    exact ⟨op, cell, hin, hcell, .inr ⟨hfresh, habsent, hok.symm⟩⟩

theorem resolveMatched_inputs {created touched : CkbOutPoint → Prop} {consumed : CkbOutPoint → Consumption → Prop}
    (hnode : NodeServes ch env.replies) (htip : env.replies.getTipBlockNumber = .ok tip) (hheight : l.height ≤ tip.toNat)
    (hrows : KnownRows cfg ch st.rgbppCells) (hrecord : MergedRecord ch cfg.protocol l record)
    (hseen : ∀ op c, consumed op c → touched op) {batch : IndexBatch} {done : List MatchedCell} {m : MatchedCell}
    {loop loop' : InputLoop} (hm : m ∈ matchedInputs record)
    (h : InputsMatch cfg ch st l created touched consumed batch done loop)
    (hok : resolveMatched cfg env st record l.tx loop m = .ok loop') :
    InputsMatch cfg ch st l created touched consumed batch (done ++ [m]) loop' := by
  obtain ⟨op, cell, hin, hcell, ⟨hpresent, rfl⟩ | ⟨hfresh, habsent, rfl⟩⟩ :=
    resolveMatched_ok_cases hnode htip hheight hrows hrecord hm h.known hok
  · have htouch := touched_snoc touched hin done
    exact ⟨h.resolved.snoc hin hcell, h.frame, h.known,
      (h.cells.touch_present (foldl_cellInsert_ne_none hpresent)).congr (fun _ => Iff.rfl) htouch (fun _ _ => Iff.rfl)⟩
  · have htouch := touched_snoc touched hin done
    have hnone : (loop.2.1.cells.foldl Store.cellInsert st.rgbppCells).get? op.key = none := by
      rw [foldl_cellInsert_of_notMem hfresh]
      exact habsent
    refine ⟨h.resolved.snoc hin hcell, ?_, ?_, ?_⟩
    · show ({ loop.2.1 with cells := loop.2.1.cells ++ [_] } : IndexBatch) = { batch with cells := loop.2.1.cells ++ [_] }
      rw [h.frame]
    · intro c hc
      rcases List.mem_append.mp hc with hc | hc
      · exact h.known c hc
      · rw [List.mem_singleton] at hc
        subst hc
        exact ⟨op, cell, rfl, hcell, rfl⟩
    · show CellsMatch cfg ch created _ consumed ((loop.2.1.cells ++ [_]).foldl Store.cellInsert st.rgbppCells)
      rw [List.foldl_append]
      exact (h.cells.insert_backfilled hcell (fun c hc => .inl (hseen op c hc)) hnone).congr (fun _ => Iff.rfl) htouch
        (fun _ _ => Iff.rfl)

/-! ## The whole transaction -/

/-- The chain decides how an input resolves. -/
theorem Resolves.unique {p : ProtocolScripts} {js : List Nat} {rs rs' : List ResolvedInput}
    (h : Resolves ch p l js rs) (h' : Resolves ch p l js rs') : rs = rs' := by
  unfold Resolves at h h'
  induction h generalizing rs' with
  | nil => exact (List.forall₂_nil_left_iff.mp h').symm
  | cons hr _ ih =>
    obtain ⟨r', rs'', hr', hrest, rfl⟩ := List.forall₂_cons_left_iff.mp h'
    obtain ⟨op, cell, hin, hcell, rfl⟩ := hr
    obtain ⟨op', cell', hin', hcell', rfl⟩ := hr'
    have hop := hin.symm.trans hin'
    simp only [Option.some.injEq, RpcCellInput.mk.injEq] at hop
    subst hop
    rw [hcell.unique hcell', ih hrest]

/-- The spends written for resolved inputs. -/
theorem Resolves.mem_spends {p : ProtocolScripts} {js : List Nat} {rs : List ResolvedInput} (h : Resolves ch p l js rs)
    (s : CellSpend) : s ∈ rs.map (spendOf l.tx.hash l.context) ↔
      ∃ j ∈ js, ∃ op, l.tx.inputs[j]? = some ⟨op⟩ ∧ s = l.spendAt j op := by
  unfold Resolves at h
  induction h with
  | nil => simp
  | cons hr _ ih =>
    obtain ⟨op, cell, hin, -, rfl⟩ := hr
    rw [List.map_cons, List.mem_cons, ih]
    simp only [List.mem_cons, exists_eq_or_imp]
    constructor
    · rintro (rfl | hrest)
      · exact .inl ⟨op, hin, rfl⟩
      · exact .inr hrest
    · rintro (⟨op', hin', rfl⟩ | hrest)
      · have hop := hin.symm.trans hin'
        simp only [Option.some.injEq, RpcCellInput.mk.injEq] at hop
        subst hop
        exact .inl rfl
      · exact .inr hrest

/-- Every input that is indexed resolves. -/
theorem Resolves.mem_left {p : ProtocolScripts} {js : List Nat} {rs : List ResolvedInput} (h : Resolves ch p l js rs)
    {j : Nat} (hj : j ∈ js) : ∃ r ∈ rs, ∃ op cell, l.tx.inputs[j]? = some ⟨op⟩ ∧ ch.HasCell p op cell ∧
      r = resolvedOf op cell (UInt32.ofNat j) := forall₂_mem_left h hj

theorem Resolves.eq_nil {p : ProtocolScripts} {js : List Nat} (h : Resolves ch p l js []) : js = [] :=
  List.forall₂_nil_right_iff.mp h

/-- An entry's inputs are the matched inputs of its record. -/
theorem touchedBy_entry (record : TxRecord) (l : Located) (op : CkbOutPoint) :
    TouchedBy [record.entry l] op ↔ ∃ m ∈ matchedInputs record, l.tx.inputs[m.ioIndex.toNat]? = some ⟨op⟩ := by
  unfold TouchedBy TxRecord.entry
  simp only [List.mem_singleton, exists_eq_left, List.mem_map]
  constructor
  · rintro ⟨j, ⟨m, hm, rfl⟩, hin⟩
    exact ⟨m, hm, hin⟩
  · rintro ⟨m, hm, hin⟩
    exact ⟨_, ⟨m, hm, rfl⟩, hin⟩

/-! ### One more entry -/

theorem CreatedBy.snoc (done : List Entry) (record : TxRecord) (l : Located) (op : CkbOutPoint) :
    CreatedBy (done ++ [record.entry l]) op ↔ CreatedBy done op ∨ op.txHash = l.tx.hash := by
  rw [CreatedBy.append]
  simp [CreatedBy, TxRecord.entry]

theorem TouchedBy.snoc (done : List Entry) (record : TxRecord) (l : Located) (op : CkbOutPoint) :
    TouchedBy (done ++ [record.entry l]) op ↔
      TouchedBy done op ∨ ∃ m ∈ matchedInputs record, l.tx.inputs[m.ioIndex.toNat]? = some ⟨op⟩ := by
  rw [TouchedBy.append, touchedBy_entry]

/-- What the new entry adds to the spends. -/
theorem Resolves.mem_spends_snoc {p : ProtocolScripts} {resolved : List ResolvedInput}
    (hres : Resolves ch p l ((matchedInputs record).map fun m => m.ioIndex.toNat) resolved) (done : List Entry)
    (s : CellSpend) :
    (∃ e ∈ done ++ [record.entry l], ∃ j ∈ e.inputs, ∃ op, e.place.tx.inputs[j]? = some ⟨op⟩ ∧ s = e.place.spendAt j op) ↔
      (∃ e ∈ done, ∃ j ∈ e.inputs, ∃ op, e.place.tx.inputs[j]? = some ⟨op⟩ ∧ s = e.place.spendAt j op) ∨
        s ∈ resolved.map (spendOf l.tx.hash l.context) := by
  rw [hres.mem_spends s]
  simp only [List.mem_append, List.mem_singleton, or_and_right, exists_or, exists_eq_left]
  rfl

/-- What the new entry adds to the transitions. -/
theorem Resolves.writes_snoc [Sha2] {p : ProtocolScripts} {resolved : List ResolvedInput}
    (hres : Resolves ch p l ((matchedInputs record).map fun m => m.ioIndex.toNat) resolved) (done : List Entry)
    (t : NewTransition) : (∃ e ∈ done ++ [record.entry l], e.Writes ch p t) ↔
      (∃ e ∈ done, e.Writes ch p t) ∨ ¬ (l.outputs p = [] ∧ resolved = []) ∧
        t = transitionOf l.tx.hash l.context resolved (l.outputs p) := by
  simp only [List.mem_append, List.mem_singleton, or_and_right, exists_or, exists_eq_left]
  refine or_congr Iff.rfl ?_
  constructor
  · rintro ⟨rs, hrs, hne, rfl⟩
    obtain rfl := hres.unique hrs
    exact ⟨hne, rfl⟩
  · rintro ⟨hne, rfl⟩
    exact ⟨resolved, hres, hne, rfl⟩

/-- Before the input loop. -/
theorem BatchMatch.inputs [Sha2] {indexed done : List Entry} {batch : IndexBatch} (h : BatchMatch cfg ch st indexed done batch)
    (l : Located) (round : ScanRound) :
    InputsMatch cfg ch st l (CreatedBy (indexed ++ done)) (TouchedBy (indexed ++ done)) (ConsumedBy indexed) batch []
      ([], batch, round) :=
  ⟨List.Forall₂.nil, rfl, h.known, h.cells.congr (fun _ => Iff.rfl) (fun _ => by simp) (fun _ _ => Iff.rfl)⟩

/-- The entry of a record whose inputs are resolved is about the chain. -/
theorem good_snoc {p : ProtocolScripts} {done : List Entry} {resolved : List ResolvedInput} (h : ∀ e ∈ done, e.Good ch p)
    (hl : ch.Holds l) (hres : Resolves ch p l ((matchedInputs record).map fun m => m.ioIndex.toNat) resolved) :
    ∀ e ∈ done ++ [record.entry l], e.Good ch p := by
  intro e he
  rcases List.mem_append.mp he with he | he
  · exact h e he
  · rw [List.mem_singleton] at he
    subst he
    exact ⟨hl, resolved, hres⟩

/-- The readable outputs of a transaction are known. -/
theorem KnownCells.outputs {cells : List NewCell} (h : KnownCells cfg ch cells) (hl : ch.Holds l) :
    KnownCells cfg ch
      (cells ++ (l.outputs cfg.protocol).map fun o => buildNewCell cfg.assets l.tx.hash o l.context) := by
  intro c hc
  rcases List.mem_append.mp hc with hc | hc
  · exact h c hc
  · obtain ⟨o, ho, rfl⟩ := List.mem_map.mp hc
    exact ⟨_, l.cellOf o, rfl, hasCell_of_mem_outputs hl ho, rfl⟩

/-- Inserting the readable outputs of a transaction indexes its creation. -/
theorem CellsMatch.insert_outputs {created touched : CkbOutPoint → Prop} {consumed : CkbOutPoint → Consumption → Prop}
    {t : Table CellKey CellRecord} (h : CellsMatch cfg ch created touched consumed t)
    (hseen : ∀ op c, consumed op c → touched op) (hl : ch.Holds l) :
    CellsMatch cfg ch (fun op => created op ∨ op.txHash = l.tx.hash) touched consumed
      (((l.outputs cfg.protocol).map fun o => buildNewCell cfg.assets l.tx.hash o l.context).foldl Store.cellInsert t) := by
  let found : List (CkbOutPoint × ChainCell) := (l.outputs cfg.protocol).map fun o => (⟨l.tx.hash, o.index⟩, l.cellOf o)
  have hfound : ∀ f ∈ found, ch.HasCell cfg.protocol f.1 f.2 := by
    intro f hf
    obtain ⟨o, ho, rfl⟩ := List.mem_map.mp hf
    exact hasCell_of_mem_outputs hl ho
  have hnew : (l.outputs cfg.protocol).map (fun o => buildNewCell cfg.assets l.tx.hash o l.context) =
      found.map fun f => f.2.newCell cfg.assets f.1 f.2.created := by
    rw [List.map_map]
    rfl
  rw [hnew]
  refine (h.insert_list hseen hfound).congr_cells fun op cell hcell => ⟨or_congr Iff.rfl ?_, Iff.rfl, fun _ => Iff.rfl⟩
  constructor
  · intro hmem
    obtain ⟨f, hf, rfl⟩ := List.mem_map.mp hmem
    obtain ⟨o, -, rfl⟩ := List.mem_map.mp hf
    rfl
  · intro hc
    obtain ⟨o, ho, hop, -⟩ := mem_outputs_of_hasCell hl hcell hc
    exact List.mem_map.mpr ⟨_, List.mem_map.mpr ⟨o, ho, rfl⟩, hop.symm⟩

/-- A processed record adds its entry to what the batch holds. -/
theorem processTransaction_match [Sha2] (hnode : NodeServes ch env.replies)
    (htip : env.replies.getTipBlockNumber = .ok tip) (hheight : l.height ≤ tip.toNat)
    (hrows : KnownRows cfg ch st.rgbppCells) (hrecord : MergedRecord ch cfg.protocol l record)
    {indexed done : List Entry} {batch batch' : IndexBatch} {round round' : ScanRound}
    (h : BatchMatch cfg ch st indexed done batch)
    (hok : processTransaction cfg env st record l.context l.committed batch round = .ok (batch', round')) :
    BatchMatch cfg ch st indexed (done ++ [record.entry l]) batch' := by
  unfold processTransaction Located.committed at hok
  dsimp only at hok
  rw [bind_eq_ok] at hok
  obtain ⟨⟨resolved, b, rd⟩, hloop, hok⟩ := hok
  have hseen : ∀ op c, ConsumedBy indexed op c → TouchedBy (indexed ++ done) op := fun op c hc =>
    (TouchedBy.append ..).mpr (.inl hc.touched)
  have hinputs := foldlM_keeps
    (P := InputsMatch cfg ch st l (CreatedBy (indexed ++ done)) (TouchedBy (indexed ++ done)) (ConsumedBy indexed) batch)
    (fun d m s s' hm hs hstep => resolveMatched_inputs hnode htip hheight hrows hrecord hseen hm hs hstep) (h.inputs l round)
    hloop
  rw [List.nil_append] at hinputs
  obtain ⟨hres, hframe, hknown, hcells⟩ := hinputs
  dsimp only at hres hframe hknown hcells
  have hspends : b.spends = batch.spends := by rw [hframe]
  have htransitions : b.transitions = batch.transitions := by rw [hframe]
  have hgood := good_snoc h.good hrecord.holds hres
  have hknown' := hknown.outputs hrecord.holds
  have hcells' := (hcells.insert_outputs (fun op c hc => .inl (hseen op c hc)) hrecord.holds).congr
    (fun op => (CreatedBy.snoc (indexed ++ done) record l op).symm)
    (fun op => (TouchedBy.snoc (indexed ++ done) record l op).symm) fun _ _ => Iff.rfl
  rw [List.append_assoc, ← List.foldl_append] at hcells'
  have houts : classifyOutputs cfg.protocol l.tx.outputs l.tx.outputsData = l.outputs cfg.protocol := rfl
  unfold extract at hok
  rw [houts, hrecord.txHash] at hok
  by_cases hempty : (l.outputs cfg.protocol).isEmpty = true ∧ resolved.isEmpty = true
  · -- nothing readable: the transaction is skipped, and its entry adds nothing
    simp only [hempty, and_self, if_true] at hok
    rw [pure_eq_ok] at hok
    simp only [Prod.mk.injEq] at hok
    obtain ⟨rfl, -⟩ := hok
    rw [List.isEmpty_iff, List.isEmpty_iff] at hempty
    rw [hempty.1, List.map_nil, List.append_nil] at hcells'
    refine ⟨hgood, hknown, hcells', ?_, ?_⟩
    · intro s
      rw [hspends, hres.mem_spends_snoc done s, h.spends s, hempty.2]
      simp
    · intro t
      rw [htransitions, hres.writes_snoc done t, h.transitions t]
      simp [hempty]
  · simp only [if_neg hempty] at hok
    rw [pure_eq_ok] at hok
    simp only [Prod.mk.injEq] at hok
    obtain ⟨rfl, -⟩ := hok
    rw [List.isEmpty_iff, List.isEmpty_iff] at hempty
    refine ⟨hgood, hknown', hcells', ?_, ?_⟩
    · intro s
      rw [hres.mem_spends_snoc done s, ← h.spends s, ← hspends]
      exact List.mem_append
    · intro t
      rw [hres.writes_snoc done t, ← h.transitions t, ← htransitions]
      simp [hempty]

end
end RgbppIndexer
