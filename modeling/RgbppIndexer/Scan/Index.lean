import RgbppIndexer.Scan.Round

/-!
# A committed round extends the index

`IndexMatch I st`: the cells and the transitions of the database are exactly
what the entries `I` say. A round that commits adds one entry for each record
it collected (`IndexMatch.commit`), wherever its range lies and whatever the
earlier rounds have indexed: the same transaction may even come twice.
-/
namespace RgbppIndexer

open RgbppIndexer.Core

/-- The row a transition is written as, before its commitment is checked. -/
def NewTransition.record (t : NewTransition) : TransitionRecord where
  blockNumber := t.blockNumber
  blockHash := t.blockHash
  txIndex := t.txIndex
  blockTimestamp := t.blockTimestamp
  kind := t.kind
  btcTxid := t.btcTxid
  inputCellCount := t.inputCellCount
  outputCellCount := t.outputCellCount
  expectedCommitment := t.expectedCommitment
  observedCommitment := none
  commitmentStatus := .unchecked

/-- The table of transitions holds exactly these. -/
structure TransitionsMatch (written : NewTransition → Prop) (t : Table Bytes TransitionRecord) : Prop where
  row : ∀ key row, t.get? key = some row → ∃ n, written n ∧ key = n.ckbTxHash ∧ row = n.record
  present : ∀ n, written n → t.get? n.ckbTxHash ≠ none

/-- The cells and the transitions of the database are what the entries say. -/
structure IndexMatch [Sha2] (cfg : Config) (ch : Chain) (indexed : List Entry) (st : Store) : Prop where
  good : ∀ e ∈ indexed, e.Good ch cfg.protocol
  cells : CellsMatch cfg ch (CreatedBy indexed) (TouchedBy indexed) (ConsumedBy indexed) st.rgbppCells
  transitions : TransitionsMatch (fun t => ∃ e ∈ indexed, e.Writes ch cfg.protocol t) st.rgbppTransitions

/-- The entry a collected record becomes. -/
def EntryOf (ch : Chain) (p : ProtocolScripts) (record : TxRecord) (e : Entry) : Prop :=
  ∃ l, MergedRecord ch p l record ∧ e = record.entry l

/-! ## Transitions -/

theorem TransitionsMatch.empty : TransitionsMatch (fun _ => False) .empty where
  row := by intro key row h; cases h
  present := by intro n h; cases h

theorem TransitionsMatch.congr {written written' : NewTransition → Prop} {t : Table Bytes TransitionRecord}
    (h : TransitionsMatch written t) (hsame : ∀ n, written n ↔ written' n) : TransitionsMatch written' t := by
  have heq : written = written' := funext fun n => propext (hsame n)
  rw [← heq]
  exact h

theorem TransitionsMatch.insert {written : NewTransition → Prop} {t : Table Bytes TransitionRecord}
    (h : TransitionsMatch written t) (n : NewTransition) :
    TransitionsMatch (fun m => written m ∨ m = n) (Store.transitionInsert t n) := by
  have hget : ∀ key, (Store.transitionInsert t n).get? key = if key = n.ckbTxHash then some n.record else t.get? key := by
    intro key
    unfold Store.transitionInsert
    rw [Table.get?_upsert]
    by_cases hk : key = n.ckbTxHash
    · rw [if_pos hk, if_pos hk]
      cases hold : t.get? n.ckbTxHash with
      | none => rfl
      | some old =>
        obtain ⟨m, -, -, rfl⟩ := h.row _ _ hold
        rfl
    · rw [if_neg hk, if_neg hk]
  constructor
  · intro key row hrow
    rw [hget] at hrow
    by_cases hk : key = n.ckbTxHash
    · rw [if_pos hk] at hrow
      simp only [Option.some.injEq] at hrow
      exact ⟨n, .inr rfl, hk, hrow.symm⟩
    · rw [if_neg hk] at hrow
      obtain ⟨m, hm, hkey, hrec⟩ := h.row key row hrow
      exact ⟨m, .inl hm, hkey, hrec⟩
  · intro m hm
    rw [hget]
    by_cases hk : m.ckbTxHash = n.ckbTxHash
    · rw [if_pos hk]
      simp
    · rw [if_neg hk]
      rcases hm with hm | rfl
      · exact h.present m hm
      · exact absurd rfl hk

theorem TransitionsMatch.insert_list {written : NewTransition → Prop} {t : Table Bytes TransitionRecord}
    (h : TransitionsMatch written t) (new : List NewTransition) :
    TransitionsMatch (fun m => written m ∨ m ∈ new) (new.foldl Store.transitionInsert t) := by
  induction new generalizing written t with
  | nil => exact h.congr fun m => by simp
  | cons n ns ih =>
    rw [List.foldl_cons]
    exact (ih (h.insert n)).congr fun m => by rw [List.mem_cons, or_assoc]

/-! ## Spends -/

/-- Writing the spends of a batch, when no cell has two consumptions. -/
theorem CellsMatch.spend_list {cfg : Config} {ch : Chain} {created touched : CkbOutPoint → Prop}
    {consumed : CkbOutPoint → Consumption → Prop} {t : Table CellKey CellRecord} {spends : List CellSpend}
    (h : CellsMatch cfg ch created touched consumed t) (hkeys : ∀ s ∈ spends, ∃ op : CkbOutPoint, s.key = op.key)
    (honce : ∀ op c c', (consumed op c ∨ ∃ s ∈ spends, s.key = op.key ∧ c = s.consumed) →
      (consumed op c' ∨ ∃ s ∈ spends, s.key = op.key ∧ c' = s.consumed) → c = c') :
    CellsMatch cfg ch created touched (fun op c => consumed op c ∨ ∃ s ∈ spends, s.key = op.key ∧ c = s.consumed)
      (spends.foldl Store.cellSpend t) := by
  induction spends generalizing consumed t with
  | nil => exact h.congr (fun _ => Iff.rfl) (fun _ => Iff.rfl) (fun _ _ => by simp)
  | cons s rest ih =>
    obtain ⟨op, hop⟩ := hkeys s (by simp)
    have hstep := h.spend hop fun c hc => honce op c s.consumed (.inl hc) (.inr ⟨s, by simp, hop, rfl⟩)
    -- what the first spend wrote, and what the rest will write, is what all of them write
    have hsplit : ∀ op' c, ((consumed op' c ∨ op' = op ∧ c = s.consumed) ∨ ∃ x ∈ rest, x.key = op'.key ∧ c = x.consumed) ↔
        (consumed op' c ∨ ∃ x ∈ s :: rest, x.key = op'.key ∧ c = x.consumed) := by
      intro op' c
      have hfirst : op' = op ↔ s.key = op'.key := by
        rw [hop]
        constructor
        · intro heq
          rw [heq]
        · intro hkey
          exact (CkbOutPoint.key_injective hkey).symm
      rw [hfirst, or_assoc]
      simp only [List.mem_cons, or_and_right, exists_or, exists_eq_left]
    rw [List.foldl_cons]
    have hrest := ih hstep (fun x hx => hkeys x (List.mem_cons_of_mem _ hx)) fun op' c c' hc hc' =>
      honce op' c c' ((hsplit op' c).mp hc) ((hsplit op' c').mp hc')
    exact hrest.congr (fun _ => Iff.rfl) (fun _ => Iff.rfl) hsplit

section
variable {cfg : Config} {ch : Chain} {env : ScanEnv} {st st' : Store}

/-- An indexed consumption is of a readable cell. -/
theorem ConsumedBy.hasCell {p : ProtocolScripts} {entries : List Entry} (hgood : ∀ e ∈ entries, e.Good ch p)
    {op : CkbOutPoint} {c : Consumption} (h : ConsumedBy entries op c) : ∃ l j cell, ch.HasCell p op cell ∧
      ch.Spends l j op ∧ c = l.consumption j := by
  obtain ⟨e, he, j, hj, hin, rfl⟩ := h
  obtain ⟨hholds, resolved, hres⟩ := hgood e he
  obtain ⟨r, -, op', cell, hin', hcell, -⟩ := hres.mem_left hj
  have hop := hin.symm.trans hin'
  simp only [Option.some.injEq, RpcCellInput.mk.injEq] at hop
  subst hop
  exact ⟨e.place, j, cell, hcell, ⟨hholds, hin⟩, rfl⟩

/-- A cell is consumed at most once. -/
theorem ConsumedBy.unique {p : ProtocolScripts} {entries : List Entry} (hgood : ∀ e ∈ entries, e.Good ch p)
    {op : CkbOutPoint} {c c' : Consumption} (h : ConsumedBy entries op c) (h' : ConsumedBy entries op c') : c = c' := by
  obtain ⟨l, j, cell, hcell, hspends, rfl⟩ := h.hasCell hgood
  obtain ⟨l', j', -, -, hspends', rfl⟩ := h'.hasCell hgood
  obtain ⟨rfl, rfl⟩ := Chain.spends_unique hcell.hasOutput hspends hspends'
  rfl

/-! ## One round -/

/-- A finished batch, applied, extends the index. -/
theorem IndexMatch.apply [Sha2] {indexed done : List Entry} {batch : IndexBatch} (h : IndexMatch cfg ch indexed st)
    (hbatch : BatchMatch cfg ch st indexed done batch)
    (hcells : st'.rgbppCells = batch.spends.foldl Store.cellSpend (batch.cells.foldl Store.cellInsert st.rgbppCells))
    (htransitions : st'.rgbppTransitions = batch.transitions.foldl Store.transitionInsert st.rgbppTransitions) :
    IndexMatch cfg ch (indexed ++ done) st' := by
  have hgood : ∀ e ∈ indexed ++ done, e.Good ch cfg.protocol := by
    intro e he
    rcases List.mem_append.mp he with he | he
    · exact h.good e he
    · exact hbatch.good e he
  have hspends : ∀ op c, (∃ s ∈ batch.spends, s.key = op.key ∧ c = s.consumed) ↔ ConsumedBy done op c := by
    intro op c
    constructor
    · rintro ⟨s, hs, hkey, rfl⟩
      obtain ⟨e, he, j, hj, op', hin, rfl⟩ := (hbatch.spends s).mp hs
      obtain rfl := CkbOutPoint.key_injective (show op'.key = op.key from hkey)
      exact ⟨e, he, j, hj, hin, rfl⟩
    · rintro ⟨e, he, j, hj, hin, rfl⟩
      exact ⟨e.place.spendAt j op, (hbatch.spends _).mpr ⟨e, he, j, hj, op, hin, rfl⟩, rfl, rfl⟩
  have htotal : ∀ op c, (ConsumedBy indexed op c ∨ ∃ s ∈ batch.spends, s.key = op.key ∧ c = s.consumed) ↔
      ConsumedBy (indexed ++ done) op c := by
    intro op c
    rw [hspends, ConsumedBy.append]
  refine ⟨hgood, ?_, ?_⟩
  · rw [hcells]
    have hkeys : ∀ s ∈ batch.spends, ∃ op : CkbOutPoint, s.key = op.key := by
      intro s hs
      obtain ⟨e, -, j, -, op, -, rfl⟩ := (hbatch.spends s).mp hs
      exact ⟨op, rfl⟩
    refine (hbatch.cells.spend_list hkeys fun op c c' hc hc' => ?_).congr (fun _ => Iff.rfl) (fun _ => Iff.rfl) htotal
    exact ConsumedBy.unique hgood ((htotal op c).mp hc) ((htotal op c').mp hc')
  · rw [htransitions]
    refine (h.transitions.insert_list batch.transitions).congr fun t => ?_
    rw [hbatch.transitions t]
    simp only [List.mem_append, or_and_right, exists_or]

/-- A collected record adds its entry to what the batch holds. -/
theorem processRecord_match [Sha2] {tip : UInt64} (hserves : Serves ch env.replies)
    (htip : env.replies.getTipBlockNumber = .ok tip) (hrows : KnownRows cfg ch st.rgbppCells) {records : List TxRecord}
    {headers : List (UInt64 × RpcHeader)} (hheaders : fetchHeaders env records = .ok headers) {record : TxRecord}
    {l : Located} (hrecord : MergedRecord ch cfg.protocol l record) (hheight : l.height ≤ tip.toNat)
    {indexed done : List Entry} {p p' : IndexBatch × ScanRound} (h : BatchMatch cfg ch st indexed done p.1)
    (hok : processRecord cfg env st headers p record = .ok p') :
    BatchMatch cfg ch st indexed (done ++ [record.entry l]) p'.1 := by
  unfold processRecord at hok
  rw [bind_eq_ok] at hok
  obtain ⟨reply, hreply, hok⟩ := hok
  rw [Except.intoIndexer_eq_ok, hrecord.txHash] at hreply
  obtain rfl := hserves.node.transaction tip l reply htip hrecord.holds hheight hreply
  dsimp only at hok
  cases hheader : headerOf headers record.blockNumber with
  | none =>
    rw [hheader] at hok
    cases hok
  | some header =>
    rw [hheader] at hok
    dsimp only at hok
    obtain ⟨b, hb, hbheader⟩ := hserves.node.header_sound _ _ (headerOf_eq_some hheaders hheader)
    obtain ⟨b', hb', hb'header, -⟩ := hrecord.holds
    have hsame : header = l.header := by
      rw [hrecord.blockNumber] at hb
      have hbb := hb.symm.trans hb'
      simp only [Option.some.injEq] at hbb
      rw [← hbheader, hbb, hb'header]
    rw [hsame, hrecord.holds.timestamp env.now, hrecord.blockNumber, hrecord.txIndex] at hok
    exact processTransaction_match hserves.node htip hheight hrows hrecord h hok

/-- An empty batch, before the first record. -/
theorem IndexMatch.start [Sha2] {indexed : List Entry} (h : IndexMatch cfg ch indexed st) {batch : IndexBatch}
    (hcells : batch.cells = []) (hspends : batch.spends = []) (htransitions : batch.transitions = []) :
    BatchMatch cfg ch st indexed [] batch := by
  refine ⟨by simp, ?_, ?_, ?_, ?_⟩
  · intro c hmem
    rw [hcells] at hmem
    cases hmem
  · rw [hcells, List.append_nil]
    exact h.cells
  · intro s
    rw [hspends]
    simp
  · intro t
    rw [htransitions]
    simp

/-- The cells and the transitions are all the index reads. -/
theorem IndexMatch.of_eq [Sha2] {indexed : List Entry} (h : IndexMatch cfg ch indexed st)
    (hcells : st'.rgbppCells = st.rgbppCells) (htransitions : st'.rgbppTransitions = st.rgbppTransitions) :
    IndexMatch cfg ch indexed st' :=
  ⟨h.good, by rw [hcells]; exact h.cells, by rw [htransitions]; exact h.transitions⟩

/-- **A committed round extends the index** by one entry for each record it collected. -/
theorem IndexMatch.commit [Sha2] {indexed : List Entry} {reads : RoundReads} {batch : IndexBatch}
    (h : IndexMatch cfg ch indexed st) (hserves : Serves ch env.replies) (hc : Committed cfg env st st' reads batch) :
    ∃ done, List.Forall₂ (EntryOf ch cfg.protocol) reads.records done ∧ IndexMatch cfg ch (indexed ++ done) st' := by
  obtain ⟨nodeTip, htip, hle⟩ := hc.toBlock_le
  have hcollected := collectRange_collected hserves.indexer hc.records
  have hheight : ∀ record ∈ reads.records, ∀ l, MergedRecord ch cfg.protocol l record → l.height ≤ nodeTip.toNat := by
    intro record hmem l hl
    have hto := (hcollected.inRange record hmem).2
    rw [hl.blockNumber, UInt64.le_iff_toNat_le] at hto
    exact hto.trans hle
  obtain ⟨st₀, start, round, round', hst₀, hnocells, hnospends, hnotransitions, hloop⟩ := hc.built
  have hrows : KnownRows cfg ch st₀.rgbppCells := by
    rw [hst₀]
    exact h.cells.knownRows
  have hstart : BatchMatch cfg ch st₀ indexed [] start := by
    have hempty : BatchMatch cfg ch st indexed [] start := h.start hnocells hnospends hnotransitions
    exact ⟨hempty.good, hempty.known, by rw [hst₀]; exact hempty.cells, hempty.spends, hempty.transitions⟩
  have hprocessed := foldlM_keeps
    (P := fun seen p => ∃ done, List.Forall₂ (EntryOf ch cfg.protocol) seen done ∧ BatchMatch cfg ch st₀ indexed done p.1)
    (fun seen record p p' hmem hp hok => by
      obtain ⟨done, hentries, hmatch⟩ := hp
      obtain ⟨l, hl⟩ := hcollected.merged record hmem
      exact ⟨done ++ [record.entry l], List.rel_append hentries (.cons ⟨l, hl, rfl⟩ .nil),
        processRecord_match hserves htip hrows hc.headers hl (hheight record hmem l hl) hmatch hok⟩)
    ⟨[], .nil, hstart⟩ hloop
  rw [List.nil_append] at hprocessed
  obtain ⟨done, hentries, hmatch⟩ := hprocessed
  have hbatch : BatchMatch cfg ch st indexed done batch :=
    ⟨hmatch.good, hmatch.known, by rw [← hst₀]; exact hmatch.cells, hmatch.spends, hmatch.transitions⟩
  refine ⟨done, hentries, h.apply hbatch ?_ ?_⟩
  · rw [hc.facts]
  · rw [hc.facts]

end
end RgbppIndexer
