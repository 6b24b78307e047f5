import RgbppIndexer.Scan.Concurrent

/-!
# What each statement of a round keeps

A round between the statements of others. Its records are worked through in
chain order, so a cell created in the range is in the batch before its consumer
is resolved; one created below the range is indexed already, whoever did it;
what is in neither place is from before the first block.

* `earlier_known`: that argument, at the moment of a lookup.
* `scannerProgram_keeps`: **every statement of a round keeps the invariant**, if
  the rich indexer reports a tip.
-/
namespace RgbppIndexer

open RgbppIndexer.Core

/-! ## The order of the records -/

section
variable {ch : Chain} {p : ProtocolScripts} {l l' : Located} {record record' : TxRecord}

/-- Records stand in the order of their transactions. -/
theorem MergedRecord.key_lt (h' : MergedRecord ch p l' record') (h : MergedRecord ch p l record)
    (hbefore : l'.height < l.height ∨ l'.height = l.height ∧ l'.index < l.index) :
    compare record'.key record.key = .lt := by
  have hkey : compare record'.key record.key = (compare record'.blockNumber record.blockNumber).then
      ((compare record'.txIndex record.txIndex).then (compare record'.txHash record.txHash)) := rfl
  rw [hkey, h'.blockNumber, h.blockNumber, h'.txIndex, h.txIndex]
  rcases hbefore with hlt | ⟨heq, hlt⟩
  · rw [Std.compare_eq_lt.mpr (UInt64.lt_iff_toNat_lt.mpr hlt)]
    rfl
  · have hindex : UInt32.ofNat l'.index < UInt32.ofNat l.index := by
      rw [UInt32.lt_iff_toNat_lt, UInt32.toNat_ofNat_of_lt' (ch.fits l' h'.holds).1,
        UInt32.toNat_ofNat_of_lt' (ch.fits l h.holds).1]
      exact hlt
    have hself : compare l.header.number l.header.number = .eq := Std.ReflCmp.compare_self
    rw [UInt64.toNat_inj.mp heq, hself, Std.compare_eq_lt.mpr hindex]
    rfl

/-- A smaller key stands further in front. -/
theorem mem_of_key_lt {records seen rest : List TxRecord} (hsorted : records.Pairwise fun a b => compare a.key b.key = .lt)
    (hsplit : records = seen ++ record :: rest) (hmem : record' ∈ records) (hlt : compare record'.key record.key = .lt) :
    record' ∈ seen := by
  have hself : compare record.key record.key = .eq := Std.ReflCmp.compare_self
  rw [hsplit] at hmem hsorted
  rcases List.mem_append.mp hmem with hseen | hlater
  · exact hseen
  · rcases List.mem_cons.mp hlater with rfl | hrest
    · rw [hself] at hlt
      cases hlt
    · have hgt := (List.pairwise_cons.mp (List.pairwise_append.mp hsorted).2.1).1 record' hrest
      rw [Std.TransCmp.lt_trans hgt hlt] at hself
      cases hself

end

section
variable [Sha2] {cfg : Config} {ch : Chain} {listed : Entry → Prop} {env : ScanEnv} {s : Shared}

/-- What the endpoints promise of a round. -/
structure Endpoints (cfg : Config) (ch : Chain) (listed : Entry → Prop) (env : ScanEnv) : Prop where
  serves : Serves ch env.replies
  complete : IndexerComplete ch env.replies
  listed : Lists cfg ch listed env

/-- What a round has read of its range before it works through the records. -/
structure RangeRead (cfg : Config) (ch : Chain) (listed : Entry → Prop) (env : ScanEnv) (lo hi : UInt64)
    (records : List TxRecord) : Prop where
  endpoints : Endpoints cfg ch listed env
  node : ∃ tip, env.replies.getTipBlockNumber = .ok tip ∧ hi.toNat ≤ tip.toNat
  reported : ∃ t, env.replies.getIndexerTip = .ok (some t) ∧ hi ≤ t.blockNumber
  records : collectRange cfg env lo hi = .ok records
  first_le : cfg.firstBlock ≤ lo.toNat

/-- Where the record loop stands after the records `seen`, whatever was committed meanwhile. -/
structure Building (cfg : Config) (ch : Chain) (lo : UInt64) (seen : List TxRecord) (batch : IndexBatch) (s : Shared) : Prop where
  batch : ∃ done, List.Forall₂ (EntryOf ch cfg.protocol) seen done ∧ StaleBatch cfg ch cfg.firstBlock s.Present done batch
  gap : lo.toNat ≤ s.highest cfg + 1

theorem Building.moved {lo : UInt64} {seen : List TxRecord} {batch : IndexBatch} {s' : Shared}
    (h : Building cfg ch lo seen batch s) (hmoves : (scanRely cfg ch listed).Moves s s') :
    Building cfg ch lo seen batch s' := by
  obtain ⟨done, hentries, hbatch⟩ := h.batch
  have hgap := h.gap
  have hle := hmoves.1
  exact ⟨⟨done, hentries, hbatch.mono (Shared.present_of_moves hmoves)⟩, by omega⟩

/-! ## One lookup -/

variable {lo hi : UInt64} {records seen rest : List TxRecord} {record : TxRecord} {l : Located} {done : List Entry}

/-- A consumed cell that was created at the first block or behind it is in the batch, or has a row by now. -/
theorem earlier_known (hs : Shared.Indexed cfg ch listed s) (hread : RangeRead cfg ch listed env lo hi records)
    (hgap : lo.toNat ≤ s.highest cfg + 1) (hsplit : records = seen ++ record :: rest)
    (hentries : List.Forall₂ (EntryOf ch cfg.protocol) seen done) (hrecord : MergedRecord ch cfg.protocol l record)
    (hto : l.height ≤ hi.toNat) {j : Nat} {op : CkbOutPoint} {cell : ChainCell} (hin : l.tx.inputs[j]? = some ⟨op⟩)
    (hcell : ch.HasCell cfg.protocol op cell) (hfirst : cfg.firstBlock ≤ cell.creator.height) :
    CreatedBy done op ∨ s.store.rgbppCells.get? op.key ≠ none := by
  obtain ⟨entries, hmatch, hcovers, -⟩ := hs.indexed
  have hout := hcell.hasOutput
  have hbefore := ch.created_before l cell.creator j op hrecord.holds hout.holds hin hout.txHash
  by_cases hindexed : cell.creator.height ≤ s.highest cfg
  · -- indexed before this round's range, by whichever scanner
    right
    intro hnone
    exact (hmatch.cells.absent op cell hcell hnone).1
      ((Chain.createdBy_iff hmatch.good hcovers hcell).mpr ⟨hfirst, hindexed⟩)
  · -- created in the range, by a record in front of this one
    left
    obtain ⟨t, ht, hle⟩ := hread.reported
    obtain ⟨o, ho, -⟩ := mem_outputs_of_hasCell hout.holds hcell hout.txHash
    obtain ⟨kind, c, htrue⟩ := trueMatch_output hout.holds ho
    obtain ⟨record', hmem, hmerged, -⟩ := collectRange_complete hread.endpoints.serves.indexer hread.endpoints.complete ht
      hle hread.records hout.holds (by omega) (by omega) htrue
    have hseen := mem_of_key_lt (collectRange_sorted hread.records) hsplit hmem
      (hmerged.key_lt hrecord hbefore)
    obtain ⟨e, he, l', hl', rfl⟩ := forall₂_mem_left hentries hseen
    obtain ⟨rfl, -⟩ := hl'.place_eq hmerged rfl
    exact ⟨_, he, hout.txHash⟩

/-! ## One record -/

omit [Sha2] in
/-- The node's body and header of a record are the chain's. -/
theorem openRecord_eq (hread : RangeRead cfg ch listed env lo hi records) {headers : List (UInt64 × RpcHeader)}
    (hheaders : fetchHeaders env records = .ok headers) (hrecord : MergedRecord ch cfg.protocol l record)
    (hto : l.height ≤ hi.toNat) {opened : RpcTransaction × BlockContext}
    (hok : openRecord env headers record = .ok opened) : opened = (l.tx, l.context) := by
  obtain ⟨tip, htip, hle⟩ := hread.node
  have hnode := hread.endpoints.serves.node
  unfold openRecord at hok
  rw [bind_eq_ok] at hok
  obtain ⟨reply, hreply, hok⟩ := hok
  rw [Except.intoIndexer_eq_ok, hrecord.txHash] at hreply
  obtain rfl := hnode.transaction tip l reply htip hrecord.holds (by omega) hreply
  dsimp only [Located.committed] at hok
  cases hheader : headerOf headers record.blockNumber with
  | none =>
    rw [hheader] at hok
    cases hok
  | some header =>
    rw [hheader, pure_eq_ok] at hok
    subst hok
    obtain ⟨b, hb, hbheader⟩ := hnode.header_sound _ _ (headerOf_eq_some hheaders hheader)
    obtain ⟨b', hb', hb'header, -⟩ := hrecord.holds
    rw [hrecord.blockNumber] at hb
    have hsame : header = l.header := by
      rw [← hbheader, Option.some.inj (hb.symm.trans hb'), hb'header]
    rw [hsame, hrecord.holds.timestamp env.now, hrecord.blockNumber, hrecord.txIndex]
    rfl

/-- A record is worked through while others commit. -/
theorem processRecordProgram_keeps (hread : RangeRead cfg ch listed env lo hi records)
    {headers : List (UInt64 × RpcHeader)} (hheaders : fetchHeaders env records = .ok headers)
    (hsplit : records = seen ++ record :: rest) {built : IndexBatch × ScanRound} (h : Building cfg ch lo seen built.1 s) :
    (processRecordProgram cfg env headers built record).Keeps (scanRely cfg ch listed)
      (fun built' s' => Building cfg ch lo (seen ++ [record]) built'.1 s') s := by
  have hcollected := collectRange_collected hread.endpoints.serves.indexer hread.records
  have hmem : record ∈ records := by rw [hsplit]; simp
  obtain ⟨l, hrecord⟩ := hcollected.merged record hmem
  obtain ⟨hfrom, hto⟩ := hcollected.inRange record hmem
  rw [hrecord.blockNumber, UInt64.le_iff_toNat_le] at hfrom hto
  change lo.toNat ≤ l.height at hfrom
  change l.height ≤ hi.toNat at hto
  obtain ⟨done, hentries, hbatch⟩ := h.batch
  obtain ⟨tip, htip, hle⟩ := hread.node
  have hfirst := hread.first_le
  unfold processRecordProgram
  cases hopen : openRecord env headers record with
  | error e => exact Program.keeps_error
  | ok opened =>
    obtain rfl := openRecord_eq hread hheaders hrecord hto hopen
    rw [Program.bind_ok]
    -- each lookup reads the database of its own moment
    have hloop : ((matchedInputs record).foldlM (resolveProgram cfg env record l.tx) ([], built.1, built.2)).Keeps
        (scanRely cfg ch listed)
        (fun loop s' => StaleInputs cfg ch cfg.firstBlock s'.Present l (CreatedBy done) (TouchedBy done) built.1
          (matchedInputs record) loop ∧ StaleBatch cfg ch cfg.firstBlock s'.Present done built.1 ∧
          lo.toNat ≤ s'.highest cfg + 1) s := by
      refine Program.keeps_foldlM
        (P := fun matched loop (s' : Shared) => StaleInputs cfg ch cfg.firstBlock s'.Present l (CreatedBy done) (TouchedBy done)
          built.1 matched loop ∧ StaleBatch cfg ch cfg.firstBlock s'.Present done built.1 ∧
          lo.toNat ≤ s'.highest cfg + 1) ?_ ?_ ⟨hbatch.inputs l built.2, hbatch, h.gap⟩
      · rintro matched loop s₁ s₂ ⟨hinputs, hbatch, hgap⟩ - hmoves
        have hmono := hmoves.1
        exact ⟨hinputs.mono (Shared.present_of_moves hmoves), hbatch.mono (Shared.present_of_moves hmoves), by omega⟩
      · rintro matched m later loop s₁ hmatched - ⟨hinputs, hbatch, hgap⟩
        have hm : m ∈ matchedInputs record := by rw [hmatched]; simp
        refine Program.keeps_read fun loop' s₂ hinv hmoves hok s₃ _ hmoves' => ?_
        have hmono := hmoves.1
        have hmono' := hmoves'.1
        obtain ⟨entries, hmatch, -, -⟩ := hinv.indexed
        have hresolved := resolveMatched_stale hread.endpoints.serves.node htip (by omega) hmatch.cells.knownRows hrecord hm
          (fun op cell hin hcell hcreator => earlier_known hinv hread (by omega) hsplit hentries hrecord hto hin hcell
            hcreator) (hinputs.mono (Shared.present_of_moves hmoves)) hok
        exact ⟨hresolved.mono (Shared.present_of_moves hmoves'), (hbatch.mono (Shared.present_of_moves hmoves)).mono
          (Shared.present_of_moves hmoves'), by omega⟩
    refine hloop.bind fun loop s₁ _ hend => Program.keeps_ok fun s₂ _ hmoves => ?_
    obtain ⟨hinputs, hbatch', hgap⟩ := hend
    have hclosed := closeRecord_stale hrecord (by omega) hbatch' hinputs
    exact Building.moved ⟨⟨done ++ [record.entry l], List.rel_append hentries (.cons ⟨l, hrecord, rfl⟩ .nil), hclosed⟩,
      hgap⟩ hmoves

/-! ## The reading half -/

/-- What the stream row said when it was read. -/
structure ReadOff (cfg : Config) (state : StreamState) (s : Shared) : Prop where
  le_highest : state.lastBlockNumber.toInt ≤ s.highest cfg
  nonneg : cfg.ckb.startBlock = 0 → 0 ≤ state.lastBlockNumber.toInt

theorem ReadOff.moved {state : StreamState} {s' : Shared} (h : ReadOff cfg state s)
    (hmoves : (scanRely cfg ch listed).Moves s s') : ReadOff cfg state s' := by
  have hle := h.le_highest
  have hmono := hmoves.1
  exact ⟨by omega, h.nonneg⟩

theorem buildRoundProgram_keeps (hendpoints : Endpoints cfg ch listed env) (htip : env.replies.getIndexerTip ≠ .ok none)
    {chainTip target : UInt64} (hsynced : env.replies.syncedTip = .ok chainTip)
    (htarget : cfg.safeCkbTarget chainTip = some target) {state : StreamState}
    (habove : ¬ target.toInt64 ≤ state.lastBlockNumber) (hstate : ReadOff cfg state s) :
    (buildRoundProgram cfg env state chainTip target).Keeps (scanRely cfg ch listed)
      (fun built s' => Shared.Ready cfg ch listed built.1 s') s := by
  obtain ⟨-, hstart, hsafe⟩ := Config.safeCkbTarget_eq_some htarget
  have hlt := syncedTip_lt hendpoints.serves hsynced
  have hlen := ch.length_le
  rw [UInt64.le_iff_toNat_le] at hsafe
  obtain ⟨t, ht⟩ := syncedTip_reported hsynced htip
  have hreported := syncedTip_le_reported hsynced ht
  unfold buildRoundProgram
  cases assertCheckpointStillCanonical env state with
  | error e => exact Program.keeps_error
  | ok u =>
    rw [Program.bind_ok]
    dsimp only
    generalize hlo : rangeFrom cfg state.lastBlockNumber = lo
    generalize hhi : rangeTo cfg target lo = hi
    have hto : hi.toNat ≤ target.toNat := by
      rw [← hhi, rangeTo, UInt64.toNat_min]
      exact Nat.min_le_left ..
    have hnext := rangeFrom_toNat hstart habove (by omega)
    rw [hlo] at hnext
    have hle := s.firstBlock_le_highest cfg
    obtain ⟨hfirst, hgap⟩ := firstBlock_le_next hstate.le_highest hstate.nonneg hnext
    cases hrecords : collectRange cfg env lo hi with
    | error e => exact Program.keeps_error
    | ok records =>
      rw [Program.bind_ok]
      cases hheaders : fetchHeaders env records with
      | error e => exact Program.keeps_error
      | ok headers =>
        rw [Program.bind_ok]
        have hhiReported : hi ≤ t.blockNumber := by
          rw [UInt64.le_iff_toNat_le]
          omega
        have hread : RangeRead cfg ch listed env lo hi records := by
          refine ⟨hendpoints, ?_, ⟨t, ht, hhiReported⟩, hrecords, hfirst⟩
          obtain ⟨nodeTip, hnodeTip, hchainTip⟩ := syncedTip_le_node hsynced
          exact ⟨nodeTip, hnodeTip, by omega⟩
        have hloop : (records.foldlM (processRecordProgram cfg env headers)
            ({ chainTip := chainTip.toInt64, target := target.toInt64, reorgLag := cfg.ckb.reorgLag.toInt64 },
              { fromBlock := lo, toBlock := hi, chainTip, target, transactions := records.length })).Keeps
            (scanRely cfg ch listed) (fun built s' => Building cfg ch lo records built.1 s') s := by
          refine Program.keeps_foldlM
            (P := fun seen (built : IndexBatch × ScanRound) (s' : Shared) => Building cfg ch lo seen built.1 s')
            (fun _ _ _ _ hb _ hmoves => Building.moved hb hmoves)
            (fun _ _ _ _ _ hsplit _ hb => processRecordProgram_keeps hread hheaders hsplit hb) ?_
          exact ⟨⟨[], .nil, .start rfl rfl rfl⟩, by omega⟩
        refine hloop.bind fun built s₁ _ hbuilt => ?_
        cases checkpointHeader env headers hi with
        | error e => exact Program.keeps_error
        | ok header =>
          rw [Program.bind_ok]
          refine Program.keeps_ok fun s₂ _ hmoves => Shared.Ready.moved ?_ hmoves
          obtain ⟨done, hentries, hbatch⟩ := hbuilt.batch
          have hcovers := covers_of_collected hendpoints.serves hendpoints.complete ht hhiReported hrecords hentries
          refine ⟨done, lo.toNat, hi.toNat, ⟨hbatch.good, hbatch.cells, hbatch.spends, hbatch.transitions⟩, hcovers,
            fun e he => ?_, hfirst, hbuilt.gap, toInt_toInt64 (by omega)⟩
          obtain ⟨record, hmem, l, hl, rfl⟩ := forall₂_mem_right hentries he
          exact hendpoints.listed lo hi records hrecords record hmem l hl

/-! ## The whole round -/

theorem commitRoundProgram_keeps {batch : IndexBatch} {round : ScanRound} (h : Shared.Ready cfg ch listed batch s) :
    (commitRoundProgram cfg env batch round).Keeps (scanRely cfg ch listed) (fun _ _ => True) s := by
  unfold commitRoundProgram
  cases env.faults.applyBatch with
  | some e => exact Program.keeps_error
  | none =>
    intro s₁ hinv hmoves
    obtain ⟨hinv', hmoves'⟩ := hinv.commit (h.moved hmoves) env.now
    refine ⟨hinv', hmoves', ?_⟩
    dsimp only
    split
    · cases env.faults.pruneBlocks with
      | some e => exact Program.keeps_error
      | none =>
        refine Program.Keeps.bind (Q := fun _ _ => True) (Program.keeps_write fun s₂ hinv₂ _ => ?_) fun _ s₂ _ _ =>
          Program.keeps_ok fun _ _ _ => trivial
        obtain ⟨hpruned, hpruned'⟩ := hinv₂.update (f := fun st => st.pruneBlocksBelow _) rfl rfl rfl
        exact ⟨hpruned, hpruned', fun _ _ _ => trivial⟩
    · exact Program.keeps_ok fun _ _ _ => trivial

/-- A statement that leaves a note in the stream row. -/
theorem write_keeps {f : Store → Store} (hnoted : ∀ st, Noted cfg st (f st)) {Q : Shared → Prop} (hQ : ∀ s', Q s') :
    (Program.write (Shared.update f) : ScanProgram Unit).Keeps (scanRely cfg ch listed) (fun _ => Q) s := by
  refine Program.keeps_write fun s₁ hinv _ => ?_
  obtain ⟨hinv', hmoves'⟩ := hinv.noted (hnoted s₁.store)
  exact ⟨hinv', hmoves', fun s₂ _ _ => hQ s₂⟩

/-- The stream row, when it is read. -/
theorem readStream_keeps : (Program.read fun s' : Shared => readStream env s'.store).Keeps (scanRely cfg ch listed)
    (fun state s' => ReadOff cfg state s') s := by
  refine Program.keeps_read fun state s₁ hinv _ hok s₂ _ hmoves => ReadOff.moved ?_ hmoves
  have hstate : s₁.store.getStreamState CKB_STREAM = some state := by
    unfold readStream at hok
    cases hfault : env.faults.getStreamState with
    | some e =>
      rw [hfault] at hok
      cases hok
    | none =>
      rw [hfault] at hok
      cases hrow : s₁.store.getStreamState CKB_STREAM with
      | none =>
        rw [hrow] at hok
        cases hok
      | some row =>
        rw [hrow] at hok
        rw [Except.ok.inj hok]
  have hcp := Store.checkpoint_of_state hstate cfg
  have hle := hinv.checkpoint
  have hnonneg := hinv.nonneg
  rw [hcp] at hle hnonneg
  exact ⟨hle, hnonneg⟩

theorem scanOnceProgram_keeps (hendpoints : Endpoints cfg ch listed env) (htip : env.replies.getIndexerTip ≠ .ok none) :
    (scanOnceProgram cfg env).Keeps (scanRely cfg ch listed) (fun _ _ => True) s := by
  unfold scanOnceProgram
  cases env.faults.initStream with
  | some e => exact Program.keeps_error
  | none =>
    refine (write_keeps (Q := fun _ => True) (fun st => noted_insertStream cfg st env.now) fun _ => trivial).bind
      fun _ s₁ _ _ => readStream_keeps.bind fun state s₂ _ hstate => ?_
    cases hsynced : env.replies.syncedTip with
    | error e => exact Program.keeps_error
    | ok chainTip =>
      dsimp only
      cases env.faults.recordChainProgress with
      | some e => exact Program.keeps_error
      | none =>
        dsimp only
        cases htarget : cfg.safeCkbTarget chainTip with
        | none =>
          exact (write_keeps (Q := fun _ => True) (fun st => noted_recordChainProgress ..) fun _ => trivial).bind
            fun _ _ _ _ => Program.keeps_ok fun _ _ _ => trivial
        | some target =>
          have hprogress : (Program.write (Shared.update fun st =>
              st.recordChainProgress CKB_STREAM chainTip target cfg.ckb.reorgLag env.now) : ScanProgram Unit).Keeps
              (scanRely cfg ch listed) (fun _ s' => ReadOff cfg state s') s₂ := by
            refine Program.keeps_write fun s₃ hinv hmoves => ?_
            obtain ⟨hinv', hmoves'⟩ := hinv.noted
              (f := fun st => st.recordChainProgress CKB_STREAM chainTip target cfg.ckb.reorgLag env.now)
              (noted_recordChainProgress ..)
            exact ⟨hinv', hmoves', fun s₄ _ hmoves'' => ((hstate.moved hmoves).moved hmoves').moved hmoves''⟩
          refine hprogress.bind fun _ s₃ _ hstate' => ?_
          by_cases hidle : target.toInt64 ≤ state.lastBlockNumber
          · rw [if_pos hidle]
            exact Program.keeps_ok fun _ _ _ => trivial
          · rw [if_neg hidle]
            exact (buildRoundProgram_keeps hendpoints htip hsynced htarget hidle hstate').bind
              fun built s₄ _ hready => commitRoundProgram_keeps hready

/-- **Every statement of a round keeps the invariant**, and so does the note of a failed one. -/
theorem scannerProgram_keeps (hendpoints : Endpoints cfg ch listed env) (htip : env.replies.getIndexerTip ≠ .ok none)
    (errorText : IndexerError → String) (s : Shared) :
    (scannerProgram cfg env errorText).Keeps (scanRely cfg ch listed) (fun _ _ => True) s := by
  unfold scannerProgram
  refine (scanOnceProgram_keeps hendpoints htip).handle fun e s₁ => ?_
  cases env.faults.setStreamError with
  | some _ => exact Program.keeps_error
  | none =>
    exact (write_keeps (Q := fun _ => True) (fun st => noted_setStreamError ..) fun _ => trivial).bind
      fun _ _ _ _ => Program.keeps_error

end
end RgbppIndexer
