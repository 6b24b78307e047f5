import RgbppIndexer.Bugs.PartialPreimage
import RgbppIndexer.Scan.Collect

/-!
# A digest in match order

"The pre-image covers the RGB++ inputs and RGB++ outputs in transaction order"
(crates/indexer/src/extract.rs:151-152, docs/commitments.md:7-23). The outputs
are read off the transaction; the inputs are resolved in the order of the
merged match list (crates/indexer/src/scanner.rs:319-343): what the RGB++
search lists, then what only the BTC time lock search lists
(scanner.rs:262-291). A BTC time lock input in front of an RGB++ input changes
places with it.

Counterexample: a transaction whose first input is a BTC time lock cell and
whose second is an RGB++ cell (`exchanged_inputs`).

* `cells_of_collected`, `resolved_outPoints`: the order of the resolved inputs
  is that of the two listings.
* `digest_iff`: **the documented digest is recorded exactly when that is the
  order of the transaction**, or else two pre-images collide.
* `inOrder_iff_ascending`: it is, exactly if the listed positions ascend.

Fix: sort `resolved_inputs` by `input_index` before `extract`.
-/
namespace RgbppIndexer.Bugs.MatchOrder

open RgbppIndexer.Core
open RgbppIndexer.Bugs.PartialPreimage (Call)

/-! ## What the documentation says -/

/-- Lock args with the Bitcoin txid they end in zeroed. -/
def zeroedTxid (args : Bytes) : Bytes := args.take (args.length - 32) ++ List.replicate 32 0

/-- A committed output: the cell with its txid zeroed, and its data. -/
def documentedOutput (tx : RpcTransaction) (e : CellOutput × Nat) : CellOutput × Bytes :=
  ({ e.1 with lock := { e.1.lock with args := zeroedTxid e.1.lock.args } }, tx.outputsData.getD e.2 [])

/-- The pre-image of the first `n` inputs and the first `m` outputs, both in transaction order. -/
def documented (tx : RpcTransaction) (n m : Nat) : CommitmentPreimage :=
  .new ((tx.inputs.take n).map RpcCellInput.previousOutput) ((tx.outputs.take m).zipIdx.map (documentedOutput tx))

/-! ## What the searches list -/

/-- The matched inputs of a transaction, in the order in which the two searches list them first. -/
def listedInputs (found : LockKind → List TxRecord) (key : RecordKey) : List MatchedCell :=
  (mergedCells ((found .rgbpp ++ found .btcTime).filter fun x => x.key = key)).filter fun c => c.ioType = .input

/-- The out points that matched inputs consume. -/
def consumed (tx : RpcTransaction) (ms : List MatchedCell) : List CkbOutPoint :=
  ms.filterMap fun c => (tx.inputs[c.ioIndex.toNat]?).map RpcCellInput.previousOutput

/-- The inputs the searches match are the first `n`, the outputs under a protocol lock the first `m`. -/
structure LeadingSurface (p : ProtocolScripts) (tx : RpcTransaction) (listed : List MatchedCell) (n m : Nat) : Prop where
  inputs : ∀ j, (∃ c ∈ listed, c.ioIndex.toNat = j) ↔ j < n
  inputs_le : n ≤ tx.inputs.length
  outputs : ∀ i output, tx.outputs[i]? = some output → ((∃ kind, p.classify output.lock = some kind) ↔ i < m)
  outputs_le : m ≤ tx.outputs.length

/-- The listings name the inputs in transaction order. -/
def InOrder (tx : RpcTransaction) (listed : List MatchedCell) (n : Nat) : Prop :=
  consumed tx listed = (tx.inputs.take n).map RpcCellInput.previousOutput

/-- The one transition recorded for the transaction has this digest. -/
def Records (c : Call) (after : IndexBatch × ScanRound) (digest : ByteArr 32) : Prop :=
  ∃ t, after.1.transitions = c.batch.transitions ++ [t] ∧ t.ckbTxHash = c.record.txHash.toVec ∧
    t.expectedCommitment = some digest.bytes

section
variable {cfg : Config} {env : ScanEnv} {st : Store} {op : CkbOutPoint} {inputIndex : UInt32} {batch : IndexBatch}
  {round : ScanRound} {fromBlock toBlock : UInt64}

/-! ## The inputs -/

/-- A collected record has the cells of the two listings, in their order. -/
theorem cells_of_collected {found : LockKind → List TxRecord} {records : List TxRecord} {record : TxRecord}
    (hfound : ∀ kind, env.replies.collectTransactionsInRange (clientPageLimit cfg) env.pageFuel
      (lockSearchScript cfg.protocol kind) fromBlock toBlock = .ok (found kind))
    (hcollected : collectRange cfg env fromBlock toBlock = .ok records) (hrecord : record ∈ records) :
    matchedInputs record = listedInputs found record.key := by
  obtain ⟨found', hfound', rfl⟩ := collectRange_eq_ok hcollected
  have hsame : found' = found := by
    funext kind
    exact Except.ok.inj ((hfound' kind).symm.trans (hfound kind))
  subst hsame
  have hget := (mergeOf_found found').get? hrecord
  rw [← List.foldl_append] at hget
  unfold matchedInputs listedInputs
  rw [cells_foldl_mergeRecord _ hget]

/-- An input resolves to the cell it names, wherever that is found. -/
theorem resolveInput_outPoint {r : ResolvedInput} {x : IndexBatch × ScanRound}
    (h : resolveInput cfg env st op inputIndex batch round = .ok (some r, x)) : r.outPoint = op := by
  unfold resolveInput at h
  split at h
  · rw [bind_eq_ok] at h
    obtain ⟨resolved, hresolved, h⟩ := h
    cases pure_eq_ok.mp h
    unfold resolvedFromNewCell at hresolved
    dsimp only at hresolved
    split at hresolved
    · rw [pure_bind, bind_eq_ok] at hresolved
      obtain ⟨binding, -, hresolved⟩ := hresolved
      cases pure_eq_ok.mp hresolved
      rfl
    · rw [bind_eq_ok] at hresolved
      obtain ⟨script, -, hresolved⟩ := hresolved
      rw [pure_bind, bind_eq_ok] at hresolved
      obtain ⟨binding, -, hresolved⟩ := hresolved
      cases pure_eq_ok.mp hresolved
      rfl
  · split at h
    · cases h
    · split at h
      · rw [bind_eq_ok] at h
        obtain ⟨binding, -, h⟩ := h
        rw [bind_eq_ok] at h
        obtain ⟨cell, -, h⟩ := h
        cases pure_eq_ok.mp h
        rfl
      · unfold backfillInput at h
        rw [bind_eq_ok] at h
        obtain ⟨reply, -, h⟩ := h
        cases reply with
        | none => cases pure_eq_ok.mp h
        | some withStatus =>
          dsimp only at h
          split at h
          · cases pure_eq_ok.mp h
          · split at h
            · cases pure_eq_ok.mp h
            · split at h
              · cases pure_eq_ok.mp h
              · rw [bind_eq_ok] at h
                obtain ⟨binding, -, h⟩ := h
                cases pure_eq_ok.mp h
                rfl

/-- Where every match resolves, the resolved inputs are those listed, in their order. -/
theorem resolved_outPoints {c : Call} {ms : List MatchedCell} {state state' : InputLoop}
    (h : ms.foldlM (resolveMatched c.cfg c.env c.st c.record c.tx) state = .ok state')
    (hall : ¬ c.ResolvesFrom state ms none) :
    state'.1.map ResolvedInput.outPoint = state.1.map ResolvedInput.outPoint ++ consumed c.tx ms := by
  induction ms generalizing state with
  | nil =>
    rw [List.foldlM_nil, pure_eq_ok] at h
    subst h
    simp [consumed]
  | cons m ms ih =>
    rw [List.foldlM_cons, bind_eq_ok] at h
    obtain ⟨middle, hm, hrest⟩ := h
    obtain ⟨res, hmiddle, hres⟩ := PartialPreimage.resolveMatched_eq_ok hm
    unfold Call.ResolvesFrom at hall
    rw [not_or] at hall
    have hlater := ih hrest fun hlater => hall.2 ⟨middle, hm, hlater⟩
    cases res with
    | none => exact absurd ((hres none).mpr rfl) hall.1
    | some r =>
      obtain ⟨input, b, rd, hin, hresolve⟩ := (hres (some r)).mpr rfl
      have hpoint := resolveInput_outPoint hresolve
      have hhead : consumed c.tx (m :: ms) = r.outPoint :: consumed c.tx ms := by
        unfold consumed
        rw [List.filterMap_cons, hin, hpoint]
        rfl
      rw [hlater, hmiddle, hhead]
      simp

/-! ## The outputs -/

/-- Zeroing the txid is what the placeholder does. -/
theorem placeheld_eq {p : ProtocolScripts} {o : RgbppOutput} (h : Classified p o) : placeheld o =
    ({ o.cell with lock := { o.cell.lock with args := zeroedTxid o.cell.lock.args } }, o.data) := by
  have hzero : BtcTxid.placeholder.toInternalBytes = List.replicate 32 0 := by decide
  have hlen : o.binding.txid.toInternalBytes.length = 32 := by simp
  have hargs : zeroedTxid o.cell.lock.args = o.binding.argsBeforeTxid ++ BtcTxid.placeholder.toInternalBytes := by
    unfold zeroedTxid
    rw [h.args_eq, List.length_append, hlen, Nat.add_sub_cancel, List.take_left, hzero]
  rw [hargs]
  rfl

/-- The classified outputs, committed, are the documented ones. -/
theorem placeheld_outputs {p : ProtocolScripts} {tx : RpcTransaction} {listed : List MatchedCell} {n m : Nat}
    (hlead : LeadingSurface p tx listed n m)
    (hparse : ∀ output ∈ tx.outputs, ∀ kind e, p.classify output.lock = some kind →
      LockBinding.parse kind output.lock.args ≠ .error e) :
    (classifyOutputs p tx.outputs tx.outputsData).map placeheld = (documented tx n m).outputs := by
  have hleading : ∀ e ∈ (tx.outputs.take m).zipIdx, (classifyOutput p tx.outputsData e.2 e.1).map placeheld =
      some (documentedOutput tx e) := by
    rintro ⟨output, i⟩ hmem
    rw [List.mk_mem_zipIdx_iff_getElem?, List.getElem?_take] at hmem
    split at hmem
    · next hi =>
      obtain ⟨kind, hkind⟩ := (hlead.outputs i output hmem).mpr hi
      cases hbinding : LockBinding.parse kind output.lock.args with
      | error e => exact absurd hbinding (hparse output (List.mem_of_getElem? hmem) kind e hkind)
      | ok binding =>
        have hclass : classifyOutput p tx.outputsData i output =
            some ⟨UInt32.ofNat i, binding, output, tx.outputsData.getD i []⟩ := by
          unfold classifyOutput
          rw [hkind]
          dsimp only
          rw [hbinding]
        have hclassified : Classified p ⟨UInt32.ofNat i, binding, output, tx.outputsData.getD i []⟩ :=
          (classifyOutput_eq_some.mp hclass).1
        rw [hclass, Option.map_some, placeheld_eq hclassified]
        rfl
    · cases hmem
  have hbehind : ∀ e ∈ (tx.outputs.drop m).zipIdx m, classifyOutput p tx.outputsData e.2 e.1 = none := by
    rintro ⟨output, i⟩ hmem
    obtain ⟨hle, hget⟩ := List.mk_mem_zipIdx_iff_le_and_getElem?_sub.mp hmem
    rw [List.getElem?_drop, Nat.add_sub_cancel' hle] at hget
    unfold classifyOutput
    cases hkind : p.classify output.lock with
    | none => rfl
    | some kind => exact absurd ((hlead.outputs i output hget).mp ⟨kind, hkind⟩) (Nat.not_lt.mpr hle)
  have hlen : (tx.outputs.take m).length = m := List.length_take_of_le hlead.outputs_le
  unfold classifyOutputs documented
  have hsplit : tx.outputs.zipIdx = (tx.outputs.take m).zipIdx ++ (tx.outputs.drop m).zipIdx m := by
    have hzip : (tx.outputs.take m ++ tx.outputs.drop m).zipIdx =
        (tx.outputs.take m).zipIdx ++ (tx.outputs.drop m).zipIdx (0 + (tx.outputs.take m).length) := List.zipIdx_append
    rw [List.take_append_drop, hlen, Nat.zero_add] at hzip
    exact hzip
  have hnone : (((tx.outputs.drop m).zipIdx m).filterMap fun e => classifyOutput p tx.outputsData e.2 e.1) = [] :=
    List.filterMap_eq_nil_iff.mpr hbehind
  show (tx.outputs.zipIdx.filterMap fun e => classifyOutput p tx.outputsData e.2 e.1).map placeheld =
    (tx.outputs.take m).zipIdx.map (documentedOutput tx)
  rw [hsplit, List.filterMap_append, hnone, List.append_nil, List.map_filterMap, ← List.filterMap_eq_map]
  exact List.filterMap_congr hleading

/-! ## The digest -/

/-- The pre-image in the order in which the searches list the inputs. -/
def inListedOrder (tx : RpcTransaction) (listed : List MatchedCell) (n m : Nat) : CommitmentPreimage :=
  .new (consumed tx listed) (documented tx n m).outputs

/-- A transaction with something on its surface is hashed. -/
theorem LeadingSurface.not_nil {p : ProtocolScripts} {tx : RpcTransaction} {listed : List MatchedCell} {n m : Nat}
    (h : LeadingSurface p tx listed n m) (hsome : 0 < n + m) (hinputs : consumed tx listed = []) :
    (documented tx n m).outputs ≠ [] := by
  intro houtputs
  have hm : m = 0 := by
    have hlen := congrArg List.length houtputs
    unfold documented CommitmentPreimage.new at hlen
    rw [List.length_map, List.length_zipIdx, List.length_take_of_le h.outputs_le] at hlen
    exact hlen
  obtain ⟨c, hc, hindex⟩ := (h.inputs 0).mpr (by omega)
  have hlt : c.ioIndex.toNat < tx.inputs.length := by
    have hle := h.inputs_le
    omega
  have hpoint := List.filterMap_eq_nil_iff.mp hinputs c hc
  rw [List.getElem?_eq_getElem hlt] at hpoint
  cases hpoint

/-- What is recorded for a transaction of which nothing is dropped: the digest in listed order. -/
theorem records_listed [Sha2] {c : Call} {after : IndexBatch × ScanRound} {listed : List MatchedCell} {n m : Nat}
    (hlisted : matchedInputs c.record = listed) (hrun : c.run = .ok after) (hkept : ¬ c.Dropped)
    (hlead : LeadingSurface c.cfg.protocol c.tx listed n m) (hsome : 0 < n + m) (digest : ByteArr 32) :
    Records c after digest ↔ (inListedOrder c.tx listed n m).commitment = digest := by
  obtain ⟨inputs, batch, round, hloop, hrecorded⟩ := PartialPreimage.recorded_eq hrun
  unfold Call.Dropped at hkept
  rw [not_or] at hkept
  have hpoints := resolved_outPoints hloop hkept.2
  rw [List.map_nil, List.nil_append, hlisted] at hpoints
  have houtputs := placeheld_outputs hlead fun output hmem kind e hkind herror =>
    hkept.1 ⟨output, hmem, kind, e, hkind, herror⟩
  have hne : ¬ (inputs = [] ∧ classifyOutputs c.cfg.protocol c.tx.outputs c.tx.outputsData = []) := by
    rintro ⟨hnoinput, hnooutput⟩
    rw [hnoinput, List.map_nil] at hpoints
    rw [hnooutput, List.map_nil] at houtputs
    exact hlead.not_nil hsome hpoints.symm houtputs.symm
  rw [if_neg fun h => hne h.symm] at hrecorded
  have hdigest : expectedCommitment inputs (classifyOutputs c.cfg.protocol c.tx.outputs c.tx.outputsData) =
      some (inListedOrder c.tx listed n m).commitment := by
    unfold expectedCommitment inListedOrder
    rw [expectedPreimage_eq fun o ho => PartialPreimage.classified_of_mem ho, if_neg hne, ← hpoints, ← houtputs]
    rfl
  unfold Records
  constructor
  · rintro ⟨t, htransitions, -, hdigest'⟩
    rw [hrecorded] at htransitions
    obtain rfl := (List.cons.inj (List.append_cancel_left htransitions)).1
    unfold transitionOf at hdigest'
    rw [hdigest, Option.map_some, Option.some.injEq] at hdigest'
    exact ByteArr.ext hdigest'
  · rintro rfl
    refine ⟨_, hrecorded, rfl, ?_⟩
    unfold transitionOf
    rw [hdigest]
    rfl

/-! ## The order -/

/-- What a list of positions consumes, as long as each is a position. -/
theorem map_some_filterMap {α β : Type} {f : α → Option β} {l : List α} (h : ∀ a ∈ l, (f a).isSome = true) :
    (l.filterMap f).map some = l.map f := by
  rw [List.map_filterMap_some_eq_filter_map_isSome, List.filter_eq_self]
  intro b hb
  obtain ⟨a, ha, rfl⟩ := List.mem_map.mp hb
  exact h a ha

/-- Lists that a function does not tell apart are equal, where it is injective. -/
theorem eq_of_map_eq {α β : Type} {f : α → β} {s : α → Prop} (hf : ∀ a b, s a → s b → f a = f b → a = b) {l l' : List α}
    (hl : ∀ a ∈ l, s a) (hl' : ∀ a ∈ l', s a) (h : l.map f = l'.map f) : l = l' := by
  induction l generalizing l' with
  | nil => exact (List.map_eq_nil_iff.mp h.symm).symm
  | cons a l ih =>
    cases l' with
    | nil => cases h
    | cons a' l' =>
      obtain ⟨hhead, htail⟩ := List.cons.inj h
      rw [hf a a' (hl a List.mem_cons_self) (hl' a' List.mem_cons_self) hhead,
        ih (fun x hx => hl x (List.mem_cons_of_mem _ hx)) (fun x hx => hl' x (List.mem_cons_of_mem _ hx)) htail]

/-- **The listings are in order exactly if the positions they list ascend**: no input is consumed twice. -/
theorem inOrder_iff_ascending {p : ProtocolScripts} {tx : RpcTransaction} {listed : List MatchedCell} {n m : Nat}
    (hlead : LeadingSurface p tx listed n m) (hdistinct : tx.inputs.Nodup) :
    InOrder tx listed n ↔ (listed.map fun c => c.ioIndex.toNat).Pairwise (· < ·) := by
  let point : Nat → Option CkbOutPoint := fun j => (tx.inputs[j]?).map RpcCellInput.previousOutput
  have hinj : ∀ j j', j < tx.inputs.length → j' < tx.inputs.length → point j = point j' → j = j' := by
    intro j j' hj hj' hpoint
    simp only [point, List.getElem?_eq_getElem hj, List.getElem?_eq_getElem hj', Option.map_some, Option.some.injEq] at hpoint
    have hinput : tx.inputs[j] = tx.inputs[j'] := congrArg RpcCellInput.mk hpoint
    exact (List.Nodup.getElem_inj_iff hdistinct).mp hinput
  have hsome : ∀ j, j < tx.inputs.length → (point j).isSome = true := by
    intro j hj
    simp only [point, List.getElem?_eq_getElem hj, Option.map_some, Option.isSome_some]
  have hlisted : ∀ j ∈ listed.map (fun c => c.ioIndex.toNat), j < tx.inputs.length := by
    intro j hj
    exact Nat.lt_of_lt_of_le ((hlead.inputs j).mp (List.mem_map.mp hj)) hlead.inputs_le
  have hrange : ∀ j ∈ List.range n, j < tx.inputs.length := by
    intro j hj
    exact Nat.lt_of_lt_of_le (List.mem_range.mp hj) hlead.inputs_le
  have hconsumed : consumed tx listed = (listed.map fun c => c.ioIndex.toNat).filterMap point := by
    rw [List.filterMap_map]
    rfl
  have htake : (tx.inputs.take n).map RpcCellInput.previousOutput = (List.range n).filterMap point := by
    apply List.map_injective_iff.mpr (Option.some_injective CkbOutPoint)
    rw [map_some_filterMap fun j hj => hsome j (hrange j hj)]
    apply List.ext_getElem
    · simp [hlead.inputs_le]
    · intro j hj hj'
      have hlt : j < tx.inputs.length := by simp at hj; omega
      simp [point, List.getElem?_eq_getElem hlt]
  unfold InOrder
  rw [hconsumed, htake]
  constructor
  · intro h
    have hmap := congrArg (List.map some) h
    rw [map_some_filterMap fun j hj => hsome j (hlisted j hj), map_some_filterMap fun j hj => hsome j (hrange j hj)] at hmap
    rw [eq_of_map_eq hinj hlisted hrange hmap]
    exact List.pairwise_lt_range
  · intro hascend
    have hperm : (listed.map fun c => c.ioIndex.toNat).Perm (List.range n) := by
      rw [List.perm_ext_iff_of_nodup (hascend.imp fun h => Nat.ne_of_lt h) List.nodup_range]
      intro j
      rw [List.mem_map, List.mem_range]
      exact hlead.inputs j
    rw [hperm.eq_of_pairwise (fun a b _ _ hab hba => absurd hab (Nat.lt_asymm hba)) hascend List.pairwise_lt_range]

/-- **The documented digest is recorded exactly when the searches list the inputs in transaction order**, or the
pre-images of the two orders collide. -/
theorem digest_iff [Sha2] (c : Call) (after : IndexBatch × ScanRound) (fromBlock toBlock : UInt64)
    (found : LockKind → List TxRecord) (records : List TxRecord) (n m : Nat)
    (hfound : ∀ kind, c.env.replies.collectTransactionsInRange (clientPageLimit c.cfg) c.env.pageFuel
      (lockSearchScript c.cfg.protocol kind) fromBlock toBlock = .ok (found kind))
    (hcollected : collectRange c.cfg c.env fromBlock toBlock = .ok records) (hrecord : c.record ∈ records)
    (hrun : c.run = .ok after) (hkept : ¬ c.Dropped)
    (hlead : LeadingSurface c.cfg.protocol c.tx (listedInputs found c.record.key) n m) (hsome : 0 < n + m) :
    Records c after (documented c.tx n m).commitment ↔
      InOrder c.tx (listedInputs found c.record.key) n ∨
        Collides (inListedOrder c.tx (listedInputs found c.record.key) n m).encode (documented c.tx n m).encode := by
  rw [records_listed (cells_of_collected hfound hcollected hrecord) hrun hkept hlead hsome]
  unfold CommitmentPreimage.commitment
  rw [doubleSha256_eq_iff]
  refine or_congr_left ?_
  constructor
  · exact CommitmentPreimage.inputs_of_encode
  · intro h
    unfold inListedOrder
    rw [h]
    rfl

end

/-! ## The counterexample -/

section
open Sample

local instance orderHash : Sha2 := .standard

/-- A BTC time lock cell of the deployment. -/
def timeLocked : CellOutput where
  capacity := 142
  lock :=
    { codeHash := ProtocolScripts.testnet.btcTimeLock.codeHash, hashType := .type
      args := (BtcTimeLockArgs.mk ⟨hash 0, .type, []⟩ 6 btcTxid).encode }
  type_ := none

/-- It creates an RGB++ cell and a BTC time lock cell. -/
def funding : RpcTransaction where
  hash := hash 1
  inputs := []
  outputs := [(boundOutput 142 btcTxid).cell, timeLocked]
  outputsData := [[], []]

/-- It consumes both, in an order of its own, and creates an RGB++ cell. -/
def spending (inputs : List UInt32) : RpcTransaction where
  hash := hash 2
  inputs := inputs.map fun index => ⟨⟨hash 1, index⟩⟩
  outputs := [(boundOutput 142 ⟨.filled 32 8⟩).cell]
  outputsData := [[]]

/-- The BTC time lock cell is the first input. -/
def exchanged : Chain :=
  .ofBlocks [block 0 [], block 1 [], block 2 [funding], block 3 [spending [1, 0]]] (by decide +kernel)

/-- The RGB++ cell is. -/
def straight : Chain :=
  .ofBlocks [block 0 [], block 1 [], block 2 [funding], block 3 [spending [0, 1]]] (by decide +kernel)

def found (ch : Chain) (kind : LockKind) : List TxRecord :=
  ((env (ch.serve 3)).replies.collectTransactionsInRange (clientPageLimit (.testnet 64)) (env (ch.serve 3)).pageFuel
    (lockSearchScript (Config.testnet 64).protocol kind) 1 3).toOption.getD []

def collected (ch : Chain) : List TxRecord := (collectRange (.testnet 64) (env (ch.serve 3)) 1 3).toOption.getD []

/-- The spending transaction, from its collected record. -/
def call (ch : Chain) (inputs : List UInt32) : Call where
  cfg := .testnet 64
  env := env (ch.serve 3)
  st := .empty
  record := (collected ch).getD 1 ⟨hash 2, 3, 0, []⟩
  block := { number := 3, hash := hash 103, timestamp := 0, txIndex := 0 }
  tx := spending inputs
  status := { status := .committed, blockNumber := some 3, blockHash := some (hash 103) }
  batch := {}
  round := {}

theorem listed_exchanged : listedInputs (found exchanged) (call exchanged [1, 0]).record.key = [⟨.input, 1⟩, ⟨.input, 0⟩] := by
  decide +kernel

theorem listed_straight : listedInputs (found straight) (call straight [0, 1]).record.key = [⟨.input, 0⟩, ⟨.input, 1⟩] := by
  decide +kernel

/-- Both inputs and the one output are the surface. -/
theorem surface {inputs : List UInt32} (hlen : inputs.length = 2) {listed : List MatchedCell}
    (hlisted : ∀ j, (∃ c ∈ listed, c.ioIndex.toNat = j) ↔ j < 2) :
    LeadingSurface (Config.testnet 64).protocol (spending inputs) listed 2 1 where
  inputs := hlisted
  inputs_le := by simp [spending, hlen]
  outputs := by
    intro i output hget
    cases i with
    | zero =>
      obtain rfl := Option.some.inj hget
      exact iff_of_true ⟨.rgbpp, by decide +kernel⟩ Nat.zero_lt_one
    | succ i => cases hget
  outputs_le := Nat.le_refl 1

/-- A transaction both of whose inputs resolve is kept whole. -/
theorem kept {ch : Chain} {inputs : List UInt32}
    (hresolved : ((matchedInputs (call ch inputs).record).foldlM (resolveMatched (.testnet 64) (env (ch.serve 3)) .empty
      (call ch inputs).record (spending inputs)) ([], {}, {})).map (fun loop => loop.1.length) =
        .ok (matchedInputs (call ch inputs).record).length) : ¬ (call ch inputs).Dropped := by
  rintro (⟨output, hmem, kind, e, hkind, herror⟩ | hnone)
  · obtain rfl := List.mem_singleton.mp hmem
    have hrgbpp : (Config.testnet 64).protocol.classify (boundOutput 142 ⟨.filled 32 8⟩).cell.lock = some .rgbpp := by
      decide +kernel
    obtain rfl := Option.some.inj (hrgbpp.symm.trans hkind)
    have hparse : LockBinding.parse .rgbpp (boundOutput 142 ⟨.filled 32 8⟩).cell.lock.args =
        .ok (boundOutput 142 ⟨.filled 32 8⟩).binding := by
      decide +kernel
    rw [hparse] at herror
    cases herror
  · cases hloop : (matchedInputs (call ch inputs).record).foldlM (resolveMatched (.testnet 64) (env (ch.serve 3)) .empty
      (call ch inputs).record (spending inputs)) ([], {}, {}) with
    | error e =>
      rw [hloop] at hresolved
      cases hresolved
    | ok loop =>
      rw [hloop] at hresolved
      have hlen := Except.ok.inj hresolved
      refine PartialPreimage.all_resolved (c := call ch inputs) hloop ?_ hnone
      simpa using hlen

/-- **The inputs are exchanged in the digest**: the search for BTC time lock cells comes second. -/
theorem exchanged_inputs : ∃ after, (call exchanged [1, 0]).run = .ok after ∧ ¬ (call exchanged [1, 0]).Dropped ∧
    LeadingSurface (Config.testnet 64).protocol (spending [1, 0])
      (listedInputs (found exchanged) (call exchanged [1, 0]).record.key) 2 1 ∧
    ¬ Records (call exchanged [1, 0]) after (documented (spending [1, 0]) 2 1).commitment := by
  obtain ⟨after, hrun⟩ : ∃ after, (call exchanged [1, 0]).run = .ok after := exists_ok_of_isOk (by decide +kernel)
  have hkept : ¬ (call exchanged [1, 0]).Dropped := kept (by decide +kernel)
  have hlead : LeadingSurface (Config.testnet 64).protocol (spending [1, 0])
      (listedInputs (found exchanged) (call exchanged [1, 0]).record.key) 2 1 := by
    refine surface rfl fun j => ?_
    rw [listed_exchanged]
    simp
    omega
  refine ⟨after, hrun, hkept, hlead, fun hrecords => ?_⟩
  have hlisted : matchedInputs (call exchanged [1, 0]).record =
      listedInputs (found exchanged) (call exchanged [1, 0]).record.key := by decide +kernel
  have hsame := (records_listed hlisted hrun hkept hlead (by decide) _).mp hrecords
  have hdiffer : (inListedOrder (spending [1, 0]) (listedInputs (found exchanged) (call exchanged [1, 0]).record.key) 2
      1).commitment ≠ (documented (spending [1, 0]) 2 1).commitment := by decide +kernel
  exact hdiffer hsame

/-- With the RGB++ input first, the digest is the documented one. -/
theorem digest_iff_straight : ∃ after, (call straight [0, 1]).run = .ok after ∧
    Records (call straight [0, 1]) after (documented (spending [0, 1]) 2 1).commitment := by
  obtain ⟨after, hrun⟩ : ∃ after, (call straight [0, 1]).run = .ok after := exists_ok_of_isOk (by decide +kernel)
  have hfound : ∀ kind, (env (straight.serve 3)).replies.collectTransactionsInRange (clientPageLimit (.testnet 64))
      (env (straight.serve 3)).pageFuel (lockSearchScript (Config.testnet 64).protocol kind) 1 3 = .ok (found straight kind) := by
    intro kind
    cases kind <;> decide +kernel
  have hlead : LeadingSurface (Config.testnet 64).protocol (spending [0, 1])
      (listedInputs (found straight) (call straight [0, 1]).record.key) 2 1 := by
    refine surface rfl fun j => ?_
    rw [listed_straight]
    simp
    omega
  have hrecord : (call straight [0, 1]).record ∈ collected straight := by decide +kernel
  refine ⟨after, hrun, (digest_iff (call straight [0, 1]) after 1 3 (found straight) (collected straight) 2 1 hfound
    (by decide +kernel) hrecord hrun (kept (by decide +kernel)) hlead (by decide)).mpr (.inl ?_)⟩
  unfold InOrder
  rw [listed_straight]
  decide +kernel

end
end RgbppIndexer.Bugs.MatchOrder
