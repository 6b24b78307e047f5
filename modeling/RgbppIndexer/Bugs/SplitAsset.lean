import Mathlib.Data.List.Count
import RgbppIndexer.Api.Assets
import RgbppIndexer.Chain.Serve
import RgbppIndexer.Core.Lts
import RgbppIndexer.Scan.Round

/-!
# An asset with two kinds is listed twice and answered in part

"Keyed by type script hash, which is the only identity an asset has here"
(crates/store/src/models.rs:351), `count_assets` counts the type hashes of a
filter "for paging" (crates/store/src/stats.rs:104), and `assets_batch` keeps
one row for each (crates/api/src/handlers.rs:536-539). The summaries are grouped
by `type_hash, asset_kind` (stats.rs:181). The kind of a cell is what the
`[assets]` settings made of it when it was indexed: an insert that meets the
row again leaves it (crates/store/src/cells.rs:182-185), so a code hash that is
added later splits the asset into the cells before and the cells after.

* `listedOnce_iff`, `covers_iff`: which filters are listed right, and which hashes answered.
* `complete_iff`: **after a run of batches every listing and every answer is
  right, exactly if each batch gave its new cells the kind of the cells with
  their type hash.**
* `split_by_configuration`: two passes of the scanner, the second with the code hash.

Counterexample: an xUDT is issued in block 1 and once more in block 2. Block 1 is
scanned while its code hash is not configured. The asset is listed as `xudt` and
as `unknown` with a total of 1, and the batch says that it has one cell and no
amount.

Fix: group by `type_hash` alone, with the kind as one more aggregate.
-/
namespace RgbppIndexer.Bugs.SplitAsset

open RgbppIndexer.Core Store

/-- All cells with the type hash. -/
def cellsOf (st : Store) (h : Bytes) : List (CellKey × CellRecord) :=
  st.rgbppCells.select fun _ c => decide (c.typeHash = some h)

/-! ## What the endpoints promise -/

/-- The filter selects the asset. -/
def Matching (st : Store) (kinds : List String) (h : Bytes) : Prop :=
  ∃ e ∈ st.rgbppCells.entries, e.2.typeHash = some h ∧ e.2.assetKind.asStr ∈ kinds

/-- "Every distinct asset of the given kinds", and as many rows as the count says. -/
structure ListedOnce (st : Store) (kinds : List String) (assets : List AssetDto) : Prop where
  once : ∀ h, Matching st kinds h → (assets.map AssetDto.typeHash).count (bytesToHex h) = 1
  only : ∀ a ∈ assets, ∃ h, Matching st kinds h ∧ a.typeHash = bytesToHex h
  total : assets.length = st.countAssets kinds

/-- The summary is about all cells with the type hash: how many there are, how many of them are live, and
what the live ones hold if it is a fungible asset. -/
structure Summarises (st : Store) (h : Bytes) (a : AssetDto) : Prop where
  typeHash : a.typeHash = bytesToHex h
  cellCount : a.cellCount = (cellsOf st h).length
  liveCellCount : a.liveCellCount = ((cellsOf st h).filter fun e => e.2.consumed.isNone).length
  totalAmount : a.totalAmount =
    if (cellsOf st h).any fun e => e.2.assetKind.isFungible then
      some (plainDecimal ((((cellsOf st h).filter fun e => e.2.consumed.isNone).map fun e => e.2.udtAmount.getD 0).sum : Nat))
    else none

/-- "null when the index has never seen it" -/
def Covers (st : Store) (h : Bytes) : Option AssetDto → Prop
  | none => cellsOf st h = []
  | some a => Summarises st h a

/-- Every listing is right, and every batch. -/
structure Complete (st : Store) : Prop where
  listed : ∀ (kinds : List String) (limit : Int) (orders : Nat → AssetOrders) (fuel : Nat), 1 ≤ limit →
    st.rgbppCells.entries.length < fuel →
    ∃ assets, collectAssets orders st kinds limit fuel = some assets ∧ ListedOnce st kinds assets
  answered : ∀ (errorText : TypesError → String) (maxPageSize : Int) (orders : AssetOrders) (texts : List String)
    (answers : List (Option AssetDto)), assetsBatch errorText maxPageSize orders st texts = .ok answers →
    List.Forall₂ (fun text answer => ∃ hash, H256.fromHex text = .ok hash ∧ Covers st hash.toVec answer) texts answers

section
variable {st : Store} {kinds : List String} {assets : List AssetDto} {h : Bytes}

/-! ## Listings -/

theorem matching_iff : Matching st kinds h ↔ h ∈ (labels (st.assetCells (kindIn kinds))).dedup.map Prod.fst := by
  constructor
  · rintro ⟨e, he, hhash, hkind⟩
    have hcell : e ∈ st.assetCells (kindIn kinds) := mem_assetCells.mpr ⟨he, by rw [hhash]; rfl, decide_eq_true hkind⟩
    exact List.mem_map.mpr ⟨(h, e.2.assetKind), List.mem_dedup.mpr (mem_labels.mpr ⟨e, hcell, hhash, rfl⟩), rfl⟩
  · intro hmem
    obtain ⟨⟨_, kind⟩, hlabel, rfl⟩ := List.mem_map.mp hmem
    obtain ⟨e, he, hhash, rfl⟩ := mem_labels.mp (List.mem_dedup.mp hlabel)
    obtain ⟨hentry, -, hkind⟩ := mem_assetCells.mp he
    exact ⟨e, hentry, hhash, of_decide_eq_true hkind⟩

/-- **A filter is listed right exactly if no type hash has two of its kinds.** -/
theorem listedOnce_iff (hcolumn : (assets.map AssetDto.typeHash).Perm
      (((labels (st.assetCells (kindIn kinds))).dedup.map Prod.fst).map bytesToHex)) :
    ListedOnce st kinds assets ↔ OneKind (st.assetCells (kindIn kinds)) := by
  have hlength : assets.length = ((labels (st.assetCells (kindIn kinds))).dedup.map Prod.fst).length := by
    rw [← List.length_map AssetDto.typeHash, hcolumn.length_eq, List.length_map]
  rw [← nodup_labels_iff]
  constructor
  · intro hlisted
    have htotal := hlisted.total
    rw [hlength, countAssets_eq] at htotal
    rw [← List.dedup_eq_self]
    exact (List.dedup_sublist _).eq_of_length htotal.symm
  · intro hnodup
    refine ⟨fun h hmatch => ?_, fun a ha => ?_, ?_⟩
    · rw [hcolumn.count_eq, List.count_map_of_injective _ _ bytesToHex_injective]
      exact List.count_eq_one_of_mem hnodup (matching_iff.mp hmatch)
    · obtain ⟨h, hmem, hhash⟩ := List.mem_map.mp (hcolumn.subset (List.mem_map_of_mem ha))
      exact ⟨h, matching_iff.mpr hmem, hhash.symm⟩
    · rw [hlength, countAssets_eq, List.dedup_eq_self.mpr hnodup]

/-! ## Answers -/

variable {orders : AssetOrders} {keys : List Bytes}

/-- The cells of a group are the cells of its type hash under its kind. -/
theorem group_eq (st : Store) (hkey : h ∈ keys) (kind : AssetKind) :
    ((st.assetCells fun c => decide (∃ h ∈ keys, c.typeHash = some h)).filter fun e =>
        decide (e.2.typeHash = some h ∧ e.2.assetKind = kind)) =
      (cellsOf st h).filter fun e => decide (e.2.assetKind = kind) := by
  unfold assetCells cellsOf Table.select
  rw [List.filter_filter, List.filter_filter]
  refine List.filter_congr fun e _ => ?_
  by_cases hhash : e.2.typeHash = some h
  · simp [hhash, hkey]
  · simp [hhash]

/-- A row for the type hash is about one of its kinds. -/
theorem exists_of_mem_rows {row : AssetRow} (hrow : row ∈ st.assetsByTypeHashes orders keys) :
    ∃ e ∈ cellsOf st row.typeHash, row = st.assetRow orders.cells
      (st.assetCells fun c => decide (∃ h ∈ keys, c.typeHash = some h)) (row.typeHash, e.2.assetKind) := by
  obtain ⟨⟨h, kind⟩, hlabel, rfl⟩ := List.mem_map.mp ((assetsByTypeHashes_perm orders keys).mem_iff.mp hrow)
  obtain ⟨e, he, hhash, rfl⟩ := mem_labels.mp (List.mem_dedup.mp hlabel)
  exact ⟨e, List.mem_filter.mpr ⟨(mem_assetCells.mp he).1, decide_eq_true hhash⟩, rfl⟩

/-- A type hash with a cell has a row. -/
theorem exists_row (orders : AssetOrders) {e : CellKey × CellRecord} (hkey : h ∈ keys) (he : e ∈ cellsOf st h) :
    ∃ row ∈ st.assetsByTypeHashes orders keys, row.typeHash = h := by
  obtain ⟨hentry, hhash⟩ := List.mem_filter.mp he
  have hhash := of_decide_eq_true hhash
  refine ⟨_, (assetsByTypeHashes_perm orders keys).mem_iff.mpr (List.mem_map.mpr ⟨(h, e.2.assetKind), ?_, rfl⟩), rfl⟩
  refine List.mem_dedup.mpr (mem_labels.mpr ⟨e, mem_assetCells.mpr ⟨hentry, by rw [hhash]; rfl, ?_⟩, hhash, rfl⟩)
  exact decide_eq_true ⟨h, hkey, hhash⟩

/-- The answer to a key that is asked for. -/
def answer (orders : AssetOrders) (st : Store) (keys : List Bytes) (h : Bytes) : Option AssetDto :=
  (((st.assetsByTypeHashes orders keys).filter fun row => row.typeHash = h).getLast?).map AssetDto.ofRow

theorem answer_cases (orders : AssetOrders) (hkey : h ∈ keys) :
    (answer orders st keys h = none ∧ cellsOf st h = []) ∨
      ∃ e ∈ cellsOf st h, answer orders st keys h = some (AssetDto.ofRow (st.assetRow orders.cells
        (st.assetCells fun c => decide (∃ h ∈ keys, c.typeHash = some h)) (h, e.2.assetKind))) := by
  unfold answer
  cases hlast : ((st.assetsByTypeHashes orders keys).filter fun row => row.typeHash = h).getLast? with
  | none =>
    refine .inl ⟨rfl, List.eq_nil_iff_forall_not_mem.mpr fun e he => ?_⟩
    obtain ⟨row, hrow, hhash⟩ := exists_row orders hkey he
    rw [List.getLast?_eq_none_iff, List.filter_eq_nil_iff] at hlast
    exact hlast row hrow (decide_eq_true hhash)
  | some row =>
    obtain ⟨hrow, hhash⟩ := List.mem_filter.mp (List.mem_of_getLast? hlast)
    obtain rfl := of_decide_eq_true hhash
    obtain ⟨e, he, heq⟩ := exists_of_mem_rows hrow
    exact .inr ⟨e, he, by rw [Option.map_some]; exact congrArg (some ∘ AssetDto.ofRow) heq⟩

/-- **A hash is answered in full exactly if its cells have one kind.** -/
theorem covers_iff (hkey : h ∈ keys) : Covers st h (answer orders st keys h) ↔ OneKind (cellsOf st h) := by
  have hhash : ∀ e ∈ cellsOf st h, e.2.typeHash = some h := fun e he => of_decide_eq_true (List.mem_filter.mp he).2
  rcases answer_cases orders hkey with ⟨hnone, hnil⟩ | ⟨e, he, hsome⟩
  · rw [hnone]
    exact iff_of_true hnil fun e he => absurd he (by rw [hnil]; exact List.not_mem_nil)
  · rw [hsome]
    constructor
    · intro hcovers
      have hcount := hcovers.cellCount
      simp only [AssetDto.ofRow, assetRow, group_eq st hkey] at hcount
      rw [List.length_filter_eq_length_iff] at hcount
      intro a ha b hb _ _ _
      rw [of_decide_eq_true (hcount a ha), of_decide_eq_true (hcount b hb)]
    · intro hone
      have hkind : ∀ a ∈ cellsOf st h, a.2.assetKind = e.2.assetKind := fun a ha =>
        hone a ha e he h (hhash a ha) (hhash e he)
      have hall : ((cellsOf st h).filter fun a => decide (a.2.assetKind = e.2.assetKind)) = cellsOf st h :=
        List.filter_eq_self.mpr fun a ha => decide_eq_true (hkind a ha)
      have hgroup := (group_eq st hkey e.2.assetKind).trans hall
      have hany : ((cellsOf st h).any fun a => a.2.assetKind.isFungible) = e.2.assetKind.isFungible := by
        rw [Bool.eq_iff_iff, List.any_eq_true]
        exact ⟨fun ⟨a, ha, hfungible⟩ => hkind a ha ▸ hfungible, fun hfungible => ⟨e, he, hfungible⟩⟩
      refine ⟨rfl, congrArg List.length hgroup, ?_, ?_⟩
      · simp only [AssetDto.ofRow, assetRow, hgroup]
      · simp only [AssetDto.ofRow, assetRow, hgroup, hany]
        cases hlive : (cellsOf st h).filter fun a => a.2.consumed.isNone with
        | nil => rfl
        | cons a rest => rfl

/-! ## One kind for each type hash -/

/-- **Every listing and every answer is right exactly if no type hash has two kinds.** -/
theorem complete_iff_oneKind : Complete st ↔ OneKind st.rgbppCells.entries := by
  constructor
  · intro hcomplete e he e' he' h hhash hhash'
    -- the filter that selects the kinds of both
    obtain ⟨assets, hassets, honce⟩ := hcomplete.listed [e.2.assetKind.asStr, e'.2.assetKind.asStr] 1
      (fun _ => ⟨.storage, .storage, .storage⟩) _ (Int.le_refl 1) (Nat.lt_succ_self _)
    obtain ⟨assets', hassets', hcolumn⟩ := collectAssets_column (Int.le_refl 1) (Nat.lt_succ_self _)
    rw [hassets'] at hassets
    obtain rfl := Option.some.inj hassets
    refine (listedOnce_iff hcolumn).mp honce e ?_ e' ?_ h hhash hhash'
    · exact mem_assetCells.mpr ⟨he, by rw [hhash]; rfl, decide_eq_true (by simp)⟩
    · exact mem_assetCells.mpr ⟨he', by rw [hhash']; rfl, decide_eq_true (by simp)⟩
  · intro hone
    refine ⟨fun kinds limit orders fuel hlimit hfuel => ?_, fun errorText maxPageSize orders texts answers hok => ?_⟩
    · obtain ⟨assets, hassets, hcolumn⟩ := collectAssets_column hlimit hfuel
      exact ⟨assets, hassets, (listedOnce_iff hcolumn).mpr (hone.subset fun e he => (mem_assetCells.mp he).1)⟩
    · refine forall₂_of_assetsBatch hok fun keys => ?_
      rw [batchAnswers_eq, List.forall₂_map_right_iff, List.forall₂_same]
      exact fun h hkey => (covers_iff hkey).mpr (hone.subset fun e he => (List.mem_filter.mp he).1)

end

/-! ## Runs -/

/-- Batches are applied to the tables the migrations leave; whatever else writes, writes other tables. -/
def indexing : Lts Store IndexBatch where
  init st := st.rgbppCells = .empty
  step st batch st' := ∃ now, st'.rgbppCells = (st.applyBatch batch now).1.rgbppCells

/-- The cells a batch adds: their out points are new, and it has none before with the same one. -/
def Records (st : Store) (batch : IndexBatch) (c : NewCell) : Prop :=
  st.rgbppCells.get? c.key = none ∧ (batch.cells.find? fun d => d.key = c.key) = some c

/-- **What a batch adds to a type hash has the kind of the cells with it**, of those that are there and of its own. -/
def Alike (st : Store) (batch : IndexBatch) : Prop :=
  ∀ c, Records st batch c → ∀ h, c.typeHash = some h →
    (∀ e ∈ st.rgbppCells.entries, e.2.typeHash = some h → e.2.assetKind = c.assetKind) ∧
      ∀ d, Records st batch d → d.typeHash = some h → d.assetKind = c.assetKind

/-- What the row of an out point says about the output. -/
def bodyAt (st : Store) (key : CellKey) : Option CellBody := (st.rgbppCells.get? key).map CellRecord.toCellBody

section
variable {st st' : Store} {batch : IndexBatch} {key : CellKey} {body : CellBody}

theorem bodyAt_eq_some : bodyAt st key = some body ↔ ∃ row, (key, row) ∈ st.rgbppCells.entries ∧ row.toCellBody = body := by
  simp only [bodyAt, Option.map_eq_some_iff, Table.get?_eq_some_iff]

theorem oneKind_iff : OneKind st.rgbppCells.entries ↔ ∀ key key' body body', bodyAt st key = some body →
    bodyAt st key' = some body' → ∀ h, body.typeHash = some h → body'.typeHash = some h → body.assetKind = body'.assetKind := by
  constructor
  · intro hone key key' body body' hbody hbody'
    obtain ⟨row, hrow, rfl⟩ := bodyAt_eq_some.mp hbody
    obtain ⟨row', hrow', rfl⟩ := bodyAt_eq_some.mp hbody'
    exact hone (key, row) hrow (key', row') hrow'
  · intro hone e he e' he'
    exact hone e.1 e'.1 _ _ (bodyAt_eq_some.mpr ⟨e.2, he, rfl⟩) (bodyAt_eq_some.mpr ⟨e'.2, he', rfl⟩)

/-- A batch leaves the bodies that are there and adds those of its new cells. -/
theorem bodyAt_step (hstep : indexing.step st batch st') : bodyAt st' key = some body ↔
    bodyAt st key = some body ∨ ∃ c, Records st batch c ∧ c.key = key ∧ c.toCellBody = body := by
  obtain ⟨now, hcells⟩ := hstep
  have hbody : bodyAt st' key = (bodyAt st key).or ((batch.cells.find? fun c => c.key = key).map NewCell.toCellBody) := by
    unfold bodyAt
    rw [hcells, applyBatch_fst]
    dsimp only
    rw [body_foldl_cellSpend, body_foldl_cellInsert]
  rw [hbody]
  unfold Records
  cases hrow : st.rgbppCells.get? key with
  | some row =>
    have hsome : bodyAt st key = some row.toCellBody := by rw [bodyAt, hrow, Option.map_some]
    rw [hsome, Option.some_or]
    refine ⟨.inl, fun h => h.resolve_right ?_⟩
    rintro ⟨c, ⟨hnone, -⟩, rfl, -⟩
    rw [hrow] at hnone
    cases hnone
  | none =>
    have hnone : bodyAt st key = none := by rw [bodyAt, hrow, Option.map_none]
    rw [hnone, Option.none_or, Option.map_eq_some_iff]
    constructor
    · rintro ⟨c, hfind, rfl⟩
      have hkey : c.key = key := by simpa using List.find?_some hfind
      exact .inr ⟨c, ⟨hkey ▸ hrow, hkey.symm ▸ hfind⟩, hkey, rfl⟩
    · rintro (hold | ⟨c, ⟨-, hfind⟩, rfl, rfl⟩)
      · cases hold
      · exact ⟨c, hfind, rfl⟩

/-- **One step.** -/
theorem oneKind_step (hstep : indexing.step st batch st') :
    OneKind st'.rgbppCells.entries ↔ OneKind st.rgbppCells.entries ∧ Alike st batch := by
  rw [oneKind_iff, oneKind_iff]
  constructor
  · intro hone
    refine ⟨fun key key' body body' hbody hbody' => ?_, fun c hc h hhash => ⟨fun e he hother => ?_, fun d hd hother => ?_⟩⟩
    · exact hone key key' body body' ((bodyAt_step hstep).mpr (.inl hbody)) ((bodyAt_step hstep).mpr (.inl hbody'))
    · have hold : bodyAt st e.1 = some e.2.toCellBody := bodyAt_eq_some.mpr ⟨e.2, he, rfl⟩
      exact hone _ _ _ _ ((bodyAt_step hstep).mpr (.inl hold)) ((bodyAt_step hstep).mpr (.inr ⟨c, hc, rfl, rfl⟩)) h hother hhash
    · exact hone _ _ _ _ ((bodyAt_step hstep).mpr (.inr ⟨d, hd, rfl, rfl⟩)) ((bodyAt_step hstep).mpr (.inr ⟨c, hc, rfl, rfl⟩))
        h hother hhash
  · rintro ⟨hone, halike⟩ key key' body body' hbody hbody' h hhash hhash'
    rcases (bodyAt_step hstep).mp hbody with hold | ⟨c, hc, rfl, rfl⟩
    · rcases (bodyAt_step hstep).mp hbody' with hold' | ⟨d, hd, rfl, rfl⟩
      · exact hone key key' body body' hold hold' h hhash hhash'
      · obtain ⟨row, hrow, rfl⟩ := bodyAt_eq_some.mp hold
        exact (halike d hd h hhash').1 (key, row) hrow hhash
    · rcases (bodyAt_step hstep).mp hbody' with hold' | ⟨d, hd, rfl, rfl⟩
      · obtain ⟨row, hrow, rfl⟩ := bodyAt_eq_some.mp hold'
        exact ((halike c hc h hhash).1 (key', row) hrow hhash').symm
      · exact (halike d hd h hhash').2 c hc hhash

/-- **After a run of batches every listing and every answer is right exactly if the steps were all alike.** -/
theorem complete_iff {batches : List IndexBatch} (hinit : indexing.init st) (hrun : indexing.Run st batches st') :
    Complete st' ↔ (indexing.restrict Alike).Run st batches st' := by
  rw [complete_iff_oneKind]
  constructor
  · intro hone
    induction hrun with
    | nil => exact .nil
    | snoc _ hstep ih =>
      obtain ⟨hbefore, halike⟩ := (oneKind_step hstep).mp hone
      exact .snoc (ih hbefore) ⟨hstep, halike⟩
  · intro halike
    refine halike.keeps (I := fun st => OneKind st.rgbppCells.entries) (fun s a t hs hstep => ?_) ?_
    · exact (oneKind_step hstep.1).mpr ⟨hs, hstep.2⟩
    · rw [show st.rgbppCells = .empty from hinit]
      exact fun e he => absurd he List.not_mem_nil

/-- A pass of the scanner, under any configuration, applies a batch. -/
theorem scannerStep_indexing [Sha2] (cfg : Config) (env : ScanEnv) (errorText : IndexerError → String) (st : Store) :
    ∃ batch, indexing.step st batch (scannerStep cfg env errorText st) := by
  rcases scannerStep_cases cfg env errorText st with hnoted | ⟨reads, batch, hcommitted⟩
  · exact ⟨{}, 0, by rw [hnoted.cells, applyBatch_fst]; rfl⟩
  · exact ⟨batch, 0, by rw [hcommitted.facts, applyBatch_fst]⟩

end

/-! ## The counterexample -/

section

local instance splitHash : Sha2 := .standard

/-- The type script of an xUDT. -/
def coin : Script where
  codeHash := (AssetScripts.testnet.xudt.map ScriptId.codeHash).headD .ZERO
  hashType := .type
  args := []

/-- It issues 5 units of the coin. -/
def issuance (hash : H256) : RpcTransaction where
  hash := hash
  inputs := []
  outputs := [{ (boundOutput 142 Sample.btcTxid).cell with type_ := some coin }]
  outputsData := [5 :: List.replicate 15 0]

def issuances : Chain :=
  .ofBlocks [Sample.block 0 [], Sample.block 1 [issuance (Sample.hash 1)], Sample.block 2 [issuance (Sample.hash 2)]]
    (by decide +kernel)

/-- The deployment before the code hash of xUDT is configured. -/
def unconfigured : Config := { Config.testnet 64 with assets := ⟨[], [], [], []⟩ }

def first : Store := scannerStep unconfigured (Sample.env (issuances.serve 1)) (fun _ => "") .empty

def split : Store := scannerStep (.testnet 64) (Sample.env (issuances.serve 2)) (fun _ => "") first

def storage : AssetOrders := ⟨.storage, .storage, .storage⟩

def everyKind : List String := ["xudt", "sudt", "spore", "spore_cluster", "unknown"]

theorem split_reached : ∃ batches, indexing.Run .empty batches split := by
  obtain ⟨batch, hfirst⟩ := scannerStep_indexing unconfigured (Sample.env (issuances.serve 1)) (fun _ => "") .empty
  obtain ⟨batch', hsecond⟩ := scannerStep_indexing (.testnet 64) (Sample.env (issuances.serve 2)) (fun _ => "") first
  exact ⟨_, .cons hfirst (.single hsecond)⟩

theorem listed_twice : assetKinds (some "all") = .ok everyKind ∧
    ((collectAssets (fun _ => storage) split everyKind 1 3).map fun assets => assets.map fun a => (a.typeHash, a.assetKind)) =
      some [(coin.calcHash.toHex, "xudt"), (coin.calcHash.toHex, "unknown")] ∧
    split.countAssets everyKind = 1 := by
  decide +kernel

/-- **The asset is listed twice, counted once, and answered for the first of its cells only.** -/
theorem split_by_configuration :
    (∃ batches, indexing.Run .empty batches split) ∧ ¬ Complete split ∧
      (assetsBatch (fun _ => "") 1000 storage split [coin.calcHash.toHex]).map (fun answers =>
        answers.map fun answer => answer.map fun a => (a.assetKind, a.cellCount, a.totalAmount)) =
          .ok [some ("unknown", 1, none)] ∧
      (cellsOf split coin.calcHash.toVec).map (fun e => e.2.udtAmount) = [none, some 5] := by
  refine ⟨split_reached, fun hcomplete => ?_, by decide +kernel⟩
  obtain ⟨-, hlisted, hcount⟩ := listed_twice
  obtain ⟨assets, hassets, honce⟩ := hcomplete.listed everyKind 1 (fun _ => storage) 3 (Int.le_refl 1) (by decide +kernel)
  rw [hassets, Option.map_some] at hlisted
  have hlength := congrArg List.length (Option.some.inj hlisted)
  rw [List.length_map, honce.total, hcount] at hlength
  cases hlength

/-- The issuances as one batch, extracted under one configuration. -/
def together : IndexBatch where
  cells := [1, 2].map fun b => buildNewCell .testnet (Sample.hash b)
    { boundOutput 142 Sample.btcTxid with cell := { (boundOutput 142 Sample.btcTxid).cell with type_ := some coin } }
    { number := 1, hash := Sample.hash 101, txIndex := b.toUInt32, timestamp := 0 }

def issued : Store := (Store.empty.applyBatch together 0).1

theorem complete_iff_together : Complete issued ↔ (indexing.restrict Alike).Run .empty [together] issued :=
  complete_iff rfl (.single ⟨0, rfl⟩)

end
end RgbppIndexer.Bugs.SplitAsset
