import RgbppIndexer.Api.Activity
import RgbppIndexer.Indexer.Extract
import RgbppIndexer.Store.Stats

/-!
# The asset endpoints

The handlers of `/v1/rgbpp/assets` and `/v1/rgbpp/assets:batch`
(crates/api/src/handlers.rs:437-546), with `AssetDto` (crates/api/src/dto.rs:234-282)
and `parse_batch`. `page_size` has clamped the page before. The two statements of
a listing meet one state of the database.

* `listAssets_of_kinds`: an accepted query reads one of the pages (`assetsPage`) of its kinds.
* `collectAssets_column`: the type hashes a client collects who follows the offsets.
* `batchAnswers_eq`: of the rows with one type hash, the last is the answer.
-/
namespace RgbppIndexer

open RgbppIndexer.Core

/-- The errors the endpoints give. mirrors crates/api/src/error.rs:12-33 -/
inductive ApiError where
  | badRequest (reason : String)
  | notFound
  | indexer (e : IndexerError)
  | store (e : StoreError)
  | btc (e : BtcError)
  deriving DecidableEq, Repr

/-- mirrors crates/api/src/dto.rs:234-254 -/
structure AssetDto where
  typeHash : String
  assetKind : String
  cellCount : Nat
  liveCellCount : Nat
  liveSealCount : Nat
  holderCount : Nat
  unlabelledSealCount : Nat
  /-- null for non-fungible assets -/
  totalAmount : Option String
  firstBlockNumber : Int64
  firstCkbTxHash : String
  lastBlockNumber : Int64
  deriving DecidableEq, Repr

/-- mirrors crates/api/src/dto.rs:256-282 -/
def AssetDto.ofRow (row : AssetRow) : AssetDto where
  typeHash := bytesToHex row.typeHash
  assetKind := row.assetKind.asStr
  cellCount := row.cellCount
  liveCellCount := row.liveCellCount
  liveSealCount := row.liveSealCount
  holderCount := row.holderCount
  unlabelledSealCount := row.unlabelledSealCount
  totalAmount :=
    if row.assetKind.isFungible then some ((row.totalAmount.map fun amount => plainDecimal amount).getD "0") else none
  firstBlockNumber := row.firstBlockNumber
  firstCkbTxHash := bytesToHex row.firstCkbTxHash
  lastBlockNumber := row.lastBlockNumber

/-! ## Listing -/

/-- mirrors crates/api/src/handlers.rs:450-454 -/
structure AssetsResponse where
  assets : List AssetDto
  total : Nat
  deriving DecidableEq, Repr

/-- mirrors crates/api/src/handlers.rs:474-490 -/
def assetKinds (kind : Option String) : Except ApiError (List String) :=
  match kind with
  | none => .ok ["xudt", "sudt", "spore", "spore_cluster", "unknown"]
  | some kind =>
    if kind = "all" then .ok ["xudt", "sudt", "spore", "spore_cluster", "unknown"]
    else if kind = "udt" then .ok ["xudt", "sudt"]
    else if kind = "dob" then .ok ["spore", "spore_cluster"]
    else if kind = "unknown" then .ok ["unknown"]
    else .error (.badRequest s!"unknown asset kind `{kind}`; expected `udt`, `dob`, `unknown` or `all`")

/-- The page of a filter and its total. mirrors crates/api/src/handlers.rs:496-504 -/
def assetsPage (orders : AssetOrders) (st : Store) (kinds : List String) (limit offset : Int) :
    Except ApiError AssetsResponse :=
  match st.listAssets orders kinds limit offset with
  | .error e => .error (.store e)
  | .ok rows => .ok { assets := rows.map AssetDto.ofRow, total := st.countAssets kinds }

/-- mirrors crates/api/src/handlers.rs:463-505 -/
def listAssets (orders : AssetOrders) (st : Store) (kind : Option String) (limit offset : Int) :
    Except ApiError AssetsResponse :=
  match assetKinds kind with
  | .error e => .error e
  | .ok kinds => assetsPage orders st kinds limit (max offset 0)

/-- The assets a client collects who asks for `limit` at a time, until a page is not full. -/
def collectAssets (orders : Nat → AssetOrders) (st : Store) (kinds : List String) (limit : Int) (fuel : Nat) :
    Option (List AssetDto) :=
  Keyset.collect (fun offset => (assetsPage (orders offset) st kinds limit offset).map AssetsResponse.assets) limit.toNat
    fuel 0

/-! ## Batches -/

/-- mirrors crates/api/src/handlers.rs:750-767 -/
def parseBatch {ε α : Type} (errorText : ε → String) (maxPageSize : Int) (field : String) (keys : List String)
    (parse : String → Except ε α) : Except ApiError (List α) :=
  if (keys.length : Int) > maxPageSize then
    .error (.badRequest s!"`{field}` has {keys.length} entries; at most {maxPageSize} per request")
  else
    keys.zipIdx.mapM fun e =>
      match parse e.1 with
      | .ok key => .ok key
      | .error err => .error (.badRequest s!"{field}[{e.2}]: {errorText err}")

/-- The rows are collected into a map by their type hash, and looked up.
mirrors crates/api/src/handlers.rs:534-545 -/
def batchAnswers (orders : AssetOrders) (st : Store) (keys : List Bytes) : List (Option AssetDto) :=
  let rows := st.assetsByTypeHashes orders keys
  let byHash := rows.foldl (fun (t : Table Bytes AssetRow) row => t.upsert row.typeHash fun _ => row) .empty
  keys.map fun k => (byHash.get? k).map AssetDto.ofRow

/-- mirrors crates/api/src/handlers.rs:527-546 -/
def assetsBatch (errorText : TypesError → String) (maxPageSize : Int) (orders : AssetOrders) (st : Store)
    (typeHashes : List String) : Except ApiError (List (Option AssetDto)) :=
  match parseBatch errorText maxPageSize "type_hashes" typeHashes fun s => (H256.fromHex s).map H256.toVec with
  | .error e => .error e
  | .ok keys => .ok (batchAnswers orders st keys)

/-! ## What they answer -/

section
variable {orders : Nat → AssetOrders} {st : Store} {kinds : List String} {limit : Int} {fuel : Nat}

/-- An accepted query reads the pages of its kinds. -/
theorem listAssets_of_kinds {kind : Option String} (h : assetKinds kind = .ok kinds) (orders : AssetOrders) (st : Store)
    (limit : Int) (offset : Nat) : listAssets orders st kind limit offset = assetsPage orders st kinds limit offset := by
  rw [listAssets, h, max_eq_left (Int.natCast_nonneg offset)]

/-- Following the offsets ends, and yields the type hash of every group. -/
theorem collectAssets_column (hlimit : 1 ≤ limit) (hfuel : st.rgbppCells.entries.length < fuel) :
    ∃ assets, collectAssets orders st kinds limit fuel = some assets ∧ (assets.map AssetDto.typeHash).Perm
      (((Store.labels (st.assetCells (Store.kindIn kinds))).dedup.map Prod.fst).map bytesToHex) := by
  have hpage : ∀ offset : Nat, ∃ assets,
      (assetsPage (orders offset) st kinds limit offset).map AssetsResponse.assets = .ok assets ∧
        assets.map AssetDto.typeHash =
          (((st.assetRanks (Store.kindIn kinds)).map fun r => bytesToHex r.2.2).drop offset).take limit.toNat := by
    intro offset
    obtain ⟨rows, hrows, hcolumn⟩ := Store.listAssets_column hlimit (orders offset) kinds offset
    refine ⟨rows.map AssetDto.ofRow, by rw [assetsPage, hrows]; rfl, ?_⟩
    rw [← List.map_drop, ← List.map_take, ← hcolumn, List.map_map, List.map_map]
    rfl
  have hlength := st.length_assetRanks_le (Store.kindIn kinds)
  have hbound : ((st.assetRanks (Store.kindIn kinds)).map fun r => bytesToHex r.2.2).length - 0 < fuel := by
    rw [List.length_map]
    omega
  obtain ⟨assets, hassets, hmap⟩ := Keyset.collect_column (by omega) hpage hbound
  refine ⟨assets, hassets, ?_⟩
  rw [hmap, List.drop_zero]
  have hperm := (st.assetRanks_perm (Store.kindIn kinds)).map bytesToHex
  rwa [List.map_map] at hperm

theorem parseBatch_eq_ok {ε α : Type} {errorText : ε → String} {maxPageSize : Int} {field : String} {texts : List String}
    {parse : String → Except ε α} {keys : List α} (h : parseBatch errorText maxPageSize field texts parse = .ok keys) :
    List.Forall₂ (fun text key => parse text = .ok key) texts keys := by
  unfold parseBatch at h
  by_cases hlong : (texts.length : Int) > maxPageSize
  · rw [if_pos hlong] at h
    cases h
  · rw [if_neg hlong, mapM_eq_ok] at h
    rw [← List.zipIdx_map_fst 0 texts, List.forall₂_map_left_iff]
    refine h.imp fun e key hkey => ?_
    cases hparse : parse e.1 with
    | ok k =>
      rw [hparse] at hkey
      exact congrArg Except.ok (Except.ok.inj hkey)
    | error err =>
      rw [hparse] at hkey
      cases hkey

/-- A batch is refused if it is too long, or if one of its texts is not parsed. -/
theorem parseBatch_error_iff {ε α : Type} (errorText : ε → String) (maxPageSize : Int) (field : String)
    (texts : List String) (parse : String → Except ε α) :
    (∃ e, parseBatch errorText maxPageSize field texts parse = .error e) ↔
      maxPageSize < texts.length ∨ ∃ text ∈ texts, ∃ e, parse text = .error e := by
  by_cases hlong : (texts.length : Int) > maxPageSize
  · unfold parseBatch
    rw [if_pos hlong]
    exact iff_of_true ⟨_, rfl⟩ (.inl hlong)
  · cases hkeys : parseBatch errorText maxPageSize field texts parse with
    | ok keys =>
      refine iff_of_false (fun ⟨e, h⟩ => by cases h) ?_
      rintro (h | ⟨text, htext, e, hparse⟩)
      · exact hlong h
      · obtain ⟨key, -, hkey⟩ := forall₂_mem_left (parseBatch_eq_ok hkeys) htext
        rw [hparse] at hkey
        cases hkey
    | error e =>
      refine iff_of_true ⟨e, rfl⟩ (.inr ?_)
      by_contra hnone
      have hall : ∀ e ∈ texts.zipIdx, ∃ key, (match parse e.1 with
          | .ok key => .ok key
          | .error err => .error (.badRequest s!"{field}[{e.2}]: {errorText err}") : Except ApiError α) = .ok key := by
        intro e he
        cases hparse : parse e.1 with
        | ok key => exact ⟨key, rfl⟩
        | error err => exact absurd ⟨e.1, List.fst_mem_of_mem_zipIdx he, err, hparse⟩ hnone
      obtain ⟨keys, hok⟩ := mapM_succeeds hall
      unfold parseBatch at hkeys
      rw [if_neg hlong, hok] at hkeys
      cases hkeys

/-- The answers of a batch, one for each text. -/
theorem forall₂_of_assetsBatch {errorText : TypesError → String} {maxPageSize : Int} {orders : AssetOrders}
    {texts : List String} {answers : List (Option AssetDto)} {R : Bytes → Option AssetDto → Prop}
    (h : assetsBatch errorText maxPageSize orders st texts = .ok answers)
    (hanswers : ∀ keys, List.Forall₂ R keys (batchAnswers orders st keys)) :
    List.Forall₂ (fun text answer => ∃ hash, H256.fromHex text = .ok hash ∧ R hash.toVec answer) texts answers := by
  unfold assetsBatch at h
  cases hkeys : parseBatch errorText maxPageSize "type_hashes" texts fun s => (H256.fromHex s).map H256.toVec with
  | error e =>
    rw [hkeys] at h
    cases h
  | ok keys =>
    rw [hkeys] at h
    obtain rfl := Except.ok.inj h
    refine (forall₂_comp (parseBatch_eq_ok hkeys) (hanswers keys)).imp fun text answer hkey => ?_
    obtain ⟨key, hparse, hanswer⟩ := hkey
    cases hhex : H256.fromHex text with
    | error e =>
      rw [hhex] at hparse
      cases hparse
    | ok hash =>
      rw [hhex] at hparse
      obtain rfl : hash.toVec = key := Except.ok.inj hparse
      exact ⟨hash, rfl, hanswer⟩

/-- The answer for a key is the last of its rows. -/
theorem batchAnswers_eq (orders : AssetOrders) (st : Store) (keys : List Bytes) :
    batchAnswers orders st keys = keys.map fun k =>
      (((st.assetsByTypeHashes orders keys).filter fun row => row.typeHash = k).getLast?).map AssetDto.ofRow := by
  unfold batchAnswers
  refine List.map_congr_left fun k _ => ?_
  rw [Table.get?_collect, Table.get?_empty, Option.or_none]

end
end RgbppIndexer
