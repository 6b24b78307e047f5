import RgbppIndexer.Types.Commitment

/-!
# Asset recognition and configuration

`crates/types/src/asset.rs`, and the settings of `crates/types/src/config.rs`
that the modelled code reads. Settings only the wiring reads (URLs, intervals,
pool sizes, API binding) are left out.
-/
namespace RgbppIndexer

open RgbppIndexer.Core

/-- mirrors crates/types/src/asset.rs:12-24 -/
inductive AssetKind where
  | xudt | sudt | spore | sporeCluster | unknown | none
  deriving DecidableEq, Repr

namespace AssetKind

/-- mirrors crates/types/src/asset.rs:27-36 -/
def asStr : AssetKind → String
  | xudt => "xudt"
  | sudt => "sudt"
  | spore => "spore"
  | sporeCluster => "spore_cluster"
  | unknown => "unknown"
  | none => "none"

/-- mirrors crates/types/src/asset.rs:51-53 -/
def isFungible : AssetKind → Bool
  | xudt => true
  | sudt => true
  | _ => false

end AssetKind

/-- Type-script code hashes the indexer can label. mirrors crates/types/src/asset.rs:63-72 -/
structure AssetScripts where
  xudt : List ScriptId
  sudt : List ScriptId
  spore : List ScriptId
  sporeCluster : List ScriptId
  deriving DecidableEq, Repr

/-- mirrors crates/types/src/asset.rs:75-90 -/
def AssetScripts.classify (a : AssetScripts) (typeScript : Option Script) : AssetKind :=
  match typeScript with
  | none => .none
  | some script =>
    if a.xudt.any (·.matches script) then .xudt
    else if a.sudt.any (·.matches script) then .sudt
    else if a.spore.any (·.matches script) then .spore
    else if a.sporeCluster.any (·.matches script) then .sporeCluster
    else .unknown

/-- A little-endian `u128` in the first 16 bytes of cell data.
mirrors crates/types/src/asset.rs:94-101 -/
def parseUdtAmount (data : Bytes) : Option Nat := if data.length < 16 then none else some (leNat (data.take 16))

/-- mirrors crates/types/src/config.rs:169-208 -/
structure CkbConfig where
  startBlock : UInt64
  reorgLag : UInt64
  batchBlocks : UInt64
  pageLimit : UInt32
  headerRetention : UInt64
  deriving DecidableEq, Repr

/-- mirrors crates/types/src/config.rs:19-38 -/
structure Config where
  ckb : CkbConfig
  protocol : ProtocolScripts
  assets : AssetScripts
  /-- `reconcile.max_outpoints_per_request` -/
  maxOutpointsPerRequest : Nat
  deriving DecidableEq, Repr

/-- Highest block the CKB indexer is allowed to touch, given a node tip.
mirrors crates/types/src/config.rs:625-628 -/
def Config.safeCkbTarget (c : Config) (tip : UInt64) : Option UInt64 :=
  if tip < c.ckb.reorgLag then none
  else
    let target := tip - c.ckb.reorgLag
    if c.ckb.startBlock ≤ target then some target else none

theorem Config.safeCkbTarget_eq_some {c : Config} {tip target : UInt64} (h : c.safeCkbTarget tip = some target) :
    target.toNat = tip.toNat - c.ckb.reorgLag.toNat ∧ c.ckb.startBlock ≤ target ∧ target ≤ tip := by
  unfold safeCkbTarget at h
  split at h
  · simp at h
  next hlag =>
  have hle : c.ckb.reorgLag ≤ tip := UInt64.not_lt.mp hlag
  simp only at h
  split at h
  · next hs =>
    simp only [Option.some.injEq] at h
    have hsub := UInt64.toNat_sub_of_le tip c.ckb.reorgLag hle
    subst h
    exact ⟨hsub, hs, by rw [UInt64.le_iff_toNat_le, hsub]; omega⟩
  · simp at h

/-! ## The deployment of the sample configuration -/

/-- mirrors config/default.toml:68-74 -/
def ProtocolScripts.testnet : ProtocolScripts where
  rgbppLock := ⟨⟨⟨[0x61, 0xca, 0x7a, 0x47, 0x96, 0xa4, 0xeb, 0x19, 0xca, 0x4f, 0x0d, 0x06, 0x5c, 0xb9, 0xb1, 0x0d,
    0xdc, 0xf0, 0x02, 0xf1, 0x0f, 0x7c, 0xbb, 0x81, 0x0c, 0x70, 0x6c, 0xb6, 0xbb, 0x5c, 0x32, 0x48], rfl⟩⟩, .type⟩
  btcTimeLock := ⟨⟨⟨[0x00, 0xcd, 0xf8, 0xfa, 0xb0, 0xf8, 0xac, 0x63, 0x87, 0x58, 0xeb, 0xf5, 0xea, 0x5e, 0x40, 0x52,
    0xb1, 0xd7, 0x1e, 0x8a, 0x77, 0xb9, 0xf4, 0x31, 0x39, 0x71, 0x86, 0x21, 0xf6, 0x84, 0x93, 0x26], rfl⟩⟩, .type⟩

/-- mirrors config/default.toml:92-94 -/
def AssetScripts.testnet : AssetScripts where
  xudt := [⟨⟨⟨[0x25, 0xc2, 0x9d, 0xc3, 0x17, 0x81, 0x1a, 0x6f, 0x6f, 0x39, 0x85, 0xa7, 0xa9, 0xeb, 0xc4, 0x83,
    0x8b, 0xd3, 0x88, 0xd1, 0x9d, 0x0f, 0xee, 0xec, 0xf0, 0xbc, 0xd6, 0x0f, 0x6c, 0x09, 0x75, 0xbb], rfl⟩⟩, .type⟩]
  sudt := []
  spore := []
  sporeCluster := []

/-- The deployment, scanned from block 1 in rounds of `batchBlocks`. -/
def Config.testnet (batchBlocks : UInt64) : Config where
  ckb := { startBlock := 1, reorgLag := 0, batchBlocks, pageLimit := 100, headerRetention := 0 }
  protocol := .testnet
  assets := .testnet
  maxOutpointsPerRequest := 200

end RgbppIndexer
