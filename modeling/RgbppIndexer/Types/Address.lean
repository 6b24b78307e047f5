import RgbppIndexer.Types.Ckb

/-!
# Bitcoin addresses

`validate_address` of crates/types/src/bitcoin.rs. The two text formats are
decoded by the crates `bech32` and `bs58`, which are a parameter. A decoder
reads more than one text to the same address: bech32 is case-insensitive
("BC1QW508D6QEJXTDG4Y5R3ZARVARY0C5XW7KV8F3T4" is a test vector,
bitcoin.rs:342-346).
-/
namespace RgbppIndexer

open RgbppIndexer.Core

/-- mirrors crates/types/src/bitcoin.rs:176-181 -/
inductive BtcNetwork where
  | mainnet | testnet | signet | regtest
  deriving DecidableEq, Repr

/-- mirrors crates/types/src/bitcoin.rs:215-220 -/
inductive AddressFamily where
  | main | test | regtest
  deriving DecidableEq, Repr

namespace BtcNetwork

/-- mirrors crates/types/src/bitcoin.rs:195-202 -/
def asStr : BtcNetwork → String
  | mainnet => "mainnet"
  | testnet => "testnet"
  | signet => "signet"
  | regtest => "regtest"

/-- mirrors crates/types/src/bitcoin.rs:206-212 -/
def addressFamily : BtcNetwork → AddressFamily
  | mainnet => .main
  | testnet => .test
  | signet => .test
  | regtest => .regtest

end BtcNetwork

namespace AddressFamily

/-- mirrors crates/types/src/bitcoin.rs:223-229 -/
def label : AddressFamily → String
  | main => "mainnet"
  | test => "testnet or signet"
  | regtest => "regtest"

/-- `Hrp` compares in lower case. mirrors crates/types/src/bitcoin.rs:231-241 -/
def ofSegwitHrp (hrp : String) : Option AddressFamily :=
  if hrp = "bc" then some main
  else if hrp = "tb" then some test
  else if hrp = "bcrt" then some regtest
  else none

/-- mirrors crates/types/src/bitcoin.rs:244-250 -/
def ofBase58Version (version : UInt8) : Option (List AddressFamily) :=
  if version = 0x00 ∨ version = 0x05 then some [main]
  else if version = 0x6f ∨ version = 0xc4 then some [test, regtest]
  else none

end AddressFamily

/-- The decoders: `bech32::segwit::decode`, by its prefix in lower case, and `bs58` with its checksum. -/
structure AddressCodec where
  segwitHrp : String → Option String
  base58check : String → Option Bytes

def MAX_ADDRESS_LEN : Nat := 90

/-- mirrors crates/types/src/bitcoin.rs:267-311 -/
def validateAddress (codec : AddressCodec) (address : String) (network : BtcNetwork) : Except TypesError Unit :=
  let invalid (reason : String) : Except TypesError Unit := .error (.malformed "bitcoin address" reason)
  let expected := network.addressFamily
  if MAX_ADDRESS_LEN < address.utf8ByteSize then invalid "longer than any Bitcoin address"
  else
    match codec.segwitHrp address with
    | some hrp =>
      match AddressFamily.ofSegwitHrp hrp with
      | some family =>
        if family = expected then .ok ()
        else invalid s!"a {family.label} address, but this index follows {network.asStr}"
      | none => invalid ("`" ++ hrp ++ "` is not a Bitcoin address prefix")
    | none =>
      match codec.base58check address with
      | some payload =>
        if payload.length ≠ 21 then invalid s!"base58check payload is {payload.length} bytes, not 21"
        else
          let version := payload.headD 0
          match AddressFamily.ofBase58Version version with
          | some families =>
            let label := (families.map AddressFamily.label).headD ""
            if expected ∈ families then .ok ()
            else invalid s!"a {label} address, but this index follows {network.asStr}"
          | none => invalid ("unknown address version byte 0x" ++ hexText [version])
      | none => invalid "not a valid segwit (bech32/bech32m) or base58check address"

end RgbppIndexer
