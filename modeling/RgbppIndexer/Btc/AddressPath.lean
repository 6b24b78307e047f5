import Mathlib.Data.List.TakeWhile
import RgbppIndexer.Types.Address

/-!
# An address in the path of a request

"Callers pass addresses straight from a URL, and they end up in a URL path on the
Bitcoin data source. Validating here is what keeps `%2F..` in an address from
steering that request to another path on the data source's host"
(crates/types/src/bitcoin.rs:264-266; crates/btc/src/esplora.rs:39-41, 247-249).
Of the two decoders only their formats are assumed (`AddressCodec.Documented`).

* `alphanumeric_of_validateAddress`: an accepted text has letters and digits only.
* `validateAddress_ok_iff`: which network accepts a text.
* `validated_addresses`: **an accepted text is one segment of the path; which
  networks accept a text together.**
-/
namespace RgbppIndexer

open RgbppIndexer.Core

/-! ## The formats -/

/-- The alphabet of the data part, in lower case. -/
def bech32Alphabet : List Char := "qpzry9x8gf2tvdw0s3jn54khce6mua7l".toList

def base58Alphabet : List Char := "123456789ABCDEFGHJKLMNPQRSTUVWXYZabcdefghijkmnopqrstuvwxyz".toList

/-- What the two crates say of the texts they decode: `hrp1data`, in either case, and base58. -/
structure AddressCodec.Documented (codec : AddressCodec) : Prop where
  segwit : ∀ s hrp, codec.segwitHrp s = some hrp → ∃ front data : List Char, s.toList = front ++ '1' :: data ∧
    front.map Char.toLower = hrp.toList ∧ ∀ c ∈ data, c.toLower ∈ bech32Alphabet
  base58 : ∀ s payload, codec.base58check s = some payload → ∀ c ∈ s.toList, c ∈ base58Alphabet

/-! ## The request -/

/-- mirrors crates/btc/src/esplora.rs:20-24 -/
structure EsploraSource where
  baseUrl : String
  deriving DecidableEq, Repr

/-- mirrors crates/btc/src/esplora.rs:39-41 -/
def EsploraSource.url (source : EsploraSource) (path : String) : String :=
  source.baseUrl ++ "/" ++ String.ofList (path.toList.dropWhile fun c => c = '/')

/-- The path `address_utxos` asks for. mirrors crates/btc/src/esplora.rs:247-249 -/
def addressUtxosPath (address : String) : String := s!"address/{address}/utxo"

/-- The characters that end the path of a URL. -/
def endsPath (c : Char) : Bool := decide (c = '?' ∨ c = '#')

/-- The characters that separate segments; a parser of web addresses takes the backslash (92) for a slash. -/
def separatesSegments (c : Char) : Bool := decide (c = '/' ∨ c.toNat = 92)

/-- What stands between the separators of a URL, up to its query or fragment. -/
def urlSegments (url : String) : List String :=
  ((url.toList.takeWhile fun c => !endsPath c).splitOnP separatesSegments).map String.ofList

/-! ## Letters and digits -/

theorem isAlphanum_of_toLower {c : Char} (h : c.toLower.isAlphanum = true) : c.isAlphanum = true := by
  by_cases hupper : c.isUpper = true
  · show ((c.isUpper || c.isLower) || c.isDigit) = true
    rw [hupper]
    rfl
  · have hlower : c.toLower = c := by
      unfold Char.toLower
      exact dif_neg fun hrange => hupper (decide_eq_true hrange)
    rwa [hlower] at h

theorem isAlphanum_of_mem_bech32 {c : Char} (h : c ∈ bech32Alphabet) : c.isAlphanum = true := by
  have hall : bech32Alphabet.all Char.isAlphanum = true := by decide +kernel
  exact List.all_eq_true.mp hall c h

theorem isAlphanum_of_mem_base58 {c : Char} (h : c ∈ base58Alphabet) : c.isAlphanum = true := by
  have hall : base58Alphabet.all Char.isAlphanum = true := by decide +kernel
  exact List.all_eq_true.mp hall c h

/-- The prefixes of the networks are letters. -/
theorem isAlphanum_of_ofSegwitHrp {hrp : String} {family : AddressFamily} (h : AddressFamily.ofSegwitHrp hrp = some family) :
    hrp.toList.all Char.isAlphanum = true := by
  unfold AddressFamily.ofSegwitHrp at h
  split at h
  · next heq => rw [heq]; decide
  · split at h
    · next heq => rw [heq]; decide
    · split at h
      · next heq => rw [heq]; decide
      · cases h

theorem safe_of_isAlphanum {c : Char} (h : c.isAlphanum = true) : endsPath c = false ∧ separatesSegments c = false := by
  have hrange : 48 ≤ c.toNat ∧ c.toNat ≤ 122 ∧ c.toNat ≠ 63 ∧ c.toNat ≠ 92 := by
    have hclass : ((decide (c.val ≥ 65 ∧ c.val ≤ 90) || (decide (c.val ≥ 97) && decide (c.val ≤ 122))) ||
        (decide (c.val ≥ 48) && decide (c.val ≤ 57))) = true := h
    simp only [Bool.or_eq_true, Bool.and_eq_true, decide_eq_true_eq, ge_iff_le, UInt32.le_iff_toNat_le] at hclass
    change (((65 ≤ c.toNat ∧ c.toNat ≤ 90) ∨ 97 ≤ c.toNat ∧ c.toNat ≤ 122) ∨ 48 ≤ c.toNat ∧ c.toNat ≤ 57) at hclass
    omega
  have hne : ∀ d : Char, d.toNat < 48 ∨ d.toNat = 63 → c ≠ d := by
    rintro d hd rfl
    omega
  unfold endsPath separatesSegments
  rw [decide_eq_false_iff_not, decide_eq_false_iff_not, not_or, not_or]
  exact ⟨⟨hne _ (by decide), hne _ (by decide)⟩, hne _ (by decide), hrange.2.2.2⟩

section
variable {codec : AddressCodec} {s : String} {n : BtcNetwork}

/-! ## Which texts are accepted -/

/-- A text is accepted by its prefix, and if it has none, by its version byte. -/
theorem validateAddress_ok_iff : validateAddress codec s n = .ok () ↔ s.utf8ByteSize ≤ MAX_ADDRESS_LEN ∧
    ((∃ hrp, codec.segwitHrp s = some hrp ∧ AddressFamily.ofSegwitHrp hrp = some n.addressFamily) ∨
      codec.segwitHrp s = none ∧ ∃ payload families, codec.base58check s = some payload ∧ payload.length = 21 ∧
        AddressFamily.ofBase58Version (payload.headD 0) = some families ∧ n.addressFamily ∈ families) := by
  unfold validateAddress
  by_cases hlong : MAX_ADDRESS_LEN < s.utf8ByteSize
  · simp [hlong, Nat.not_le.mpr hlong]
  · simp only [if_neg hlong, Nat.not_lt.mp hlong, true_and]
    cases codec.segwitHrp s with
    | some hrp =>
      cases hfamily : AddressFamily.ofSegwitHrp hrp with
      | none => simp [hfamily]
      | some family => simp [hfamily]
    | none =>
      cases codec.base58check s with
      | none => simp
      | some payload =>
        by_cases hlen : payload.length = 21
        · simp only [Option.some.injEq, exists_and_left, exists_eq_left']
          generalize payload.headD 0 = version
          cases AddressFamily.ofBase58Version version with
          | none => simp [hlen]
          | some families => simp [hlen]
        · simp [hlen]

/-- An accepted text has letters and digits only. -/
theorem alphanumeric_of_validateAddress (hcodec : codec.Documented) (h : validateAddress codec s n = .ok ()) :
    ∀ c ∈ s.toList, c.isAlphanum = true := by
  obtain ⟨-, ⟨hrp, hdecoded, hfamily⟩ | ⟨-, payload, families, hdecoded, -⟩⟩ := validateAddress_ok_iff.mp h
  · obtain ⟨front, data, hs, hfront, hdata⟩ := hcodec.segwit s hrp hdecoded
    intro c hc
    rw [hs, List.mem_append, List.mem_cons] at hc
    rcases hc with hc | rfl | hc
    · have hall := List.all_eq_true.mp (isAlphanum_of_ofSegwitHrp hfamily)
      rw [← hfront] at hall
      exact isAlphanum_of_toLower (hall _ (List.mem_map_of_mem hc))
    · decide
    · exact isAlphanum_of_toLower (isAlphanum_of_mem_bech32 (hdata c hc))
  · exact fun c hc => isAlphanum_of_mem_base58 (hcodec.base58 s payload hdecoded c hc)

/-! ## The path -/

/-- Letters and digits are one segment of the path. -/
theorem urlSegments_url (source : EsploraSource) (hbase : ∀ c ∈ source.baseUrl.toList, endsPath c = false)
    (hs : ∀ c ∈ s.toList, c.isAlphanum = true) :
    urlSegments (source.url (addressUtxosPath s)) = urlSegments source.baseUrl ++ ["address", s, "utxo"] := by
  have hword : ∀ word : List Char, word.all Char.isAlphanum = true →
      ∀ c ∈ word, endsPath c = false ∧ separatesSegments c = false :=
    fun word hall c hc => safe_of_isAlphanum (List.all_eq_true.mp hall c hc)
  have haddress := hword "address".toList (by decide)
  have hutxo := hword "utxo".toList (by decide)
  have htext := hword s.toList (List.all_eq_true.mpr hs)
  have hpath : (addressUtxosPath s).toList = "address".toList ++ '/' :: (s.toList ++ '/' :: "utxo".toList) := by
    unfold addressUtxosPath
    simp [toString]
  have hurl : (source.url (addressUtxosPath s)).toList =
      source.baseUrl.toList ++ '/' :: ("address".toList ++ '/' :: (s.toList ++ '/' :: "utxo".toList)) := by
    unfold EsploraSource.url
    rw [hpath]
    simp
  have hwhole : ∀ c ∈ (source.url (addressUtxosPath s)).toList, (!endsPath c) = true := by
    have hslash : endsPath '/' = false := by decide
    intro c hc
    rw [Bool.not_eq_true']
    simp only [hurl, List.mem_append, List.mem_cons] at hc
    rcases hc with hc | rfl | hc | rfl | hc | rfl | hc
    · exact hbase c hc
    · exact hslash
    · exact (haddress c hc).1
    · exact hslash
    · exact (htext c hc).1
    · exact hslash
    · exact (hutxo c hc).1
  have hbaseWhole : ∀ c ∈ source.baseUrl.toList, (!endsPath c) = true := fun c hc => by rw [hbase c hc]; rfl
  have hsep : separatesSegments '/' = true := by decide
  unfold urlSegments
  rw [List.takeWhile_eq_self_iff.mpr hwhole, List.takeWhile_eq_self_iff.mpr hbaseWhole, hurl,
    List.splitOnP_append_cons _ _ hsep, List.splitOnP_append_cons _ _ hsep, List.splitOnP_append_cons _ _ hsep,
    List.splitOnP_eq_singleton fun c hc => (haddress c hc).2, List.splitOnP_eq_singleton fun c hc => (htext c hc).2,
    List.splitOnP_eq_singleton fun c hc => (hutxo c hc).2]
  simp

/-! ## Networks -/

/-- Only the test networks share a version byte with another family. -/
theorem mem_ofBase58Version {version : UInt8} {families : List AddressFamily} {f g : AddressFamily}
    (h : AddressFamily.ofBase58Version version = some families) (hf : f ∈ families) (hg : g ∈ families) :
    f = g ∨ f ≠ .main ∧ g ≠ .main := by
  unfold AddressFamily.ofBase58Version at h
  split at h
  · obtain rfl := Option.some.inj h
    rw [List.mem_singleton] at hf hg
    exact .inl (hf.trans hg.symm)
  · split at h
    · obtain rfl := Option.some.inj h
      right
      constructor
      · rintro rfl
        revert hf
        decide
      · rintro rfl
        revert hg
        decide
    · cases h

/-- A text two networks accept names a family of both, or is base58 and names test networks. -/
theorem families_of_both {m : BtcNetwork} (h : validateAddress codec s n = .ok ()) (h' : validateAddress codec s m = .ok ()) :
    n.addressFamily = m.addressFamily ∨ codec.segwitHrp s = none ∧ (∃ payload, codec.base58check s = some payload) ∧
      n.addressFamily ≠ .main ∧ m.addressFamily ≠ .main := by
  obtain ⟨-, h⟩ := validateAddress_ok_iff.mp h
  obtain ⟨-, h'⟩ := validateAddress_ok_iff.mp h'
  rcases h with ⟨hrp, hdecoded, hfamily⟩ | ⟨hnone, payload, families, hdecoded, -, hfamilies, hmem⟩
  · rcases h' with ⟨hrp', hdecoded', hfamily'⟩ | ⟨hnone', -⟩
    · rw [hdecoded, Option.some.injEq] at hdecoded'
      subst hdecoded'
      rw [hfamily, Option.some.injEq] at hfamily'
      exact .inl hfamily'
    · rw [hdecoded] at hnone'
      cases hnone'
  · rcases h' with ⟨hrp', hdecoded', -⟩ | ⟨-, payload', families', hdecoded', -, hfamilies', hmem'⟩
    · rw [hnone] at hdecoded'
      cases hdecoded'
    · rw [hdecoded, Option.some.injEq] at hdecoded'
      subst hdecoded'
      rw [hfamilies, Option.some.injEq] at hfamilies'
      subst hfamilies'
      rcases mem_ofBase58Version hfamilies hmem hmem' with heq | hne
      · exact .inl heq
      · exact .inr ⟨hnone, ⟨payload, hdecoded⟩, hne⟩

end

/-- **An accepted text is short, has letters and digits only, and stays one segment of the request's path. Testnet and
signet accept the same texts, no text is accepted on mainnet and elsewhere, and only base58 is on testnet and regtest.** -/
theorem validated_addresses {codec : AddressCodec} (hcodec : codec.Documented) :
    (∀ s n, validateAddress codec s n = .ok () →
      s.utf8ByteSize ≤ 90 ∧ (∀ c ∈ s.toList, c.isAlphanum = true) ∧
      ∀ source : EsploraSource, (∀ c ∈ source.baseUrl.toList, endsPath c = false) →
        urlSegments (source.url (addressUtxosPath s)) = urlSegments source.baseUrl ++ ["address", s, "utxo"]) ∧
    (∀ s, validateAddress codec s .testnet = .ok () ↔ validateAddress codec s .signet = .ok ()) ∧
    (∀ s n, validateAddress codec s .mainnet = .ok () → validateAddress codec s n = .ok () → n = .mainnet) ∧
    ∀ s, validateAddress codec s .testnet = .ok () → validateAddress codec s .regtest = .ok () →
      codec.segwitHrp s = none ∧ (∃ payload, codec.base58check s = some payload) ∧ ∀ c ∈ s.toList, c ∈ base58Alphabet := by
  refine ⟨fun s n h => ?_, fun s => ?_, fun s n h h' => ?_, fun s h h' => ?_⟩
  · have hs := alphanumeric_of_validateAddress hcodec h
    exact ⟨(validateAddress_ok_iff.mp h).1, hs, fun source hbase => urlSegments_url source hbase hs⟩
  · rw [validateAddress_ok_iff, validateAddress_ok_iff]
    exact Iff.rfl
  · rcases families_of_both h h' with heq | ⟨-, -, hmain, -⟩
    · cases n with
      | mainnet => rfl
      | testnet => cases heq
      | signet => cases heq
      | regtest => cases heq
    · exact absurd rfl hmain
  · rcases families_of_both h h' with heq | ⟨hnone, ⟨payload, hdecoded⟩, -⟩
    · cases heq
    · exact ⟨hnone, ⟨payload, hdecoded⟩, hcodec.base58 s payload hdecoded⟩

/-! ## Two test vectors -/

def segwitVector : String := "BC1QW508D6QEJXTDG4Y5R3ZARVARY0C5XW7KV8F3T4"

def legacyVector : String := "mipcBbFg9gMiCh81Kj8tqqdgoZub1ZJRfn"

/-- The decoders on two vectors (crates/types/src/bitcoin.rs:343-346, 386). -/
def vectors : AddressCodec where
  segwitHrp text := if text = segwitVector then some "bc" else none
  base58check text :=
    if text = legacyVector then some [0x6f, 0x24, 0x3f, 0x13, 0x94, 0xf4, 0x45, 0x54, 0xf4, 0xce, 0x3f, 0xd6, 0x86, 0x49,
      0xc1, 0x9a, 0xdc, 0x48, 0x3c, 0xe9, 0x24]
    else none

theorem vectors_documented : vectors.Documented where
  segwit s hrp h := by
    unfold vectors at h
    dsimp only at h
    split at h
    · next hs =>
      obtain rfl := Option.some.inj h
      refine ⟨['B', 'C'], (segwitVector.toList).drop 3, by rw [hs]; decide +kernel, by decide, ?_⟩
      have hall : ((segwitVector.toList).drop 3).all (fun c => decide (c.toLower ∈ bech32Alphabet)) = true := by
        decide +kernel
      exact fun c hc => of_decide_eq_true (List.all_eq_true.mp hall c hc)
    · cases h
  base58 s payload h := by
    unfold vectors at h
    dsimp only at h
    split at h
    · next hs =>
      have hall : legacyVector.toList.all (fun c => decide (c ∈ base58Alphabet)) = true := by decide +kernel
      rw [hs]
      exact fun c hc => of_decide_eq_true (List.all_eq_true.mp hall c hc)
    · cases h

/-- The segwit vector is in a path as it is, and the legacy one is accepted on testnet and regtest. -/
theorem validated_addresses_vectors :
    urlSegments ((⟨"https://mempool.space/api"⟩ : EsploraSource).url (addressUtxosPath segwitVector)) =
      urlSegments "https://mempool.space/api" ++ ["address", segwitVector, "utxo"] ∧
    vectors.segwitHrp legacyVector = none ∧ validateAddress vectors legacyVector .signet = .ok () := by
  have hall : "https://mempool.space/api".toList.all (fun c => !endsPath c) = true := by decide +kernel
  have hbase : ∀ c ∈ "https://mempool.space/api".toList, endsPath c = false := fun c hc => by
    simpa using List.all_eq_true.mp hall c hc
  have hsegwit : validateAddress vectors segwitVector .mainnet = .ok () := by decide +kernel
  have htestnet : validateAddress vectors legacyVector .testnet = .ok () := by decide +kernel
  have hregtest : validateAddress vectors legacyVector .regtest = .ok () := by decide +kernel
  obtain ⟨hpath, hshared, -, hboth⟩ := validated_addresses vectors_documented
  exact ⟨(hpath segwitVector .mainnet hsegwit).2.2 _ hbase, (hboth legacyVector htestnet hregtest).1,
    (hshared legacyVector).mp htestnet⟩

end RgbppIndexer
