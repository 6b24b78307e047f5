import RgbppIndexer.Indexer.Preimage

/-!
# A count that wraps is hashed

`CommitmentPreimage::encode` writes `inputs.len() as u8` and
`outputs.len() as u8` (crates/types/src/commitment.rs:37-38), and nothing
before it bounds the lists. `expected_commitment`
(crates/indexer/src/extract.rs:158-177) "returns `None` if any output's args
cannot be rewritten, since a partially placeholdered pre-image would produce a
confident-looking wrong answer"; a list too long for its count byte gives one
as well.

Counterexample: 256 outputs. The pre-image says there are none, and is hashed
(`empty_count_hashed`).

* `countsHold_iff`: **the counts are right exactly up to 255 inputs and 255
  outputs.**
-/
namespace RgbppIndexer.Bugs.WrappedCount

open RgbppIndexer.Core

/-- The count bytes of what is hashed are the true numbers, and numbers too large for them give no digest. -/
def CountsHold [Sha2] (inputs : List ResolvedInput) (outputs : List RgbppOutput) : Prop :=
  (∀ preimage, expectedPreimage inputs outputs = some preimage → ∃ inputLen outputLen : UInt8,
    preimage.encode[7]? = some inputLen ∧ preimage.encode[8]? = some outputLen ∧
      inputLen.toNat = inputs.length ∧ outputLen.toNat = outputs.length) ∧
  (255 < inputs.length ∨ 255 < outputs.length → expectedCommitment inputs outputs = none)

/-- The two bytes behind the tag and the version. -/
theorem count_bytes (p : CommitmentPreimage) :
    p.encode[7]? = some (UInt8.ofNat p.inputs.length) ∧ p.encode[8]? = some (UInt8.ofNat p.outputs.length) := ⟨rfl, rfl⟩

theorem toNat_ofNat_eq_iff (n : Nat) : (UInt8.ofNat n).toNat = n ↔ n ≤ 255 := by
  rw [UInt8.toNat_ofNat']
  omega

theorem committedPart_length (inputs : List ResolvedInput) (outputs : List RgbppOutput) :
    (committedPart inputs outputs).inputs.length = inputs.length ∧
      (committedPart inputs outputs).outputs.length = outputs.length := ⟨List.length_map _, List.length_map _⟩

section
variable [Sha2] {p : ProtocolScripts} {inputs : List ResolvedInput} {outputs : List RgbppOutput}

/-- **The counts hold exactly up to 255 of each.** -/
theorem countsHold_iff (hout : ∀ o ∈ outputs, Classified p o) :
    CountsHold inputs outputs ↔ inputs.length ≤ 255 ∧ outputs.length ≤ 255 := by
  have hpre : expectedPreimage inputs outputs = _ := expectedPreimage_eq hout
  constructor
  · rintro ⟨-, hnone⟩
    by_contra hlong
    have hlong' : 255 < inputs.length ∨ 255 < outputs.length := by omega
    have hne : ¬ (inputs = [] ∧ outputs = []) := by
      rintro ⟨rfl, rfl⟩
      exact hlong ⟨by decide, by decide⟩
    have hdigest := hnone hlong'
    rw [if_neg hne] at hpre
    unfold expectedCommitment at hdigest
    rw [hpre] at hdigest
    cases hdigest
  · rintro ⟨hin, hout⟩
    refine ⟨fun preimage hsome => ?_, fun hlong => absurd hlong (by omega)⟩
    rw [hpre] at hsome
    split at hsome
    · cases hsome
    · obtain rfl := Option.some.inj hsome
      obtain ⟨hinput, houtput⟩ := count_bytes (committedPart inputs outputs)
      obtain ⟨hinputs, houtputs⟩ := committedPart_length inputs outputs
      rw [hinputs] at hinput
      rw [houtputs] at houtput
      exact ⟨_, _, hinput, houtput, (toNat_ofNat_eq_iff _).mpr hin, (toNat_ofNat_eq_iff _).mpr hout⟩

end

/-! ## The counterexample -/

section

local instance countHash : Sha2 := .standard

/-- 256 outputs of one transaction. -/
def many : List RgbppOutput := List.replicate 256 (boundOutput 142 .placeholder)

theorem many_classified : ∀ o ∈ many, Classified .testnet o := by
  intro o ho
  obtain rfl := List.eq_of_mem_replicate ho
  exact boundOutput_classified ..

/-- **256 outputs are hashed under a count of zero.** -/
theorem empty_count_hashed : (∀ o ∈ many, Classified .testnet o) ∧ many.length = 256 ∧
    (expectedPreimage [] many).map (fun preimage => preimage.encode[8]?) = some (some 0) ∧ ¬ CountsHold [] many := by
  have hpre : expectedPreimage [] many = _ := expectedPreimage_eq many_classified
  rw [if_neg fun h => absurd h.2 (by decide)] at hpre
  have hbyte := (count_bytes (committedPart [] many)).2
  have hlength : many.length = 256 := List.length_replicate
  rw [(committedPart_length [] many).2, hlength] at hbyte
  refine ⟨many_classified, hlength, by rw [hpre, Option.map_some, hbyte]; rfl, fun h => ?_⟩
  have hdigest := h.2 (.inr (by rw [hlength]; decide))
  unfold expectedCommitment at hdigest
  rw [hpre] at hdigest
  cases hdigest

/-- One output is counted. -/
theorem countsHold_iff_one : CountsHold [] [boundOutput 142 .placeholder] ↔
    ([] : List ResolvedInput).length ≤ 255 ∧ [boundOutput 142 .placeholder].length ≤ 255 := by
  refine countsHold_iff (p := .testnet) fun o ho => ?_
  obtain rfl := List.mem_singleton.mp ho
  exact boundOutput_classified ..

end
end RgbppIndexer.Bugs.WrappedCount
