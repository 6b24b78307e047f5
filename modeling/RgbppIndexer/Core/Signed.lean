import Mathlib.Tactic.Ring

/-!
# Unsigned values in signed columns

A `u64` stored as a BIGINT keeps its value as long as it is below `2^63`,
and a non-negative BIGINT read back as a `u64` is the same number. These are
the casts `as i64` and `as u64`, which otherwise wrap.
-/
namespace RgbppIndexer.Core

/-- `x as i64`, in general. -/
theorem toInt_toInt64_eq (x : UInt64) : x.toInt64.toInt = if x.toNat < 2 ^ 63 then (x.toNat : Int) else x.toNat - 2 ^ 64 := by
  have hcond := BitVec.toInt_eq_toNat_cond x.toBitVec
  have hx : x.toInt64.toInt = x.toBitVec.toInt := rfl
  have hn : x.toBitVec.toNat = x.toNat := rfl
  rw [hx, hcond, hn]
  by_cases h : x.toNat < 2 ^ 63
  · rw [if_pos h, if_pos (by omega)]
  · rw [if_neg h, if_neg (by omega)]
    rfl

/-- `x as i64` is `x`, below `2^63`. -/
theorem toInt_toInt64 {x : UInt64} (h : x.toNat < 2 ^ 63) : x.toInt64.toInt = x.toNat := by
  rw [toInt_toInt64_eq, if_pos h]

/-- `x as i32` is `x`, below `2^31`. -/
theorem toInt_toInt32 {x : UInt32} (h : x.toNat < 2 ^ 31) : x.toInt32.toInt = x.toNat := by
  have hcond := BitVec.toInt_eq_toNat_cond x.toBitVec
  have hx : x.toInt32.toInt = x.toBitVec.toInt := rfl
  have hn : x.toBitVec.toNat = x.toNat := rfl
  rw [hx, hcond, hn, if_pos (by omega)]

/-- `x as u64`, in general. -/
theorem toNat_toUInt64_eq (x : Int64) : (x.toUInt64.toNat : Int) = if 0 ≤ x.toInt then x.toInt else x.toInt + 2 ^ 64 := by
  have hx := toInt_toInt64_eq x.toUInt64
  have hback : x.toUInt64.toInt64 = x := rfl
  have hlt := x.toUInt64.toNat_lt
  rw [hback] at hx
  by_cases h : x.toUInt64.toNat < 2 ^ 63
  · rw [if_pos h] at hx
    rw [if_pos (by omega), hx]
  · rw [if_neg h] at hx
    rw [if_neg (by omega), hx]
    omega

/-- `x as u64` is `x`, from `0` on. -/
theorem toNat_toUInt64 {x : Int64} (h : 0 ≤ x.toInt) : (x.toUInt64.toNat : Int) = x.toInt := by
  rw [toNat_toUInt64_eq, if_pos h]

/-- A positive limit of a query is a positive number of rows. -/
theorem toNat_toInt_pos {x : Int64} (h : 0 < x) : ¬ x < 0 ∧ 0 < x.toInt.toNat := by
  have hzero : (0 : Int64).toInt = 0 := rfl
  rw [Int64.lt_iff_toInt_lt, hzero] at h ⊢
  omega

theorem toInt_max (a b : Int64) : (max a b).toInt = max a.toInt b.toInt := by
  show (if a ≤ b then b else a).toInt = _
  by_cases h : a ≤ b
  · rw [if_pos h]
    rw [Int64.le_iff_toInt_le] at h
    omega
  · rw [if_neg h]
    rw [Int64.le_iff_toInt_le] at h
    omega

/-- A height survives the trip through a column that clamps at zero. -/
theorem clamped_toInt64 {x : UInt64} (h : x.toNat < 2 ^ 63) : (max x.toInt64 0).toUInt64.toInt64 = x.toInt64 := by
  have hmax : max x.toInt64 0 = x.toInt64 := by
    rw [← Int64.toInt_inj, toInt_max, toInt_toInt64 h]
    simp
  rw [hmax]
  rfl

/-- `x + 1` in a column, away from its end. -/
theorem toInt_add_one {x : Int64} (h : x.toInt < 2 ^ 63 - 1) : (x + 1).toInt = x.toInt + 1 := by
  rw [Int64.toInt_add]
  have hlow := x.le_toInt
  rw [Int.bmod_eq_of_le] <;> simp <;> omega

end RgbppIndexer.Core
