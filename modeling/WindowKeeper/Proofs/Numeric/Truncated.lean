import Mathlib.Algebra.Order.Field.Power
import Mathlib.Data.Rat.Floor
import Mathlib.Tactic.Linarith
import Mathlib.Tactic.NormNum
import WindowKeeper.Numeric.Binary64
import WindowKeeper.Overflow

namespace WindowKeeper.Numeric

theorem truncate_of_nonneg {q : ℚ} (h : 0 ≤ q) :
    0 ≤ truncate q ∧ (truncate q : ℚ) ≤ q ∧ q < truncate q + 1 := by
  rw [truncate, if_neg (not_lt.mpr h)]
  exact ⟨Rat.le_floor_iff.mpr (by simpa using h), Rat.floor_le q, Int.lt_floor_add_one q⟩

theorem truncate_neg (q : ℚ) : truncate (-q) = -truncate q := by
  rcases lt_trichotomy q 0 with h | rfl | h
  · rw [truncate, truncate, if_neg (by linarith), if_pos h, Rat.ceil_eq_neg_floor_neg, neg_neg]
  · rfl
  · rw [truncate, truncate, if_pos (by linarith), if_neg (by linarith), Rat.ceil_eq_neg_floor_neg,
      neg_neg]

theorem truncate_of_nonpos {q : ℚ} (h : q ≤ 0) :
    truncate q ≤ 0 ∧ q ≤ truncate q ∧ (truncate q : ℚ) - 1 < q := by
  obtain ⟨hsign, hle, hlt⟩ := truncate_of_nonneg (neg_nonneg.mpr h)
  rw [truncate_neg] at hsign hle hlt
  push_cast at hle hlt
  exact ⟨by omega, by linarith, by linarith⟩

/-- Less than one apart, two numbers are cut to integers at most one apart, also where one is on the
other side of zero. -/
theorem truncate_le_add_one {p q : ℚ} (h : p < q + 1) : truncate p ≤ truncate q + 1 := by
  by_contra hlt
  have hapart : (truncate q : ℚ) + 2 ≤ truncate p := by
    have hint : truncate q + 2 ≤ truncate p := by omega
    exact_mod_cast hint
  rcases le_total 0 p with hp | hp
  · obtain ⟨-, hple, -⟩ := truncate_of_nonneg hp
    rcases le_total 0 q with hq | hq
    · obtain ⟨-, -, hqlt⟩ := truncate_of_nonneg hq
      linarith
    · obtain ⟨-, hqle, -⟩ := truncate_of_nonpos hq
      linarith
  · obtain ⟨hpsign, -, hplt⟩ := truncate_of_nonpos hp
    rcases le_total 0 q with hq | hq
    · obtain ⟨hqsign, -⟩ := truncate_of_nonneg hq
      omega
    · obtain ⟨-, hqle, -⟩ := truncate_of_nonpos hq
      linarith

theorem truncate_natCast_div (a b : ℕ) : truncate ((a : ℚ) / b) = a / b := by
  rw [truncate, if_neg (not_lt.mpr (by positivity))]
  exact Rat.floor_natCast_div_natCast a b

/-- Cutting the exact quotient of two integers is division toward zero. -/
theorem truncate_div (a b : ℤ) : truncate ((a : ℚ) / b) = a.tdiv b := by
  obtain ⟨m, rfl | rfl⟩ := a.eq_nat_or_neg <;> obtain ⟨n, rfl | rfl⟩ := b.eq_nat_or_neg <;>
    push_cast
  · exact truncate_natCast_div m n
  · rw [div_neg, truncate_neg, truncate_natCast_div, Int.tdiv_neg]
    rfl
  · rw [neg_div, truncate_neg, truncate_natCast_div, Int.neg_tdiv]
    rfl
  · rw [neg_div_neg_eq, truncate_natCast_div, Int.neg_tdiv_neg]
    rfl

end WindowKeeper.Numeric

namespace WindowKeeper

open Numeric

theorem saturate32_sub {a b : ℤ} (h : (a - b).natAbs ≤ 1) :
    (saturate32 a - saturate32 b).natAbs ≤ 1 := by
  unfold saturate32 int32Min int32Max
  split_ifs <;> omega

theorem saturate32_truncate_of_ge {q : ℚ} (h : 2 ^ 31 ≤ q) :
    saturate32 (truncate q) = int32Max := by
  obtain ⟨-, -, hlt⟩ := truncate_of_nonneg (q := q) (by linarith)
  have hint : (2 ^ 31 : ℤ) < truncate q + 1 := by exact_mod_cast h.trans_lt hlt
  unfold saturate32 int32Min int32Max
  split_ifs <;> omega

theorem saturate32_truncate_of_le {q : ℚ} (h : q ≤ -2 ^ 31) :
    saturate32 (truncate q) = int32Min := by
  obtain ⟨-, -, hlt⟩ := truncate_of_nonpos (q := q) (by linarith)
  have hint : truncate q - 1 < -2 ^ 31 := by exact_mod_cast hlt.trans_le h
  unfold saturate32 int32Min int32Max
  split_ifs <;> omega

/-- A result that is far out of range either way is held to the same bound. -/
theorem saturate32_truncate_of_beyond {p q : ℚ} (h : |p - q| ≤ |q| / 2 ^ 51) (hq : 2 ^ 32 ≤ |q|) :
    saturate32 (truncate p) = saturate32 (truncate q) := by
  obtain ⟨hlow, hhigh⟩ := abs_le.mp h
  rcases le_total 0 q with hsign | hsign
  · rw [abs_of_nonneg hsign] at hq hlow
    rw [saturate32_truncate_of_ge (by linarith), saturate32_truncate_of_ge (by linarith)]
  · rw [abs_of_nonpos hsign] at hq hhigh
    rw [saturate32_truncate_of_le (by linarith), saturate32_truncate_of_le (by linarith)]

theorem saturate32_truncate_near {p q : ℚ} (h : |p - q| ≤ |q| / 2 ^ 51) :
    (saturate32 (truncate p) - saturate32 (truncate q)).natAbs ≤ 1 := by
  rcases le_total |q| (2 ^ 32) with hq | hq
  · obtain ⟨hlow, hhigh⟩ := abs_le.mp h
    have hup := truncate_le_add_one (p := p) (q := q) (by linarith)
    have hdown := truncate_le_add_one (p := q) (q := p) (by linarith)
    exact saturate32_sub (by omega)
  · rw [saturate32_truncate_of_beyond h hq, sub_self]
    exact Nat.zero_le 1

theorem saturate32_truncate_nonneg {p : ℚ} (h : 0 ≤ p) : 0 ≤ saturate32 (truncate p) := by
  obtain ⟨hsign, -⟩ := truncate_of_nonneg h
  unfold saturate32 int32Min int32Max
  split_ifs <;> omega

theorem saturate32_truncate_nonpos {p : ℚ} (h : p ≤ 0) : saturate32 (truncate p) ≤ 0 := by
  obtain ⟨hsign, -⟩ := truncate_of_nonpos h
  unfold saturate32 int32Min int32Max
  split_ifs <;> omega

end WindowKeeper
