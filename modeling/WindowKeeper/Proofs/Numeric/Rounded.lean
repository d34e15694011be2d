import Mathlib.Algebra.Order.Field.Power
import Mathlib.Data.Rat.Floor
import Mathlib.Tactic.FieldSimp
import Mathlib.Tactic.Linarith
import Mathlib.Tactic.NormNum
import WindowKeeper.Numeric.Binary64

namespace WindowKeeper.Numeric

theorem magnitude_eq_abs (q : ℚ) : magnitude q = |q| := by
  unfold magnitude
  split
  · rename_i h
    exact (abs_of_neg h).symm
  · rename_i h
    exact (abs_of_nonneg (not_lt.mp h)).symm

theorem roundEven_error (q : ℚ) : |(roundEven q : ℚ) - q| ≤ 1 / 2 := by
  have hlow := Rat.floor_le q
  have hhigh : q < q.floor + 1 := Int.lt_floor_add_one q
  unfold roundEven
  dsimp only
  split_ifs <;> push_cast <;> rw [abs_le] <;> constructor <;> linarith

/-- A half is rounded to the even neighbour. -/
theorem roundEven_even {q : ℚ} (h : |(roundEven q : ℚ) - q| = 1 / 2) : roundEven q % 2 = 0 := by
  have hlow := Rat.floor_le q
  have hhigh : q < q.floor + 1 := Int.lt_floor_add_one q
  unfold roundEven at h ⊢
  dsimp only at h ⊢
  split_ifs at h ⊢ with hbelow habove heven
  · rw [abs_of_nonpos (by linarith)] at h
    linarith
  · push_cast at h
    rw [abs_of_nonneg (by linarith)] at h
    linarith
  · exact heven
  · omega

theorem roundEven_nearest (q : ℚ) (k : ℤ) : |(roundEven q : ℚ) - q| ≤ |(k : ℚ) - q| := by
  by_cases hk : roundEven q = k
  · rw [hk]
  · have hapart : (1 : ℚ) ≤ |(roundEven q : ℚ) - k| := by
      have hpos : 0 < |roundEven q - k| := abs_pos.mpr (sub_ne_zero.mpr hk)
      exact_mod_cast hpos
    have htriangle := abs_sub_le (roundEven q : ℚ) q k
    have herror := roundEven_error q
    rw [abs_sub_comm q] at htriangle
    linarith

theorem two_zpow_pos (e : ℤ) : (0 : ℚ) < 2 ^ e := zpow_pos two_pos e

/-- The lengths of numerator and denominator leave two candidates for the exponent. -/
theorem div_bounds_log2 {n d : ℕ} (hn : n ≠ 0) (hd : d ≠ 0) :
    (2 : ℚ) ^ ((n.log2 : ℤ) - d.log2 - 1) < n / d ∧
      (n : ℚ) / d < 2 ^ ((n.log2 : ℤ) - d.log2 + 1) := by
  have hnlow := Nat.log2_self_le hn
  have hnhigh := Nat.lt_log2_self (n := n)
  have hdlow := Nat.log2_self_le hd
  have hdhigh := Nat.lt_log2_self (n := d)
  have hdpos : (0 : ℚ) < d := by exact_mod_cast Nat.pos_of_ne_zero hd
  have hlow : (2 : ℤ) ^ n.log2 * d < n * 2 ^ (d.log2 + 1) := by
    exact_mod_cast Nat.mul_lt_mul_of_le_of_lt hnlow hdhigh (Nat.pos_of_ne_zero hn)
  have hhigh : (n : ℤ) * 2 ^ d.log2 < 2 ^ (n.log2 + 1) * d := by
    exact_mod_cast Nat.mul_lt_mul_of_lt_of_le hnhigh hdlow (Nat.pos_of_ne_zero hd)
  have hexponent : (n.log2 : ℤ) - d.log2 - 1 = n.log2 - (d.log2 + 1 : ℕ) := by
    push_cast
    ring
  have hexponent' : (n.log2 : ℤ) - d.log2 + 1 = (n.log2 + 1 : ℕ) - d.log2 := by
    push_cast
    ring
  rw [hexponent, hexponent', zpow_sub₀ two_ne_zero, zpow_sub₀ two_ne_zero]
  simp only [zpow_natCast]
  rw [div_lt_div_iff₀ (by positivity) hdpos, div_lt_div_iff₀ hdpos (by positivity)]
  exact ⟨by exact_mod_cast hlow, by exact_mod_cast hhigh⟩

theorem floorLog2_bounds {q : ℚ} (hq : 0 < q) :
    (2 : ℚ) ^ floorLog2 q ≤ q ∧ q < 2 ^ (floorLog2 q + 1) := by
  have hquotient : (q.num.natAbs : ℚ) / q.den = q := by
    rw [Nat.cast_natAbs, abs_of_pos (Rat.num_pos.mpr hq), Rat.num_div_den]
  have hnum : q.num.natAbs ≠ 0 := Int.natAbs_ne_zero.mpr (Rat.num_pos.mpr hq).ne'
  obtain ⟨hlow, hhigh⟩ := div_bounds_log2 hnum q.den_ne_zero
  rw [hquotient] at hlow hhigh
  unfold floorLog2
  dsimp only
  split
  · rename_i hbelow
    rw [sub_add_cancel]
    exact ⟨hlow.le, hbelow⟩
  · rename_i hreached
    exact ⟨not_lt.mp hreached, hhigh⟩

theorem le_floorLog2 {q : ℚ} (hq : 0 < q) {k : ℤ} (h : (2 : ℚ) ^ k ≤ q) : k ≤ floorLog2 q := by
  have hlt := h.trans_lt (floorLog2_bounds hq).2
  have hexponent := (zpow_lt_zpow_iff_right₀ one_lt_two).mp hlt
  omega

namespace Binary64

/-- The values of doubles, were there no largest one. -/
def IsDouble (v : ℚ) : Prop := ∃ m e : ℤ, |m| ≤ 2 ^ 53 ∧ -1074 ≤ e ∧ v = m * 2 ^ e

theorem round_eq (q : ℚ) :
    round q = roundEven (q / 2 ^ lastBit q) * (2 : ℚ) ^ lastBit q := by
  unfold round
  split
  · rename_i h
    have hzero : roundEven 0 = 0 := by decide +kernel
    rw [h, zero_div, hzero, Int.cast_zero, zero_mul]
  · rfl

theorem abs_mul_sub {u : ℚ} (hu : 0 < u) (k q : ℚ) : |k * u - q| = |k - q / u| * u := by
  have hsplit : k * u - q = (k - q / u) * u := by
    field_simp
  rw [hsplit, abs_mul, abs_of_pos hu]

/-- No multiple of the last bit is nearer. -/
theorem round_nearest_multiple (q : ℚ) (k : ℤ) :
    |round q - q| ≤ |k * (2 : ℚ) ^ lastBit q - q| := by
  have hu := two_zpow_pos (lastBit q)
  rw [round_eq, abs_mul_sub hu, abs_mul_sub hu]
  exact mul_le_mul_of_nonneg_right (roundEven_nearest _ k) hu.le

theorem round_error_lastBit (q : ℚ) : |round q - q| ≤ (2 : ℚ) ^ lastBit q / 2 := by
  have hu := two_zpow_pos (lastBit q)
  rw [round_eq, abs_mul_sub hu]
  have herror := mul_le_mul_of_nonneg_right (roundEven_error (q / 2 ^ lastBit q)) hu.le
  linarith

/-- Half a last bit away from `q`, the double is an even multiple of the last bit. -/
theorem round_even {q : ℚ} (h : |round q - q| = (2 : ℚ) ^ lastBit q / 2) :
    ∃ k : ℤ, round q = (2 * k : ℤ) * (2 : ℚ) ^ lastBit q := by
  have hu := two_zpow_pos (lastBit q)
  rw [round_eq, abs_mul_sub hu] at h
  have hhalf : |(roundEven (q / 2 ^ lastBit q) : ℚ) - q / 2 ^ lastBit q| = 1 / 2 := by
    apply mul_right_cancel₀ hu.ne'
    linarith
  refine ⟨roundEven (q / 2 ^ lastBit q) / 2, ?_⟩
  rw [Int.mul_ediv_cancel' (Int.dvd_of_emod_eq_zero (roundEven_even hhalf)), round_eq]

theorem lastBit_ge (q : ℚ) : -1074 ≤ lastBit q := le_max_right _ _

theorem lastBit_of_gt {q : ℚ} (h : -1074 < lastBit q) : lastBit q = floorLog2 |q| - 52 := by
  unfold lastBit at h ⊢
  rw [magnitude_eq_abs] at h ⊢
  omega

theorem abs_lt_of_lastBit {q : ℚ} (hq : q ≠ 0) : |q| < (2 : ℚ) ^ (lastBit q + 53) := by
  refine (floorLog2_bounds (abs_pos.mpr hq)).2.trans_le (zpow_le_zpow_right₀ one_le_two ?_)
  unfold lastBit
  rw [magnitude_eq_abs]
  omega

theorem isDouble_round (q : ℚ) : IsDouble (round q) := by
  by_cases hq : q = 0
  · exact ⟨0, 0, by norm_num, by norm_num, by simp [hq, round]⟩
  · refine ⟨roundEven (q / 2 ^ lastBit q), lastBit q, ?_, lastBit_ge q, round_eq q⟩
    have hu := two_zpow_pos (lastBit q)
    have hquotient : |q / 2 ^ lastBit q| < 2 ^ 53 := by
      rw [abs_div, abs_of_pos hu, div_lt_iff₀ hu]
      have h := abs_lt_of_lastBit hq
      rw [zpow_add₀ two_ne_zero, mul_comm] at h
      exact_mod_cast h
    have herror := roundEven_error (q / 2 ^ lastBit q)
    have hsum : |(roundEven (q / 2 ^ lastBit q) : ℚ)| < 2 ^ 53 + 1 := by
      have htriangle := abs_sub_abs_le_abs_sub (roundEven (q / 2 ^ lastBit q) : ℚ)
        (q / 2 ^ lastBit q)
      linarith
    have hcast : |roundEven (q / 2 ^ lastBit q)| < 2 ^ 53 + 1 := by exact_mod_cast hsum
    exact Int.lt_add_one_iff.mp hcast

/-- A number whose bits reach below the last one is not beyond the power of two at or below `q`. -/
theorem abs_le_of_lt_lastBit {q : ℚ} {m e : ℤ} (hm : |m| ≤ 2 ^ 53) (h : e < lastBit q) :
    |(m : ℚ) * 2 ^ e| ≤ 2 ^ 52 * (2 : ℚ) ^ lastBit q := by
  have hm' : |(m : ℚ)| ≤ 2 ^ 53 := by exact_mod_cast hm
  have he : (2 : ℚ) ^ e ≤ 2 ^ (lastBit q - 1) := zpow_le_zpow_right₀ one_le_two (by omega)
  rw [zpow_sub_one₀ two_ne_zero] at he
  rw [abs_mul, abs_of_pos (two_zpow_pos e)]
  calc |(m : ℚ)| * 2 ^ e ≤ 2 ^ 53 * (2 ^ lastBit q * 2⁻¹) :=
        mul_le_mul hm' he (two_zpow_pos e).le (by positivity)
    _ = 2 ^ 52 * 2 ^ lastBit q := by ring

/-- The power of two at or below `q` is a multiple of the last bit. -/
theorem round_error_power {q : ℚ} (h : 2 ^ 52 * (2 : ℚ) ^ lastBit q ≤ |q|) :
    |round q - q| ≤ |q| - 2 ^ 52 * (2 : ℚ) ^ lastBit q := by
  rcases le_total 0 q with hq | hq
  · rw [abs_of_nonneg hq] at h ⊢
    have hround := round_nearest_multiple q (2 ^ 52)
    rwa [Int.cast_pow, Int.cast_ofNat, abs_of_nonpos (sub_nonpos.mpr h), neg_sub] at hround
  · rw [abs_of_nonpos hq] at h ⊢
    have hround := round_nearest_multiple q (-2 ^ 52)
    have hopposite : -2 ^ 52 * (2 : ℚ) ^ lastBit q - q = -q - 2 ^ 52 * (2 : ℚ) ^ lastBit q := by
      ring
    rwa [Int.cast_neg, Int.cast_pow, Int.cast_ofNat, hopposite,
      abs_of_nonneg (sub_nonneg.mpr h)] at hround

/-- No double is nearer. One that has bits below the last one is not nearer than the power of two at
or below `q`. -/
theorem round_nearest (q : ℚ) {v : ℚ} (hv : IsDouble v) : |round q - q| ≤ |v - q| := by
  obtain ⟨m, e, hm, he, rfl⟩ := hv
  by_cases hq : q = 0
  · rw [hq, round, if_pos rfl, sub_zero, abs_zero]
    exact abs_nonneg _
  · rcases le_or_gt (lastBit q) e with hle | hlt
    · have hmultiple : (m : ℚ) * 2 ^ e =
          (m * 2 ^ (e - lastBit q).toNat : ℤ) * (2 : ℚ) ^ lastBit q := by
        push_cast
        rw [mul_assoc, ← zpow_natCast, ← zpow_add₀ two_ne_zero]
        congr 2
        omega
      rw [hmultiple]
      exact round_nearest_multiple q _
    · have hexponent : floorLog2 |q| = lastBit q + 52 := by
        rw [lastBit_of_gt (he.trans_lt hlt), sub_add_cancel]
      have hpower : 2 ^ 52 * (2 : ℚ) ^ lastBit q ≤ |q| := by
        have hbelow := (floorLog2_bounds (abs_pos.mpr hq)).1
        rw [hexponent, zpow_add₀ two_ne_zero, mul_comm] at hbelow
        exact_mod_cast hbelow
      calc |round q - q| ≤ |q| - 2 ^ 52 * (2 : ℚ) ^ lastBit q := round_error_power hpower
        _ ≤ |q| - |(m : ℚ) * 2 ^ e| := sub_le_sub_left (abs_le_of_lt_lastBit hm hlt) _
        _ ≤ |(m : ℚ) * 2 ^ e - q| := by
          rw [abs_sub_comm]
          exact abs_sub_abs_le_abs_sub _ _

theorem round_of_isDouble {v : ℚ} (hv : IsDouble v) : round v = v := by
  have h := round_nearest v hv
  rw [sub_self, abs_zero] at h
  exact sub_eq_zero.mp (abs_nonpos_iff.mp h)

theorem round_intCast {n : ℤ} (h : |n| ≤ 2 ^ 53) : round n = n :=
  round_of_isDouble ⟨n, 0, h, by norm_num, by simp⟩

/-- Where doubles have all their bits, rounding changes a number by a part in `2 ^ 53` at most. -/
theorem round_error {q : ℚ} (h : (2 : ℚ) ^ (-1022 : ℤ) ≤ |q|) : |round q - q| ≤ |q| / 2 ^ 53 := by
  have hpos : 0 < |q| := (two_zpow_pos _).trans_le h
  have hnormal : -1022 ≤ floorLog2 |q| := le_floorLog2 hpos h
  have hlast : lastBit q = floorLog2 |q| - 52 := by
    unfold lastBit
    rw [magnitude_eq_abs]
    omega
  calc |round q - q| ≤ (2 : ℚ) ^ lastBit q / 2 := round_error_lastBit q
    _ = 2 ^ floorLog2 |q| / 2 ^ 53 := by
      rw [hlast, zpow_sub₀ two_ne_zero]
      norm_num
      ring
    _ ≤ |q| / 2 ^ 53 := by
      gcongr
      exact (floorLog2_bounds hpos).1

/-- A rounded product with a rounded factor: the two errors add up. -/
theorem round_mul_round_error {a b : ℚ} (hb : (2 : ℚ) ^ (-1022 : ℤ) ≤ |b|)
    (hab : 2 * (2 : ℚ) ^ (-1022 : ℤ) ≤ |a * b|) :
    |round (a * round b) - a * b| ≤ |a * b| / 2 ^ 51 := by
  have hfactor : |a * round b - a * b| ≤ |a * b| / 2 ^ 53 := by
    rw [← mul_sub, abs_mul, abs_mul, mul_div_assoc]
    exact mul_le_mul_of_nonneg_left (round_error hb) (abs_nonneg a)
  have hbelow := abs_sub_abs_le_abs_sub (a * b) (a * round b)
  have habove := abs_sub_abs_le_abs_sub (a * round b) (a * b)
  rw [abs_sub_comm] at hbelow
  have hproduct : |round (a * round b) - a * round b| ≤ |a * round b| / 2 ^ 53 :=
    round_error (by linarith)
  have htriangle := abs_sub_le (round (a * round b)) (a * round b) (a * b)
  linarith

end Binary64

end WindowKeeper.Numeric
