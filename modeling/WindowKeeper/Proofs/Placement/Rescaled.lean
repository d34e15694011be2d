import WindowKeeper.Placement.Rescale
import WindowKeeper.Proofs.Form.Settings
import WindowKeeper.Proofs.Numeric.Rounded
import WindowKeeper.Proofs.Numeric.Truncated

namespace WindowKeeper.Placement

open Numeric

/-- The coordinate `n` at another scale without any rounding on the way: the quotient is cut to an
integer and held to 32 bits. -/
def exactCoordinate (n current saved : ℤ) : ℤ := saturate32 ((n * current).tdiv saved)

/-- `r` is the coordinate `n` at another scale, up to a pixel. The signs are compared with the
quotient before it is cut. -/
structure NearExact (n current saved r : ℤ) : Prop where
  near : (r - exactCoordinate n current saved).natAbs ≤ 1
  nonneg : 0 ≤ (n : ℚ) * current / saved → 0 ≤ r
  nonpos : (n : ℚ) * current / saved ≤ 0 → r ≤ 0
  eq_of_dvd : saved ∣ current → r = exactCoordinate n current saved

theorem exactCoordinate_eq (n current saved : ℤ) :
    exactCoordinate n current saved = saturate32 (truncate (n * (current / saved))) := by
  rw [exactCoordinate, ← truncate_div, Int.cast_mul, mul_div_assoc]

theorem abs_le_of_fits32 {n : ℤ} (h : Fits32 n) : |n| ≤ 2 ^ 31 := by
  unfold Fits32 int32Min int32Max at h
  rw [abs_le]
  omega

/-- A quotient by a 32-bit number is zero or far from the smallest doubles. -/
theorem quotient_normal {a b : ℤ} (ha : a ≠ 0) (hb : b ≠ 0) (h : Fits32 b) :
    2 * (2 : ℚ) ^ (-1022 : ℤ) ≤ |(a : ℚ) / b| := by
  have hnum : (1 : ℚ) ≤ |(a : ℚ)| := by exact_mod_cast Int.one_le_abs ha
  have hden : |(b : ℚ)| ≤ 2 ^ 31 := by exact_mod_cast abs_le_of_fits32 h
  have hpos : 0 < |(b : ℚ)| := abs_pos.mpr (Int.cast_ne_zero.mpr hb)
  calc 2 * (2 : ℚ) ^ (-1022 : ℤ) = 2 ^ (-1021 : ℤ) := by
        rw [← zpow_one_add₀ two_ne_zero]
        norm_num
    _ ≤ 2 ^ (-31 : ℤ) := zpow_le_zpow_right₀ one_le_two (by norm_num)
    _ = 1 / 2 ^ 31 := by norm_num
    _ ≤ |(a : ℚ)| / |(b : ℚ)| := div_le_div₀ (abs_nonneg _) hnum hpos hden
    _ = |(a : ℚ) / b| := (abs_div _ _).symm

section

variable {current saved : ℤ} (hc : Fits32 current) (hs : saved ≠ 0) (h : Fits32 saved)

include hs h

theorem scaled_error (n current : ℤ) :
    |Binary64.round (n * scaleFactor current saved) - n * (current / saved)| ≤
      |(n : ℚ) * (current / saved)| / 2 ^ 51 := by
  by_cases hzero : n = 0 ∨ current = 0
  · rcases hzero with rfl | rfl <;> simp [scaleFactor, Binary64.round]
  · obtain ⟨hn, hcurrent⟩ := not_or.mp hzero
    have hfactor := quotient_normal hcurrent hs h
    have hproduct := quotient_normal (mul_ne_zero hn hcurrent) hs h
    rw [Int.cast_mul, mul_div_assoc] at hproduct
    exact Binary64.round_mul_round_error (by linarith [two_zpow_pos (-1022)]) hproduct

include hc

/-- If the saved scale divides the current one, the factor is an integer. The product is one too,
unless it is so large that it is held to 32 bits anyway. -/
theorem scaleBy_of_dvd (n : ℤ) (hdvd : saved ∣ current) :
    scaleBy (scaleFactor current saved) n = exactCoordinate n current saved := by
  have herror := scaled_error hs h n current
  rw [exactCoordinate_eq, scaleBy]
  obtain ⟨k, rfl⟩ := hdvd
  have hquotient : ((saved * k : ℤ) : ℚ) / saved = k := by
    rw [Int.cast_mul, mul_div_cancel_left₀ _ (Int.cast_ne_zero.mpr hs)]
  have hk : |k| ≤ 2 ^ 53 := by
    have hle : |k| ≤ |saved * k| := by
      rw [abs_mul]
      exact le_mul_of_one_le_left (abs_nonneg k) (Int.one_le_abs hs)
    have hcurrent := abs_le_of_fits32 hc
    omega
  have hfactor : scaleFactor (saved * k) saved = k := by
    rw [scaleFactor, hquotient, Binary64.round_intCast hk]
  rw [hquotient] at herror ⊢
  rcases le_total |n * k| (2 ^ 53) with hsmall | hlarge
  · rw [hfactor, ← Int.cast_mul, Binary64.round_intCast hsmall]
  · apply saturate32_truncate_of_beyond herror
    have hlarge' : (2 : ℚ) ^ 53 ≤ |(n : ℚ) * k| := by exact_mod_cast hlarge
    linarith

theorem nearExact_scaleBy (n : ℤ) :
    NearExact n current saved (scaleBy (scaleFactor current saved) n) := by
  have herror := scaled_error hs h n current
  obtain ⟨hlow, hhigh⟩ := abs_le.mp herror
  refine ⟨?_, ?_, ?_, scaleBy_of_dvd hc hs h n⟩
  · rw [exactCoordinate_eq]
    exact saturate32_truncate_near herror
  · intro hsign
    rw [mul_div_assoc] at hsign
    rw [abs_of_nonneg hsign] at hlow
    exact saturate32_truncate_nonneg (by linarith)
  · intro hsign
    rw [mul_div_assoc] at hsign
    rw [abs_of_nonpos hsign] at hhigh
    exact saturate32_truncate_nonpos (by linarith)

end

theorem rescale_of_scale {p : Placement} (h : p.scale ≠ 0) (current : ℤ) :
    p.rescale current =
      ⟨scaleBy (scaleFactor current p.scale) p.x, scaleBy (scaleFactor current p.scale) p.y,
        scaleBy (scaleFactor current p.scale) p.w, scaleBy (scaleFactor current p.scale) p.h,
        p.scale, p.maximized, p.monitor⟩ :=
  if_neg h

theorem exactCoordinate_self {n saved : ℤ} (hn : Fits32 n) (hs : saved ≠ 0) :
    exactCoordinate n saved saved = n := by
  rw [exactCoordinate, Int.mul_tdiv_cancel _ hs]
  unfold saturate32
  rw [if_neg (not_lt.mpr hn.1), if_neg (not_lt.mpr hn.2)]

theorem rescale_self {p : Placement} (hp : p.Fits) (hs : p.scale ≠ 0) :
    p.rescale p.scale = p := by
  have hkept {n : ℤ} (hn : Fits32 n) : scaleBy (scaleFactor p.scale p.scale) n = n := by
    rw [scaleBy_of_dvd hp.scale hs hp.scale n dvd_rfl, exactCoordinate_self hn hs]
  rw [rescale_of_scale hs, hkept hp.x, hkept hp.y, hkept hp.w, hkept hp.h]

/-- The coordinates are near the exact ones, and a record is not changed at its own scale. -/
theorem rescale_nearExact {p : Placement} {current : ℤ} (hp : p.Fits) (hc : Fits32 current)
    (hs : p.scale ≠ 0) :
    NearExact p.x current p.scale (p.rescale current).x ∧
    NearExact p.y current p.scale (p.rescale current).y ∧
    NearExact p.w current p.scale (p.rescale current).w ∧
    NearExact p.h current p.scale (p.rescale current).h ∧
    p.rescale p.scale = p ∧
    (p.rescale current).scale = p.scale ∧
    (p.rescale current).maximized = p.maximized ∧
    (p.rescale current).monitor = p.monitor := by
  refine ⟨?_, ?_, ?_, ?_, rescale_self hp hs, ?_⟩
  all_goals rw [rescale_of_scale hs]
  · exact nearExact_scaleBy hc hs hp.scale p.x
  · exact nearExact_scaleBy hc hs hp.scale p.y
  · exact nearExact_scaleBy hc hs hp.scale p.w
  · exact nearExact_scaleBy hc hs hp.scale p.h
  · exact ⟨rfl, rfl, rfl⟩

/-- From 110 to 150 percent: one coordinate past 32 bits, and one whose exact value is the integer
-105. The rounded factor is a little too small, and the product is cut to -104. -/
theorem rescale_nearExact_rounded :
    let p : Placement := ⟨2000000000, -77, 803, 605, 110, true, 679109651⟩
    p.Fits ∧ Fits32 150 ∧ p.scale ≠ 0 ∧
      p.rescale 150 = ⟨2147483647, -104, 1095, 824, 110, true, 679109651⟩ ∧
      exactCoordinate p.y 150 p.scale = -105 ∧
      NearExact p.y 150 p.scale (p.rescale 150).y ∧ p.rescale 110 = p := by
  intro p
  have hp : p.Fits := by constructor <;> decide
  obtain ⟨-, hy, -, -, hself, -⟩ := rescale_nearExact hp (by decide : Fits32 150) (by decide)
  exact ⟨hp, by decide, by decide, by decide +kernel, rfl, hy, hself⟩

end WindowKeeper.Placement
