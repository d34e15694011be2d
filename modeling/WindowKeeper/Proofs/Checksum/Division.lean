import Mathlib.Data.Nat.Bitwise
import WindowKeeper.Checksum

namespace WindowKeeper.Checksum

theorem toNat_divideBit (c : UInt32) :
    (divideBit c).toNat =
      if c.toNat % 2 = 1 then c.toNat / 2 ^^^ 0xEDB88320 else c.toNat / 2 := by
  have hlow : c &&& 1 = 1 ↔ c.toNat % 2 = 1 := by
    rw [← UInt32.toNat_inj]
    simp [Nat.and_one_is_mod]
  have hhalf : (c >>> 1).toNat = c.toNat / 2 := by
    simp [UInt32.toNat_shiftRight, Nat.shiftRight_eq_div_pow]
  unfold divideBit
  by_cases hodd : c.toNat % 2 = 1
  · rw [if_pos (hlow.mpr hodd), if_pos hodd, UInt32.toNat_xor, hhalf]
    rfl
  · rw [if_neg (mt hlow.mp hodd), if_neg hodd, hhalf]

theorem divideBit_xor (c d : UInt32) : divideBit (c ^^^ d) = divideBit c ^^^ divideBit d := by
  rw [← UInt32.toNat_inj, UInt32.toNat_xor]
  simp only [toNat_divideBit, UInt32.toNat_xor, Nat.xor_mod_two_eq_one, Nat.xor_div_two]
  generalize c.toNat / 2 = m, d.toNat / 2 = n, 0xEDB88320 = p
  by_cases hc : c.toNat % 2 = 1
  · by_cases hd : d.toNat % 2 = 1
    · -- the polynomial is subtracted from both, which leaves the difference alone
      have hcancel : m ^^^ p ^^^ (n ^^^ p) = m ^^^ n := by
        rw [Nat.xor_comm n p, Nat.xor_assoc, Nat.xor_xor_cancel_left]
      simp only [hc, hd, if_true, not_true, if_false, hcancel]
    · simp only [hc, hd, if_true, iff_false, not_true, not_false_iff, if_false]
      rw [Nat.xor_assoc, Nat.xor_comm n p, ← Nat.xor_assoc]
  · by_cases hd : d.toNat % 2 = 1
    · simp only [hc, hd, if_true, iff_true, not_false_iff, if_false]
      rw [Nat.xor_assoc]
    · simp only [hc, hd, not_true, if_false]

theorem divideBits_xor (n : Nat) (c d : UInt32) :
    divideBits n (c ^^^ d) = divideBits n c ^^^ divideBits n d := by
  induction n generalizing c d with
  | zero => rfl
  | succ n ih => rw [divideBits, divideBit_xor, ih, divideBits, divideBits]

/-- The polynomial is subtracted from odd registers only, and shows in the highest bit. -/
theorem toNat_of_divideBit {c : UInt32} (h : (divideBit c).toNat < 2 ^ 31) :
    c.toNat = 2 * (divideBit c).toNat := by
  have hhalf : c.toNat / 2 < 2 ^ 31 := by
    have hc := c.toNat_lt
    omega
  rw [toNat_divideBit] at h ⊢
  by_cases hodd : c.toNat % 2 = 1
  · rw [if_pos hodd] at h
    have hpolynomial := Nat.xor_lt_two_pow hhalf h
    rw [Nat.xor_xor_cancel_left] at hpolynomial
    exact absurd hpolynomial (by decide)
  · rw [if_neg hodd]
    omega

theorem toNat_of_divideBits {n : Nat} {c : UInt32} (h : 2 ^ n * (divideBits n c).toNat < 2 ^ 32) :
    c.toNat = 2 ^ n * (divideBits n c).toNat := by
  induction n generalizing c with
  | zero => simp [divideBits]
  | succ n ih =>
    rw [divideBits, Nat.pow_succ', Nat.mul_assoc] at h ⊢
    have hrest : (divideBit c).toNat = 2 ^ n * (divideBits n (divideBit c)).toNat := ih (by omega)
    rw [← hrest] at h ⊢
    exact toNat_of_divideBit (by omega)

theorem divideBits_injective {n : Nat} {c d : UInt32} (h : divideBits n c = divideBits n d) :
    c = d := by
  have hzero : divideBits n (c ^^^ d) = 0 := by
    rw [divideBits_xor, h, UInt32.xor_self]
  have hdifference : (c ^^^ d).toNat = 0 := by
    rw [toNat_of_divideBits (n := n) (by simp [hzero]), hzero]
    rfl
  exact UInt32.xor_eq_zero_iff.mp (UInt32.toNat_inj.mp hdifference)

theorem absorb_injective {c d : UInt32} {b : UInt8} (h : absorb c b = absorb d b) : c = d :=
  UInt32.xor_left_inj b.toUInt32 |>.mp (divideBits_injective h)

theorem foldl_absorb_injective {c d : UInt32} {bs : List UInt8}
    (h : bs.foldl absorb c = bs.foldl absorb d) : c = d := by
  induction bs generalizing c d with
  | nil => exact h
  | cons b bs ih => exact absorb_injective (ih h)

/-- Registers that differ in their `n` lower bits only after they took in a byte each differed in
eight more before, and if they were the same, so were the bytes. -/
theorem xor_of_absorb {c d : UInt32} {u v : UInt8} {n : Nat} (hn : n ≤ 24)
    (h : (absorb c u ^^^ absorb d v).toNat < 2 ^ n) :
    (c ^^^ d).toNat < 2 ^ (n + 8) ∧ (c = d → u = v) := by
  -- what the registers differ by once the bytes are in them, and before they are divided
  generalize he : (c ^^^ u.toUInt32) ^^^ (d ^^^ v.toUInt32) = e
  have hdivided : absorb c u ^^^ absorb d v = divideBits 8 e := by
    rw [← he, divideBits_xor]
    rfl
  have hsplit : c ^^^ d = e ^^^ (u ^^^ v).toUInt32 := by
    rw [← he, UInt8.toUInt32_xor]
    ac_nf
    simp
  rw [hdivided] at h
  have hlower : 2 ^ n ≤ 2 ^ 24 := Nat.pow_le_pow_right (by decide) hn
  have hback : e.toNat = 2 ^ 8 * (divideBits 8 e).toNat := toNat_of_divideBits (by omega)
  have hbyte : (u ^^^ v).toUInt32.toNat < 2 ^ 8 := (u ^^^ v).toNat_lt
  constructor
  · rw [hsplit, UInt32.toNat_xor]
    apply Nat.xor_lt_two_pow
    · rw [Nat.pow_add]
      omega
    · exact Nat.lt_of_lt_of_le hbyte (Nat.pow_le_pow_right (by decide) (by omega))
  · intro hsame
    have hequal : e = (u ^^^ v).toUInt32 := by
      rw [← UInt32.xor_eq_zero_iff, ← hsplit, hsame, UInt32.xor_self]
    -- a byte that is a multiple of 256
    have hzero : (u ^^^ v).toNat = 0 := by
      rw [← UInt8.toNat_toUInt32]
      rw [hequal] at hback
      omega
    exact UInt8.xor_eq_zero_iff.mp (UInt8.toNat_inj.mp hzero)

/-- Registers that become the same by as many bytes, four at most, differ in so many of their lower
bits only, and if they were the same before, so were the bytes. -/
theorem foldl_absorb_short {c d : UInt32} {us vs : List UInt8} (hlength : us.length = vs.length)
    (hshort : us.length ≤ 4) (h : us.foldl absorb c = vs.foldl absorb d) :
    (c ^^^ d).toNat < 2 ^ (8 * us.length) ∧ (c = d → us = vs) := by
  induction us generalizing c d vs with
  | nil =>
    obtain rfl := List.eq_nil_of_length_eq_zero hlength.symm
    obtain rfl : c = d := h
    simp
  | cons u us ih =>
    cases vs with
    | nil => cases hlength
    | cons v vs =>
      simp only [List.length_cons, Nat.add_right_cancel_iff] at hlength hshort
      obtain ⟨hafter, hrest⟩ := ih hlength (by omega) h
      obtain ⟨hbefore, hfirst⟩ := xor_of_absorb (by omega) hafter
      refine ⟨hbefore, ?_⟩
      rintro rfl
      obtain rfl := hfirst rfl
      rw [hrest rfl]

/-- Texts of bytes that differ within four in a row have different checksums. -/
theorem ofBytes_ne_of_short {us vs : List UInt8} (before after : List UInt8)
    (hlength : us.length = vs.length) (hshort : us.length ≤ 4) (hne : us ≠ vs) :
    ofBytes (before ++ us ++ after) ≠ ofBytes (before ++ vs ++ after) := by
  intro h
  simp only [ofBytes, UInt32.not_inj, List.foldl_append] at h
  exact hne ((foldl_absorb_short hlength hshort (foldl_absorb_injective h)).2 rfl)

end WindowKeeper.Checksum
