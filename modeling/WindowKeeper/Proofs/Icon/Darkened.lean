import Mathlib.Data.Rat.Floor
import Mathlib.Tactic.Linarith
import WindowKeeper.Icon.Gray

namespace WindowKeeper

namespace Gray

/-- The exact gray level of a pixel. -/
def gray (p : Pixel) : ℚ := 0.299 * p.r.toNat + 0.587 * p.g.toNat + 0.114 * p.b.toNat

/-- What a gray level above the threshold is stretched to, exactly. -/
def ideal (n : ℚ) : ℚ := max 0 ((n - 100) * 255 / 155)

/-- The products and sums on the way to the shown level have 32 bits. -/
structure InRange (p : Pixel) : Prop where
  red : p.r.toNat * redWeight < 2 ^ 32
  green : p.g.toNat * greenWeight < 2 ^ 32
  redGreen : p.r.toNat * redWeight + p.g.toNat * greenWeight < 2 ^ 32
  blue : p.b.toNat * blueWeight < 2 ^ 32
  weighted : weighted p < 2 ^ 32
  stretched : stretched (level p) < 2 ^ 32

theorem weighted_le (p : Pixel) : weighted p ≤ 255 * 16777214 := by
  have hr := p.r.toNat_lt
  have hg := p.g.toNat_lt
  have hb := p.b.toNat_lt
  unfold weighted redWeight greenWeight blueWeight
  omega

theorem level_le (p : Pixel) : level p ≤ 254 := by
  have h := weighted_le p
  unfold level unit
  omega

theorem stretched_le {n : Nat} (hn : n ≤ 254) : stretched n ≤ 154 * stretch :=
  Nat.mul_le_mul_right _ (Nat.sub_le_sub_right hn _)

theorem stretched_div_le {n : Nat} (hn : n ≤ 254) : stretched n / unit ≤ 253 := by
  have h := stretched_le hn
  unfold stretch at h
  unfold unit
  omega

theorem inRange (p : Pixel) : InRange p := by
  have hr := p.r.toNat_lt
  have hg := p.g.toNat_lt
  have hb := p.b.toNat_lt
  have hw := weighted_le p
  have hs := stretched_le (level_le p)
  have hred : p.r.toNat * redWeight < 2 ^ 32 := by
    unfold redWeight
    omega
  have hblue : p.b.toNat * blueWeight < 2 ^ 32 := by
    unfold blueWeight
    omega
  have hgreen : p.r.toNat * redWeight + p.g.toNat * greenWeight < 2 ^ 32 := by
    unfold redWeight greenWeight
    omega
  have hgray : weighted p < 2 ^ 32 := Nat.lt_of_le_of_lt hw (by decide)
  have hbright : stretched (level p) < 2 ^ 32 := Nat.lt_of_le_of_lt hs (by decide)
  exact ⟨hred, Nat.lt_of_le_of_lt (Nat.le_add_left _ _) hgreen, hgreen, hblue, hgray, hbright⟩

/-- Levels below the threshold need no case of their own, and the last byte holds all bits. -/
theorem shown_eq {n : Nat} (hn : n ≤ 254) : shown n = stretched n / unit := by
  have h := stretched_div_le hn
  unfold shown
  split
  · rename_i hdark
    have hnone : n - threshold = 0 := Nat.sub_eq_zero_of_le (Nat.le_of_lt hdark)
    simp [stretched, hnone]
  · exact Nat.mod_eq_of_lt (Nat.lt_of_le_of_lt h (by decide))

theorem weighted_mono {p q : Pixel} (hr : p.r ≤ q.r) (hg : p.g ≤ q.g) (hb : p.b ≤ q.b) :
    weighted p ≤ weighted q :=
  Nat.add_le_add (Nat.add_le_add (Nat.mul_le_mul_right _ hr) (Nat.mul_le_mul_right _ hg))
    (Nat.mul_le_mul_right _ hb)

theorem level_mono {p q : Pixel} (h : weighted p ≤ weighted q) : level p ≤ level q :=
  Nat.div_le_div_right h

theorem stretched_mono {m n : Nat} (h : m ≤ n) : stretched m ≤ stretched n :=
  Nat.mul_le_mul_right _ (Nat.sub_le_sub_right h _)

/-- The weights in 24 binary places are rounded down, by less than one unit each. -/
theorem level_bounds (p : Pixel) : level p ≤ gray p ∧ gray p < level p + 1 + 1 / 1000 := by
  have hr : (p.r.toNat : ℚ) ≤ 255 := by exact_mod_cast Nat.le_of_lt_succ p.r.toNat_lt
  have hg : (p.g.toNat : ℚ) ≤ 255 := by exact_mod_cast Nat.le_of_lt_succ p.g.toNat_lt
  have hb : (p.b.toNat : ℚ) ≤ 255 := by exact_mod_cast Nat.le_of_lt_succ p.b.toNat_lt
  have hr0 : (0 : ℚ) ≤ p.r.toNat := Nat.cast_nonneg _
  have hg0 : (0 : ℚ) ≤ p.g.toNat := Nat.cast_nonneg _
  have hb0 : (0 : ℚ) ≤ p.b.toNat := Nat.cast_nonneg _
  have hlow : unit * level p ≤ weighted p := Nat.mul_div_le _ _
  have hhigh : weighted p < unit * (level p + 1) := Nat.lt_mul_div_succ _ (by decide)
  unfold weighted redWeight greenWeight blueWeight unit at hlow hhigh
  have hlow' : (16777216 * level p : ℚ) ≤
      p.r.toNat * 5016387 + p.g.toNat * 9848225 + p.b.toNat * 1912602 := by exact_mod_cast hlow
  have hhigh' : (p.r.toNat * 5016387 + p.g.toNat * 9848225 + p.b.toNat * 1912602 : ℚ) <
      16777216 * (level p + 1) := by exact_mod_cast hhigh
  unfold gray
  constructor <;> linarith

theorem ideal_nonneg (n : ℚ) : 0 ≤ ideal n := le_max_left _ _

theorem ideal_mono {m n : ℚ} (h : m ≤ n) : ideal m ≤ ideal n :=
  max_le_max_left 0 (by linarith)

/-- Levels that differ by little more than one are stretched to numbers that differ by less than
two. -/
theorem ideal_lt {m n : ℚ} (h : n < m + 1 + 1 / 1000) : ideal n < ideal m + 1.65 := by
  have hm : (m - 100) * 255 / 155 ≤ ideal m := le_max_right _ _
  have hpos := ideal_nonneg m
  apply max_lt
  · linarith
  · linarith

/-- The stretch in 24 binary places is rounded down as well. -/
theorem shown_bounds {n : Nat} (hn : n ≤ 254) :
    shown n ≤ ideal n ∧ ideal n < shown n + 1 + 1 / 1000 := by
  rcases Nat.le_total n threshold with hdark | hbright
  · have hlevel : (n : ℚ) ≤ 100 := by exact_mod_cast hdark
    have hblack : shown n = 0 := by
      rw [shown_eq hn, stretched, Nat.sub_eq_zero_of_le hdark, Nat.zero_mul, Nat.zero_div]
    have hideal : ideal n = 0 := max_eq_left (by linarith)
    rw [hblack, hideal]
    norm_num
  · obtain ⟨k, rfl⟩ := Nat.exists_eq_add_of_le hbright
    have hstretched : stretched (threshold + k) = k * stretch := by
      rw [stretched, Nat.add_sub_cancel_left]
    have hlow : unit * shown (threshold + k) ≤ k * stretch := by
      rw [shown_eq hn, hstretched]
      exact Nat.mul_div_le _ _
    have hhigh : k * stretch < unit * (shown (threshold + k) + 1) := by
      rw [shown_eq hn, hstretched]
      exact Nat.lt_mul_div_succ _ (by decide)
    have hideal : ideal (threshold + k : Nat) = k * 255 / 155 := by
      unfold ideal threshold
      rw [max_eq_right]
      · push_cast
        ring
      · push_cast
        have hk : (0 : ℚ) ≤ k := Nat.cast_nonneg _
        linarith
    rw [hideal]
    generalize shown (threshold + k) = v at hlow hhigh ⊢
    unfold threshold at hn
    unfold stretch unit at hlow hhigh
    have hlow' : (16777216 * v : ℚ) ≤ k * 27601226 := by exact_mod_cast hlow
    have hhigh' : (k * 27601226 : ℚ) < 16777216 * (v + 1) := by exact_mod_cast hhigh
    have hk : (k : ℚ) ≤ 154 := by exact_mod_cast Nat.le_of_add_le_add_left hn
    constructor <;> linarith

theorem shown_mono {m n : Nat} (h : m ≤ n) (hn : n ≤ 254) : shown m ≤ shown n := by
  rw [shown_eq (Nat.le_trans h hn), shown_eq hn]
  exact Nat.div_le_div_right (stretched_mono h)

end Gray

open Gray

theorem Pixel.darkened_eq (p : Pixel) :
    p.darkened = ⟨p.darkened.r, p.darkened.r, p.darkened.r, p.a⟩ := by
  obtain ⟨v, hv⟩ : ∃ v, p.darkened = ⟨v, v, v, p.a⟩ := ⟨_, rfl⟩
  rw [hv]

theorem Pixel.toNat_darkened (p : Pixel) : p.darkened.r.toNat = shown (level p) := by
  have h := stretched_div_le (level_le p)
  rw [← shown_eq (level_le p)] at h
  exact UInt8.toNat_ofNat_of_lt' (Nat.lt_of_le_of_lt h (by decide))

/-- Rounding down twice costs two steps at most. -/
theorem Pixel.floor_darkened (p : Pixel) :
    (p.darkened.r.toNat : ℤ) ≤ ⌊ideal (gray p)⌋ ∧
      ⌊ideal (gray p)⌋ ≤ (p.darkened.r.toNat : ℤ) + 2 := by
  obtain ⟨hlow, hhigh⟩ := level_bounds p
  obtain ⟨hlow', hhigh'⟩ := shown_bounds (level_le p)
  have hmore := ideal_mono hlow
  have hless := ideal_lt hhigh
  rw [toNat_darkened]
  constructor
  · rw [Int.le_floor]
    exact_mod_cast hlow'.trans hmore
  · rw [← Int.lt_add_one_iff, Int.floor_lt]
    push_cast
    linarith

theorem Pixel.darkened_mono {p q : Pixel} (hr : p.r ≤ q.r) (hg : p.g ≤ q.g) (hb : p.b ≤ q.b) :
    p.darkened.r ≤ q.darkened.r := by
  rw [UInt8.le_iff_toNat_le, toNat_darkened, toNat_darkened]
  exact shown_mono (level_mono (weighted_mono hr hg hb)) (level_le q)

/-- The dark picture has the size and the opacity of the bright one. Its pixels are gray, at most
two steps darker than the exact gray, and no brighter where the bright one is darker; nothing on the
way to them leaves 32 bits, or the eight bits of a channel. -/
theorem Image.darkened_nearGray (im : Image) :
    im.darkened.width = im.width ∧ im.darkened.height = im.height ∧
    im.darkened.pixels.size = im.pixels.size ∧
    ∀ (i : Nat) (p q : Pixel), im.pixels[i]? = some p → im.darkened.pixels[i]? = some q →
      (q.a = p.a ∧ q.g = q.r ∧ q.b = q.r) ∧
      InRange p ∧ (threshold ≤ level p → q.r.toNat = stretched (level p) / unit) ∧
      ((q.r.toNat : ℤ) ≤ ⌊ideal (gray p)⌋ ∧ ⌊ideal (gray p)⌋ ≤ (q.r.toNat : ℤ) + 2) ∧
      ∀ (im' : Image) (j : Nat) (p' q' : Pixel), im'.pixels[j]? = some p' →
        im'.darkened.pixels[j]? = some q' → p.r ≤ p'.r → p.g ≤ p'.g → p.b ≤ p'.b → q.r ≤ q'.r := by
  have hpixel {jm : Image} {j : Nat} {o d : Pixel} (ho : jm.pixels[j]? = some o)
      (hd : jm.darkened.pixels[j]? = some d) : d = o.darkened := by
    rw [darkened, Array.getElem?_map, ho] at hd
    exact (Option.some.inj hd).symm
  refine ⟨rfl, rfl, Array.size_map .., ?_⟩
  intro i p q hp hq
  obtain rfl := hpixel hp hq
  have halike : p.darkened.a = p.a ∧ p.darkened.g = p.darkened.r ∧ p.darkened.b = p.darkened.r := by
    rw [p.darkened_eq]
    exact ⟨rfl, rfl, rfl⟩
  refine ⟨halike, inRange p, ?_, p.floor_darkened, ?_⟩
  · intro _
    rw [p.toNat_darkened, shown_eq (level_le p)]
  · intro im' j p' q' hp' hq' hr hg hb
    obtain rfl := hpixel hp' hq'
    exact Pixel.darkened_mono hr hg hb

/-- White is shown two steps darker than it is, and no darker than a brown. -/
theorem Image.darkened_nearGray_white :
    let im : Image := ⟨2, 1, #[⟨255, 255, 255, 255⟩, ⟨200, 100, 50, 10⟩]⟩
    let white : Pixel := ⟨253, 253, 253, 255⟩
    let brown : Pixel := ⟨39, 39, 39, 10⟩
    im.darkened.pixels[0]? = some white ∧ im.darkened.pixels[1]? = some brown ∧
      ⌊ideal (gray ⟨255, 255, 255, 255⟩)⌋ = 255 ∧
      ⌊ideal (gray ⟨255, 255, 255, 255⟩)⌋ ≤ (white.r.toNat : ℤ) + 2 ∧
      (brown.r.toNat : ℤ) ≤ ⌊ideal (gray ⟨200, 100, 50, 10⟩)⌋ ∧ brown.r ≤ white.r := by
  intro im white brown
  obtain ⟨-, -, -, h⟩ := im.darkened_nearGray
  have hdark : im.darkened = ⟨2, 1, #[white, brown]⟩ := by decide +kernel
  have hfirst : im.darkened.pixels[0]? = some white := by rw [hdark]; rfl
  have hsecond : im.darkened.pixels[1]? = some brown := by rw [hdark]; rfl
  obtain ⟨-, -, -, ⟨-, hwhite⟩, -⟩ := h 0 _ white rfl hfirst
  obtain ⟨-, -, -, ⟨hbrown, -⟩, hmono⟩ := h 1 _ brown rfl hsecond
  have hbyte : (255 : UInt8).toNat = 255 := rfl
  have hideal : ideal (gray ⟨255, 255, 255, 255⟩) = 255 := by norm_num [ideal, gray, hbyte]
  refine ⟨hfirst, hsecond, ?_, hwhite, hbrown,
    hmono im 0 _ white rfl hfirst (by decide) (by decide) (by decide)⟩
  rw [hideal]
  rfl

end WindowKeeper
