import WindowKeeper.Geometry
import WindowKeeper.Proofs.Outcome

namespace WindowKeeper

/-- The margins of a frame that lies around its area. -/
structure Margins.Outward (m : Margins) : Prop where
  left : 0 ≤ m.left
  top : 0 ≤ m.top
  right : 0 ≤ m.right
  bottom : 0 ≤ m.bottom

theorem fits32_zero : Fits32 0 := by decide

structure Size.Fits (s : Size) : Prop where
  w : Fits32 s.w
  h : Fits32 s.h

namespace Rect

/-- A rectangle of 32-bit numbers. -/
structure Fits (r : Rect) : Prop where
  x : Fits32 r.x
  y : Fits32 r.y
  w : Fits32 r.w
  h : Fits32 r.h

structure Within (r s : Rect) : Prop where
  left : s.x ≤ r.x
  top : s.y ≤ r.y
  right : r.x + r.w ≤ s.x + s.w
  bottom : r.y + r.h ≤ s.y + s.h

def Covers (r : Rect) (p : Point) : Prop :=
  r.x ≤ p.x ∧ p.x < r.x + r.w ∧ r.y ≤ p.y ∧ p.y < r.y + r.h

def Disjoint (r s : Rect) : Prop := ∀ p, ¬ (r.Covers p ∧ s.Covers p)

theorem Disjoint.symm {r s : Rect} (h : r.Disjoint s) : s.Disjoint r :=
  fun p hp => h p hp.symm

theorem Within.trans {r s t : Rect} (h : r.Within s) (h' : s.Within t) : r.Within t where
  left := Int.le_trans h'.left h.left
  top := Int.le_trans h'.top h.top
  right := Int.le_trans h.right h'.right
  bottom := Int.le_trans h.bottom h'.bottom

/-- A rectangle with an inside lies in one of two disjoint rectangles at most. -/
theorem Within.not_of_disjoint {r s t : Rect} (hw : 0 < r.w) (hh : 0 < r.h) (hs : r.Within s)
    (hd : s.Disjoint t) : ¬ r.Within t := by
  intro ht
  have hr := hs.right
  have hb := hs.bottom
  have hr' := ht.right
  have hb' := ht.bottom
  apply hd r.corner
  constructor
  · exact ⟨hs.left, by change r.x < _; omega, hs.top, by change r.y < _; omega⟩
  · exact ⟨ht.left, by change r.x < _; omega, ht.top, by change r.y < _; omega⟩

theorem inset_eq_ok {r s : Rect} {m : Margins} (h : r.inset m = .ok s) :
    s = ⟨r.x + m.left, r.y + m.top, r.w - m.left - m.right, r.h - m.top - m.bottom⟩ := by
  simp only [inset, bind_eq_ok, pure_eq_ok, plus_eq_ok, minus_eq_ok] at h
  obtain ⟨_, ⟨_, rfl⟩, _, ⟨_, rfl⟩, _, ⟨_, rfl⟩, _, ⟨_, rfl⟩, _, ⟨_, rfl⟩, _, ⟨_, rfl⟩, rfl⟩ := h
  rfl

theorem fits_inset {r s : Rect} {frame : Margins} (h : r.inset frame = .ok s) : s.Fits := by
  simp only [inset, bind_eq_ok, pure_eq_ok, plus_eq_ok, minus_eq_ok] at h
  obtain ⟨_, ⟨hx, rfl⟩, _, ⟨hy, rfl⟩, _, ⟨-, rfl⟩, _, ⟨hw, rfl⟩, _, ⟨-, rfl⟩, _, ⟨hh, rfl⟩,
    rfl⟩ := h
  exact ⟨hx, hy, hw, hh⟩

theorem inset_within {r s : Rect} {m : Margins} (hm : m.Outward) (h : r.inset m = .ok s) :
    s.Within r := by
  have hl := hm.left
  have ht := hm.top
  have hr := hm.right
  have hb := hm.bottom
  rw [inset_eq_ok h]
  constructor <;> simp only <;> omega

theorem centered_eq_ok {r s : Rect} {z : Size} (h : r.centered z = .ok s) :
    s = ⟨r.x + max ((r.w - z.w).tdiv 2) 0, r.y + max ((r.h - z.h).tdiv 2) 0, z.w, z.h⟩ ∧
      Fits32 s.x ∧ Fits32 s.y := by
  simp only [centered, bind_eq_ok, pure_eq_ok, plus_eq_ok, minus_eq_ok] at h
  obtain ⟨_, ⟨_, rfl⟩, _, ⟨hx, rfl⟩, _, ⟨_, rfl⟩, _, ⟨hy, rfl⟩, rfl⟩ := h
  exact ⟨rfl, hx, hy⟩

/-- A size that fits the rectangle is centered inside it. -/
theorem centered_within {r s : Rect} {z : Size} (hw : z.w ≤ r.w) (hh : z.h ≤ r.h)
    (h : r.centered z = .ok s) : s.Within r := by
  rw [(centered_eq_ok h).1, Int.tdiv_eq_ediv_of_nonneg (by omega),
    Int.tdiv_eq_ediv_of_nonneg (by omega)]
  constructor <;> simp only <;> omega

end Rect

end WindowKeeper
