import WindowKeeper.Proofs.Outcome
import WindowKeeper.Widening

namespace WindowKeeper.Rect

/-- The rectangle `r` does not pass the left and the right edge of `s`. -/
def BetweenSides (r s : Rect) : Prop := s.x ≤ r.x ∧ r.x + r.w ≤ s.x + s.w

variable {r desktop g : Rect} {d added n : Int}

theorem room_eq_ok : desktop.room r.w = .ok n ↔
    Fits32 (desktop.w - r.w) ∧ n = max (desktop.w - r.w) 0 := by
  simp only [room, bind_eq_ok, pure_eq_ok, minus_eq_ok]
  constructor
  · rintro ⟨_, ⟨hroom, rfl⟩, rfl⟩
    exact ⟨hroom, rfl⟩
  · rintro ⟨hroom, rfl⟩
    exact ⟨_, ⟨hroom, rfl⟩, rfl⟩

/-- A widening goes through when four numbers have 32-bit values. -/
theorem widen_eq_ok : r.widen desktop d = .ok (g, added) ↔
    (Fits32 (desktop.w - r.w) ∧ Fits32 (r.w + added) ∧ Fits32 (desktop.x + desktop.w) ∧
      Fits32 (desktop.x + desktop.w - (r.w + added))) ∧
    added = min d (max (desktop.w - r.w) 0) ∧
    g = ⟨min r.x (desktop.x + desktop.w - (r.w + added)), r.y, r.w + added, r.h⟩ := by
  simp only [widen, right, bind_eq_ok, pure_eq_ok, plus_eq_ok, minus_eq_ok, Prod.mk.injEq,
    room_eq_ok]
  constructor
  · rintro ⟨_, ⟨hroom, rfl⟩, _, ⟨hw, rfl⟩, _, ⟨hedge, rfl⟩, _, ⟨hx, rfl⟩, rfl, rfl⟩
    exact ⟨⟨hroom, hw, hedge, hx⟩, rfl, rfl⟩
  · rintro ⟨⟨hroom, hw, hedge, hx⟩, rfl, rfl⟩
    exact ⟨_, ⟨hroom, rfl⟩, _, ⟨hw, rfl⟩, _, ⟨hedge, rfl⟩, _, ⟨hx, rfl⟩, rfl, rfl⟩

theorem growsInPlace_eq_ok {b : Bool} (h : r.growsInPlace desktop d = .ok b) :
    b = true ↔ r.x + r.w + d ≤ desktop.x + desktop.w := by
  simp only [growsInPlace, right, bind_eq_ok, pure_eq_ok, plus_eq_ok] at h
  obtain ⟨_, ⟨-, rfl⟩, _, ⟨-, rfl⟩, _, ⟨-, rfl⟩, rfl⟩ := h
  exact decide_eq_true_iff

/-- A window that has grown in place is narrowed to what it was. -/
theorem widen_neg (h : r.widen desktop d = .ok (g, added))
    (hplace : r.x + r.w + d ≤ desktop.x + desktop.w) (hd : 0 ≤ d)
    (hroom : d ≤ max (desktop.w - r.w) 0) (hw : Fits32 r.w)
    (hx : Fits32 (desktop.x + desktop.w - r.w)) : g.widen desktop (-d) = .ok (r, -d) := by
  obtain ⟨⟨hspare, -, hedge, -⟩, rfl, rfl⟩ := widen_eq_ok.mp h
  have hadded : min d (max (desktop.w - r.w) 0) = d := by omega
  rw [hadded, widen_eq_ok]
  have hback : r.w + d + -d = r.w := by omega
  simp only [hback]
  refine ⟨⟨?_, hw, hedge, hx⟩, by omega, ?_⟩
  · unfold Fits32 int32Min int32Max at *
    omega
  · ext
    case x =>
      simp only
      omega
    case w => simp only
    case y | h => rfl

/-- Narrowing a window that has grown in place can give nothing else, and goes through for a window
of a 32-bit width that is not negative. -/
theorem widen_back (h : r.widen desktop d = .ok (g, added))
    (hplace : r.x + r.w + d ≤ desktop.x + desktop.w) (hd : 0 ≤ d)
    (hroom : d ≤ max (desktop.w - r.w) 0) :
    (∀ back, g.widen desktop (-d) = .ok back → back = (r, -d)) ∧
      (0 ≤ r.w → Fits32 r.w → g.widen desktop (-d) = .ok (r, -d)) := by
  obtain ⟨⟨-, -, hedge, hx⟩, hadded, hg⟩ := widen_eq_ok.mp h
  constructor
  · rintro ⟨b, back⟩ hback
    obtain ⟨⟨-, hw', -, hx'⟩, hback', -⟩ := widen_eq_ok.mp hback
    have hsame : g.w + back = r.w := by
      rw [hback', hg]
      simp only
      omega
    rw [hsame] at hw' hx'
    rw [widen_neg h hplace hd hroom hw' hx'] at hback
    exact (Except.ok.inj hback).symm
  · intro hpos hfits
    refine widen_neg h hplace hd hroom hfits ?_
    -- between the distance for the wide window and the edge itself
    unfold Fits32 int32Min int32Max at *
    omega

theorem betweenSides_widen (h : r.widen desktop d = .ok (g, added)) (hr : r.BetweenSides desktop) :
    g.BetweenSides desktop := by
  obtain ⟨-, hadded, rfl⟩ := widen_eq_ok.mp h
  obtain ⟨hleft, hright⟩ := hr
  unfold BetweenSides
  simp only
  omega

/-- A window stays where it is exactly when there is room to its right for what is added. -/
theorem growsInPlace_added {b : Bool} (h : r.widen desktop d = .ok (g, added))
    (hb : r.growsInPlace desktop added = .ok b) : b = true ↔ g.x = r.x := by
  obtain ⟨-, -, rfl⟩ := widen_eq_ok.mp h
  rw [growsInPlace_eq_ok hb]
  simp only
  omega

theorem widen_onDesktop (h : r.widen desktop d = .ok (g, added)) :
    (g.w = r.w + added ∧ g.y = r.y ∧ g.h = r.h ∧
      ∃ n, desktop.room r.w = .ok n ∧ added = min d n) ∧
    (g.x ≤ r.x ∧ ∃ e, desktop.right = .ok e ∧ g.x + g.w ≤ e) ∧
    (r.BetweenSides desktop → g.BetweenSides desktop) ∧
    (∀ b, r.growsInPlace desktop added = .ok b → (b = true ↔ g.x = r.x)) ∧
    ∀ n, desktop.room r.w = .ok n → r.growsInPlace desktop d = .ok true → 0 ≤ d → d ≤ n →
      (∀ back, g.widen desktop (-d) = .ok back → back = (r, -d)) ∧
      (0 ≤ r.w → Fits32 r.w → g.widen desktop (-d) = .ok (r, -d)) := by
  obtain ⟨⟨hspare, hw, hedge, hx⟩, hadded, hg⟩ := widen_eq_ok.mp h
  have hroom : desktop.room r.w = .ok (max (desktop.w - r.w) 0) := room_eq_ok.mpr ⟨hspare, rfl⟩
  have hright : desktop.right = .ok (desktop.x + desktop.w) := plus_eq_ok.mpr ⟨hedge, rfl⟩
  refine ⟨⟨?_, ?_, ?_, _, hroom, hadded⟩, ⟨?_, _, hright, ?_⟩, betweenSides_widen h,
    fun b hb => growsInPlace_added h hb, ?_⟩
  · rw [hg]
  · rw [hg]
  · rw [hg]
  · rw [hg]
    exact Int.min_le_left _ _
  · rw [hg]
    simp only
    omega
  · intro n hn hb hd hle
    rw [(room_eq_ok.mp hn).2] at hle
    exact widen_back h ((growsInPlace_eq_ok hb).mp rfl) hd hle

/-- A window on a desktop to the left of the origin grows in place and back; next to the right edge
it has to move. -/
theorem widen_onDesktop_left :
    let desktop : Rect := ⟨-1920, 40, 1920, 1040⟩
    let r : Rect := ⟨-1500, 100, 800, 600⟩
    let edge : Rect := ⟨-500, 100, 400, 600⟩
    r.widen desktop 300 = .ok (⟨-1500, 100, 1100, 600⟩, 300) ∧
      widen ⟨-1500, 100, 1100, 600⟩ desktop (-300) = .ok (r, -300) ∧
      edge.widen desktop 300 = .ok (⟨-700, 100, 700, 600⟩, 300) ∧
      edge.growsInPlace desktop 300 ≠ .ok true := by
  intro desktop r edge
  have hr : r.widen desktop 300 = .ok (⟨-1500, 100, 1100, 600⟩, 300) := rfl
  have hedge : edge.widen desktop 300 = .ok (⟨-700, 100, 700, 600⟩, 300) := rfl
  obtain ⟨-, -, -, -, hback⟩ := widen_onDesktop hr
  obtain ⟨-, -, -, hmoves, -⟩ := widen_onDesktop hedge
  refine ⟨hr, (hback 1120 rfl rfl (by decide) (by decide)).2 (by decide) (by decide), hedge, ?_⟩
  intro hb
  exact absurd ((hmoves true hb).mp rfl) (by decide)

end WindowKeeper.Rect
