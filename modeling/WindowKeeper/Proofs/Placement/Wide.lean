import WindowKeeper.Proofs.Form.Settings
import WindowKeeper.Proofs.Geometry.Span
import WindowKeeper.Proofs.Geometry.Within

namespace WindowKeeper

/-- An integer with a 64-bit value. -/
def Fits64 (n : Int) : Prop := -9223372036854775808 ≤ n ∧ n ≤ 9223372036854775807

instance (n : Int) : Decidable (Fits64 n) := inferInstanceAs (Decidable (_ ∧ _))

/-- The result of a 64-bit operation, if it has a 64-bit value. -/
def wide (n : Int) : Option Int := if Fits64 n then some n else none

/-- An integer as small as the difference of two 32-bit numbers: sums of a few of its kind have
64-bit values. -/
def Short (n : Int) : Prop := -4294967296 ≤ n ∧ n ≤ 4294967296

/-- The two bounds of `Fits64` are given one by one, as a linear goal each. -/
theorem wide_eq {n : Int} (h : -9223372036854775808 ≤ n) (h' : n ≤ 9223372036854775807) :
    wide n = some n := if_pos ⟨h, h'⟩

theorem wide_bind {α : Type} {n : Int} {f : Int → Option α} (h : -9223372036854775808 ≤ n)
    (h' : n ≤ 9223372036854775807) : (wide n).bind f = f n := by
  rw [wide_eq h h', Option.bind_some]

theorem Fits32.short {n : Int} (h : Fits32 n) : Short n := by
  unfold Fits32 int32Min int32Max at h
  exact ⟨by omega, by omega⟩

theorem short_sub {a b : Int} (ha : Fits32 a) (hb : Fits32 b) : Short (a - b) := by
  unfold Fits32 int32Min int32Max at ha hb
  exact ⟨by omega, by omega⟩

namespace Point

/-- The Manhattan distance in 64 bits. -/
def distanceWide (p q : Point) : Option Int := do
  let dx ← wide (p.x - q.x)
  let dy ← wide (p.y - q.y)
  let ax ← wide dx.natAbs
  let ay ← wide dy.natAbs
  wide (ax + ay)

theorem distanceWide_eq {p q : Point} (hp : Fits32 p.x ∧ Fits32 p.y)
    (hq : Fits32 q.x ∧ Fits32 q.y) : p.distanceWide q = some ↑(p.distance q) := by
  obtain ⟨hx, hx'⟩ := short_sub hp.1 hq.1
  obtain ⟨hy, hy'⟩ := short_sub hp.2 hq.2
  simp (disch := omega) only [distanceWide, Option.bind_eq_bind, wide_bind]
  exact wide_eq (by omega) (by omega)

end Point

namespace Span

structure IsShort (s : Span) : Prop where
  start : Short s.start
  length : Short s.length

/-- Fits a span into an area in 64 bits. -/
def fitWide (s area : Span) : Option Span := do
  let areaStop ← wide (area.start + area.length)
  let stop ← wide (s.start + s.length)
  if stop ≤ areaStop then return s
  else
    let past ← wide (stop - areaStop)
    let moved ← wide (s.start - past)
    if area.start ≤ moved then return ⟨moved, s.length⟩
    else
      let need ← wide (area.start + s.length)
      let excess ← wide (need - areaStop)
      let length ← wide (s.length - excess)
      return ⟨area.start, length⟩

/-- Brings a span of any kind into an area in 64 bits. -/
def confineWide (s area : Span) : Option Span :=
  fitWide ⟨max s.start area.start, min s.length area.length⟩ area

theorem fitWide_eq {s area : Span} (hs : s.IsShort) (ha : area.IsShort) :
    s.fitWide area = some (s.fit area) := by
  obtain ⟨⟨hstart, hstart'⟩, hlength, hlength'⟩ := hs
  obtain ⟨⟨harea, harea'⟩, hspace, hspace'⟩ := ha
  have hfit : s.fit area =
      if s.start + s.length ≤ area.start + area.length then s
      else if area.start ≤ s.start - (s.start + s.length - (area.start + area.length)) then
        ⟨s.start - (s.start + s.length - (area.start + area.length)), s.length⟩
      else ⟨area.start, s.length - (area.start + s.length - (area.start + area.length))⟩ := rfl
  simp (disch := omega) only [fitWide, Option.bind_eq_bind, wide_bind, hfit]
  by_cases hin : s.start + s.length ≤ area.start + area.length
  · rw [if_pos hin, if_pos hin]
    rfl
  · rw [if_neg hin, if_neg hin]
    by_cases hback : area.start ≤ s.start - (s.start + s.length - (area.start + area.length))
    · rw [if_pos hback, if_pos hback]
      rfl
    · rw [if_neg hback, if_neg hback]
      rfl

theorem confineWide_eq (s area : Span) (hs : s.IsShort) (ha : area.IsShort) :
    ∃ r, s.confineWide area = some r ∧ s.confine area = r ∧ Short r.start := by
  obtain ⟨⟨hstart, hstart'⟩, hlength, hlength'⟩ := hs
  obtain ⟨⟨harea, harea'⟩, hspace, hspace'⟩ := ha
  have hcut : IsShort ⟨max s.start area.start, min s.length area.length⟩ :=
    ⟨⟨Int.le_trans hstart (Int.le_max_left _ _), Int.max_le.mpr ⟨hstart', harea'⟩⟩,
      Int.le_min.mpr ⟨hlength, hspace⟩, Int.le_trans (Int.min_le_left _ _) hlength'⟩
  refine ⟨s.confine area, fitWide_eq hcut ⟨⟨harea, harea'⟩, hspace, hspace'⟩, rfl, ?_⟩
  unfold Short
  rw [start_confine]
  omega

end Span

namespace Placement

/-- Places the record on monitor `m`, of which `space` is usable, in 64 bits. -/
def placeOnWide (p : Placement) (m : Monitor) (space : Rect) (least : Size) :
    Option (Option Rect) :=
  if space.w < least.w ∨ space.h < least.h then some none else do
    let left ← wide (space.x - m.geometry.x)
    let top ← wide (space.y - m.geometry.y)
    let h ← Span.confineWide ⟨p.x, p.w⟩ ⟨left, space.w⟩
    let v ← Span.confineWide ⟨p.y, p.h⟩ ⟨top, space.h⟩
    let x ← wide (h.start + m.geometry.x)
    let y ← wide (v.start + m.geometry.y)
    let right ← wide (m.geometry.x + m.geometry.w)
    let bottom ← wide (m.geometry.y + m.geometry.h)
    let leastRight ← wide (x + least.w)
    let leastBottom ← wide (y + least.h)
    if right < leastRight ∨ bottom < leastBottom then return none
    else if Fits32 x ∧ Fits32 y ∧ Fits32 h.length ∧ Fits32 v.length then
      return some ⟨x, y, h.length, v.length⟩
    else return none

theorem placeOnWide_eq {p : Placement} {m : Monitor} {space : Rect} {least : Size} (hp : p.Fits)
    (hm : m.geometry.Fits) (hspace : space.Fits) (hleast : least.Fits) :
    p.placeOnWide m space least = some (p.placeOn m space least) := by
  obtain ⟨hleft, hleft'⟩ := short_sub hspace.x hm.x
  obtain ⟨htop, htop'⟩ := short_sub hspace.y hm.y
  obtain ⟨h, hwide, hacross, hx, hx'⟩ := Span.confineWide_eq ⟨p.x, p.w⟩
    ⟨space.x - m.geometry.x, space.w⟩ ⟨hp.x.short, hp.w.short⟩
    ⟨short_sub hspace.x hm.x, hspace.w.short⟩
  obtain ⟨v, hhigh, hdown, hy, hy'⟩ := Span.confineWide_eq ⟨p.y, p.h⟩
    ⟨space.y - m.geometry.y, space.h⟩ ⟨hp.y.short, hp.h.short⟩
    ⟨short_sub hspace.y hm.y, hspace.h.short⟩
  obtain ⟨hmx, hmy, hmw, hmh⟩ := hm
  obtain ⟨hlw, hlh⟩ := hleast
  unfold Fits32 int32Min int32Max at hmx hmy hmw hmh hlw hlh
  unfold placeOnWide placeOn
  by_cases hroom : space.w < least.w ∨ space.h < least.h
  · rw [if_pos hroom, if_pos hroom]
  · rw [if_neg hroom, if_neg hroom]
    simp (disch := omega) only [Option.bind_eq_bind, wide_bind, hwide, hhigh, hacross, hdown,
      Option.bind_some]
    split
    · rfl
    · split
      · rfl
      · rfl

end Placement

end WindowKeeper
