import WindowKeeper.Proofs.Placement.OnScreen
import WindowKeeper.Proofs.Placement.Remembered

namespace WindowKeeper

def Point.shift (p d : Point) : Point := ⟨p.x + d.x, p.y + d.y⟩

def Rect.shift (r : Rect) (d : Point) : Rect := ⟨r.x + d.x, r.y + d.y, r.w, r.h⟩

/-- The monitor with both of its rectangles moved. -/
def Monitor.shift (d : Point) (m : Monitor) : Monitor :=
  { m with geometry := m.geometry.shift d, available := m.available.shift d }

def Snapshot.shift (s : Snapshot) (d : Point) : Snapshot := { s with body := s.body.shift d }

/-- The coordinates and the edges of a rectangle have 32-bit values. -/
structure Rect.Bounded (r : Rect) : Prop where
  left : Fits32 r.x
  top : Fits32 r.y
  right : Fits32 (r.x + r.w)
  bottom : Fits32 (r.y + r.h)

/-- What a record is restored from is in the 32-bit range: the default rectangle, and the usable
space of the monitor that the record names. -/
structure Placement.Restorable (p : Placement) (ms : List Monitor) (usual : Size)
    (frame : Margins) : Prop where
  opening : ∃ r, defaultRect ms usual = .ok r
  usable : ∀ m, Monitor.named? ms p.monitor = some m →
    ∃ space, m.available.inset frame = .ok space ∧ space.Bounded

/-- What a record is made from is in the 32-bit range: what is kept of the window, and the
monitors. -/
structure Snapshot.Recordable (s : Snapshot) (ms : List Monitor) : Prop where
  kept : s.kept.Bounded
  geometry : ∀ m ∈ ms, m.geometry.Bounded

theorem Point.distance_shift (p q d : Point) : (p.shift d).distance (q.shift d) = p.distance q := by
  simp only [distance, shift]
  omega

/-- Half of a stretch, rounded toward zero, does not pass its end. -/
theorem fits32_half {a n : Int} (ha : Fits32 a) (hb : Fits32 (a + n)) : Fits32 (a + n.tdiv 2) := by
  unfold Fits32 at *
  rcases Int.le_total 0 n with hn | hn
  · rw [Int.tdiv_eq_ediv_of_nonneg hn]
    omega
  · have hneg : n.tdiv 2 = -((-n) / 2) := by
      rw [← Int.tdiv_eq_ediv_of_nonneg (by omega), Int.neg_tdiv, Int.neg_neg]
    omega

namespace Rect

/-- The center of a rectangle lies between its edges, so that it has 32-bit coordinates if they
have. -/
theorem Bounded.center {r : Rect} (h : r.Bounded) :
    r.center = .ok ⟨r.x + r.w.tdiv 2, r.y + r.h.tdiv 2⟩ := by
  obtain ⟨hl, ht, hr, hb⟩ := h
  have hx := fits32_half hl hr
  have hy := fits32_half ht hb
  simp only [Rect.center, bind_eq_ok, pure_eq_ok, plus_eq_ok]
  exact ⟨_, ⟨hx, rfl⟩, _, ⟨hy, rfl⟩, rfl⟩

theorem center_shift {r : Rect} {d : Point} (h : r.Bounded) (h' : (r.shift d).Bounded) :
    ∃ c, r.center = .ok c ∧ (r.shift d).center = .ok (c.shift d) := by
  refine ⟨_, h.center, ?_⟩
  rw [h'.center]
  simp only [shift, Point.shift, Except.ok.injEq, Point.mk.injEq]
  omega

theorem inset_shift {r s s' : Rect} {d : Point} {frame : Margins} (h : r.inset frame = .ok s)
    (h' : (r.shift d).inset frame = .ok s') : s' = s.shift d := by
  rw [inset_eq_ok h, inset_eq_ok h']
  ext <;> simp only [shift] <;> omega

theorem centered_shift {r s s' : Rect} {d : Point} {z : Size} (h : r.centered z = .ok s)
    (h' : (r.shift d).centered z = .ok s') : s' = s.shift d := by
  rw [(centered_eq_ok h).1, (centered_eq_ok h').1]
  ext <;> simp only [shift] <;> omega

end Rect

namespace Monitor

theorem primary?_shift (ms : List Monitor) (d : Point) :
    primary? (ms.map (·.shift d)) = (primary? ms).map (·.shift d) := by
  have hfind : (ms.map (·.shift d)).find? (·.primary) =
      (ms.find? (·.primary)).map (·.shift d) := List.find?_map ..
  rw [primary?, primary?, hfind, List.head?_map]
  cases ms.find? (·.primary) with
  | none => rfl
  | some m => rfl

theorem named?_shift (ms : List Monitor) (d : Point) (checksum : UInt32) :
    named? (ms.map (·.shift d)) checksum = (named? ms checksum).map (·.shift d) :=
  List.find?_map ..

/-- The nearest monitor to a point is the nearest one also after both have moved. -/
theorem FirstNearest.shift {ms : List Monitor} {p d : Point} {n : Monitor}
    (hn : FirstNearest ms p n) (h : ∀ m ∈ ms, m.geometry.Bounded)
    (h' : ∀ m ∈ ms, (m.geometry.shift d).Bounded) :
    FirstNearest (ms.map (·.shift d)) (p.shift d) (n.shift d) := by
  obtain ⟨before, after, c, rfl, hc, hbefore, hafter⟩ := hn
  have hmoved : ∀ m ∈ before ++ n :: after, ∀ q, m.center = .ok q →
      (m.shift d).center = .ok (q.shift d) := by
    intro m hm q hq
    obtain ⟨q', hq', hs⟩ := Rect.center_shift (h m hm) (h' m hm)
    cases hq.symm.trans hq'
    exact hs
  refine ⟨before.map (·.shift d), after.map (·.shift d), c.shift d, by simp,
    hmoved n (by simp) c hc, ?_, ?_⟩
  · simp only [List.forall_mem_map]
    intro m hm
    obtain ⟨q, hq, hlt⟩ := hbefore m hm
    refine ⟨q.shift d, hmoved m (by simp [hm]) q hq, ?_⟩
    rwa [Point.distance_shift, Point.distance_shift]
  · simp only [List.forall_mem_map]
    intro m hm
    obtain ⟨q, hq, hle⟩ := hafter m hm
    refine ⟨q.shift d, hmoved m (by simp [hm]) q hq, ?_⟩
    rwa [Point.distance_shift, Point.distance_shift]

theorem nearest?_shift {ms : List Monitor} {d : Point} (p : Point) (hms : ms ≠ [])
    (h : ∀ m ∈ ms, m.geometry.Bounded) (h' : ∀ m ∈ ms, (m.geometry.shift d).Bounded) :
    ∃ n, nearest? ms p = .ok (some n) ∧
      nearest? (ms.map (·.shift d)) (p.shift d) = .ok (some (n.shift d)) := by
  obtain ⟨n, hn⟩ := nearest?_isSome p hms fun m hm => ⟨_, (h m hm).center⟩
  have hfirst := (nearest?_eq_some.mp hn).shift h h'
  exact ⟨n, hn, nearest?_eq_some.mpr hfirst⟩

end Monitor

theorem defaultRect_shift {ms : List Monitor} {d : Point} {usual : Size} {r r' : Rect}
    (hms : ms ≠ []) (h : defaultRect ms usual = .ok r)
    (h' : defaultRect (ms.map (·.shift d)) usual = .ok r') : r' = r.shift d := by
  obtain ⟨m, hm⟩ := Monitor.primary?_isSome hms
  rw [defaultRect, hm] at h
  rw [defaultRect, Monitor.primary?_shift, hm] at h'
  exact Rect.centered_shift h h'

namespace Placement

theorem inside_shift (p : Placement) (m : Monitor) (space : Rect) (d : Point) :
    p.inside (m.shift d) (space.shift d) = (p.inside m space).shift d := by
  ext <;> simp only [inside, Rect.shift, Monitor.shift] <;> omega

theorem cramped_shift (m : Monitor) (space r : Rect) (least : Size) (d : Point) :
    Cramped (m.shift d) (space.shift d) least (r.shift d) ↔ Cramped m space least r := by
  simp only [Cramped, Rect.shift, Monitor.shift]
  omega

/-- A record with a size is brought into a space of 32-bit numbers and edges as a rectangle of
32-bit numbers, whatever its own numbers are. -/
theorem fits_inside_of_bounded {p : Placement} (m : Monitor) {space : Rect} (hs : p.hasSize)
    (hfits : space.Fits) (hspace : space.Bounded) : (p.inside m space).Fits := by
  obtain ⟨-, -, hw, hh⟩ := hfits
  obtain ⟨hl, ht, hr, hb⟩ := hspace
  have hsize : 0 < p.w ∧ 0 < p.h := by simpa [hasSize] using hs
  unfold Fits32 int32Min int32Max at *
  constructor <;> simp only [inside, Fits32, int32Min, int32Max] <;> omega

theorem placeOn_shift {p : Placement} (m : Monitor) {space : Rect} {d : Point} (least : Size)
    (hs : p.hasSize) (hfits : space.Fits) (h : space.Bounded) (hfits' : (space.shift d).Fits)
    (h' : (space.shift d).Bounded) :
    p.placeOn (m.shift d) (space.shift d) least = (p.placeOn m space least).map (·.shift d) := by
  rw [placeOn_of_fits (fits_inside_of_bounded m hs hfits h),
    placeOn_of_fits (fits_inside_of_bounded (m.shift d) hs hfits' h'), inside_shift]
  simp only [cramped_shift]
  split
  · rfl
  · rfl

theorem restore_shift {p : Placement} {ms : List Monitor} {usual : Size} {frame : Margins}
    {d : Point} (least : Size) (hms : ms ≠ []) (h : p.Restorable ms usual frame)
    (h' : p.Restorable (ms.map (·.shift d)) usual frame) :
    ∃ r, p.restore ms usual least frame = .ok r ∧
      p.restore (ms.map (·.shift d)) usual least frame = .ok (r.shift d) := by
  obtain ⟨opened, ho⟩ := h.opening
  obtain ⟨opened', ho'⟩ := h'.opening
  obtain rfl := defaultRect_shift hms ho ho'
  have hnamed := Monitor.named?_shift ms d p.monitor
  by_cases hlost : p.hasSize = false ∨ Monitor.named? ms p.monitor = none
  · have hlost' : p.hasSize = false ∨ Monitor.named? (ms.map (·.shift d)) p.monitor = none := by
      simpa [hnamed] using hlost
    exact ⟨opened, restore_of_lost ho hlost, restore_of_lost ho' hlost'⟩
  · rw [not_or, Bool.not_eq_false] at hlost
    obtain ⟨hs, hn⟩ := hlost
    obtain ⟨m, hm⟩ := Option.ne_none_iff_exists'.mp hn
    have hm' : Monitor.named? (ms.map (·.shift d)) p.monitor = some (m.shift d) := by
      rw [hnamed, hm]
      rfl
    obtain ⟨space, hi, hb⟩ := h.usable m hm
    obtain ⟨space', hi', hb'⟩ := h'.usable _ hm'
    obtain rfl := Rect.inset_shift hi hi'
    refine ⟨_, restore_of_named ho hs hm hi, ?_⟩
    rw [restore_of_named ho' hs hm' hi',
      placeOn_shift m least hs (Rect.fits_inset hi) hb (Rect.fits_inset hi') hb']
    cases p.placeOn m space least with
    | none => rfl
    | some r => rfl

end Placement

namespace Snapshot

theorem bodyPlacement_shift {s : Snapshot} {ms : List Monitor} {d : Point} (scale : Int)
    (hms : ms ≠ []) (h : s.Recordable ms)
    (h' : (s.shift d).Recordable (ms.map (·.shift d))) :
    (s.shift d).bodyPlacement (ms.map (·.shift d)) scale = s.bodyPlacement ms scale := by
  obtain ⟨c, hc, hc'⟩ := Rect.center_shift h.kept h'.kept
  obtain ⟨n, hn, hn'⟩ := Monitor.nearest?_shift c hms h.geometry
    fun m hm => h'.geometry (m.shift d) (List.mem_map_of_mem hm)
  have hx : s.body.x + d.x - (n.geometry.x + d.x) = s.body.x - n.geometry.x := by omega
  have hy : s.body.y + d.y - (n.geometry.y + d.y) = s.body.y - n.geometry.y := by omega
  unfold bodyPlacement
  change (minus s.body.w s.rightColumn >>= _) = minus s.body.w s.rightColumn >>= _
  cases hw : minus s.body.w s.rightColumn with
  | error e => rfl
  | ok w =>
    obtain rfl := (minus_eq_ok.mp hw).2
    change ((s.kept.shift d).center >>= _) = s.kept.center >>= _
    rw [hc, hc']
    change (Monitor.nearest? _ _ >>= _) = Monitor.nearest? _ _ >>= _
    rw [hn, hn']
    simp only [shift, Rect.shift, Monitor.shift, bind, Except.bind, minus, hx, hy]
    rfl

theorem remember_shift {s : Snapshot} {ms : List Monitor} {d : Point} (saved : Placement)
    (scale : Int) (least : Size) (hms : ms ≠ []) (h : s.Recordable ms)
    (h' : (s.shift d).Recordable (ms.map (·.shift d))) :
    (s.shift d).remember saved (ms.map (·.shift d)) scale least =
      s.remember saved ms scale least := by
  have hworth : (s.shift d).worthSaving = s.worthSaving := rfl
  have hcandidate : (s.shift d).candidate saved (ms.map (·.shift d)) scale =
      s.candidate saved ms scale := by
    simp only [candidate, bodyPlacement_shift scale hms h h']
    rfl
  rw [remember, remember, hworth, hcandidate]

end Snapshot

theorem restore_remember_shift {ms : List Monitor} (hms : ms ≠ []) (d : Point) :
    (∀ (p : Placement) (usual least : Size) (frame : Margins), p.Restorable ms usual frame →
      p.Restorable (ms.map (·.shift d)) usual frame →
      ∃ r, p.restore ms usual least frame = .ok r ∧
        p.restore (ms.map (·.shift d)) usual least frame = .ok (r.shift d)) ∧
    ∀ (s : Snapshot) (saved : Placement) (scale : Int) (least : Size), s.Recordable ms →
      (s.shift d).Recordable (ms.map (·.shift d)) →
      (s.shift d).remember saved (ms.map (·.shift d)) scale least =
        s.remember saved ms scale least := by
  constructor
  · intro p usual least frame h h'
    exact Placement.restore_shift least hms h h'
  · intro s saved scale least h h'
    exact Snapshot.remember_shift saved scale least hms h h'

/-- Two monitors below each other, moved to the left of the origin. -/
theorem restore_remember_shift_left :
    let upper : Monitor := ⟨"DP-1", ⟨0, 0, 1920, 1080⟩, ⟨0, 40, 1920, 1040⟩, true⟩
    let lower : Monitor := ⟨"DP-2", ⟨100, 1080, 1280, 1025⟩, ⟨100, 1080, 1280, 985⟩, false⟩
    let moved : List Monitor := [upper.shift ⟨-5000, 301⟩, lower.shift ⟨-5000, 301⟩]
    let s : Snapshot := ⟨⟨301, 1101, 1001, 703⟩, .normal, true, true, 200⟩
    let p : Placement := ⟨201, 21, 801, 703, 125, false, lower.checksum⟩
    (s.remember .empty [upper, lower] 125 ⟨380, 480⟩ = .ok (some p) ∧
      (s.shift ⟨-5000, 301⟩).remember .empty moved 125 ⟨380, 480⟩ = .ok (some p)) ∧
    p.restore [upper, lower] ⟨800, 600⟩ ⟨380, 480⟩ ⟨8, 31, 8, 8⟩ = .ok ⟨301, 1111, 801, 703⟩ ∧
      p.restore moved ⟨800, 600⟩ ⟨380, 480⟩ ⟨8, 31, 8, 8⟩ = .ok ⟨-4699, 1412, 801, 703⟩ := by
  intro upper lower moved s p
  have hdiffer : [upper, lower].Pairwise fun m n => m.checksum ≠ n.checksum := by
    simp only [List.pairwise_cons, List.mem_singleton, forall_eq, List.not_mem_nil, false_implies,
      implies_true, List.Pairwise.nil, and_true]
    decide +kernel
  have hnamed : Monitor.named? [upper, lower] p.monitor = some lower :=
    Monitor.named?_of_mem hdiffer (by simp)
  have hnamed' : Monitor.named? moved p.monitor = some (lower.shift ⟨-5000, 301⟩) := by
    change Monitor.named? ([upper, lower].map (·.shift ⟨-5000, 301⟩)) p.monitor = _
    rw [Monitor.named?_shift, hnamed]
    rfl
  have hms : [upper, lower] ≠ [] := by simp
  obtain ⟨hrestore, hremember⟩ := restore_remember_shift hms ⟨-5000, 301⟩
  have hrecord : s.remember .empty [upper, lower] 125 ⟨380, 480⟩ = .ok (some p) := rfl
  have hback : p.restore [upper, lower] ⟨800, 600⟩ ⟨380, 480⟩ ⟨8, 31, 8, 8⟩ =
      .ok ⟨301, 1111, 801, 703⟩ := by
    rw [Placement.restore_of_named (d := ⟨560, 260, 800, 600⟩) rfl (by decide) hnamed rfl]
    rfl
  refine ⟨⟨hrecord, ?_⟩, hback, ?_⟩
  · rw [← hrecord]
    apply hremember s .empty 125 ⟨380, 480⟩
    · refine ⟨by constructor <;> decide, ?_⟩
      simp only [List.mem_cons, List.not_mem_nil, or_false, forall_eq_or_imp, forall_eq]
      exact ⟨by constructor <;> decide, by constructor <;> decide⟩
    · refine ⟨by constructor <;> decide, ?_⟩
      simp only [List.map_cons, List.map_nil, List.mem_cons, List.not_mem_nil, or_false,
        forall_eq_or_imp, forall_eq]
      exact ⟨by constructor <;> decide, by constructor <;> decide⟩
  · obtain ⟨r, hr, hmoved⟩ := hrestore p ⟨800, 600⟩ ⟨380, 480⟩ ⟨8, 31, 8, 8⟩
      ⟨⟨_, rfl⟩, by
        intro m hm
        cases hnamed.symm.trans hm
        exact ⟨_, rfl, by constructor <;> decide⟩⟩
      ⟨⟨_, rfl⟩, by
        intro m hm
        cases hnamed'.symm.trans hm
        exact ⟨_, rfl, by constructor <;> decide⟩⟩
    cases hback.symm.trans hr
    exact hmoved

end WindowKeeper
