import Mathlib.Data.List.Find
import WindowKeeper.Proofs.Placement.Remembered
import WindowKeeper.Proofs.Placement.Restored

namespace WindowKeeper

theorem Rect.center_error {r : Rect} {o : Overflow} (h : r.center = .error o) : o = .addition := by
  simp only [Rect.center, plus] at h
  split at h
  · split at h <;> cases h
    rfl
  · cases h
    rfl

namespace Monitor

/-- What counts of a monitor on which a window opens. -/
def areas (m : Monitor) : Rect × Rect := (m.geometry, m.available)

/-- No two of the monitors have their centers at the same distance from `p`. -/
def Apart (ms : List Monitor) (p : Point) : Prop :=
  ms.Pairwise fun m n => ∀ c d, m.center = .ok c → n.center = .ok d → c.distance p ≠ d.distance p

theorem named?_perm {ms ms' : List Monitor} (h : ms.Perm ms')
    (hd : ms.Pairwise fun m n => m.checksum ≠ n.checksum) (checksum : UInt32) :
    named? ms checksum = named? ms' checksum := by
  apply List.find?_eq_find?_of_perm h
  rintro m ⟨hm, hmc⟩ n ⟨hn, hnc⟩
  have hs : Std.Symm fun m n : Monitor => m.checksum ≠ n.checksum := ⟨fun _ _ => Ne.symm⟩
  by_contra hne
  apply hd.forall hm hn hne
  rw [eq_of_beq hmc, eq_of_beq hnc]

theorem primary?_perm {ms ms' : List Monitor} (h : ms.Perm ms')
    (hp : ms.countP (·.primary) = 1) : primary? ms = primary? ms' := by
  obtain ⟨k, hk⟩ := List.length_eq_one_iff.mp (List.countP_eq_length_filter ▸ hp)
  have honly {m : Monitor} (hm : m ∈ ms) (hmp : m.primary) : m = k := by
    have hfilter : m ∈ ms.filter (·.primary) := List.mem_filter.mpr ⟨hm, hmp⟩
    rwa [hk, List.mem_singleton] at hfilter
  have hfind : ms.find? (·.primary) = ms'.find? (·.primary) := by
    apply List.find?_eq_find?_of_perm h
    rintro m ⟨hm, hmp⟩ n ⟨hn, hnp⟩
    rw [honly hm hmp, honly hn hnp]
  obtain ⟨m, hm⟩ : ∃ m, ms.find? (·.primary) = some m := by
    rw [← Option.isSome_iff_exists, List.find?_isSome]
    have hmem : k ∈ ms.filter (·.primary) := by simp [hk]
    obtain ⟨hk, hkp⟩ := List.mem_filter.mp hmem
    exact ⟨k, hk, hkp⟩
  rw [primary?, primary?, ← hfind, hm]
  rfl

theorem nearestFrom_error {p : Point} {best : Monitor × Nat} {ms : List Monitor} {o : Overflow}
    (h : nearestFrom p best ms = .error o) : o = .addition := by
  induction ms generalizing best with
  | nil => cases h
  | cons m ms ih =>
    rw [nearestFrom] at h
    cases hc : m.center with
    | error e =>
      rw [hc] at h
      cases h
      exact Rect.center_error hc
    | ok c =>
      rw [hc] at h
      exact ih h

/-- Only the center of a monitor can overflow in the search for the nearest one. -/
theorem nearest?_error {ms : List Monitor} {p : Point} {o : Overflow}
    (h : nearest? ms p = .error o) : o = .addition := by
  cases ms with
  | nil => cases h
  | cons m ms =>
    rw [nearest?] at h
    cases hc : m.center with
    | error e =>
      rw [hc] at h
      cases h
      exact Rect.center_error hc
    | ok c =>
      cases hn : nearestFrom p (m, c.distance p) ms with
      | error e =>
        simp only [hc, hn, bind, Except.bind] at h
        cases h
        exact nearestFrom_error hn
      | ok n =>
        simp only [hc, hn, bind, Except.bind] at h
        cases h

/-- Among monitors whose distances differ the nearest one is the same in every order. -/
theorem nearest?_of_perm {ms ms' : List Monitor} {p : Point} {n : Monitor} (h : ms.Perm ms')
    (hapart : Apart ms p) (hn : nearest? ms p = .ok (some n)) :
    nearest? ms' p = .ok (some n) := by
  obtain ⟨c, hc, hleast⟩ := (nearest?_eq_some.mp hn).least
  have hmem : n ∈ ms' := h.mem_iff.mp (nearest?_mem hn)
  have hcenters : ∀ m ∈ ms', ∃ d, m.center = .ok d := fun m hm =>
    (hleast m (h.mem_iff.mpr hm)).imp fun _ hd => hd.1
  obtain ⟨k, hk⟩ := nearest?_isSome p (List.ne_nil_of_mem hmem) hcenters
  obtain ⟨d, hd, hleast'⟩ := (nearest?_eq_some.mp hk).least
  suffices hsame : k = n by rw [hk, hsame]
  by_contra hne
  have hkmem : k ∈ ms := h.mem_iff.mpr (nearest?_mem hk)
  -- each of the two is at most as far as the other
  have hdistance : d.distance p = c.distance p := by
    obtain ⟨d', hd', hcd⟩ := hleast k hkmem
    obtain ⟨c', hc', hdc⟩ := hleast' n hmem
    cases hd.symm.trans hd'
    cases hc.symm.trans hc'
    exact Nat.le_antisymm hdc hcd
  have hs : Std.Symm fun m n : Monitor =>
      ∀ a b, m.center = .ok a → n.center = .ok b → a.distance p ≠ b.distance p :=
    ⟨fun _ _ hab a b ha hb => (hab b a hb ha).symm⟩
  exact hapart.forall hkmem (nearest?_mem hn) hne d c hd hc hdistance

theorem nearest?_perm {ms ms' : List Monitor} {p : Point} (h : ms.Perm ms')
    (hapart : Apart ms p) : nearest? ms p = nearest? ms' p := by
  have hapart' : Apart ms' p := by
    refine h.pairwise hapart ?_
    intro m n hab a b ha hb
    exact (hab b a hb ha).symm
  cases hn : nearest? ms p with
  | ok o =>
    cases o with
    | some n => exact (nearest?_of_perm h hapart hn).symm
    | none =>
      obtain rfl := nearest?_eq_none hn
      obtain rfl := h.nil_eq
      exact hn.symm
  | error e =>
    cases hn' : nearest? ms' p with
    | error e' => rw [nearest?_error hn, nearest?_error hn']
    | ok o =>
      cases o with
      | some n =>
        rw [nearest?_of_perm h.symm hapart' hn'] at hn
        cases hn
      | none =>
        obtain rfl := nearest?_eq_none hn'
        obtain rfl := h.eq_nil
        cases hn

end Monitor

theorem defaultRect_perm {ms ms' : List Monitor} (h : ms.Perm ms')
    (hp : ms.countP (·.primary) = 1) (usual : Size) :
    defaultRect ms usual = defaultRect ms' usual := by
  rw [defaultRect, defaultRect, Monitor.primary?_perm h hp]

namespace Placement

open Monitor (named?)

/-- The rectangle in which a record is honoured on the monitor that it names, if it is. -/
def honoured (p : Placement) (m : Option Monitor) (least : Size) (frame : Margins) :
    Except Overflow (Option Rect) :=
  match p.hasSize, m with
  | true, some m => do return p.placeOn m (← m.available.inset frame) least
  | _, _ => .ok none

theorem restore_eq (p : Placement) (ms : List Monitor) (usual least : Size) (frame : Margins) :
    p.restore ms usual least frame = do
      let d ← defaultRect ms usual
      return (← p.honoured (named? ms p.monitor) least frame).getD d := by
  unfold restore honoured
  cases defaultRect ms usual with
  | error e => rfl
  | ok d =>
    cases p.hasSize with
    | false => rfl
    | true =>
      cases named? ms p.monitor with
      | none => rfl
      | some m =>
        cases hi : m.available.inset frame with
        | error e => simp [hi, bind, Except.bind]
        | ok space => simp [hi, bind, Except.bind, pure, Except.pure]

/-- Of the monitor on which a record is placed only the geometry counts. -/
theorem placeOn_congr (p : Placement) {m m' : Monitor} (space : Rect) (least : Size)
    (h : m.geometry = m'.geometry) : p.placeOn m space least = p.placeOn m' space least := by
  simp only [placeOn, h]

theorem honoured_congr (p : Placement) {m m' : Option Monitor} (least : Size) (frame : Margins)
    (h : m.map Monitor.areas = m'.map Monitor.areas) :
    p.honoured m least frame = p.honoured m' least frame := by
  cases m with
  | none =>
    cases m' with
    | none => rfl
    | some m' => cases h
  | some m =>
    cases m' with
    | none => cases h
    | some m' =>
      obtain ⟨hgeometry, havailable⟩ : m.geometry = m'.geometry ∧ m.available = m'.available := by
        simpa [Monitor.areas] using h
      cases hs : p.hasSize with
      | false => simp only [honoured, hs]
      | true => simp only [honoured, hs, havailable, p.placeOn_congr _ least hgeometry]

theorem honoured_error {p : Placement} {m : Option Monitor} {least : Size} {frame : Margins}
    {o : Overflow} (h : p.honoured m least frame = .error o) :
    ∃ n, m = some n ∧ n.available.inset frame = .error o := by
  unfold honoured at h
  split at h
  · rename_i n _
    refine ⟨n, rfl, ?_⟩
    cases hi : n.available.inset frame with
    | error e =>
      rw [hi] at h
      cases h
      rfl
    | ok space =>
      rw [hi] at h
      cases h
  · cases h

end Placement

namespace Snapshot

theorem remember_perm {s : Snapshot} {ms ms' : List Monitor} (h : ms.Perm ms')
    (hapart : ∀ c, s.kept.center = .ok c → Monitor.Apart ms c) (saved : Placement) (scale : Int)
    (least : Size) : s.remember saved ms scale least = s.remember saved ms' scale least := by
  have hbody : s.bodyPlacement ms scale = s.bodyPlacement ms' scale := by
    unfold bodyPlacement
    cases hw : minus s.body.w s.rightColumn with
    | error e => rfl
    | ok w =>
      obtain rfl := (minus_eq_ok.mp hw).2
      change (s.kept.center >>= _) = s.kept.center >>= _
      cases hc : s.kept.center with
      | error e => rfl
      | ok c =>
        change (Monitor.nearest? ms c >>= _) = Monitor.nearest? ms' c >>= _
        rw [Monitor.nearest?_perm h (hapart c hc)]
  rw [remember, remember, candidate, candidate, hbody]

end Snapshot

/-- The records, sizes and frames are any. Two desktops on which the record names monitors of the
same areas open the window at the same place, or else both at their default; where one halts on the
frame of that monitor, so does the other. -/
theorem restore_remember_replugged :
    (∀ (p : Placement) (usual least : Size) (frame : Margins) (ms ms' : List Monitor) (d d' : Rect),
      (Monitor.named? ms p.monitor).map Monitor.areas =
        (Monitor.named? ms' p.monitor).map Monitor.areas →
      defaultRect ms usual = .ok d → defaultRect ms' usual = .ok d' →
      (p.restore ms usual least frame = .ok d ∧ p.restore ms' usual least frame = .ok d') ∨
        (∃ r, p.restore ms usual least frame = .ok r ∧ p.restore ms' usual least frame = .ok r) ∨
        ∃ m o, Monitor.named? ms p.monitor = some m ∧ m.available.inset frame = .error o ∧
          p.restore ms usual least frame = .error o ∧
          p.restore ms' usual least frame = .error o) ∧
    (∀ (p : Placement) (usual least : Size) (frame : Margins) (ms ms' : List Monitor),
      ms.Perm ms' → (ms.Pairwise fun m n => m.checksum ≠ n.checksum) →
      ms.countP (·.primary) = 1 →
      p.restore ms usual least frame = p.restore ms' usual least frame) ∧
    ∀ (s : Snapshot) (saved : Placement) (scale : Int) (least : Size) (ms ms' : List Monitor),
      ms.Perm ms' → (∀ c, s.kept.center = .ok c → Monitor.Apart ms c) →
      s.remember saved ms scale least = s.remember saved ms' scale least := by
  refine ⟨?_, ?_, ?_⟩
  · intro p usual least frame ms ms' d d' hsame hd hd'
    rw [p.restore_eq ms, p.restore_eq ms', hd, hd', ← p.honoured_congr least frame hsame]
    cases hr : p.honoured (Monitor.named? ms p.monitor) least frame with
    | error o =>
      obtain ⟨m, hm, hi⟩ := Placement.honoured_error hr
      exact .inr (.inr ⟨m, o, hm, hi, rfl, rfl⟩)
    | ok r =>
      cases r with
      | none => exact .inl ⟨rfl, rfl⟩
      | some r => exact .inr (.inl ⟨r, rfl, rfl⟩)
  · intro p usual least frame ms ms' h hchecksums hprimary
    rw [p.restore_eq ms, p.restore_eq ms', defaultRect_perm h hprimary,
      Monitor.named?_perm h hchecksums]
  · intro s saved scale least ms ms' h hapart
    exact Snapshot.remember_perm h hapart saved scale least

/-- A frame so wide that the corner of the usable space has no 32-bit number: no rectangle is given
at all. -/
theorem restore_overwide :
    ¬ ∀ (p : Placement) (usual least : Size) (frame : Margins) (ms ms' : List Monitor)
        (d d' : Rect),
      (Monitor.named? ms p.monitor).map Monitor.areas =
        (Monitor.named? ms' p.monitor).map Monitor.areas →
      defaultRect ms usual = .ok d → defaultRect ms' usual = .ok d' →
      (p.restore ms usual least frame = .ok d ∧ p.restore ms' usual least frame = .ok d') ∨
        ∃ r, p.restore ms usual least frame = .ok r ∧ p.restore ms' usual least frame = .ok r := by
  intro h
  let m : Monitor := ⟨"DP-1", ⟨0, 0, 1920, 1080⟩, ⟨64, 0, 1856, 1080⟩, true⟩
  let p : Placement := ⟨100, 100, 800, 600, 100, false, m.checksum⟩
  have hnamed : Monitor.named? [m] p.monitor = some m := by simp [Monitor.named?, p]
  have hhalts : p.restore [m] ⟨800, 600⟩ ⟨380, 480⟩ ⟨2147483647, 0, 0, 0⟩ = .error .addition := by
    rw [p.restore_eq, hnamed]
    rfl
  rcases h p ⟨800, 600⟩ ⟨380, 480⟩ ⟨2147483647, 0, 0, 0⟩ [m] [m] _ _ rfl rfl rfl with
    ⟨hr, -⟩ | ⟨r, hr, -⟩
  · rw [hhalts] at hr
    cases hr
  · rw [hhalts] at hr
    cases hr

/-- The monitor of the record is kept and made primary, its neighbour unplugged and another plugged
in; then the first two are reordered. -/
theorem restore_remember_replugged_moved :
    let left : Monitor := ⟨"DP-1", ⟨0, 0, 1920, 1080⟩, ⟨0, 40, 1920, 1040⟩, true⟩
    let right : Monitor := ⟨"DP-2", ⟨1920, 0, 1280, 1024⟩, ⟨1920, 0, 1280, 984⟩, false⟩
    let other : Monitor := ⟨"HDMI-1", ⟨-2560, 0, 2560, 1440⟩, ⟨-2560, 0, 2560, 1440⟩, false⟩
    let p : Placement := ⟨301, 203, 801, 603, 100, false, right.checksum⟩
    let s : Snapshot := ⟨⟨2221, 203, 1001, 603⟩, .normal, true, true, 200⟩
    p.restore [left, right] ⟨800, 600⟩ ⟨380, 480⟩ ⟨8, 31, 8, 8⟩ = .ok ⟨2221, 203, 801, 603⟩ ∧
    p.restore [{ right with primary := true }, other] ⟨800, 600⟩ ⟨380, 480⟩ ⟨8, 31, 8, 8⟩ =
      .ok ⟨2221, 203, 801, 603⟩ ∧
    p.restore [right, left] ⟨800, 600⟩ ⟨380, 480⟩ ⟨8, 31, 8, 8⟩ = .ok ⟨2221, 203, 801, 603⟩ ∧
    s.remember .empty [left, right] 100 ⟨380, 480⟩ = .ok (some p) ∧
    s.remember .empty [right, left] 100 ⟨380, 480⟩ = .ok (some p) := by
  intro left right other p s
  obtain ⟨hreplugged, hreordered, hremembered⟩ := restore_remember_replugged
  have hdiffer : [left, right].Pairwise fun m n => m.checksum ≠ n.checksum := by
    simp only [List.pairwise_cons, List.mem_singleton, forall_eq, List.not_mem_nil, false_implies,
      implies_true, List.Pairwise.nil, and_true]
    decide +kernel
  have hnamed : Monitor.named? [left, right] p.monitor = some right :=
    Monitor.named?_of_mem hdiffer (by simp)
  have hnamed' : Monitor.named? [{ right with primary := true }, other] p.monitor =
      some { right with primary := true } := by
    simp [Monitor.named?, p, Monitor.checksum]
  have hback : p.restore [left, right] ⟨800, 600⟩ ⟨380, 480⟩ ⟨8, 31, 8, 8⟩ =
      .ok ⟨2221, 203, 801, 603⟩ := by
    rw [Placement.restore_of_named (d := ⟨560, 260, 800, 600⟩) rfl (by decide) hnamed rfl]
    rfl
  have hswap : [left, right].Perm [right, left] := .swap _ _ _
  have hapart : ∀ c, s.kept.center = .ok c → Monitor.Apart [left, right] c := by
    rintro c hc
    cases hc
    simp only [Monitor.Apart, List.pairwise_cons, List.mem_singleton, forall_eq,
      List.not_mem_nil, false_implies, implies_true, List.Pairwise.nil, and_true]
    rintro a b ha hb
    cases ha
    cases hb
    decide
  have hrecord : s.remember .empty [left, right] 100 ⟨380, 480⟩ = .ok (some p) := rfl
  refine ⟨hback, ?_, ?_, hrecord, ?_⟩
  · rcases hreplugged p ⟨800, 600⟩ ⟨380, 480⟩ ⟨8, 31, 8, 8⟩ [left, right]
      [{ right with primary := true }, other] _ _ (by rw [hnamed, hnamed']; rfl) rfl rfl with
      ⟨hr, -⟩ | ⟨r, hr, hr'⟩ | ⟨m, o, -, -, hr, -⟩
    · cases hback.symm.trans hr
    · cases hback.symm.trans hr
      exact hr'
    · cases hback.symm.trans hr
  · rw [← hreordered p ⟨800, 600⟩ ⟨380, 480⟩ ⟨8, 31, 8, 8⟩ _ _ hswap hdiffer rfl]
    exact hback
  · rw [← hremembered s .empty 100 ⟨380, 480⟩ _ _ hswap hapart]
    exact hrecord

end WindowKeeper
