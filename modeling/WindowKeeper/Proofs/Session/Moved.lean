import WindowKeeper.Proofs.Geometry.Widened
import WindowKeeper.Proofs.Session.Core

namespace WindowKeeper.Session

variable {σ : Type} {s t : Session σ}

/-- The area in which a window can grow, looked up anew if the last look was too long ago. -/
def desktopArea (s : Session σ) : Except Overflow Rect :=
  match s.desktop with
  | some (taken, r) =>
    if s.clock.now < taken + desktopLifetime then .ok r else lookUpDesktop s.window
  | none => lookUpDesktop s.window

/-- What has been seen of the desktop once its area has been looked up to be `d`. -/
def seen (s : Session σ) (d : Rect) : Nat × Rect :=
  match s.desktop with
  | some (taken, r) =>
    if s.clock.now < taken + desktopLifetime then (taken, r) else (s.clock.now, d)
  | none => (s.clock.now, d)

theorem desktopRect_eq_ok {d : Rect} : desktopRect s = .ok (d, t) ↔
    s.desktopArea = .ok d ∧ t = { s with desktop := some (s.seen d) } := by
  have hfresh : (do
      let r ← s.attempt (lookUpDesktop s.window)
      return (r, { s with desktop := some (s.clock.now, r) })) = .ok (d, t) ↔
        lookUpDesktop s.window = .ok d ∧ t = { s with desktop := some (s.clock.now, d) } := by
    simp only [bind_eq_ok, attempt_eq_ok, pure_eq_ok, Prod.mk.injEq]
    constructor
    · rintro ⟨_, hr, rfl, rfl⟩
      exact ⟨hr, rfl⟩
    · rintro ⟨hd, rfl⟩
      exact ⟨d, hd, rfl, rfl⟩
  unfold desktopRect desktopArea seen
  cases hs : s.desktop with
  | none => exact hfresh
  | some p =>
    simp only
    split
    · rw [pure_eq_ok, Prod.mk.injEq, Except.ok.injEq, ← hs]
      exact and_congr_right fun _ => eq_comm
    · exact hfresh

/-- Looking up the desktop area leaves a session alone but for what was seen. -/
theorem desktopRect_keeps {d : Rect} (h : desktopRect s = .ok (d, t)) :
    ∃ seen, t = { s with desktop := seen } :=
  ⟨_, (desktopRect_eq_ok.mp h).2⟩

theorem room_keeps {n : Int} (h : room s = .ok (n, t)) : ∃ seen, t = { s with desktop := seen } := by
  simp only [room, bind_eq_ok, pure_eq_ok] at h
  obtain ⟨⟨d, u⟩, hu, _, -, h⟩ := h
  cases h
  exact desktopRect_keeps hu

theorem growsInPlace_keeps {n : Int} {b : Bool} (h : growsInPlace s n = .ok (b, t)) :
    ∃ seen, t = { s with desktop := seen } := by
  simp only [growsInPlace, bind_eq_ok, pure_eq_ok] at h
  obtain ⟨⟨d, u⟩, hu, _, -, h⟩ := h
  cases h
  exact desktopRect_keeps hu

theorem onWindow_setGeometry_self (s : Session σ) :
    s.onWindow (Window.setGeometry s.window.geometry) = s := by
  simp [onWindow, Window.setGeometry]

theorem widen_eq_ok {n added : Int} : widen s n = .ok (added, t) ↔ ∃ d g,
    s.desktopArea = .ok d ∧ s.window.geometry.widen d n = .ok (g, added) ∧
      t = { s with desktop := some (s.seen d) }.onWindow (Window.setGeometry g) := by
  have hmoved (u : Session σ) (g : Rect) :
      (if g = u.window.geometry then u else u.onWindow (Window.setGeometry g)) =
        u.onWindow (Window.setGeometry g) := by
    split
    · rename_i hsame
      rw [hsame, onWindow_setGeometry_self]
    · rfl
  simp only [widen, hmoved, bind_eq_ok, pure_eq_ok, attempt_eq_ok, Prod.mk.injEq]
  constructor
  · rintro ⟨⟨d, u⟩, hu, ⟨g, n'⟩, hg, rfl, rfl⟩
    obtain ⟨hd, rfl⟩ := desktopRect_eq_ok.mp hu
    exact ⟨d, g, hd, hg, rfl⟩
  · rintro ⟨d, g, hd, hg, rfl⟩
    exact ⟨(d, _), desktopRect_eq_ok.mpr ⟨hd, rfl⟩, (g, added), hg, rfl, rfl⟩

theorem widen_setLeastSize {n added : Int} (z : Size) :
    widen (s.setLeastSize z) n = .ok (added, t) ↔
      ∃ u, widen s n = .ok (added, u) ∧ u.setLeastSize z = t := by
  simp only [widen_eq_ok]
  constructor
  · rintro ⟨d, g, hd, hg, rfl⟩
    exact ⟨_, ⟨d, g, hd, hg, rfl⟩, rfl⟩
  · rintro ⟨_, ⟨d, g, hd, hg, rfl⟩, rfl⟩
    exact ⟨d, g, hd, hg, rfl⟩

theorem followColumn_eq_ok {w c : Int} : followColumn s w c = .ok t ↔
    (Fits32 (w + s.columnWidth) ∧ Fits32 (w + s.columnWidth - c) ∧
      Fits32 (w + s.columnWidth - c - s.window.geometry.w)) ∧
    ∃ added, widen s (w + s.columnWidth - c - s.window.geometry.w) = .ok (added, t) := by
  simp only [followColumn, bind_eq_ok, pure_eq_ok, attempt_eq_ok, plus_eq_ok, minus_eq_ok]
  constructor
  · rintro ⟨_, ⟨_, ⟨hplus, rfl⟩, hwanted, rfl⟩, _, ⟨hchange, rfl⟩, ⟨added, u⟩, hu, rfl⟩
    exact ⟨⟨hplus, hwanted, hchange⟩, added, hu⟩
  · rintro ⟨⟨hplus, hwanted, hchange⟩, added, hu⟩
    exact ⟨_, ⟨_, ⟨hplus, rfl⟩, hwanted, rfl⟩, _, ⟨hchange, rfl⟩, (added, t), hu, rfl⟩

theorem followColumn_setLeastSize {w c : Int} (z : Size) :
    followColumn (s.setLeastSize z) w c = .ok t ↔
      ∃ u, followColumn s w c = .ok u ∧ u.setLeastSize z = t := by
  simp only [followColumn_eq_ok, widen_setLeastSize]
  constructor
  · rintro ⟨hfits, added, u, hu, rfl⟩
    exact ⟨u, ⟨hfits, added, hu⟩, rfl⟩
  · rintro ⟨u, ⟨hfits, added, hu⟩, rfl⟩
    exact ⟨hfits, added, u, hu, rfl⟩

theorem setRightColumn_eq_ok {width : Option Int} : setRightColumn s width = .ok t ↔
    ∃ z, { s with rightColumn := width }.leastSize = .ok z ∧
      if s.window.state = .maximized then { s with rightColumn := width }.setLeastSize z = t
      else followColumn ({ s with rightColumn := width }.setLeastSize z) s.window.geometry.w
        s.columnWidth = .ok t := by
  simp only [setRightColumn]
  rw [bind_eq_ok]
  simp only [attempt_eq_ok]
  refine exists_congr fun z => and_congr_right fun _ => ?_
  by_cases hlower : z.w < s.window.leastSize.w
  · simp only [if_pos hlower]
    split <;> simp only [bind_eq_ok, pure_eq_ok, exists_eq_right]
    · rw [if_pos ‹_›]
    · rw [if_neg ‹_›]
  · simp only [if_neg hlower]
    split
    · simp only [bind_eq_ok, pure_eq_ok, exists_eq_left']
    · simp only [bind_eq_ok, pure_eq_ok]
      exact (followColumn_setLeastSize z).symm

section
variable {P : Session σ → Prop}

theorem widen_keeps {width added : Int} (h : widen s width = .ok (added, t)) (hs : P s)
    (hlook : ∀ {r : Session σ} (seen : Option (Nat × Rect)), P r → P { r with desktop := seen })
    (hmove : ∀ {r : Session σ} (g : Rect), P r → P (r.onWindow (Window.setGeometry g))) : P t := by
  obtain ⟨d, g, -, -, rfl⟩ := widen_eq_ok.mp h
  exact hmove g (hlook _ hs)

theorem setRightColumn_keeps {width : Option Int} (h : setRightColumn s width = .ok t)
    (hs : P { s with rightColumn := width })
    (hlook : ∀ {r : Session σ} (seen : Option (Nat × Rect)), P r → P { r with desktop := seen })
    (hmove : ∀ {r : Session σ} (g : Rect), P r → P (r.onWindow (Window.setGeometry g)))
    (hleast : ∀ {r : Session σ} (size : Size), P r → P (r.setLeastSize size)) : P t := by
  obtain ⟨z, -, h⟩ := setRightColumn_eq_ok.mp h
  split at h
  · rw [← h]
    exact hleast z hs
  · obtain ⟨-, added, hwiden⟩ := followColumn_eq_ok.mp h
    exact widen_keeps hwiden (hleast z hs) hlook hmove

end

theorem room_eq_ok {d : Rect} {n : Int} (hd : s.desktopArea = .ok d)
    (hn : d.room s.window.geometry.w = .ok n) : ∃ t, room s = .ok (n, t) := by
  simp only [room, bind_eq_ok, attempt_eq_ok, pure_eq_ok]
  exact ⟨_, (d, _), desktopRect_eq_ok.mpr ⟨hd, rfl⟩, n, hn, rfl⟩

/-- `t` is the session `s` with its window widened by up to `width`, as far as there is room. -/
def Widens (s t : Session σ) (width : Int) (column : Option Int) : Prop :=
  ∃ d r added, s.desktopArea = .ok d ∧ s.window.geometry.widen d width = .ok (r, added) ∧
    t.core = { (s.onWindow (Window.setGeometry r)).core with rightColumn := column }

theorem core_widen {width added : Int} (h : widen s width = .ok (added, t)) :
    Widens s t width s.rightColumn := by
  obtain ⟨d, g, hd, hg, rfl⟩ := widen_eq_ok.mp h
  exact ⟨d, g, added, hd, hg, rfl⟩

/-- What the window takes of the change of the column: as much as the desktop has room for. -/
def columnGain (s : Session σ) (width : Option Int) (desktop : Rect) : Int :=
  min (width.getD 0 - s.columnWidth) (max (desktop.w - s.window.geometry.w) 0)

/-- A column is followed by a widening of the window as it was. -/
theorem followColumn_column {width : Option Int} (z : Size) :
    followColumn ({ s with rightColumn := width }.setLeastSize z) s.window.geometry.w
        s.columnWidth = .ok t ↔
      (Fits32 (s.window.geometry.w + width.getD 0) ∧
        Fits32 (s.window.geometry.w + width.getD 0 - s.columnWidth) ∧
        Fits32 (width.getD 0 - s.columnWidth)) ∧
      ∃ d g, s.desktopArea = .ok d ∧
        s.window.geometry.widen d (width.getD 0 - s.columnWidth) = .ok (g, s.columnGain width d) ∧
        t = ({ s with rightColumn := width, desktop := some (s.seen d) }.setLeastSize z).onWindow
          (Window.setGeometry g) := by
  have hcolumn : ({ s with rightColumn := width }.setLeastSize z).columnWidth = width.getD 0 := rfl
  have hgeometry : ({ s with rightColumn := width }.setLeastSize z).window.geometry =
      s.window.geometry := rfl
  have hchange : s.window.geometry.w + width.getD 0 - s.columnWidth - s.window.geometry.w =
      width.getD 0 - s.columnWidth := by
    omega
  rw [followColumn_eq_ok, hcolumn, hgeometry, hchange]
  refine and_congr_right fun _ => ?_
  simp only [widen_eq_ok]
  constructor
  · rintro ⟨added, d, g, hd, hg, rfl⟩
    obtain rfl : added = s.columnGain width d := (Rect.widen_eq_ok.mp hg).2.1
    exact ⟨d, g, hd, hg, rfl⟩
  · rintro ⟨d, g, hd, hg, rfl⟩
    exact ⟨_, d, g, hd, hg, rfl⟩

/-- Showing or hiding the right column widens the window by what the column needs, unless the
window is maximized. -/
theorem core_setRightColumn {width : Option Int} (h : setRightColumn s width = .ok t) :
    (s.window.state = .maximized ∧ t.core = { s.core with rightColumn := width }) ∨
      (s.window.state ≠ .maximized ∧ Widens s t (width.getD 0 - s.columnWidth) width) := by
  obtain ⟨z, -, h⟩ := setRightColumn_eq_ok.mp h
  split at h
  · rename_i hmax
    subst h
    exact .inl ⟨hmax, rfl⟩
  · rename_i hmax
    obtain ⟨-, d, g, hd, hg, rfl⟩ := (followColumn_column z).mp h
    exact .inr ⟨hmax, d, g, _, hd, hg, rfl⟩

variable [Store σ]

/-- The record by which the window opens. -/
def openingRecord (s : Session σ) : Placement :=
  (Store.settings s.store).placement.rescale s.config.scale

theorem core_init {s t : Session σ} (h : init s = .ok t) :
    ∃ r frame, s.openingRecord.restore s.window.monitors s.config.openingSize s.config.leastSize
        frame = .ok r ∧ t.core = (s.onWindow (Window.setGeometry r)).core := by
  simp only [init, openWindow, bind_eq_ok, pure_eq_ok, attempt_eq_ok] at h
  obtain ⟨_, ⟨u, hu, r, hr, rfl⟩, rfl⟩ := h
  have hcore : u.core = s.core := by
    rw [core_updateLeastSize hu, core_updateFrame, core_updateIcon]
  have hstore : u.store = s.store := congrArg Core.store hcore
  have hmonitors : u.window.monitors = s.window.monitors := congrArg Core.monitors hcore
  have hconfig : u.config = s.config := congrArg Core.config hcore
  have hgeometry : u.window.geometry = s.window.geometry := congrArg Core.geometry hcore
  refine ⟨r, u.frameMargins, ?_, ?_⟩
  · rw [openingRecord, ← hstore, ← hmonitors, ← hconfig]
    exact hr
  · rw [core_updateTitle, core_setGeometry, core_setGeometry, hcore,
      show u.queue = s.queue from congrArg Core.queue hcore]
    simp only [Window.setGeometry, hgeometry]

end WindowKeeper.Session
