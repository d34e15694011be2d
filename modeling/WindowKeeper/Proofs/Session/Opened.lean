import WindowKeeper.Proofs.Session.Moved

namespace WindowKeeper.Session

variable {σ : Type}

@[simp] theorem window_renewIcon (s : Session σ) : (renewIcon s).window = s.window := by
  unfold renewIcon
  split
  · split <;> rfl
  · rfl

@[simp] theorem account_renewIcon (s : Session σ) : (renewIcon s).account = s.account := by
  unfold renewIcon
  split
  · split <;> rfl
  · rfl

@[simp] theorem frame_updateIcon (s : Session σ) :
    (updateIcon s).window.frame = s.window.frame := by
  have hr := congrArg Window.frame (window_renewIcon s)
  simp only [updateIcon]
  split
  · exact hr
  · exact hr

theorem leastSize_updateIcon (s : Session σ) : (updateIcon s).leastSize = s.leastSize := by
  have haccount : (updateIcon s).account = s.account := by
    have hr := account_renewIcon s
    simp only [updateIcon]
    split
    · exact hr
    · exact hr
  have hcore := core_updateIcon s
  have hconfig : (updateIcon s).config = s.config := congrArg Core.config hcore
  have hcolumn : (updateIcon s).rightColumn = s.rightColumn := congrArg Core.rightColumn hcore
  simp only [leastSize, additions, columnWidth, haccount, hconfig, hcolumn]

@[simp] theorem nativeFrame_updateTitle (s : Session σ) :
    (updateTitle s).window.nativeFrame = s.window.nativeFrame := by
  unfold updateTitle
  split <;> rfl

variable [Store σ]

/-- Where the window opens inside a frame of these margins. -/
def openingRect (s : Session σ) (frame : Margins) : Except Overflow Rect :=
  s.openingRecord.restore s.window.monitors s.config.openingSize s.config.leastSize frame

theorem init_eq_ok {s t : Session σ} :
    init s = .ok t ↔ ∃ z r, s.leastSize = .ok z ∧ s.openingRect s.frameMargins = .ok r ∧
      t = updateTitle (((updateFrame (updateIcon s)).setLeastSize z).onWindow
        (Window.setGeometry r)) := by
  have hcore : (updateFrame (updateIcon s)).core = s.core := by
    rw [core_updateFrame, core_updateIcon]
  have hleast : (updateFrame (updateIcon s)).leastSize = s.leastSize := leastSize_updateIcon s
  -- the least size comes first, and where the window opens does not depend on it
  have hopening (z : Size) : ((updateFrame (updateIcon s)).setLeastSize z).openingRect
      ((updateFrame (updateIcon s)).setLeastSize z).frameMargins =
        s.openingRect s.frameMargins := by
    have hstore : (updateFrame (updateIcon s)).store = s.store := congrArg Core.store hcore
    have hmonitors : (updateFrame (updateIcon s)).window.monitors = s.window.monitors :=
      congrArg Core.monitors hcore
    have hconfig : (updateFrame (updateIcon s)).config = s.config := congrArg Core.config hcore
    have hframe : (updateFrame (updateIcon s)).window.frame = s.window.frame := frame_updateIcon s
    simp only [openingRect, openingRecord, frameMargins, setLeastSize, hstore, hmonitors, hconfig,
      hframe]
  simp only [init, openWindow, updateLeastSize, bind_eq_ok, pure_eq_ok, attempt_eq_ok, hleast]
  constructor
  · rintro ⟨_, ⟨_, ⟨z, hz, rfl⟩, r, hr, rfl⟩, rfl⟩
    exact ⟨z, r, hz, (hopening z).symm.trans hr, rfl⟩
  · rintro ⟨z, r, hz, hr, rfl⟩
    exact ⟨_, ⟨_, ⟨z, hz, rfl⟩, r, (hopening z).trans hr, rfl⟩, rfl⟩

theorem geometry_init {s t : Session σ} (h : init s = .ok t) :
    s.openingRect s.frameMargins = .ok t.window.geometry := by
  obtain ⟨z, r, -, hr, ht⟩ := init_eq_ok.mp h
  have hgeometry : t.window.geometry = r := by
    rw [ht]
    exact congrArg Core.geometry (core_updateTitle _)
  rw [hr, hgeometry]

theorem nativeFrame_init {s t : Session σ} (h : init s = .ok t) :
    t.window.nativeFrame =
      (s.config.nativeFrameSupported && (Store.settings s.store).nativeFrame) := by
  obtain ⟨z, r, -, -, rfl⟩ := init_eq_ok.mp h
  have hcore := core_updateIcon s
  have hstore : (updateIcon s).store = s.store := congrArg Core.store hcore
  have hconfig : (updateIcon s).config = s.config := congrArg Core.config hcore
  rw [nativeFrame_updateTitle, ← hstore, ← hconfig]
  rfl

/-- Unless a native frame is wanted that is not supported, the window opens inside the frame that it
has. In that one case it has no native frame and keeps the margins of one free. It opens whenever
its least size and the rectangle are representable. -/
theorem init_framed (s : Session σ) :
    (∀ t, init s = .ok t →
      t.window.nativeFrame =
        (s.config.nativeFrameSupported && (Store.settings s.store).nativeFrame) ∧
      ((s.config.nativeFrameSupported = true ∨ (Store.settings s.store).nativeFrame = false) →
        s.openingRect (if t.window.nativeFrame then s.window.frame else .none) =
          .ok t.window.geometry) ∧
      (s.config.nativeFrameSupported = false → (Store.settings s.store).nativeFrame = true →
        t.window.nativeFrame = false ∧
          s.openingRect s.window.frame = .ok t.window.geometry)) ∧
    ((∃ t, init s = .ok t) ↔
      (∃ z, s.leastSize = .ok z) ∧ ∃ r, s.openingRect s.frameMargins = .ok r) := by
  constructor
  · intro t h
    have hnative := nativeFrame_init h
    have hgeometry := geometry_init h
    refine ⟨hnative, ?_, ?_⟩
    · rintro (hsupported | hwanted)
      · rw [hnative, hsupported, Bool.true_and]
        exact hgeometry
      · rw [frameMargins, hwanted] at hgeometry
        rw [hnative, hwanted, Bool.and_false]
        exact hgeometry
    · intro hunsupported hwanted
      rw [frameMargins, if_pos hwanted] at hgeometry
      rw [hnative, hunsupported]
      exact ⟨rfl, hgeometry⟩
  · constructor
    · rintro ⟨t, h⟩
      obtain ⟨z, r, hz, hr, -⟩ := init_eq_ok.mp h
      exact ⟨⟨z, hz⟩, r, hr⟩
    · rintro ⟨⟨z, hz⟩, r, hr⟩
      exact ⟨_, init_eq_ok.mpr ⟨z, r, hz, hr, rfl⟩⟩

/-- A native frame that is wanted and supported: its margins are kept free. -/
theorem init_framed_native :
    let m : Monitor := ⟨"DP-1", ⟨0, 0, 1920, 1080⟩, ⟨0, 0, 1920, 1040⟩, true⟩
    let s : Session MemoryStore := start (.onMonitors [m] ⟨8, 31, 8, 8⟩)
      (.ofSettings ⟨⟨0, 0, 800, 600, 100, false, m.checksum⟩, .windowAndTray, true⟩) .empty
      .initial
    ∃ t, init s = .ok t ∧ t.window.nativeFrame = true ∧ t.window.geometry = ⟨8, 31, 800, 600⟩ ∧
      s.openingRect s.window.frame = .ok t.window.geometry := by
  intro m s
  obtain ⟨t, ht, hon, hgeometry⟩ : ∃ t, init s = .ok t ∧ t.window.nativeFrame = true ∧
      t.window.geometry = ⟨8, 31, 800, 600⟩ := by
    decide +kernel
  obtain ⟨-, hframe, -⟩ := (init_framed s).1 t ht
  have hinside := hframe (.inl rfl)
  rw [if_pos hon] at hinside
  exact ⟨t, ht, hon, hgeometry, hinside⟩

/-- Where native frames are not supported, a window without one opens as if it had it. -/
theorem init_unframed :
    ¬ ∀ s t : Session MemoryStore, init s = .ok t →
      s.openingRect (if t.window.nativeFrame then s.window.frame else .none) =
        .ok t.window.geometry := by
  intro h
  let m : Monitor := ⟨"DP-1", ⟨0, 0, 1920, 1080⟩, ⟨0, 0, 1920, 1040⟩, true⟩
  let s : Session MemoryStore := start (.onMonitors [m] ⟨8, 31, 8, 8⟩)
    (.ofSettings ⟨⟨0, 0, 800, 600, 100, false, m.checksum⟩, .windowAndTray, true⟩) .empty
    { Config.initial with nativeFrameSupported := false }
  obtain ⟨t, ht, hoff, hgeometry⟩ : ∃ t, init s = .ok t ∧ t.window.nativeFrame = false ∧
      t.window.geometry = ⟨8, 31, 800, 600⟩ := by
    decide +kernel
  obtain ⟨r, hr, hcorner⟩ : ∃ r, s.openingRect .none = .ok r ∧ r = ⟨0, 0, 800, 600⟩ := by
    decide +kernel
  have hclaimed := h s t ht
  rw [hoff, if_neg Bool.false_ne_true, hr, hcorner, hgeometry] at hclaimed
  cases hclaimed

end WindowKeeper.Session
