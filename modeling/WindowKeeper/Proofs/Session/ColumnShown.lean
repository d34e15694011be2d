import WindowKeeper.Proofs.Session.Course
import WindowKeeper.Proofs.Session.Moved

namespace WindowKeeper

theorem Size.extended_eq_ok {s z : Size} {a : Additions} : s.extended a = .ok z ↔
    (Fits32 (s.w + a.filters) ∧ Fits32 (s.w + a.filters + a.rightColumn) ∧ Fits32 (s.h + a.bar)) ∧
      z = ⟨s.w + a.filters + a.rightColumn, s.h + a.bar⟩ := by
  simp only [extended, bind_eq_ok, pure_eq_ok, plus_eq_ok]
  constructor
  · rintro ⟨_, ⟨hfilters, rfl⟩, _, ⟨hcolumn, rfl⟩, _, ⟨hbar, rfl⟩, rfl⟩
    exact ⟨⟨hfilters, hcolumn, hbar⟩, rfl⟩
  · rintro ⟨⟨hfilters, hcolumn, hbar⟩, rfl⟩
    exact ⟨_, ⟨hfilters, rfl⟩, _, ⟨hcolumn, rfl⟩, _, ⟨hbar, rfl⟩, rfl⟩

namespace Session

variable {σ : Type} {s t : Session σ}

/-- The session `t` is what showing the right column at a width, or hiding it, makes of `s`. -/
structure ColumnShown (s : Session σ) (width : Option Int) (t : Session σ) : Prop where
  column : t.rightColumn = width
  least : s.config.leastSize.extended
    ⟨(s.account.map (·.filtersWidth)).getD 0, width.getD 0, s.config.barHeight⟩ =
      .ok t.window.leastSize
  rests : s.window.state = .maximized →
    t.window.geometry = s.window.geometry ∧ t.desktop = s.desktop
  /-- The window stays left of the right edge of the desktop, and moves to the left for that. -/
  follows : s.window.state ≠ .maximized → ∃ d u, desktopRect s = .ok (d, u) ∧
    t.window.geometry.w = s.window.geometry.w + s.columnGain width d ∧
    t.window.geometry.y = s.window.geometry.y ∧ t.window.geometry.h = s.window.geometry.h ∧
    t.window.geometry.x ≤ s.window.geometry.x ∧
    t.window.geometry.x + t.window.geometry.w ≤ d.x + d.w ∧ t.desktop = u.desktop
  noticed : t.queue = s.queue ++
    ((if s.window.geometry.corner = t.window.geometry.corner then [] else [.moved]) ++
      if s.window.geometry.size = t.window.geometry.size then [] else [.resized])
  others : t = { s with
    window := { s.window with
      geometry := t.window.geometry
      leastSize := t.window.leastSize }
    rightColumn := width
    desktop := t.desktop
    queue := t.queue }

/-- The numbers from which the new least size, width and place are computed have 32-bit values. -/
structure ColumnFits (s : Session σ) (width : Option Int) : Prop where
  leastWidth : Fits32 (s.config.leastSize.w + (s.account.map (·.filtersWidth)).getD 0)
  leastWithColumn :
    Fits32 (s.config.leastSize.w + (s.account.map (·.filtersWidth)).getD 0 + width.getD 0)
  leastHeight : Fits32 (s.config.leastSize.h + s.config.barHeight)
  follows : s.window.state ≠ .maximized →
    (Fits32 (s.window.geometry.w + width.getD 0) ∧
      Fits32 (s.window.geometry.w + width.getD 0 - s.columnWidth) ∧
      Fits32 (width.getD 0 - s.columnWidth)) ∧
    ∃ d, s.desktopArea = .ok d ∧ Fits32 (d.w - s.window.geometry.w) ∧
      Fits32 (s.window.geometry.w + s.columnGain width d) ∧ Fits32 (d.x + d.w) ∧
      Fits32 (d.x + d.w - (s.window.geometry.w + s.columnGain width d))

theorem columnShown_of_ok {width : Option Int} (h : setRightColumn s width = .ok t) :
    s.ColumnShown width t := by
  obtain ⟨z, hz, h⟩ := setRightColumn_eq_ok.mp h
  split at h
  · rename_i hmax
    subst h
    exact {
      column := rfl
      least := hz
      rests := fun _ => ⟨rfl, rfl⟩
      follows := fun hrest => absurd hmax hrest
      noticed := by simp [setLeastSize]
      others := rfl }
  · rename_i hmax
    obtain ⟨-, d, g, hd, hg, rfl⟩ := (followColumn_column z).mp h
    obtain ⟨-, -, rfl⟩ := Rect.widen_eq_ok.mp hg
    have hlooked := desktopRect_eq_ok.mpr ⟨hd, rfl⟩
    have hright : min s.window.geometry.x
          (d.x + d.w - (s.window.geometry.w + s.columnGain width d)) +
        (s.window.geometry.w + s.columnGain width d) ≤ d.x + d.w := by
      omega
    exact {
      column := rfl
      least := hz
      rests := fun hrest => absurd hrest hmax
      follows := fun _ =>
        ⟨d, _, hlooked, rfl, rfl, rfl, Int.min_le_left _ _, hright, rfl⟩
      noticed := rfl
      others := rfl }

theorem setRightColumn_ok_iff {width : Option Int} :
    (∃ t, setRightColumn s width = .ok t) ↔ s.ColumnFits width := by
  constructor
  · rintro ⟨t, h⟩
    obtain ⟨z, hz, h⟩ := setRightColumn_eq_ok.mp h
    obtain ⟨⟨hleast, hcolumn, hheight⟩, -⟩ := Size.extended_eq_ok.mp hz
    refine ⟨hleast, hcolumn, hheight, fun hrest => ?_⟩
    rw [if_neg hrest] at h
    obtain ⟨hfits, d, g, hd, hg, -⟩ := (followColumn_column z).mp h
    exact ⟨hfits, d, hd, (Rect.widen_eq_ok.mp hg).1⟩
  · intro h
    obtain ⟨z, hz⟩ : ∃ z, { s with rightColumn := width }.leastSize = .ok z :=
      ⟨_, Size.extended_eq_ok.mpr ⟨⟨h.leastWidth, h.leastWithColumn, h.leastHeight⟩, rfl⟩⟩
    by_cases hmax : s.window.state = .maximized
    · exact ⟨_, setRightColumn_eq_ok.mpr ⟨z, hz, by rw [if_pos hmax]⟩⟩
    · obtain ⟨hfits, d, hd, hwiden⟩ := h.follows hmax
      have hg := Rect.widen_eq_ok.mpr ⟨hwiden, rfl, rfl⟩
      have hfollow := (followColumn_column z).mpr ⟨hfits, d, _, hd, hg, rfl⟩
      exact ⟨_, setRightColumn_eq_ok.mpr ⟨z, hz, by rwa [if_neg hmax]⟩⟩

/-- From whatever session, the right column is shown or hidden exactly if nothing overflows on the
way, and then the window follows it, unless it is maximized. -/
theorem setRightColumn_shown (s : Session σ) (width : Option Int) :
    (∀ t, setRightColumn s width = .ok t → s.ColumnShown width t) ∧
      ((∃ t, setRightColumn s width = .ok t) ↔ s.ColumnFits width) :=
  ⟨fun _ h => columnShown_of_ok h, setRightColumn_ok_iff⟩

/-- A window near the right edge of the desktop has to move for a column, and gets less than the
column where the desktop is full. -/
theorem setRightColumn_shown_full :
    let m : Monitor := ⟨"DP-1", ⟨0, 0, 1920, 1080⟩, ⟨0, 0, 1920, 1080⟩, true⟩
    let r : Session MemoryStore := start (.onMonitors [m] .none) (.ofSettings .initial) .empty
      .initial
    ∃ p t, r.follow [.act .init rfl, .act (.setGeometry ⟨1000, 100, 800, 600⟩) rfl] = .ok p ∧
      setRightColumn p.2 (some 1500) = .ok t ∧ t.window.geometry = ⟨0, 100, 1920, 600⟩ ∧
      t.window.leastSize = ⟨1880, 480⟩ ∧ p.2.ColumnShown (some 1500) t := by
  intro m r
  obtain ⟨p, hp, t, ht, hgeometry, hleast⟩ :
      ∃ p, r.follow [.act .init rfl, .act (.setGeometry ⟨1000, 100, 800, 600⟩) rfl] = .ok p ∧
        ∃ t, setRightColumn p.2 (some 1500) = .ok t ∧
          t.window.geometry = ⟨0, 100, 1920, 600⟩ ∧ t.window.leastSize = ⟨1880, 480⟩ := by
    decide +kernel
  exact ⟨p, t, hp, ht, hgeometry, hleast, (setRightColumn_shown p.2 (some 1500)).1 t ht⟩

end Session

end WindowKeeper
