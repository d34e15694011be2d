import WindowKeeper.Proofs.Monitor.Nearest
import WindowKeeper.Placement.Remember

namespace WindowKeeper.Snapshot

/-- The rectangle that is remembered: the body without the right column. -/
def kept (s : Snapshot) : Rect := { s.body with w := s.body.w - s.rightColumn }

/-- The record of `s.kept` relative to a monitor. -/
def recordOn (s : Snapshot) (scale : Int) (m : Monitor) : Placement :=
  ⟨s.kept.x - m.geometry.x, s.kept.y - m.geometry.y, s.kept.w, s.kept.h, scale, false, m.checksum⟩

/-- The record of `s.kept` on a desktop without monitors. -/
def recordAlone (s : Snapshot) (scale : Int) : Placement :=
  ⟨s.kept.x, s.kept.y, s.kept.w, s.kept.h, scale, false, 0⟩

theorem bodyPlacement_eq_ok {s : Snapshot} {ms : List Monitor} {scale : Int} {p : Placement}
    (h : s.bodyPlacement ms scale = .ok p) :
    Fits32 s.kept.w ∧ ∃ c, s.kept.center = .ok c ∧
      ((Monitor.nearest? ms c = .ok none ∧ p = s.recordAlone scale) ∨
        ∃ m, Monitor.nearest? ms c = .ok (some m) ∧ p = s.recordOn scale m ∧
          Fits32 p.x ∧ Fits32 p.y) := by
  simp only [bodyPlacement, bind_eq_ok, minus_eq_ok] at h
  obtain ⟨w, ⟨hw, rfl⟩, c, hc, n, hn, h⟩ := h
  refine ⟨hw, c, hc, ?_⟩
  cases n with
  | none =>
    rw [pure_eq_ok] at h
    exact .inl ⟨hn, h.symm⟩
  | some m =>
    simp only [bind_eq_ok, minus_eq_ok, pure_eq_ok] at h
    obtain ⟨x, ⟨hx, rfl⟩, y, ⟨hy, rfl⟩, rfl⟩ := h
    exact .inr ⟨m, hn, rfl, hx, hy⟩

theorem bodyPlacement_unmaximized {s : Snapshot} {ms : List Monitor} {scale : Int} {p : Placement}
    (h : s.bodyPlacement ms scale = .ok p) : p.maximized = false := by
  obtain ⟨-, c, -, ⟨-, rfl⟩ | ⟨m, -, rfl, -⟩⟩ := bodyPlacement_eq_ok h
  · rfl
  · rfl

theorem bodyPlacement_fits {s : Snapshot} {ms : List Monitor} {scale : Int} {p : Placement}
    (h : s.bodyPlacement ms scale = .ok p) (least : Size) :
    p.fits least = (decide (least.w ≤ s.kept.w) && decide (least.h ≤ s.kept.h)) := by
  obtain ⟨-, c, -, ⟨-, rfl⟩ | ⟨m, -, rfl, -⟩⟩ := bodyPlacement_eq_ok h
  · rfl
  · rfl

/-- A record to write fits, is of a window that can be seen and has its place, and is not the old
one. -/
theorem remember_eq_some {s : Snapshot} {saved p : Placement} {ms : List Monitor} {scale : Int}
    {least : Size} (h : s.remember saved ms scale least = .ok (some p)) :
    s.worthSaving ∧ s.candidate saved ms scale = .ok p ∧ p.fits least ∧ p ≠ saved := by
  unfold remember at h
  split at h
  · rename_i hworth
    simp only [bind_eq_ok, pure_eq_ok] at h
    obtain ⟨c, hc, h⟩ := h
    split at h
    · rename_i hfits
      cases h
      exact ⟨hworth, hc, hfits⟩
    · cases h
  · cases h

/-- The record in force after saving. -/
def inForce (s : Snapshot) (saved : Placement) (ms : List Monitor) (scale : Int) (least : Size) :
    Except Overflow Placement :=
  (·.getD saved) <$> s.remember saved ms scale least

theorem inForce_of_worthSaving {s : Snapshot} {saved p : Placement} {ms : List Monitor}
    {scale : Int} {least : Size} (hs : s.worthSaving)
    (h : s.inForce saved ms scale least = .ok p) :
    ∃ c, s.candidate saved ms scale = .ok c ∧ p = if c.fits least then c else saved := by
  simp only [inForce, map_eq_ok, remember, hs, if_true, bind_eq_ok, pure_eq_ok] at h
  obtain ⟨_, ⟨c, hc, rfl⟩, rfl⟩ := h
  refine ⟨c, hc, ?_⟩
  by_cases hf : c.fits least
  · by_cases he : c = saved
    · simp [he]
    · simp [hf, he]
  · simp [hf]

/-- A window that is not maximized and has at least the least size is recorded as it stands. -/
theorem inForce_of_fitting {s : Snapshot} {saved p : Placement} {ms : List Monitor} {scale : Int}
    {least : Size} (hs : s.worthSaving) (hstate : s.state ≠ .maximized)
    (hsize : least.w ≤ s.kept.w ∧ least.h ≤ s.kept.h)
    (h : s.inForce saved ms scale least = .ok p) : s.bodyPlacement ms scale = .ok p := by
  obtain ⟨c, hc, rfl⟩ := inForce_of_worthSaving hs h
  rw [candidate, if_neg hstate] at hc
  have hfits : c.fits least := by
    rw [bodyPlacement_fits hc]
    simpa using hsize
  rw [if_pos hfits]
  exact hc

theorem maximized_candidate {s : Snapshot} {saved p : Placement} {ms : List Monitor} {scale : Int}
    (h : s.candidate saved ms scale = .ok p) : p.maximized ↔ s.state = .maximized := by
  by_cases hstate : s.state = .maximized
  · rw [candidate, if_pos hstate] at h
    cases h
    simp [hstate]
  · rw [candidate, if_neg hstate] at h
    have hplain := bodyPlacement_unmaximized h
    simp [hstate, hplain]

theorem fits_candidate {s : Snapshot} {saved p : Placement} {ms : List Monitor} {scale : Int}
    {least : Size} (hsize : least.w ≤ s.kept.w ∧ least.h ≤ s.kept.h) (hsaved : saved.fits least)
    (h : s.candidate saved ms scale = .ok p) : p.fits least := by
  by_cases hstate : s.state = .maximized
  · rw [candidate, if_pos hstate] at h
    cases h
    exact hsaved
  · rw [candidate, if_neg hstate] at h
    rw [bodyPlacement_fits h]
    simpa using hsize

/-- The record of a window with at least the least size says whether it is maximized, if the old
record was large enough. -/
theorem maximized_iff_of_fitting {s : Snapshot} {saved p : Placement} {ms : List Monitor}
    {scale : Int} {least : Size} (hs : s.worthSaving)
    (hsize : least.w ≤ s.kept.w ∧ least.h ≤ s.kept.h) (hsaved : saved.fits least)
    (h : s.inForce saved ms scale least = .ok p) : p.maximized ↔ s.state = .maximized := by
  obtain ⟨c, hc, rfl⟩ := inForce_of_worthSaving hs h
  rw [if_pos (fits_candidate hsize hsaved hc)]
  exact maximized_candidate hc

/-- On a desktop with monitors it is recorded on the one nearest to its center. -/
theorem inForce_recordOn {s : Snapshot} {saved p : Placement} {ms : List Monitor} {scale : Int}
    {least : Size} (hms : ms ≠ []) (hs : s.worthSaving) (hstate : s.state ≠ .maximized)
    (hsize : least.w ≤ s.kept.w ∧ least.h ≤ s.kept.h)
    (h : s.inForce saved ms scale least = .ok p) :
    Fits32 s.kept.w ∧ ∃ c n, s.kept.center = .ok c ∧ Monitor.nearest? ms c = .ok (some n) ∧
      p = s.recordOn scale n := by
  obtain ⟨hw, c, hc, hcase⟩ := bodyPlacement_eq_ok (inForce_of_fitting hs hstate hsize h)
  refine ⟨hw, c, ?_⟩
  rcases hcase with ⟨hn, -⟩ | ⟨n, hn, rfl, -⟩
  · exact absurd (Monitor.nearest?_eq_none hn) hms
  · exact ⟨n, hc, hn, rfl⟩

theorem inForce_of_idle {s : Snapshot} {saved : Placement} {ms : List Monitor} {scale : Int}
    {least : Size} (hs : s.worthSaving = false) :
    s.inForce saved ms scale least = .ok saved := by
  simp [inForce, remember, hs, Functor.map, Except.map]

theorem maximized_inForce {s : Snapshot} {saved p : Placement} {ms : List Monitor} {scale : Int}
    {least : Size} (hstate : s.state ≠ .maximized) (hsaved : saved.maximized = false)
    (h : s.inForce saved ms scale least = .ok p) : p.maximized = false := by
  by_cases hs : s.worthSaving
  · obtain ⟨c, hc, rfl⟩ := inForce_of_worthSaving hs h
    rw [candidate, if_neg hstate] at hc
    split
    · exact bodyPlacement_unmaximized hc
    · exact hsaved
  · rw [inForce_of_idle (by simpa using hs)] at h
    cases h
    exact hsaved

end WindowKeeper.Snapshot
