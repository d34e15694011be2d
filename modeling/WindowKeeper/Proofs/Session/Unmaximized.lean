import WindowKeeper.Proofs.Monitor.Nearest
import WindowKeeper.Proofs.Session.Recorded

namespace WindowKeeper

/-- Whether a maximized window is saved as one. -/
def Moment.Truthful {σ : Type} (m : Moment σ) : Prop :=
  m.session.window.state = .maximized → m.savedState = .maximized

instance {σ : Type} (m : Moment σ) : Decidable m.Truthful :=
  inferInstanceAs (Decidable (_ → _))

/-- The corners to which a record with this checksum can be relative. -/
def Monitor.corners (ms : List Monitor) (checksum : UInt32) : List Point :=
  if ms = [] then [⟨0, 0⟩]
  else (ms.filter fun m => m.checksum = checksum).map fun m => m.geometry.corner

namespace Session

variable {σ : Type}

/-- The window has the rectangle that a record holds, with the corner of the monitor and the right
column added back. -/
def HasRect (s : Session σ) (p : Placement) : Prop :=
  ∃ c ∈ Monitor.corners s.window.monitors p.monitor,
    s.window.geometry = ⟨p.x + c.x, p.y + c.y, p.w + s.columnWidth, p.h⟩

instance (s : Session σ) (p : Placement) : Decidable (s.HasRect p) :=
  inferInstanceAs (Decidable (∃ c ∈ _, _))

theorem hasRect_bodyPlacement {s : Session σ} {state : WindowState} {scale : Int} {p : Placement}
    (h : (s.snapshot state).bodyPlacement s.window.monitors scale = .ok p) : s.HasRect p := by
  obtain ⟨-, c, -, ⟨hnone, rfl⟩ | ⟨m, hm, rfl, -⟩⟩ := Snapshot.bodyPlacement_eq_ok h
  · have hempty := Monitor.nearest?_eq_none hnone
    refine ⟨⟨0, 0⟩, by simp [Monitor.corners, hempty], ?_⟩
    simp [Snapshot.recordAlone, Snapshot.kept, snapshot]
  · have hmem := Monitor.nearest?_mem hm
    have hsome : s.window.monitors ≠ [] := List.ne_nil_of_mem hmem
    refine ⟨m.geometry.corner, ?_, ?_⟩
    · simp only [Monitor.corners, if_neg hsome, List.mem_map, List.mem_filter]
      exact ⟨m, ⟨hmem, by simp [Snapshot.recordOn]⟩, rfl⟩
    · simp [Snapshot.recordOn, Snapshot.kept, snapshot, Rect.corner]

variable [Store σ] [LawfulStore σ] {s t : Session σ} {x : Turn}

/-- A turn keeps the record, or sets its flag, or records the window as it is. -/
theorem rect_turn (htruthful : (Moment.mk s x).Truthful) (h : s.turn x = .ok t) :
    t.record = s.record ∨ t.record = { s.record with maximized := true } ∨
      s.window.state ≠ .maximized ∧ s.HasRect t.record := by
  rcases record_turn h with hsame | hworth
  · exact .inl hsame
  · right
    rcases hworth.flag_or_body with hflag | ⟨hstate, hplacement⟩
    · exact .inl hflag
    · right
      constructor
      · intro hmaximized
        exact hstate (htruthful hmaximized)
      · exact hasRect_bodyPlacement hplacement

/-- Whatever is recorded in a course was the rectangle of the window when it was not maximized, as
far as it was not in the record from the start. -/
theorem course_unmaximized {ms : List (Moment σ)} (h : s.Course ms t)
    (htruthful : ∀ m ∈ ms, m.Truthful) :
    ((∃ b, t.record = { s.record with maximized := b }) ∨
      ∃ m ∈ ms, m.session.window.state ≠ .maximized ∧ m.session.HasRect t.record) ∧
    ∀ x u, (Moment.mk t x).Truthful → t.turn x = .ok u → u.record ≠ t.record →
      u.record.maximized = false → t.window.state ≠ .maximized ∧ t.HasRect u.record := by
  constructor
  · induction h with
    | start => exact .inl ⟨s.record.maximized, rfl⟩
    | @turn ms t u x _ ht ih =>
      have hkept := ih fun m hm => htruthful m (List.mem_cons_of_mem _ hm)
      rcases rect_turn (htruthful _ List.mem_cons_self) ht with hsame | hflag | hwindow
      · rw [hsame]
        exact hkept.imp_right fun ⟨m, hm, hrect⟩ => ⟨m, List.mem_cons_of_mem _ hm, hrect⟩
      · -- the flag leaves the rectangle as it was recorded before
        rw [hflag]
        rcases hkept with ⟨b, hrecord⟩ | ⟨m, hm, hstate, hrect⟩
        · exact .inl ⟨true, by rw [hrecord]⟩
        · exact .inr ⟨m, List.mem_cons_of_mem _ hm, hstate, hrect⟩
      · exact .inr ⟨_, List.mem_cons_self, hwindow⟩
  · intro x u hx hu hnew hbody
    rcases rect_turn hx hu with hsame | hflag | hwindow
    · exact absurd hsame hnew
    · rw [hflag] at hbody
      cases hbody
    · exact hwindow

/-- A window is maximized and comes back to its rectangle, which is recorded then. -/
theorem course_unmaximized_restored :
    let m : Monitor := ⟨"DP-1", ⟨0, 0, 1920, 1080⟩, ⟨0, 0, 1920, 1040⟩, true⟩
    let r : Session MemoryStore := start (.onMonitors [m] .none) (.ofSettings .initial) .empty
      .initial
    ∃ p u, r.follow ([.act .init rfl, .act .markPlaced rfl, .act (.setVisible true) rfl,
          .act (.setState .maximized) rfl, .act (.setGeometry ⟨0, 0, 1920, 1040⟩) rfl] ++
        List.replicate 6 (.next 0) ++
        [.act (.setState .normal) rfl, .act (.setGeometry ⟨560, 220, 800, 600⟩) rfl]) = .ok p ∧
      p.2.turn (.next 0) = .ok u ∧ u.record = ⟨560, 220, 800, 600, 100, false, m.checksum⟩ ∧
      p.2.window.state ≠ .maximized ∧ p.2.HasRect u.record := by
  intro m r
  obtain ⟨⟨ms, t⟩, hfollow, htruthful, hlast, u, hu, hnew, hrecord⟩ :
      ∃ p, r.follow ([.act .init rfl, .act .markPlaced rfl, .act (.setVisible true) rfl,
          .act (.setState .maximized) rfl, .act (.setGeometry ⟨0, 0, 1920, 1040⟩) rfl] ++
        List.replicate 6 (.next 0) ++
        [.act (.setState .normal) rfl, .act (.setGeometry ⟨560, 220, 800, 600⟩) rfl]) = .ok p ∧
      (∀ m ∈ p.1, m.Truthful) ∧ (Moment.mk p.2 (.next 0)).Truthful ∧
        ∃ u, p.2.turn (.next 0) = .ok u ∧ u.record ≠ p.2.record ∧
          u.record = ⟨560, 220, 800, 600, 100, false, m.checksum⟩ := by
    decide +kernel
  obtain ⟨-, hwrites⟩ := course_unmaximized (course_follow hfollow) htruthful
  have hbody : u.record.maximized = false := by rw [hrecord]
  exact ⟨_, u, hfollow, hu, hrecord, hwrites _ u hlast hu hnew hbody⟩

/-- An event that tells of the normal state comes late, when the window is maximized again: then the
rectangle of the maximized window is recorded. -/
theorem course_unmaximized_late :
    ¬ ∀ (window : Window) (store : MemoryStore) (files : Tree) (config : Config)
        (ms : List (Moment MemoryStore)) (t u : Session MemoryStore) (x : Turn),
      (start window store files config).Course ms t → t.turn x = .ok u → u.record ≠ t.record →
      u.record.maximized = false →
      ∃ r ∈ u :: t :: ms.map Moment.session, r.window.state ≠ .maximized ∧ r.HasRect u.record := by
  intro h
  let m : Monitor := ⟨"DP-1", ⟨0, 0, 1920, 1080⟩, ⟨0, 0, 1920, 1040⟩, true⟩
  obtain ⟨⟨ms, t⟩, hfollow, u, hu, hnew, hbody, hnever⟩ :
      ∃ p, (start (.onMonitors [m] .none) (MemoryStore.ofSettings .initial) .empty
          .initial).follow ([.act .init rfl, .act .markPlaced rfl, .act (.setVisible true) rfl,
          .act (.setState .maximized) rfl, .act (.setState .normal) rfl,
          .act (.setState .maximized) rfl, .act (.setGeometry ⟨0, 0, 1920, 1040⟩) rfl] ++
        List.replicate 4 (.next 0)) = .ok p ∧
      ∃ u, p.2.turn (.next 0) = .ok u ∧ u.record ≠ p.2.record ∧ u.record.maximized = false ∧
        ∀ r ∈ u :: p.2 :: p.1.map Moment.session,
          ¬ (r.window.state ≠ .maximized ∧ r.HasRect u.record) := by
    decide +kernel
  obtain ⟨r, hr, hrect⟩ := h _ _ _ _ ms t u _ (course_follow hfollow) hu hnew hbody
  exact hnever r hr hrect

end Session

end WindowKeeper
