import WindowKeeper.Proofs.Session.Recorded

namespace WindowKeeper

/-- A widening within the room adds the whole width. -/
theorem Rect.width_widen {r desktop g : Rect} {d n added : Int} (hn : desktop.room r.w = .ok n)
    (hd : d ≤ n) (h : r.widen desktop d = .ok (g, added)) : g.w = r.w + d := by
  simp only [widen, hn, bind_eq_ok, plus_eq_ok, minus_eq_ok, pure_eq_ok] at h
  obtain ⟨_, hroom, w, ⟨-, hw⟩, _, -, _, -, h⟩ := h
  cases hroom
  cases h
  rw [Int.min_eq_left hd] at hw
  exact hw.symm

namespace Moment

variable {σ : Type}

/-- The width that a moment asks of the window for the right column. -/
def growth? (m : Moment σ) : Option Int :=
  match m.turn with
  | .act (.setRightColumn width) _ => some (width.getD 0 - m.session.columnWidth)
  | _ => none

/-- Whether the window has room for what a moment asks of it. -/
def hasRoom (m : Moment σ) : Bool :=
  match m.growth?, m.session.room with
  | some d, .ok (n, _) => d ≤ n
  | _, _ => true

/-- Whether a moment changes the width of the window for the right column at most. -/
def unsized (m : Moment σ) : Bool :=
  match m.turn with
  | .act (.setGeometry r) _ => r.w = m.session.window.geometry.w
  | .act (.setRightColumn _) _ => true
  | x => !x.sizes

/-- The change of the column that a maximized window does not follow. -/
def unfollowed (m : Moment σ) : Int :=
  if m.session.window.state = .maximized then m.growth?.getD 0 else 0

/-- The change of the column in a course that was not followed. -/
def allUnfollowed : List (Moment σ) → Int
  | [] => 0
  | m :: ms => m.unfollowed + allUnfollowed ms

theorem growth?_of_sizes {m : Moment σ} (h : m.turn.sizes = false) : m.growth? = none := by
  unfold growth?
  split
  · rename_i hturn
    rw [hturn] at h
    cases h
  · rfl

end Moment

namespace Session

variable {σ : Type}

/-- The width that is remembered: that of the window without the right column. -/
def bodyWidth (s : Session σ) : Int := s.window.geometry.w - s.columnWidth

variable {s t : Session σ} {x : Turn}

theorem bodyWidth_setRightColumn {width : Option Int}
    (hroom : s.window.state ≠ .maximized → ∀ n u, s.room = .ok (n, u) →
      width.getD 0 - s.columnWidth ≤ n)
    (h : setRightColumn s width = .ok t) :
    t.bodyWidth = s.bodyWidth -
      if s.window.state = .maximized then width.getD 0 - s.columnWidth else 0 := by
  rcases core_setRightColumn h with ⟨hstate, hcore⟩ | ⟨hstate, d, g, added, hd, hg, hcore⟩
  · have hgeometry : t.window.geometry = s.window.geometry := congrArg Core.geometry hcore
    have hcolumn : t.rightColumn = width := congrArg Core.rightColumn hcore
    rw [if_pos hstate, bodyWidth, bodyWidth, hgeometry, columnWidth, hcolumn]
    omega
  · have hgeometry : t.window.geometry = g := congrArg Core.geometry hcore
    have hcolumn : t.rightColumn = width := congrArg Core.rightColumn hcore
    -- the room asked for at this moment is the one that the widening looks up
    have hwidened := hg
    simp only [Rect.widen, bind_eq_ok] at hwidened
    obtain ⟨n, hn, -⟩ := hwidened
    obtain ⟨u, hu⟩ := room_eq_ok hd hn
    have hwidth := Rect.width_widen hn (hroom hstate n u hu) hg
    rw [if_neg hstate, bodyWidth, bodyWidth, hgeometry, columnWidth, hcolumn, hwidth]
    omega

variable [Store σ]

theorem bodyWidth_turn (hx : (Moment.mk s x).unsized)
    (hroom : s.window.state ≠ .maximized → (Moment.mk s x).hasRoom) (h : s.turn x = .ok t) :
    t.bodyWidth = s.bodyWidth - (Moment.mk s x).unfollowed := by
  cases hsizes : x.sizes with
  | false =>
    obtain ⟨hwidth, hcolumn⟩ := (frames_turn h).width hsizes
    have hnone : (Moment.mk s x).growth? = none := Moment.growth?_of_sizes hsizes
    simp only [Moment.unfollowed, hnone, bodyWidth, columnWidth, hwidth, hcolumn]
    simp
  | true =>
    cases x with
    | act a single =>
      obtain ⟨⟨reply, u⟩, hu, rfl⟩ := map_eq_ok.mp h
      cases a with
      | setGeometry r =>
        cases hu
        have hsame : r.w = s.window.geometry.w := of_decide_eq_true hx
        change r.w - s.columnWidth = s.bodyWidth - (Moment.mk s _).unfollowed
        simp [Moment.unfollowed, Moment.growth?, bodyWidth, hsame]
      | setRightColumn width =>
        refine bodyWidth_setRightColumn (fun hstate n v hv => ?_) (of_answered hu)
        have hfits := hroom hstate
        simp only [Moment.hasRoom, Moment.growth?, hv] at hfits
        exact of_decide_eq_true hfits
      | init | resize | widen => cases hx
      | _ => cases hsizes
    | _ => cases hsizes

/-- The width without the column is the one at the start of a course, but for what was not
followed. -/
theorem bodyWidth_course {ms : List (Moment σ)} (h : s.Course ms t) (hsized : ∀ m ∈ ms, m.unsized)
    (hroom : ∀ m ∈ ms, m.session.window.state ≠ .maximized → m.hasRoom) :
    t.bodyWidth = s.bodyWidth - Moment.allUnfollowed ms := by
  induction h with
  | start => exact (Int.sub_zero _).symm
  | @turn ms t u x _ ht ih =>
    have hstep := bodyWidth_turn (hsized _ List.mem_cons_self) (hroom _ List.mem_cons_self) ht
    have hbefore := ih (fun m hm => hsized m (List.mem_cons_of_mem _ hm))
      fun m hm => hroom m (List.mem_cons_of_mem _ hm)
    rw [hstep, hbefore, Moment.allUnfollowed]
    omega

/-- A record of the body has the width without the column. -/
theorem width_of_record [LawfulStore σ] (h : s.turn x = .ok t) (hnew : t.record ≠ s.record)
    (hbody : t.record.maximized = false) : t.record.w = s.bodyWidth := by
  rcases record_turn h with hsame | hworth
  · exact absurd hsame hnew
  · rcases hworth.flag_or_body with hflag | ⟨-, hplacement⟩
    · rw [hflag] at hbody
      cases hbody
    · exact Snapshot.width_bodyPlacement hplacement

/-- From its opening on, the window has the same width without the column, and is recorded with it,
apart from what it did not follow while it was maximized. -/
theorem course_bodyWidth [LawfulStore σ] {r : Session σ} {ms : List (Moment σ)}
    (hcolumn : r.rightColumn = none) (hinit : r.init = .ok s) (h : s.Course ms t)
    (hsized : ∀ m ∈ ms, m.unsized)
    (hroom : ∀ m ∈ ms, m.session.window.state ≠ .maximized → m.hasRoom) :
    t.window.geometry.w - t.columnWidth =
        s.window.geometry.w - Moment.allUnfollowed ms ∧
      ∀ x u, t.turn x = .ok u → u.record ≠ t.record → u.record.maximized = false →
        u.record.w = s.window.geometry.w - Moment.allUnfollowed ms := by
  have hnone : s.columnWidth = 0 := by
    obtain ⟨g, frame, -, hcore⟩ := core_init hinit
    have hsame : s.rightColumn = r.rightColumn := congrArg Core.rightColumn hcore
    rw [columnWidth, hsame, hcolumn]
    rfl
  have hwidth : t.bodyWidth = s.window.geometry.w - Moment.allUnfollowed ms := by
    rw [bodyWidth_course h hsized hroom, bodyWidth, hnone, Int.sub_zero]
  refine ⟨hwidth, ?_⟩
  intro x u hu hnew hbody
  rw [width_of_record hu hnew hbody, hwidth]

/-- A column that is shown beside a window of normal state, which is saved then. -/
theorem course_bodyWidth_shown :
    let m : Monitor := ⟨"DP-1", ⟨0, 0, 1920, 1080⟩, ⟨0, 0, 1920, 1080⟩, true⟩
    let r : Session MemoryStore := start (.onMonitors [m] .none) (.ofSettings .initial) .empty
      .initial
    ∃ s p u, r.init = .ok s ∧
      s.follow [.act .markPlaced rfl, .act .activate rfl, .act (.setRightColumn (some 300)) rfl] =
        .ok p ∧
      p.2.window.geometry.w = 1100 ∧ p.2.turn (.act (.savePlacement .normal) rfl) = .ok u ∧
      p.2.window.geometry.w - p.2.columnWidth =
        s.window.geometry.w - Moment.allUnfollowed p.1 ∧
      u.record.w = s.window.geometry.w - Moment.allUnfollowed p.1 := by
  intro m r
  obtain ⟨s, hinit, ⟨ms, t⟩, hfollow, hsized, hw, u, hu, hnew, hbody⟩ :
      ∃ s, r.init = .ok s ∧
        ∃ p, s.follow [.act .markPlaced rfl, .act .activate rfl,
            .act (.setRightColumn (some 300)) rfl] = .ok p ∧
          (∀ o ∈ p.1, o.unsized ∧ o.hasRoom) ∧ p.2.window.geometry.w = 1100 ∧
          ∃ u, p.2.turn (.act (.savePlacement .normal) rfl) = .ok u ∧ u.record ≠ p.2.record ∧
            u.record.maximized = false := by
    decide +kernel
  obtain ⟨hwidth, hrecord⟩ := course_bodyWidth (r := r) rfl hinit (course_follow hfollow)
    (fun o ho => (hsized o ho).1) fun o ho _ => (hsized o ho).2
  exact ⟨s, _, u, hinit, hfollow, hw, hu, hwidth, hrecord _ u hu hnew hbody⟩

/-- A column that is shown beside a maximized window takes its width from the body later on. -/
theorem course_bodyWidth_maximized :
    ¬ ∀ (window : Window) (store : MemoryStore) (files : Tree) (config : Config)
        (s t : Session MemoryStore) (ms : List (Moment MemoryStore)),
      (start window store files config).init = .ok s → s.Course ms t →
      (∀ m ∈ ms, m.unsized ∧ m.hasRoom) → t.queue = [] → t.window.state = .normal →
      t.window.geometry.w - t.columnWidth = s.window.geometry.w := by
  intro h
  let m : Monitor := ⟨"DP-1", ⟨0, 0, 1920, 1080⟩, ⟨0, 0, 1920, 1080⟩, true⟩
  obtain ⟨s, hinit, ⟨ms, t⟩, hfollow, hsized, hqueue, hstate, hwidth⟩ :
      ∃ s, (start (.onMonitors [m] .none) (MemoryStore.ofSettings .initial) .empty .initial).init =
          .ok s ∧
        ∃ p, s.follow ([.act (.setState .maximized) rfl, .act (.setRightColumn (some 300)) rfl,
            .act (.setState .normal) rfl] ++ List.replicate 4 (.next 0)) = .ok p ∧
          (∀ o ∈ p.1, o.unsized ∧ o.hasRoom) ∧ p.2.queue = [] ∧ p.2.window.state = .normal ∧
          p.2.window.geometry.w - p.2.columnWidth ≠ s.window.geometry.w := by
    decide +kernel
  exact hwidth (h _ _ _ _ s t ms hinit (course_follow hfollow) hsized hqueue hstate)

end Session

end WindowKeeper
