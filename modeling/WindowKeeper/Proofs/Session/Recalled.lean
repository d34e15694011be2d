import WindowKeeper.Proofs.Session.Steady
import WindowKeeper.Proofs.Session.View

namespace WindowKeeper

/-- The state to which a window comes back that is in the state `st`, and was in `last` before. -/
def WindowState.orLast (st last : WindowState) : WindowState :=
  if st = .minimized then last else st

theorem WindowState.orLast_of_awake {st last : WindowState} (h : st ≠ .minimized) :
    st.orLast last = st := if_neg h

/-- Whether a turn is the doing of someone outside the session. -/
def Turn.isOutside : Turn → Bool
  | .act _ _ => true
  | .handle _ => true
  | _ => false

def Turn.setsState : Turn → Bool
  | .act (.setState _) _ => true
  | _ => false

/-- What a session is going to be told of a window that was last awake in the state `last`, and what
it knows of that by then. The flag of the record may lag behind until the session is told of the
state; the one kept while the window is hidden is used when it is shown, and taken anew before. -/
inductive Waiting (recorded : Bool) (last : WindowState) (v : View) : Prop
  | nothing (untold : v.untold = []) (known : recorded ↔ last = .maximized)
      (hidden : v.visible = false → v.maximizedBeforeHide → last = .maximized)
  | hidden (untold : v.untold = [.visibleChanged false]) (known : recorded ↔ last = .maximized)
  | minimized (untold : v.untold = [.stateChanged .minimized]) (visible : v.visible)
      (known : recorded ↔ last = .maximized)
  | changed (untold : v.untold = [.stateChanged last]) (visible : v.visible)
  | shown (untold : v.untold = [.visibleChanged true]) (visible : v.visible)
      (known : recorded ↔ last = .maximized) (before : v.maximizedBeforeHide → last = .maximized)
  | woken (untold : v.untold = [.stateChanged last, .visibleChanged true]) (visible : v.visible)
      (before : v.maximizedBeforeHide → last = .maximized)

namespace Waiting

variable {recorded recorded' : Bool} {last : WindowState} {v : View}

theorem at_rest (h : Waiting recorded last v) (hv : v.untold = []) :
    (recorded ↔ last = .maximized) ∧
      (v.visible = false → v.maximizedBeforeHide → last = .maximized) := by
  cases h with
  | nothing untold known hidden => exact ⟨known, hidden⟩
  | _ untold =>
    rw [hv] at untold
    cases untold

/-- The flag kept for hidden windows does not matter while the window can be seen. -/
theorem nothing_seen (untold : v.untold = []) (visible : v.visible)
    (known : recorded ↔ last = .maximized) : Waiting recorded last v := by
  refine .nothing untold known fun hhidden => ?_
  cases visible.symm.trans hhidden

/-- A record that is written meanwhile knows the last state as well. -/
theorem record (h : Waiting recorded last v)
    (hrecord : recorded' = recorded ∨ (recorded' ↔ last = .maximized)) :
    Waiting recorded' last v := by
  have hknown (known : recorded ↔ last = .maximized) : recorded' ↔ last = .maximized := by
    rcases hrecord with hsame | hnew
    · rw [hsame]
      exact known
    · exact hnew
  cases h with
  | nothing untold known hidden => exact .nothing untold (hknown known) hidden
  | hidden untold known => exact .hidden untold (hknown known)
  | minimized untold visible known => exact .minimized untold visible (hknown known)
  | changed untold visible => exact .changed untold visible
  | shown untold visible known before => exact .shown untold visible (hknown known) before
  | woken untold visible before => exact .woken untold visible before

end Waiting

namespace Session

variable {σ : Type}

/-- Without its right column the window has at least the least size. -/
def FitsLeast (s : Session σ) : Prop :=
  s.config.leastSize.w ≤ s.window.geometry.w - s.columnWidth ∧
    s.config.leastSize.h ≤ s.window.geometry.h

instance (s : Session σ) : Decidable s.FitsLeast := inferInstanceAs (Decidable (_ ∧ _))

/-- The latest state other than minimized that the window had in a course. -/
def lastAwake (ms : List (Moment σ)) (t : Session σ) : Option WindowState :=
  (t.window.state :: ms.map fun m => m.session.window.state).find? (· ≠ .minimized)

theorem lastAwake_turn {ms : List (Moment σ)} {t u : Session σ} {x : Turn} {last : WindowState}
    (h : lastAwake ms t = some last) :
    lastAwake (⟨t, x⟩ :: ms) u = some (u.window.state.orLast last) := by
  unfold WindowState.orLast
  rw [lastAwake, List.find?_cons]
  by_cases hu : u.window.state = .minimized
  · rw [if_pos hu, hu]
    exact h
  · simp [hu]

end Session

/-- At such a moment the session learns how the window shows from the window system only, everyone
else waits until it was told all, and only the state of a window that can be seen is changed. -/
structure Moment.Regular {σ : Type} (m : Moment σ) : Prop where
  honest : m.turn.feigns = false
  idle : m.turn.isOutside → m.session.queue = []
  seen : m.turn.setsState → m.session.window.visible
  fits : m.session.FitsLeast

instance {σ : Type} (m : Moment σ) : Decidable m.Regular :=
  decidable_of_iff (m.turn.feigns = false ∧ (m.turn.isOutside → m.session.queue = []) ∧
      (m.turn.setsState → m.session.window.visible) ∧ m.session.FitsLeast)
    ⟨fun ⟨honest, idle, seen, fits⟩ => ⟨honest, idle, seen, fits⟩,
      fun h => ⟨h.honest, h.idle, h.seen, h.fits⟩⟩

namespace Session

variable {σ : Type} [Store σ]

/-- The window was last seen awake in the state `last`, and the session knows of it, or is going to
be told. -/
structure Recalls (last : WindowState) (s : Session σ) : Prop where
  timed : s.Timed
  placed : s.placed
  large : s.record.fits s.config.leastSize
  queue : (∀ e ∈ s.queue, e.isNotice ∨ e.isTimer) ∨ ∃ e, s.queue = [e] ∧ e.ofShowing = false
  awake : last ≠ .minimized
  state : s.window.state.orLast last = last
  waiting : Waiting s.record.maximized last s.view

variable {s t : Session σ} {x : Turn} {e : Event} {last : WindowState}

omit [Store σ] in
theorem state_of_orLast (h : s.window.state.orLast last = last)
    (hawake : s.window.state ≠ .minimized) : s.window.state = last :=
  (WindowState.orLast_of_awake hawake).symm.trans h

/-- A turn that leaves the window in its state leaves the last one as well. -/
theorem Recalls.still {v : View} {recorded : Bool} (hs : s.Recalls last)
    (hstate : v.state = s.window.state) (h : Waiting recorded last v) :
    Waiting recorded (v.state.orLast last) v := by
  rw [hstate, hs.state]
  exact h

theorem Recalls.setVisible {recorded : Bool} (hs : s.Recalls last) (hq : s.view.untold = [])
    (hknown : recorded ↔ last = .maximized) (b : Bool) :
    Waiting recorded last (s.view.setVisible b) := by
  obtain ⟨-, hhidden⟩ := hs.waiting.at_rest hq
  by_cases hsame : s.view.visible = b
  · rw [View.setVisible_same hsame]
    exact .nothing hq hknown hhidden
  · have huntold : (s.view.setVisible b).untold = [.visibleChanged b] := by
      simp [View.setVisible, hq, hsame]
    cases b with
    | false => exact .hidden huntold hknown
    | true => exact .shown huntold rfl hknown (hhidden (by simpa using hsame))

theorem Recalls.setState {recorded : Bool} {st : WindowState} (hs : s.Recalls last)
    (hq : s.view.untold = []) (hknown : recorded ↔ last = .maximized)
    (hvisible : s.window.visible) : Waiting recorded (st.orLast last) (s.view.setState st) := by
  have hv : (s.view.setState st).visible := hvisible
  by_cases hsame : s.view.state = st
  · have hlast : st.orLast last = last := hsame ▸ hs.state
    rw [View.setState_same hsame, hlast]
    exact .nothing hq hknown (hs.waiting.at_rest hq).2
  · have huntold : (s.view.setState st).untold = [.stateChanged st] := by
      simp [View.setState, hq, hsame]
    by_cases hst : st = .minimized
    · subst hst
      exact .minimized huntold hv hknown
    · rw [WindowState.orLast_of_awake hst]
      exact .changed huntold hv

/-- A minimized window is shown in the state that the record says. That was its last one unless that
was neither normal nor maximized. -/
theorem Recalls.wake {recorded : Bool} (hs : s.Recalls last) (hq : s.view.untold = [])
    (hknown : recorded ↔ last = .maximized) :
    Waiting recorded ((s.view.wake s.wakeState).state.orLast last) (s.view.wake s.wakeState) := by
  obtain ⟨hrecord, hhidden⟩ := hs.waiting.at_rest hq
  by_cases hm : s.view.state = .minimized
  · have hwake : s.view.wake s.wakeState = (s.view.setState s.wakeState).setVisible true := by
      rw [View.wake, if_pos hm]
    have huntold : (s.view.setState s.wakeState).untold = [.stateChanged s.wakeState] := by
      simp [View.setState, hq, hm, s.wakeState_ne.symm]
    have hlast : (s.view.wake s.wakeState).state.orLast last = s.wakeState := by
      rw [hwake]
      exact WindowState.orLast_of_awake s.wakeState_ne
    rw [hlast, hwake]
    cases hvisible : s.view.visible with
    | true =>
      have hstill : (s.view.setState s.wakeState).visible = true := hvisible
      rw [View.setVisible_same hstill]
      exact .changed huntold hstill
    | false =>
      have hboth : ((s.view.setState s.wakeState).setVisible true).untold =
          [.stateChanged s.wakeState, .visibleChanged true] := by
        have hstill : (s.view.setState s.wakeState).visible = false := hvisible
        simp [View.setVisible, huntold, hstill]
      refine .woken hboth rfl fun hbefore => ?_
      have hmaximized : s.record.maximized := hrecord.mpr (hhidden hvisible hbefore)
      exact if_pos hmaximized
  · have hwake : s.view.wake s.wakeState = s.view.setVisible true := by
      rw [View.wake, if_neg hm]
    rw [hwake]
    exact hs.still rfl (hs.setVisible hq hknown true)

theorem Recalls.alters {v : View} {recorded : Bool} (hs : s.Recalls last)
    (hq : s.view.untold = []) (hseen : x.setsState → s.window.visible)
    (hknown : recorded ↔ last = .maximized) (h : s.Alters x v) :
    v.placed ∧ Waiting recorded (v.state.orLast last) v := by
  have hrest := (hs.waiting.at_rest hq).2
  cases h with
  | keep => exact ⟨hs.placed, hs.still rfl (.nothing hq hknown hrest)⟩
  | move => exact ⟨hs.placed, hs.still rfl (.nothing hq hknown hrest)⟩
  | place => exact ⟨rfl, hs.still rfl (.nothing hq hknown hrest)⟩
  | setVisible b => exact ⟨hs.placed, hs.still rfl (hs.setVisible hq hknown b)⟩
  | setState sets => exact ⟨hs.placed, hs.setState hq hknown (hseen (by rw [sets]; rfl))⟩
  | wake =>
    have hplaced : (s.view.wake s.wakeState).placed = s.placed := by
      unfold View.wake
      split <;> rfl
    exact ⟨hplaced.trans hs.placed, hs.wake hq hknown⟩

theorem Worth.maximized {st : WindowState} {p : Placement} (h : s.Worth st p) :
    p.maximized ↔ st = .maximized := Snapshot.maximized_candidate h.candidate

variable [LawfulStore σ]

theorem large_turn (hs : s.record.fits s.config.leastSize) (h : s.turn x = .ok t) :
    t.record.fits t.config.leastSize := by
  rw [(frames_turn h).config]
  rcases record_turn h with hsame | hworth
  · rw [hsame]
    exact hs
  · exact hworth.fits

/-- A placement that is saved by the window's own state says of it whether it is maximized. -/
theorem recorded_turn (hs : s.Recalls last) (htold : (Moment.mk s x).told? = none)
    (h : s.turn x = .ok t) :
    t.record.maximized = s.record.maximized ∨ (t.record.maximized ↔ last = .maximized) := by
  have hsaved : (Moment.mk s x).savedState = s.window.state := by
    rw [Moment.savedState, htold]
    rfl
  rcases record_turn h with hsame | hworth
  · exact .inl (congrArg Placement.maximized hsame)
  · rw [hsaved] at hworth
    have hlast := state_of_orLast hs.state hworth.awake
    exact .inr (hlast ▸ hworth.maximized)

omit [LawfulStore σ] in
theorem record_visibleChanged (s : Session σ) (b : Bool) :
    (visibleChanged s b).record = s.record := by
  have hstore : (visibleChanged s b).store = s.store := by
    have hcore := congrArg Core.store (core_visibleChanged s b)
    refine hcore.trans ?_
    cases b <;> cases s.maximizedBeforeHide <;> rfl
  rw [record, hstore]
  rfl

/-- A window that is told to be awake is recorded, and with it whether it is maximized. -/
theorem maximized_stateChanged {st : WindowState} (hplaced : s.placed)
    (hvisible : s.window.visible) (hst : st ≠ .minimized)
    (hlarge : s.record.fits s.config.leastSize) (hfits : s.FitsLeast)
    (h : stateChanged s st = .ok t) : t.record.maximized ↔ st = .maximized := by
  obtain ⟨r, hr, hcore⟩ := stateChanged_eq s st
  have hsame : r.core = s.core := hcore.resolve_right fun hmin => hst hmin.1
  have hsnapshot : r.snapshot st = s.snapshot st := by
    have hgeometry : r.window.geometry = s.window.geometry := congrArg Core.geometry hsame
    have hseen : r.window.visible = s.window.visible := congrArg Core.visible hsame
    have hopen : r.placed = s.placed := congrArg Core.placed hsame
    have hcolumn : r.rightColumn = s.rightColumn := congrArg Core.rightColumn hsame
    simp only [snapshot, columnWidth, hgeometry, hseen, hopen, hcolumn]
  have hrecord : r.record = s.record :=
    congrArg (fun c => (Store.settings (Core.store c)).placement) hsame
  have hconfig : r.config = s.config := congrArg Core.config hsame
  have hforce := inForce_savePlacement (hr.symm.trans h)
  rw [hsnapshot, hrecord, hconfig] at hforce
  have hworth : (s.snapshot st).worthSaving := by
    simp [Snapshot.worthSaving, snapshot, hst, hplaced, hvisible]
  exact Snapshot.maximized_iff_of_fitting hworth hfits hlarge hforce

theorem record_minimized (h : stateChanged s .minimized = .ok t) : t.record = s.record := by
  rcases record_turn (x := .handle (.stateChanged .minimized)) h with hsame | hworth
  · exact hsame
  · exact absurd rfl hworth.awake

omit [LawfulStore σ] in
theorem Recalls.visibleChanged (hs : s.Recalls last) {b : Bool} {es : List Event}
    {c : Clock Event}
    (huntold : s.view.untold = .visibleChanged b :: es.filter Event.ofShowing)
    (ht : t = Session.visibleChanged { s with queue := es, clock := c } b) :
    t.placed ∧ Waiting t.record.maximized (t.window.state.orLast last) t.view := by
  have hrecord : t.record = s.record := by
    rw [ht, record_visibleChanged]
    rfl
  have hview := view_visibleChanged { s with queue := es, clock := c } b
  rw [← ht] at hview
  change t.view.placed ∧ Waiting _ (t.view.state.orLast last) _
  rw [hrecord]
  cases hs.waiting with
  | nothing untold | minimized untold | changed untold | woken untold =>
    rw [untold] at huntold
    cases huntold
  | hidden untold known =>
    rw [untold] at huntold
    obtain ⟨hb, hes⟩ := List.cons.inj huntold
    cases hb
    rw [hview]
    -- what is kept while the window is hidden comes from the record
    exact ⟨hs.placed, hs.still rfl (.nothing hes.symm known fun _ => known.mp)⟩
  | shown untold visible known before =>
    rw [untold] at huntold
    obtain ⟨hb, hes⟩ := List.cons.inj huntold
    cases hb
    rw [if_pos rfl] at hview
    by_cases hbefore : s.maximizedBeforeHide
    · obtain rfl := before hbefore
      rw [if_pos hbefore] at hview
      rw [hview]
      refine ⟨hs.placed, ?_⟩
      change Waiting _ .maximized _
      by_cases hsame : s.window.state = .maximized
      · rw [View.setState_same hsame]
        exact .nothing_seen hes.symm visible known
      · refine .changed ?_ visible
        change es.filter Event.ofShowing ++ (if s.window.state = .maximized then [] else _) = _
        rw [← hes, if_neg hsame]
        rfl
    · rw [if_neg hbefore] at hview
      rw [hview]
      exact ⟨hs.placed, hs.still rfl (.nothing_seen hes.symm visible known)⟩

theorem Recalls.stateChanged (hs : s.Recalls last) (hfits : s.FitsLeast) {st : WindowState}
    {es : List Event} {c : Clock Event}
    (huntold : s.view.untold = .stateChanged st :: es.filter Event.ofShowing)
    (h : Session.stateChanged { s with queue := es, clock := c } st = .ok t) :
    t.placed ∧ Waiting t.record.maximized (t.window.state.orLast last) t.view := by
  have hview := view_stateChanged h
  have hstate : s.view.state.orLast last = last := hs.state
  have hcase : t.view = { s.view with untold := es.filter Event.ofShowing } ∨
      st = .minimized ∧
        t.view = { s.view with untold := es.filter Event.ofShowing }.setVisible false := hview
  have hlast : t.window.state.orLast last = last := by
    change t.view.state.orLast last = last
    rcases hcase with hkept | ⟨-, hkept⟩
    · rw [hkept]
      exact hstate
    · rw [hkept]
      exact hstate
  have hplaced : t.placed := by
    change t.view.placed
    rcases hcase with hkept | ⟨-, hkept⟩
    · rw [hkept]
      exact hs.placed
    · rw [hkept]
      exact hs.placed
  refine ⟨hplaced, ?_⟩
  rw [hlast]
  -- what is told of the last state makes the record know of it
  have hknows (visible : s.window.visible) (hst : st = last) :
      t.record.maximized ↔ last = .maximized := by
    rw [← hst]
    exact maximized_stateChanged (s := { s with queue := es, clock := c }) hs.placed visible
      (hst ▸ hs.awake) hs.large hfits h
  cases hs.waiting with
  | nothing untold | hidden untold | shown untold =>
    rw [untold] at huntold
    cases huntold
  | minimized untold visible known =>
    rw [untold] at huntold
    obtain ⟨hst, hes⟩ := List.cons.inj huntold
    cases hst
    have hrecord := record_minimized h
    rw [show t.record = s.record from hrecord]
    rcases hcase with hkept | ⟨-, hkept⟩
    · rw [hkept]
      exact .nothing_seen hes.symm visible known
    · rw [hkept]
      refine .hidden ?_ known
      change es.filter Event.ofShowing ++ (if s.window.visible = false then [] else _) = _
      rw [← hes, show s.window.visible = true from visible]
      rfl
  | changed untold visible =>
    rw [untold] at huntold
    obtain ⟨hst, hes⟩ := List.cons.inj huntold
    cases hst
    rw [hcase.resolve_right fun hmin => hs.awake hmin.1]
    exact .nothing_seen hes.symm visible (hknows visible rfl)
  | woken untold visible before =>
    rw [untold] at huntold
    obtain ⟨hst, hes⟩ := List.cons.inj huntold
    cases hst
    rw [hcase.resolve_right fun hmin => hs.awake hmin.1]
    exact .shown hes.symm visible (hknows visible rfl) before

omit [Store σ] [LawfulStore σ] in
theorem told?_of_honest (houtside : x.isOutside) (honest : x.feigns = false) :
    (Moment.mk s x).told? = none := by
  cases x with
  | act a single => cases a <;> first | rfl | cases honest
  | handle e => cases e <;> first | rfl | cases honest
  | _ => cases houtside

omit [LawfulStore σ] in
/-- A turn that sends no event queues only notices and the events of timers. -/
theorem queue_unsent {m : Moment σ} (h : m.Frames t) (htimed : m.session.Timed)
    (hqueue : ∀ e ∈ m.session.queue, e.isNotice ∨ e.isTimer)
    (hsilent : ∀ e single, m.turn ≠ .act (.send e) single) :
    ∀ e ∈ t.queue, e.isNotice ∨ e.isTimer := by
  intro e he
  rcases h.queue e he with hold | hnotice | ⟨a, ha, rfl⟩ | ⟨single, hsend⟩
  · exact hqueue e hold
  · exact .inl hnotice
  · exact .inr (htimed a ha)
  · exact absurd hsend (hsilent e single)

omit [LawfulStore σ] in
/-- What waits in the queue comes from the window system and the timers, if it is not one event that
someone sent to a session with an empty queue. -/
theorem queue_turn (hm : (Moment.mk s x).Regular) (hs : s.Recalls last) (h : s.turn x = .ok t) :
    (∀ e ∈ t.queue, e.isNotice ∨ e.isTimer) ∨ ∃ e, t.queue = [e] ∧ e.ofShowing = false := by
  cases x with
  | act a single =>
    have hq : s.queue = [] := hm.idle rfl
    by_cases hsend : ∃ e, a = .send e
    · obtain ⟨e, rfl⟩ := hsend
      right
      refine ⟨e, ?_, hm.honest⟩
      cases h
      change s.queue ++ [e] = [e]
      rw [hq, List.nil_append]
    · left
      refine queue_unsent (frames_turn h) hs.timed (by simp [hq]) fun e _ hact => hsend ⟨e, ?_⟩
      cases hact
      rfl
  | handle e =>
    left
    have hq : s.queue = [] := hm.idle rfl
    exact queue_unsent (frames_turn h) hs.timed (by simp [hq]) fun e _ hact => by cases hact
  | next deadline =>
    rcases turn_next_cases h with ⟨-, rfl⟩ | ⟨e, r, hn, hr⟩
    · exact hs.queue
    · left
      have hrest : ∀ f ∈ r.queue, f.isNotice ∨ f.isTimer := by
        intro f hf
        rcases hs.queue with hall | ⟨e', hq, -⟩
        · exact hall f ((taken_nextEvent hn).queue f hf)
        · rw [nextEvent?_queued hq] at hn
          cases hn
          cases hf
      exact queue_unsent (does_handle hr).did.frames (timed_nextEvent hs.timed hn) hrest
        fun e _ hact => by cases hact
  | pass now =>
    cases h
    exact hs.queue
  | shutdown =>
    obtain ⟨⟨result, u⟩, hu, rfl⟩ := map_eq_ok.mp h
    obtain ⟨_, _, _, _, _, rfl⟩ := shutdown_touches hu
    exact hs.queue

theorem Recalls.kept (hs : s.Recalls last) (htold : (Moment.mk s x).told? = none)
    (hview : t.view = s.view) (h : s.turn x = .ok t) :
    t.placed ∧ Waiting t.record.maximized (t.window.state.orLast last) t.view := by
  have hplaced : t.placed = s.placed := congrArg View.placed hview
  have hstate : t.window.state = s.window.state := congrArg View.state hview
  rw [hplaced, hstate, hs.state, hview]
  exact ⟨hs.placed, hs.waiting.record (recorded_turn hs htold h)⟩

theorem Recalls.outside (hs : s.Recalls last) (hm : (Moment.mk s x).Regular)
    (houtside : x.isOutside) (halters : s.Alters x t.view) (h : s.turn x = .ok t) :
    t.placed ∧ Waiting t.record.maximized (t.window.state.orLast last) t.view := by
  have hrest : s.view.untold = [] :=
    congrArg (List.filter Event.ofShowing) (hm.idle houtside)
  have hrecorded := (hs.waiting.record
    (recorded_turn hs (told?_of_honest houtside hm.honest) h)).at_rest hrest
  exact hs.alters hrest hm.seen hrecorded.1 halters

/-- The event taken from the queue is one that was waited for, or tells nothing, or was sent to a
session that had been told all. -/
theorem Recalls.next (hs : s.Recalls last) (hfits : s.FitsLeast) {r : Session σ} {deadline : Nat}
    (hn : s.nextEvent? deadline = some (e, r)) (h : handle r e = .ok t) :
    t.placed ∧ Waiting t.record.maximized (t.window.state.orLast last) t.view := by
  have hview := view_nextEvent hs.timed hn
  have hturn : s.turn (.next deadline) = .ok t := (turn_next hn).trans h
  cases he : e.ofShowing with
  | true =>
    have huntold : s.view.untold = e :: r.view.untold := by
      rw [congrArg View.untold hview, List.filter_cons_of_pos he]
      rfl
    obtain ⟨⟨es, c, rfl⟩, -, -⟩ := taken_nextEvent hn
    cases e with
    | stateChanged st => exact hs.stateChanged hfits huntold h
    | visibleChanged b =>
      cases h
      exact hs.visibleChanged huntold rfl
    | _ => cases he
  | false =>
    have hsame : r.view = s.view := by
      rw [hview, List.filter_cons_of_neg (by simp [he])]
      rfl
    have htold : (Moment.mk s (.next deadline)).told? = none := by
      rw [Moment.told?]
      simp only [event?_next hn]
      cases e <;> first | rfl | cases he
    have hkind : (e.isNotice ∨ e.isTimer) ∨ s.queue = [e] := by
      rcases nextEvent_eq_some hn with ⟨es, hq, -⟩ | ⟨-, c, hc, -⟩
      · rcases hs.queue with hall | ⟨e', hq', -⟩
        · exact .inl (hall e (hq ▸ List.mem_cons_self))
        · rw [hq'] at hq
          cases hq
          exact .inr hq'
      · obtain ⟨⟨a, ha, rfl⟩, -⟩ := Clock.next?_eq_some hc
        exact .inl (.inr (hs.timed a ha))
    rcases hkind with hkind | hq
    · exact hs.kept htold ((view_handle_notice hkind he h).trans hsame) hturn
    · rw [nextEvent?_queued hq] at hn
      cases hn
      have hrest : s.view.untold = [] := by
        rw [show s.view.untold = [e].filter Event.ofShowing from
          congrArg (List.filter Event.ofShowing) hq]
        simp [he]
      have hr : Recalls last { s with queue := [] } :=
        { hs with
          queue := .inl (by simp)
          waiting := hsame ▸ hs.waiting }
      have hrecorded := (hs.waiting.record (recorded_turn hs htold hturn)).at_rest hrest
      have hcalm : (Turn.handle e).setsState → s.window.visible := by simp [Turn.setsState]
      exact hr.alters rfl hcalm hrecorded.1 ((does_handle h).did.alters hr.timed he)

/-- Whatever happens at a regular moment, the session knows in which state the window was last seen
awake, or is going to be told. -/
theorem recalls_turn (hm : (Moment.mk s x).Regular) (hs : s.Recalls last) (h : s.turn x = .ok t) :
    t.Recalls (t.window.state.orLast last) := by
  obtain ⟨hplaced, hwaiting⟩ :
      t.placed ∧ Waiting t.record.maximized (t.window.state.orLast last) t.view := by
    cases x with
    | act a single =>
      obtain ⟨⟨reply, u⟩, hu, rfl⟩ := map_eq_ok.mp h
      exact hs.outside hm rfl ((does_act single hu).did.alters hs.timed hm.honest) h
    | handle e => exact hs.outside hm rfl ((does_handle h).did.alters hs.timed hm.honest) h
    | next deadline =>
      rcases turn_next_cases h with ⟨hn, hsame⟩ | ⟨e, r, hn, hr⟩
      · have htold : (Moment.mk s (.next deadline)).told? = none := by
          simp only [Moment.told?, Moment.event?, hn]
          rfl
        exact hs.kept htold (congrArg view hsame) h
      · exact hs.next hm.fits hn hr
    | pass now =>
      have ht := h
      cases ht
      exact hs.kept rfl rfl h
    | shutdown =>
      obtain ⟨⟨result, u⟩, hu, rfl⟩ := map_eq_ok.mp h
      obtain ⟨_, _, _, _, _, rfl⟩ := shutdown_touches hu
      exact hs.kept rfl rfl h
  have hawake : t.window.state.orLast last ≠ .minimized := by
    unfold WindowState.orLast
    split
    · exact hs.awake
    · assumption
  have hstate : t.window.state.orLast (t.window.state.orLast last) =
      t.window.state.orLast last := by
    unfold WindowState.orLast
    split <;> rfl
  exact ⟨timed_turn hs.timed h, hplaced, large_turn hs.large h, queue_turn hm hs h, hawake, hstate,
    hwaiting⟩

theorem recalls_course {ms : List (Moment σ)} (hs : s.Recalls last)
    (hlast : s.window.state = last) (h : s.Course ms t) (hms : ∀ m ∈ ms, m.Regular) :
    ∃ l, lastAwake ms t = some l ∧ t.Recalls l := by
  induction h with
  | start =>
    refine ⟨last, ?_, hs⟩
    have hawake := hs.awake
    simp [lastAwake, hlast, hawake]
  | @turn ms u v x _ hturn ih =>
    obtain ⟨l, hl, hu⟩ := ih fun m hm => hms m (List.mem_cons_of_mem _ hm)
    exact ⟨_, lastAwake_turn hl, recalls_turn (hms _ List.mem_cons_self) hu hturn⟩

/-- Whenever nothing waits to be handled, the record says whether the window was maximized when it
was last awake. That is the state in which a minimized window is shown again. -/
theorem course_recalled {ms : List (Moment σ)} (hrest : s.AtRest)
    (hvisible : s.window.visible) (hstate : s.window.state = .normal) (hplaced : s.placed)
    (hlarge : s.record.fits s.config.leastSize) (hrecord : s.record.maximized = false)
    (h : s.Course ms t) (hms : ∀ m ∈ ms, m.Regular) (hq : t.queue = []) :
    (t.record.maximized ↔ lastAwake ms t = some .maximized) ∧
      (t.window.state = .minimized → (activate t).window.state =
        if lastAwake ms t = some .maximized then .maximized else .normal) := by
  have hs : s.Recalls .normal := {
    timed := hrest.timed
    placed := hplaced
    large := hlarge
    queue := .inl (by simp [hrest.queue])
    awake := by decide
    state := by rw [hstate]; rfl
    waiting := .nothing_seen (congrArg (List.filter Event.ofShowing) hrest.queue) hvisible
      (by simp [hrecord]) }
  obtain ⟨last, hlast, ht⟩ := recalls_course hs hstate h hms
  have hknown := (ht.waiting.at_rest (congrArg (List.filter Event.ofShowing) hq)).1
  have hrecorded : t.record.maximized ↔ lastAwake ms t = some .maximized := by
    rw [hlast, Option.some_inj]
    exact hknown
  refine ⟨hrecorded, fun hminimized => ?_⟩
  have hwoken : (activate t).window.state = t.wakeState :=
    (congrArg Core.state (core_activate t)).trans (if_pos hminimized)
  rw [hwoken]
  exact if_congr hrecorded rfl rfl

/-- A maximized window is minimized in a tray-only mode, which hides it; it comes back maximized. -/
theorem course_recalled_stowed :
    let m : Monitor := ⟨"DP-1", ⟨0, 0, 1920, 1080⟩, ⟨0, 0, 1920, 1040⟩, true⟩
    let p : Placement := ⟨560, 220, 800, 600, 100, false, m.checksum⟩
    let r : Session MemoryStore :=
      start (.onMonitors [m] .none) (.ofSettings ⟨p, .trayOnly, false⟩) .empty .initial
    ∃ s t, r.follow ([.act .attachTray rfl, .act .init rfl, .act .activate rfl,
          .act .markPlaced rfl] ++ List.replicate 4 (.next 0)) = .ok s ∧
      s.2.follow ([.act (.setState .maximized) rfl, .next 0,
          .act (.setGeometry ⟨0, 0, 1920, 1040⟩) rfl, .next 0, .next 0,
          .act (.setState .minimized) rfl] ++ List.replicate 3 (.next 0)) = .ok t ∧
      t.2.window.visible = false ∧ t.2.record.maximized ∧
      (activate t.2).window.state = .maximized := by
  intro m p r
  obtain ⟨⟨ns, s⟩, hs, hqueue, htimed, hvisible, hstate, hplaced, hlarge, hrecord, ⟨ms, t⟩, ht,
      hms, hq, hlast, hminimized, hhidden⟩ :
      ∃ s, r.follow ([.act .attachTray rfl, .act .init rfl, .act .activate rfl,
            .act .markPlaced rfl] ++ List.replicate 4 (.next 0)) = .ok s ∧
        s.2.queue = [] ∧ (∀ a ∈ s.2.clock.alarms, a.event.isTimer) ∧ s.2.window.visible ∧
        s.2.window.state = .normal ∧ s.2.placed ∧ s.2.record.fits s.2.config.leastSize ∧
        s.2.record.maximized = false ∧
        ∃ t, s.2.follow ([.act (.setState .maximized) rfl, .next 0,
            .act (.setGeometry ⟨0, 0, 1920, 1040⟩) rfl, .next 0, .next 0,
            .act (.setState .minimized) rfl] ++ List.replicate 3 (.next 0)) = .ok t ∧
          (∀ m ∈ t.1, m.Regular) ∧ t.2.queue = [] ∧ lastAwake t.1 t.2 = some .maximized ∧
          t.2.window.state = .minimized ∧ t.2.window.visible = false := by
    decide +kernel
  obtain ⟨hrecorded, hwoken⟩ := course_recalled ⟨hqueue, htimed⟩ hvisible hstate hplaced hlarge
    hrecord (course_follow ht) hms hq
  have hshown := hwoken hminimized
  rw [if_pos hlast] at hshown
  exact ⟨_, _, hs, ht, hhidden, hrecorded.mpr hlast, hshown⟩

end Session

end WindowKeeper
