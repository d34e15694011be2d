import WindowKeeper.Proofs.Placement.Ranged
import WindowKeeper.Proofs.Session.Attire
import WindowKeeper.Proofs.Session.Heeds

namespace WindowKeeper

namespace Event

/-- Whether an event may dress the window anew, or end its being dressed. -/
def dresses : Event → Bool
  | .trayActivated _ => true
  | .unreadChanged _ => true
  | .iconChanged _ => true
  | .accountChanged => true
  | .closeRequested => true
  | .quit => true
  | _ => false

/-- Whether an event tells how the window shows: in which state, and whether it can be seen. -/
def ofShowing : Event → Bool
  | .stateChanged _ => true
  | .visibleChanged _ => true
  | _ => false

/-- Whether an event can make the session hide its window. -/
def mayHide : Event → Bool
  | .stateChanged .minimized => true
  | .trayActivated _ => true
  | .closeRequested => true
  | _ => false

/-- Whether an event can make the session show its window. -/
def mayShow : Event → Bool
  | .trayActivated _ => true
  | .workModeChanged _ => true
  | _ => false

/-- Whether an event makes the placement wait for rest. -/
def movesWindow : Event → Bool
  | .moved => true
  | .resized => true
  | _ => false

/-- Whether an event can change the settings. -/
def maySave : Event → Bool
  | .stateChanged _ => true
  | .workModeChanged _ => true
  | .nativeFrameChanged _ => true
  | .placementTimer _ => true
  | _ => false

/-- Whether an event can make the session quit. -/
def quits : Event → Bool
  | .closeRequested => true
  | .quit => true
  | _ => false

/-- The state of the window that an event tells. -/
def state? : Event → Option WindowState
  | .stateChanged st => some st
  | _ => none

end Event

namespace Action

/-- Whether an action may dress the window anew, or end its being dressed. -/
def dresses : Action → Bool
  | .init => true
  | .updateTitle => true
  | .updateIcon => true
  | .showFromTray => true
  | .close => true
  | .quit => true
  | _ => false

/-- The state by which an action has the placement saved. -/
def state? : Action → Option WindowState
  | .noteState st => some st
  | .savePlacement st => some st
  | _ => none

/-- Whether the rectangle that an action gives the window is of 32-bit numbers. -/
def Fits : Action → Prop
  | .move x y => Fits32 x ∧ Fits32 y
  | .resize w h => Fits32 w ∧ Fits32 h
  | .setGeometry r => r.Fits
  | _ => True

end Action

namespace Turn

def dresses : Turn → Bool
  | .act a _ => a.dresses
  | .handle e => e.dresses
  | _ => false

/-- The turns that may move the window or change its size. -/
def moves : Turn → Bool
  | .act .init _ => true
  | .act (.move _ _) _ => true
  | .act (.resize _ _) _ => true
  | .act (.setGeometry _) _ => true
  | .act (.widen _) _ => true
  | .act (.setRightColumn _) _ => true
  | _ => false

/-- The turns that may change the width of the window or of its column. -/
def sizes : Turn → Bool
  | .act .init _ => true
  | .act (.resize _ _) _ => true
  | .act (.setGeometry _) _ => true
  | .act (.widen _) _ => true
  | .act (.setRightColumn _) _ => true
  | _ => false

/-- Whether the session is told, by someone other than the window system, how the window shows, or
has its placement saved as if it showed so. -/
def feigns : Turn → Bool
  | .act (.send e) _ => e.ofShowing
  | .act (.noteState _) _ => true
  | .act (.noteVisible _) _ => true
  | .act (.savePlacement _) _ => true
  | .handle e => e.ofShowing
  | _ => false

def Fits : Turn → Prop
  | .act a _ => a.Fits
  | _ => True

/-- If a turn hands the session an event, it is one of this kind. -/
def Hands (p : Event → Prop) : Turn → Prop
  | .handle e => p e
  | _ => True

theorem Hands.mono {p q : Event → Prop} {x : Turn} (h : x.Hands p) (hpq : ∀ e, p e → q e) :
    x.Hands q := by
  cases x with
  | handle e => exact hpq e h
  | _ => trivial

end Turn

namespace Moment

variable {σ : Type}

/-- The state of the window that the session is told. -/
def told? (m : Moment σ) : Option WindowState :=
  match m.turn with
  | .act a _ => a.state?
  | _ => m.event?.bind Event.state?

/-- The state by which the placement is saved at a moment, if it is: the one told, or else the
window's own. -/
def savedState (m : Moment σ) : WindowState := m.told?.getD m.session.window.state

/-- Whether the position of the window means something from this moment on. -/
def OpensGate (m : Moment σ) : Prop :=
  m.event? = some .placed ∨ ∃ single, m.turn = .act .markPlaced single

end Moment

namespace Session

variable {σ : Type} [Store σ]

/-- What can be done to a session when it performs an action or handles an event, apart from how its
window looks and what is asked of the program. -/
inductive Deed (x : Turn) (s : Session σ) : Session σ → Prop
  | keep : Deed x s s
  | move {g : Rect} {column : Option Int} (moves : x.moves)
      (width : x.sizes ∨ g.w = s.window.geometry.w ∧ column = s.rightColumn)
      (fits : x.Fits → s.config.Fits → s.window.geometry.Fits → g.Fits) :
      Deed x s { s.onWindow (Window.setGeometry g) with rightColumn := column }
  | hide {r : Session σ} (hands : x.Hands (·.mayHide)) (hides : s.Hides r) : Deed x s r
  | wake (hands : x.Hands (·.mayShow)) : Deed x s (activate s)
  | setVisible {b : Bool} {single : (Action.setVisible b).isStep}
      (sets : x = .act (.setVisible b) single) : Deed x s (s.onWindow (Window.setVisible b))
  | setState {st : WindowState} {single : (Action.setState st).isStep}
      (sets : x = .act (.setState st) single) : Deed x s (s.onWindow (Window.setState st))
  | setFocus {b : Bool} {single : (Action.setFocus b).isStep}
      (sets : x = .act (.setFocus b) single) : Deed x s (s.onWindow (Window.setFocus b))
  | raise {single : Action.raise.isStep} (raises : x = .act .raise single) :
      Deed x s (s.onWindow Window.raise)
  | setMonitors {ms : List Monitor} {single : (Action.setMonitors ms).isStep}
      (sets : x = .act (.setMonitors ms) single) :
      Deed x s { s with window := { s.window with monitors := ms } }
  /-- The window is told to be shown, and was maximized before. -/
  | maximize (hands : x.Hands (· = .visibleChanged true)) (feigns : x.feigns) :
      Deed x s (s.onWindow (Window.setState .maximized))
  /-- The window is told to be hidden. -/
  | noteHidden (hands : x.Hands (·.ofShowing)) (feigns : x.feigns) :
      Deed x s { s with maximizedBeforeHide := s.record.maximized }
  | quit (hands : x.Hands (·.quits)) : Deed x s (quit s)
  | attach {single : Action.attachTray.isStep} (attaches : x = .act .attachTray single) :
      Deed x s (attachTray s)
  | detach {single : Action.detachTray.isStep} (detaches : x = .act .detachTray single) :
      Deed x s (detachTray s)
  | place (opens : (Moment.mk s x).OpensGate) : Deed x s { s with placed := true }
  | send {e : Event} {single : (Action.send e).isStep} (sends : x = .act (.send e) single) :
      Deed x s (s.send e)
  | advance {ms : Nat} {single : (Action.advance ms).isStep}
      (passes : x = .act (.advance ms) single) : Deed x s (advance s ms)
  | callTimer (hands : x.Hands (·.movesWindow)) : Deed x s s.callPlacementTimer
  | settle {g : UInt64} (event : x = .handle (.placementTimer g)) : Deed x s s.settlePlacement
  | save {p : Placement} (hands : x.Hands (·.state?.isSome))
      (worth : s.newRecord (Moment.mk s x).savedState = .ok (some p)) : Deed x s (s.storeRecord p)
  | settleSave {g : UInt64} {p : Placement} (event : x = .handle (.placementTimer g))
      (worth : s.newRecord (Moment.mk s x).savedState = .ok (some p)) :
      Deed x s (s.settlePlacement.storeRecord p)
  | enter {mode : WorkMode} (event : x = .handle (.workModeChanged mode))
      (seen : mode = .windowOnly → s.window.visible) : Deed x s (s.enterMode mode)
  | enterShown {mode : WorkMode} (event : x = .handle (.workModeChanged mode)) :
      Deed x s (activate (s.enterMode mode))
  | frame {native : Bool} (event : x = .handle (.nativeFrameChanged native)) :
      Deed x s (s.chooseFrame native)
  | write {g : UInt64} (event : x = .handle (.settingsTimer g)) :
      Deed x s (flush s.settleSettings).2

/-- The core after a turn is that after a deed. -/
def Did (x : Turn) (s t : Session σ) : Prop := ∃ r, Deed x s r ∧ t.core = r.core

/-- What performing an action or handling an event does to a session: to its core, to the dress of
its window, and to what it knows of the activity of the window. -/
structure Does (x : Turn) (s t : Session σ) : Prop where
  did : Did x s t
  attire : x.dresses = false → t.attire = s.attire
  heeds : s.Heeds t

variable {x : Turn} {s t : Session σ}

theorem Did.deed {r : Session σ} (h : Deed x s r) (ht : t.core = r.core) : Did x s t := ⟨r, h, ht⟩

theorem did_same (h : t.core = s.core) : Did x s t := .deed .keep h

theorem did_hideToTray (hx : x.Hands (·.mayHide)) : Did x s (hideToTray s).2 := by
  rcases core_hideToTray s with hcore | hides
  · exact did_same hcore
  · exact .deed (.hide hx hides) rfl

theorem did_hideNotQuit (hx : x.Hands (·.mayHide)) : Did x s (hideNotQuit s).2 := by
  rcases hideNotQuit_cases s with hstays | ⟨r, hhidden, hides, -⟩
  · rw [hstays]
    exact did_same rfl
  · rw [hhidden]
    exact .deed (.hide hx hides) rfl

theorem did_close (hx : x.Hands fun e => e.mayHide ∧ e.quits) : Did x s (close s).2 := by
  rcases core_close s with hides | hcore
  · exact .deed (.hide (hx.mono fun _ => And.left) hides) rfl
  · exact .deed (.quit (hx.mono fun _ => And.right)) hcore

theorem did_trayActivated {a : TrayActivation} (hx : x.Hands fun e => e.mayHide ∧ e.mayShow) :
    Did x s (trayActivated s a) := by
  rcases core_trayActivated s a with hcore | hides | hcore
  · exact did_same hcore
  · exact .deed (.hide (hx.mono fun _ => And.left) hides) rfl
  · exact .deed (.wake (hx.mono fun _ => And.right)) hcore

theorem did_visibleChanged {b : Bool} (hx : x.Hands (· = .visibleChanged b)) (hfeigns : x.feigns) :
    Did x s (visibleChanged s b) := by
  have hcore := core_visibleChanged s b
  cases b with
  | false => exact .deed (.noteHidden (hx.mono fun e he => he ▸ rfl) hfeigns) hcore
  | true =>
    rw [if_pos rfl] at hcore
    split at hcore
    · exact .deed (.maximize hx hfeigns) hcore
    · exact did_same hcore

theorem did_savePlacement {st : WindowState} (hx : x.Hands (·.state?.isSome))
    (hst : (Moment.mk s x).savedState = st) (h : savePlacement s st = .ok t) : Did x s t := by
  rcases savePlacement_eq_ok h with ⟨-, rfl⟩ | ⟨p, hp, rfl⟩
  · exact did_same rfl
  · exact .deed (.save hx (hst ▸ hp)) rfl

theorem did_stateChanged {st : WindowState} (hx : x.Hands (· = .stateChanged st))
    (hst : (Moment.mk s x).savedState = st) (h : stateChanged s st = .ok t) : Did x s t := by
  obtain ⟨r, hr, hcore⟩ := stateChanged_eq s st
  rw [hr] at h
  rcases hcore with hcore | ⟨rfl, hides⟩
  · rcases savePlacement_eq_ok h with ⟨-, rfl⟩ | ⟨p, hp, rfl⟩
    · exact did_same hcore
    · rw [newRecord_congr hcore, ← hst] at hp
      exact .deed (.save (hx.mono fun e he => he ▸ rfl) hp) (storeRecord_congr hcore p)
  · rw [savePlacement_minimized h]
    exact .deed (.hide (hx.mono fun e he => he ▸ rfl) hides) rfl

theorem did_workModeChanged {mode : WorkMode} (hx : x = .handle (.workModeChanged mode)) :
    Did x s (workModeChanged s mode) := by
  rcases core_workModeChanged s mode with ⟨hseen, hcore⟩ | ⟨-, hcore⟩
  · exact .deed (.enter hx hseen) hcore
  · exact .deed (.enterShown hx) hcore

theorem did_placementTimer {g : UInt64} (h : handle s (.placementTimer g) = .ok t) :
    Did (.handle (.placementTimer g)) s t := by
  rw [handle_placementTimer] at h
  split at h
  · rcases savePlacement_eq_ok h with ⟨-, rfl⟩ | ⟨p, hp, rfl⟩
    · exact .deed (.settle rfl) rfl
    · exact .deed (.settleSave rfl hp) rfl
  · cases h
    exact did_same rfl

theorem did_settingsTimer {g : UInt64} (h : handle s (.settingsTimer g) = .ok t) :
    Did (.handle (.settingsTimer g)) s t := by
  rw [handle_settingsTimer] at h
  cases h
  split
  · exact .deed (.write rfl) rfl
  · exact did_same rfl

theorem did_widens {n : Int} {column : Option Int} (hx : x.moves) (hsizes : x.sizes)
    (h : Widens s t n column) : Did x s t := by
  obtain ⟨d, g, added, -, hg, hcore⟩ := h
  exact .deed (.move hx (.inl hsizes) fun _ _ hs => Rect.fits_widen hs hg) hcore

theorem did_setRightColumn {width : Option Int} (hx : x.moves) (hsizes : x.sizes)
    (h : setRightColumn s width = .ok t) : Did x s t := by
  rcases core_setRightColumn h with ⟨-, hcore⟩ | ⟨-, hwidens⟩
  · have hstays : Deed x s { s with rightColumn := width } := by
      have hmoved : Deed x s { s.onWindow (Window.setGeometry s.window.geometry) with
          rightColumn := width } := .move hx (.inl hsizes) fun _ _ hs => hs
      rwa [onWindow_setGeometry_self] at hmoved
    exact .deed hstays hcore
  · exact did_widens hx hsizes hwidens

theorem did_init (hx : x.moves) (hsizes : x.sizes) (h : init s = .ok t) : Did x s t := by
  obtain ⟨g, frame, hg, hcore⟩ := core_init h
  exact .deed (.move hx (.inl hsizes) fun _ hconfig _ =>
    Placement.fits_restore hconfig.openingSize hg) hcore

/-- Looking at the desktop leaves all but what was seen alone. -/
theorem does_look (seen : Option (Nat × Rect)) : Does x s { s with desktop := seen } :=
  ⟨did_same rfl, fun _ => rfl, heeds_idle rfl rfl rfl rfl⟩

theorem does_handle {e : Event} (h : handle s e = .ok t) : Does (.handle e) s t := by
  cases e with
  | moved | resized =>
    cases h
    exact ⟨.deed (.callTimer rfl) rfl, fun _ => rfl, heeds_idle rfl rfl rfl rfl⟩
  | stateChanged st =>
    exact ⟨did_stateChanged rfl rfl h, fun _ => attire_stateChanged h, heeds_stateChanged h⟩
  | visibleChanged b =>
    cases h
    exact ⟨did_visibleChanged rfl rfl, fun _ => attire_visibleChanged s b,
      heeds_visibleChanged s b⟩
  | activeChanged =>
    cases h
    exact ⟨did_same (core_updateActive s), fun _ => attire_updateActive s, heeds_updateActive s⟩
  | trayActivated a =>
    cases h
    exact ⟨did_trayActivated ⟨rfl, rfl⟩, nofun, heeds_trayActivated s a⟩
  | unreadChanged count =>
    cases h
    have hcounted : s.Heeds { s with unread := count } := heeds_idle rfl rfl rfl rfl
    exact ⟨did_same (core_updateTitle _), nofun, hcounted.trans (heeds_updateTitle _)⟩
  | workModeChanged mode =>
    cases h
    exact ⟨did_workModeChanged rfl, fun _ => attire_workModeChanged s mode,
      heeds_workModeChanged s mode⟩
  | nativeFrameChanged native =>
    have hframed : (s.chooseFrame native).Heeds (updateFrame (s.chooseFrame native)) :=
      heeds_idle rfl rfl rfl rfl
    exact ⟨.deed (.frame rfl) (core_nativeFrameChanged h),
      fun _ => (attire_updateLeastSize h).trans rfl,
      ((heeds_saveLater s _).trans hframed).trans (heeds_updateLeastSize h)⟩
  | iconChanged id =>
    cases h
    have hchosen : s.Heeds { s with iconId := id } := heeds_idle rfl rfl rfl rfl
    exact ⟨did_same (core_updateIcon _), nofun, hchosen.trans (heeds_updateIcon _)⟩
  | accountChanged =>
    exact ⟨did_same ((core_updateLeastSize h).trans (core_updateIcon s)), nofun,
      (heeds_updateIcon s).trans (heeds_updateLeastSize h)⟩
  | placed =>
    cases h
    exact ⟨.deed (.place (.inl rfl)) rfl, fun _ => rfl, heeds_idle rfl rfl rfl rfl⟩
  | closeRequested =>
    cases h
    exact ⟨did_close ⟨rfl, rfl⟩, nofun, heeds_close s⟩
  | quit =>
    cases h
    exact ⟨.deed (.quit rfl) rfl, nofun, heeds_idle rfl rfl rfl rfl⟩
  | placementTimer g =>
    exact ⟨did_placementTimer h, fun _ => attire_placementTimer h, heeds_placementTimer h⟩
  | settingsTimer g =>
    exact ⟨did_settingsTimer h, fun _ => attire_settingsTimer h, heeds_settingsTimer h⟩

theorem does_act {a : Action} {reply : Reply} (single : a.isStep)
    (h : act s a = .ok (reply, t)) : Does (.act a single) s t := by
  cases a with
  | process | handle | shutdown | wait | run => cases single
  | init =>
    have hinit := of_answered h
    exact ⟨did_init rfl rfl hinit, nofun, heeds_init hinit⟩
  | activate =>
    cases h
    exact ⟨.deed (.wake trivial) rfl, fun _ => attire_activate s, heeds_activate s⟩
  | send e =>
    cases h
    exact ⟨.deed (.send rfl) rfl, fun _ => rfl, heeds_queued [e] rfl⟩
  | markPlaced =>
    cases h
    exact ⟨.deed (.place (.inr ⟨single, rfl⟩)) rfl, fun _ => rfl, heeds_idle rfl rfl rfl rfl⟩
  | noteMove =>
    cases h
    exact ⟨.deed (.callTimer trivial) rfl, fun _ => rfl, heeds_idle rfl rfl rfl rfl⟩
  | noteState st =>
    have htold := of_answered h
    exact ⟨did_stateChanged trivial rfl htold, fun _ => attire_stateChanged htold,
      heeds_stateChanged htold⟩
  | noteVisible b =>
    cases h
    exact ⟨did_visibleChanged trivial rfl, fun _ => attire_visibleChanged s b,
      heeds_visibleChanged s b⟩
  | updateActive =>
    cases h
    exact ⟨did_same (core_updateActive s), fun _ => attire_updateActive s, heeds_updateActive s⟩
  | updateTitle =>
    cases h
    exact ⟨did_same (core_updateTitle s), nofun, heeds_updateTitle s⟩
  | updateIcon =>
    cases h
    exact ⟨did_same (core_updateIcon s), nofun, heeds_updateIcon s⟩
  | updateLeastSize =>
    have hleast := of_answered h
    exact ⟨did_same (core_updateLeastSize hleast), fun _ => attire_updateLeastSize hleast,
      heeds_updateLeastSize hleast⟩
  | quit =>
    cases h
    exact ⟨.deed (.quit trivial) rfl, nofun, heeds_idle rfl rfl rfl rfl⟩
  | showFromTray =>
    cases h
    exact ⟨.deed (.wake trivial) (core_updateTitle _), nofun, heeds_showFromTray s⟩
  | attachTray =>
    cases h
    exact ⟨.deed (.attach rfl) rfl, fun _ => rfl, heeds_idle rfl rfl rfl rfl⟩
  | detachTray =>
    cases h
    exact ⟨.deed (.detach rfl) rfl, fun _ => rfl, heeds_idle rfl rfl rfl rfl⟩
  | savePlacement st =>
    have hsaved := of_answered h
    exact ⟨did_savePlacement trivial rfl hsaved, fun _ => attire_savePlacement hsaved,
      heeds_savePlacement hsaved⟩
  | setRightColumn width =>
    have hshown := of_answered h
    exact ⟨did_setRightColumn rfl rfl hshown, fun _ => attire_setRightColumn hshown,
      heeds_setRightColumn hshown⟩
  | hideNotQuit =>
    cases h
    exact ⟨did_hideNotQuit trivial, fun _ => attire_hideNotQuit s, heeds_hideNotQuit s⟩
  | hideToTray =>
    cases h
    exact ⟨did_hideToTray trivial, fun _ => attire_hideToTray s, heeds_hideToTray s⟩
  | close =>
    cases h
    exact ⟨did_close trivial, nofun, heeds_close s⟩
  | desktopRect =>
    obtain ⟨d, h⟩ := of_answered_result h
    obtain ⟨seen, rfl⟩ := desktopRect_keeps h
    exact does_look seen
  | room =>
    obtain ⟨n, h⟩ := of_answered_result h
    obtain ⟨seen, rfl⟩ := room_keeps h
    exact does_look seen
  | growsInPlace width =>
    obtain ⟨b, h⟩ := of_answered_result h
    obtain ⟨seen, rfl⟩ := growsInPlace_keeps h
    exact does_look seen
  | widen width =>
    obtain ⟨added, h⟩ := of_answered_result h
    exact ⟨did_widens rfl rfl (core_widen h), fun _ => attire_widen h, heeds_widen h⟩
  | move x y =>
    cases h
    have hmove : Deed (.act (.move x y) single) s (s.onWindow (Window.move x y)) :=
      .move (g := { s.window.geometry with x := x, y := y }) rfl (.inr ⟨rfl, rfl⟩)
        fun hfits _ hs => ⟨hfits.1, hfits.2, hs.w, hs.h⟩
    exact ⟨.deed hmove rfl, fun _ => rfl, heeds_onWindow (Window.tells_setGeometry _)⟩
  | resize w h' =>
    cases h
    have hresize : Deed (.act (.resize w h') single) s (s.onWindow (Window.resize w h')) :=
      .move (g := { s.window.geometry with w := w, h := h' }) rfl (.inl rfl)
        fun hfits _ hs => ⟨hs.x, hs.y, hfits.1, hfits.2⟩
    exact ⟨.deed hresize rfl, fun _ => rfl, heeds_onWindow (Window.tells_setGeometry _)⟩
  | setGeometry r =>
    cases h
    exact ⟨.deed (.move rfl (.inl rfl) fun hfits _ _ => hfits) rfl, fun _ => rfl,
      heeds_onWindow (Window.tells_setGeometry r)⟩
  | setState st =>
    cases h
    exact ⟨.deed (.setState rfl) rfl, fun _ => attire_setState s st,
      heeds_onWindow (Window.tells_setState st)⟩
  | setVisible b =>
    cases h
    exact ⟨.deed (.setVisible rfl) rfl, fun _ => attire_setVisible s b,
      heeds_onWindow (Window.tells_setVisible b)⟩
  | setFocus b =>
    cases h
    exact ⟨.deed (.setFocus rfl) rfl, fun _ => attire_setFocus s b,
      heeds_onWindow (Window.tells_setFocus b)⟩
  | raise =>
    cases h
    exact ⟨.deed (.raise rfl) rfl, fun _ => attire_raise s, heeds_onWindow Window.tells_raise⟩
  | setMonitors ms =>
    cases h
    exact ⟨.deed (.setMonitors rfl) rfl, fun _ => rfl, heeds_idle rfl rfl rfl rfl⟩
  | setAccount account =>
    cases h
    exact ⟨did_same rfl, fun _ => rfl, heeds_idle rfl rfl rfl rfl⟩
  | advance ms =>
    cases h
    exact ⟨.deed (.advance rfl) rfl, fun _ => rfl, heeds_queued _ rfl⟩

end Session

end WindowKeeper
