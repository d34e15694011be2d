import WindowKeeper.Proofs.Icon.Pictures
import WindowKeeper.Proofs.Session.Handled
import WindowKeeper.Session.Action
import Mathlib.Tactic.Simps.Basic

namespace WindowKeeper

/-- The session with another store and other files. -/
@[simps]
def Session.onStore {σ τ : Type} (s : Session σ) (store : τ) (files : Tree) : Session τ :=
  { s with store := store, files := files }

/-- Outcomes of two sessions: results that are related, or the same overflow, met by sessions that
are related. -/
inductive Outcome.Rel {σ τ α β : Type} (H : Session σ → Session τ → Prop) (P : α → β → Prop) :
    Outcome σ α → Outcome τ β → Prop
  | ok {a : α} {b : β} (h : P a b) : Rel H P (.ok a) (.ok b)
  | halt {o : Overflow} {s : Session σ} {t : Session τ} (h : H s t) :
      Rel H P (.error ⟨o, s⟩) (.error ⟨o, t⟩)

namespace Outcome.Rel

variable {σ τ α β γ δ : Type} {H H' : Session σ → Session τ → Prop} {P P' : α → β → Prop}
  {Q : γ → δ → Prop} {x : Outcome σ α} {y : Outcome τ β}

theorem bind {f : α → Outcome σ γ} {g : β → Outcome τ δ} (h : Rel H P x y)
    (hfg : ∀ a b, P a b → Rel H Q (f a) (g b)) : Rel H Q (x >>= f) (y >>= g) := by
  cases h with
  | ok h => exact hfg _ _ h
  | halt h => exact .halt h

theorem map {f : α → γ} {g : β → δ} (h : Rel H P x y) (hfg : ∀ a b, P a b → Q (f a) (g b)) :
    Rel H Q (f <$> x) (g <$> y) := by
  cases h with
  | ok h => exact .ok (hfg _ _ h)
  | halt h => exact .halt h

theorem mono (h : Rel H P x y) (hH : ∀ s t, H s t → H' s t) (hP : ∀ a b, P a b → P' a b) :
    Rel H' P' x y := by
  cases h with
  | ok h => exact .ok (hP _ _ h)
  | halt h => exact .halt (hH _ _ h)

end Outcome.Rel

/-- Which stores of two kinds, each with the files there are, a session cannot tell apart. -/
structure StoreLink (config : Config) (σ τ : Type) [Store σ] [Store τ] where
  Linked : σ → Tree → τ → Tree → Prop
  settings : ∀ {st t st' t'}, Linked st t st' t' → Store.settings st' = Store.settings st
  setPlacement : ∀ {st t st' t'} p, Linked st t st' t' →
    Linked (Store.setPlacement p st) t (Store.setPlacement p st') t'
  setWorkMode : ∀ {st t st' t'} m, Linked st t st' t' →
    Linked (Store.setWorkMode m st) t (Store.setWorkMode m st') t'
  setNativeFrame : ∀ {st t st' t'} b, Linked st t st' t' →
    Linked (Store.setNativeFrame b st) t (Store.setNativeFrame b st') t'
  requestSave : ∀ {st t st' t'}, Linked st t st' t' →
    Linked (Store.requestSave st) t (Store.requestSave st') t'
  sameIcons : ∀ {st t st' t'}, Linked st t st' t' → t.SameIcons config t'
  flush : ∀ {st t st' t'}, Linked st t st' t' →
    Linked (Store.flush st t).2.1 (Store.flush st t).2.2 (Store.flush st' t').2.1
      (Store.flush st' t').2.2

namespace StoreLink

variable {config : Config} {σ τ : Type} [Store σ] [Store τ] (L : StoreLink config σ τ)

/-- The sessions are equal but for the stores and the files, and those are linked. -/
inductive Beside : Session σ → Session τ → Prop
  | intro {s : Session σ} {st : τ} {u : Tree} (hconfig : s.config = config)
      (hlinked : L.Linked s.store s.files st u) : Beside s (s.onStore st u)

variable {L} {s : Session σ} {t : Session τ}

namespace Beside

open Session

theorem config_eq (h : L.Beside s t) : t.config = s.config := by
  cases h
  rfl

theorem window (h : L.Beside s t) : t.window = s.window := by
  cases h
  rfl

theorem quitting (h : L.Beside s t) : t.quitting = s.quitting := by
  cases h
  rfl

theorem active (h : L.Beside s t) : t.active = s.active := by
  cases h
  rfl

theorem trayAttached (h : L.Beside s t) : t.trayAttached = s.trayAttached := by
  cases h
  rfl

theorem placementTimer (h : L.Beside s t) : t.placementTimer = s.placementTimer := by
  cases h
  rfl

theorem queue (h : L.Beside s t) : t.queue = s.queue := by
  cases h
  rfl

theorem clock (h : L.Beside s t) : t.clock = s.clock := by
  cases h
  rfl

theorem columnWidth (h : L.Beside s t) : t.columnWidth = s.columnWidth := by
  cases h
  rfl

theorem leastSize (h : L.Beside s t) : t.leastSize = s.leastSize := by
  cases h
  rfl

theorem settings_eq (h : L.Beside s t) : Store.settings t.store = Store.settings s.store := by
  cases h with
  | intro hconfig hlinked => exact L.settings hlinked

theorem ite {c : Prop} [Decidable c] {s' : Session σ} {t' : Session τ} (h : L.Beside s t)
    (h' : L.Beside s' t') : L.Beside (if c then s else s') (if c then t else t') := by
  split
  · exact h
  · exact h'

theorem onWindow (h : L.Beside s t) (f : Window → Window × List Event) :
    L.Beside (s.onWindow f) (t.onWindow f) := by
  cases h with
  | intro hconfig hlinked => exact .intro (s := s.onWindow f) hconfig hlinked

theorem focus (h : L.Beside s t) : L.Beside s.focus t.focus := by
  cases h with
  | intro hconfig hlinked => exact .intro (s := s.focus) hconfig hlinked

theorem blur (h : L.Beside s t) : L.Beside s.blur t.blur := by
  cases h with
  | intro hconfig hlinked => exact .intro (s := s.blur) hconfig hlinked

theorem showList (h : L.Beside s t) : L.Beside s.showList t.showList := by
  cases h with
  | intro hconfig hlinked => exact .intro (s := s.showList) hconfig hlinked

theorem noteShown (h : L.Beside s t) : L.Beside s.noteShown t.noteShown := by
  cases h with
  | intro hconfig hlinked => exact .intro (s := s.noteShown) hconfig hlinked

theorem updateActive (h : L.Beside s t) : L.Beside s.updateActive t.updateActive := by
  cases h with
  | intro hconfig hlinked =>
    simp only [Session.updateActive, onStore_active, onStore_window]
    split
    · exact .intro hconfig hlinked
    · exact .intro (s := { s with active := _, requests := _ }) hconfig hlinked

theorem updateTitle (h : L.Beside s t) : L.Beside s.updateTitle t.updateTitle := by
  cases h with
  | intro hconfig hlinked =>
    simp only [Session.updateTitle, onStore_quitting]
    split
    · exact .intro hconfig hlinked
    · exact .intro (s := { s with window := _ }) hconfig hlinked

theorem setLeastSize (h : L.Beside s t) (size : Size) :
    L.Beside (s.setLeastSize size) (t.setLeastSize size) := by
  cases h with
  | intro hconfig hlinked => exact .intro (s := s.setLeastSize size) hconfig hlinked

theorem callPlacementTimer (h : L.Beside s t) :
    L.Beside s.callPlacementTimer t.callPlacementTimer := by
  cases h with
  | intro hconfig hlinked => exact .intro (s := s.callPlacementTimer) hconfig hlinked

theorem cancelPlacementTimer (h : L.Beside s t) :
    L.Beside s.cancelPlacementTimer t.cancelPlacementTimer := by
  cases h with
  | intro hconfig hlinked => exact .intro (s := s.cancelPlacementTimer) hconfig hlinked

theorem cancelSettingsTimer (h : L.Beside s t) :
    L.Beside s.cancelSettingsTimer t.cancelSettingsTimer := by
  cases h with
  | intro hconfig hlinked => exact .intro (s := s.cancelSettingsTimer) hconfig hlinked

theorem quit (h : L.Beside s t) : L.Beside s.quit t.quit := by
  cases h with
  | intro hconfig hlinked => exact .intro (s := s.quit) hconfig hlinked

theorem attachTray (h : L.Beside s t) : L.Beside s.attachTray t.attachTray := by
  cases h with
  | intro hconfig hlinked => exact .intro (s := s.attachTray) hconfig hlinked

theorem detachTray (h : L.Beside s t) : L.Beside s.detachTray t.detachTray := by
  cases h with
  | intro hconfig hlinked => exact .intro (s := s.detachTray) hconfig hlinked

theorem hide (h : L.Beside s t) : L.Beside s.hide t.hide :=
  (h.onWindow (Window.setVisible false)).blur.updateActive

theorem activate (h : L.Beside s t) : L.Beside s.activate t.activate := by
  simp only [Session.activate, h.settings_eq, h.window]
  have hwake := (h.onWindow (Window.setState
    (if (Store.settings s.store).placement.maximized then .maximized else .normal))).ite
      (c := s.window.state = .minimized) h
  have hshown := ((hwake.onWindow (Window.setVisible true)).onWindow Window.raise)
  have hactive := hshown.focus.updateActive
  exact hactive.noteShown.ite hactive

theorem showFromTray (h : L.Beside s t) : L.Beside s.showFromTray t.showFromTray :=
  h.activate.updateTitle

theorem updateFrame (h : L.Beside s t) : L.Beside s.updateFrame t.updateFrame := by
  simp only [Session.updateFrame, h.settings_eq, h.config_eq]
  cases h with
  | intro hconfig hlinked => exact .intro (s := { s with window := _ }) hconfig hlinked

theorem renewIcon (h : L.Beside s t) : L.Beside s.renewIcon t.renewIcon := by
  cases h with
  | @intro st u hconfig hlinked =>
    have hicons := L.sameIcons hlinked s.iconId s.supportMode
    have hmode : (s.onStore st u).supportMode = s.supportMode := rfl
    rw [← hconfig] at hicons
    simp only [Session.renewIcon, hmode, onStore_icon, onStore_iconSupport, onStore_iconId,
      onStore_iconShown, onStore_files, onStore_config, hicons]
    split
    · split
      · exact .intro (s := { s with icon := _, iconSupport := _, iconShown := _ }) hconfig hlinked
      · exact .intro hconfig hlinked
    · exact .intro hconfig hlinked

theorem updateIcon (h : L.Beside s t) : L.Beside s.updateIcon t.updateIcon := by
  have hrenewed := h.renewIcon
  simp only [Session.updateIcon]
  generalize s.renewIcon = r, t.renewIcon = r' at hrenewed
  cases hrenewed with
  | intro hconfig hlinked =>
    simp only [onStore_icon]
    split
    · exact .intro (s := { r with window := _ }) hconfig hlinked
    · exact .intro hconfig hlinked

theorem saveLater (h : L.Beside s t) : L.Beside s.saveLater t.saveLater := by
  cases h with
  | intro hconfig hlinked =>
    exact .intro (s := s.saveLater) hconfig (L.requestSave hlinked)

theorem flush (h : L.Beside s t) : L.Beside s.flush.2 t.flush.2 := by
  cases h with
  | intro hconfig hlinked => exact .intro (s := s.flush.2) hconfig (L.flush hlinked)

end Beside

/-- One result of two sessions, which stay beside each other. -/
inductive Paired (L : StoreLink config σ τ) {α : Type} : α × Session σ → α × Session τ → Prop
  | intro {a : α} {s : Session σ} {t : Session τ} (h : L.Beside s t) : Paired L (a, s) (a, t)

theorem Paired.beside {α : Type} {p : α × Session σ} {q : α × Session τ} (h : L.Paired p q) :
    L.Beside p.2 q.2 := by
  cases h with
  | intro h => exact h

namespace Beside

open Session

theorem hideToTray (h : L.Beside s t) : L.Paired s.hideToTray t.hideToTray := by
  have hhidden := h.hide
  simp only [Session.hideToTray, h.quitting, h.trayAttached]
  generalize s.hide = r, t.hide = r' at hhidden
  split
  · exact .intro h
  · cases hhidden with
    | intro hconfig hlinked =>
      exact .intro (.intro (s := { r with tray := _ }) hconfig hlinked)

theorem hideNotQuit (h : L.Beside s t) : L.Paired s.hideNotQuit t.hideNotQuit := by
  have htray := h.hideToTray
  simp only [Session.hideNotQuit, h.quitting, h.settings_eq, h.config_eq]
  split
  · exact .intro h
  · split
    · generalize s.hideToTray = p, t.hideToTray = q at htray
      obtain @⟨b, r, r', hr⟩ := htray
      cases b with
      | true => exact .intro hr.showList
      | false => exact .intro hr
    · split
      · exact .intro h.hide.showList
      · exact .intro h

theorem close (h : L.Beside s t) : L.Paired s.close t.close := by
  have hhide := h.hideNotQuit
  simp only [Session.close]
  generalize s.hideNotQuit = p, t.hideNotQuit = q at hhide
  obtain @⟨b, r, r', hr⟩ := hhide
  cases b with
  | true => exact .intro hr
  | false => exact .intro hr.quit

theorem visibleChanged (h : L.Beside s t) (b : Bool) :
    L.Beside (s.visibleChanged b) (t.visibleChanged b) := by
  have hmaximized : t.maximizedBeforeHide = s.maximizedBeforeHide := by
    cases h
    rfl
  simp only [Session.visibleChanged, h.settings_eq, hmaximized]
  refine Beside.updateActive (Beside.ite ?_ ?_)
  · exact (h.onWindow _).ite h
  · cases h with
    | intro hconfig hlinked =>
      exact .intro (s := { s with maximizedBeforeHide := _ }) hconfig hlinked

theorem trayActivated (h : L.Beside s t) (a : TrayActivation) :
    L.Beside (s.trayActivated a) (t.trayActivated a) := by
  cases a with
  | trigger =>
    simp only [Session.trayActivated, h.window, h.active]
    exact h.hideToTray.beside.ite h.showFromTray
  | doubleClick => exact h.showFromTray
  | context | middleClick => exact h

theorem workModeChanged (h : L.Beside s t) (mode : WorkMode) :
    L.Beside (s.workModeChanged mode) (t.workModeChanged mode) := by
  have hset : L.Beside { s with store := Store.setWorkMode mode s.store }
      { t with store := Store.setWorkMode mode t.store } := by
    cases h with
    | intro hconfig hlinked =>
      exact .intro (s := { s with store := _ }) hconfig (L.setWorkMode mode hlinked)
  have hlater := hset.saveLater
  have hdetached := hlater.detachTray
  simp only [Session.workModeChanged]
  rw [hdetached.window]
  exact (hdetached.ite hdetached.activate).ite hlater

end Beside

/-- Outcomes of two sessions that stay beside each other. -/
abbrev Along (L : StoreLink config σ τ) {α β : Type} (P : α → β → Prop) (x : Outcome σ α)
    (y : Outcome τ β) : Prop :=
  Outcome.Rel L.Beside P x y

namespace Beside

open Session

theorem attempt {α : Type} (h : L.Beside s t) (x : Except Overflow α) :
    L.Along (· = ·) (s.attempt x) (t.attempt x) := by
  cases x with
  | ok a => exact .ok rfl
  | error o => exact .halt h

theorem updateLeastSize (h : L.Beside s t) :
    L.Along L.Beside s.updateLeastSize t.updateLeastSize := by
  simp only [Session.updateLeastSize, h.leastSize]
  refine (h.attempt _).bind ?_
  rintro size _ rfl
  exact .ok (h.setLeastSize _)

theorem openWindow (h : L.Beside s t) : L.Along L.Beside s.openWindow t.openWindow := by
  refine h.updateLeastSize.bind ?_
  intro r r' hr
  simp only [frameMargins, hr.settings_eq, hr.config_eq, hr.window]
  refine (hr.attempt _).bind ?_
  rintro rect _ rfl
  exact .ok (hr.onWindow _)

theorem init (h : L.Beside s t) : L.Along L.Beside s.init t.init :=
  h.updateIcon.updateFrame.openWindow.bind fun _ _ hr => .ok hr.updateTitle

theorem desktopRect (h : L.Beside s t) : L.Along L.Paired s.desktopRect t.desktopRect := by
  cases h with
  | @intro st u hconfig hlinked =>
    have hfresh : L.Along L.Paired
        (do
          let r ← s.attempt (lookUpDesktop s.window)
          return (r, { s with desktop := some (s.clock.now, r) }))
        (do
          let r ← (s.onStore st u).attempt (lookUpDesktop s.window)
          return (r, { s.onStore st u with desktop := some (s.clock.now, r) })) := by
      refine (attempt (.intro hconfig hlinked) _).bind ?_
      rintro r _ rfl
      exact .ok (.intro (.intro (s := { s with desktop := _ }) hconfig hlinked))
    simp only [Session.desktopRect, onStore_desktop, onStore_clock, onStore_window]
    split
    · split
      · exact .ok (.intro (.intro hconfig hlinked))
      · exact hfresh
    · exact hfresh

theorem room (h : L.Beside s t) : L.Along L.Paired s.room t.room := by
  refine h.desktopRect.bind ?_
  rintro _ _ @⟨d, r, r', hr⟩
  simp only [hr.window]
  refine (hr.attempt _).bind ?_
  rintro n _ rfl
  exact .ok (.intro hr)

theorem growsInPlace (h : L.Beside s t) (width : Int) :
    L.Along L.Paired (s.growsInPlace width) (t.growsInPlace width) := by
  refine h.desktopRect.bind ?_
  rintro _ _ @⟨d, r, r', hr⟩
  simp only [hr.window]
  refine (hr.attempt _).bind ?_
  rintro b _ rfl
  exact .ok (.intro hr)

theorem widen (h : L.Beside s t) (width : Int) :
    L.Along L.Paired (s.widen width) (t.widen width) := by
  refine h.desktopRect.bind ?_
  rintro _ _ @⟨d, r, r', hr⟩
  simp only [hr.window]
  refine (hr.attempt _).bind ?_
  rintro ⟨g, added⟩ _ rfl
  exact .ok (.intro (hr.ite (hr.onWindow _)))

theorem followColumn (h : L.Beside s t) (oldWidth oldColumn : Int) :
    L.Along L.Beside (s.followColumn oldWidth oldColumn) (t.followColumn oldWidth oldColumn) := by
  simp only [Session.followColumn, h.columnWidth, h.window]
  refine (h.attempt _).bind ?_
  rintro wanted _ rfl
  refine (h.attempt _).bind ?_
  rintro change _ rfl
  exact (h.widen _).bind fun _ _ hr => .ok hr.beside

theorem setRightColumn (h : L.Beside s t) (width : Option Int) :
    L.Along L.Beside (s.setRightColumn width) (t.setRightColumn width) := by
  cases h with
  | @intro st u hconfig hlinked =>
    have hshown : L.Beside { s with rightColumn := width }
        (onStore { s with rightColumn := width } st u) := .intro hconfig hlinked
    have hfollow {r : Session σ} {r' : Session τ} (hr : L.Beside r r') (least : Size) :
        L.Along L.Beside
          (do
            let r ← if r.window.state = .maximized then pure r
              else r.followColumn s.window.geometry.w s.columnWidth
            return if least.w < s.window.leastSize.w then r else r.setLeastSize least)
          (do
            let r ← if r'.window.state = .maximized then pure r'
              else r'.followColumn s.window.geometry.w s.columnWidth
            return if least.w < s.window.leastSize.w then r else r.setLeastSize least) := by
      rw [hr.window]
      by_cases hm : r.window.state = .maximized
      · simp only [if_pos hm]
        exact .ok (hr.ite (hr.setLeastSize least))
      · simp only [if_neg hm]
        exact (hr.followColumn _ _).bind fun _ _ hr => .ok (hr.ite (hr.setLeastSize least))
    unfold Session.setRightColumn
    refine Outcome.Rel.bind (hshown.attempt _) ?_
    rintro least _ rfl
    have hlowered := (hshown.setLeastSize least).ite (c := least.w < s.window.leastSize.w) hshown
    exact hfollow hlowered least

theorem savePlacement (h : L.Beside s t) (state : WindowState) :
    L.Along L.Beside (s.savePlacement state) (t.savePlacement state) := by
  have hrecord : t.newRecord state = s.newRecord state := by
    have hsnapshot : t.snapshot state = s.snapshot state := by
      cases h
      rfl
    simp only [newRecord, record, hsnapshot, h.settings_eq, h.config_eq, h.window]
  change L.Along L.Beside (s.attempt (s.newRecord state) >>= _)
    (t.attempt (t.newRecord state) >>= _)
  rw [hrecord]
  refine (h.attempt _).bind ?_
  rintro (_ | p) _ rfl
  · exact .ok h
  · have hset : L.Beside { s with store := Store.setPlacement p s.store }
        { t with store := Store.setPlacement p t.store } := by
      cases h with
      | intro hconfig hlinked =>
        exact .intro (s := { s with store := _ }) hconfig (L.setPlacement p hlinked)
    exact .ok hset.saveLater

/-- Shutdowns of sessions beside each other. They may answer different things. -/
theorem shutdown (h : L.Beside s t) :
    L.Along (fun p q => L.Beside p.2 q.2) s.shutdown t.shutdown := by
  simp only [Session.shutdown, h.placementTimer, h.window]
  split
  · exact (h.cancelPlacementTimer.savePlacement _).bind fun _ _ hr =>
      .ok hr.cancelSettingsTimer.flush
  · exact .ok h.cancelSettingsTimer.flush

theorem stateChanged (h : L.Beside s t) (state : WindowState) :
    L.Along L.Beside (s.stateChanged state) (t.stateChanged state) := by
  have hactive := (h.blur.ite (c := state = .minimized) h.focus).updateActive
  simp only [Session.stateChanged]
  rw [hactive.settings_eq]
  exact (hactive.hideToTray.beside.ite hactive).savePlacement state

theorem handle (h : L.Beside s t) (e : Event) : L.Along L.Beside (s.handle e) (t.handle e) := by
  cases e with
  | moved | resized => exact .ok h.callPlacementTimer
  | stateChanged state => exact h.stateChanged state
  | visibleChanged b => exact .ok (h.visibleChanged b)
  | activeChanged => exact .ok h.updateActive
  | trayActivated a => exact .ok (h.trayActivated a)
  | unreadChanged count =>
    have hcount : L.Beside { s with unread := count } { t with unread := count } := by
      cases h with
      | intro hconfig hlinked => exact .intro (s := { s with unread := _ }) hconfig hlinked
    exact .ok hcount.updateTitle
  | workModeChanged mode => exact .ok (h.workModeChanged mode)
  | nativeFrameChanged native =>
    have hset : L.Beside { s with store := Store.setNativeFrame native s.store }
        { t with store := Store.setNativeFrame native t.store } := by
      cases h with
      | intro hconfig hlinked =>
        exact .intro (s := { s with store := _ }) hconfig (L.setNativeFrame native hlinked)
    exact hset.saveLater.updateFrame.updateLeastSize
  | iconChanged id =>
    have hid : L.Beside { s with iconId := id } { t with iconId := id } := by
      cases h with
      | intro hconfig hlinked => exact .intro (s := { s with iconId := _ }) hconfig hlinked
    exact .ok hid.updateIcon
  | accountChanged => exact h.updateIcon.updateLeastSize
  | placed =>
    cases h with
    | intro hconfig hlinked => exact .ok (.intro (s := { s with placed := _ }) hconfig hlinked)
  | closeRequested => exact .ok h.close.beside
  | quit => exact .ok h.quit
  | placementTimer g =>
    rw [handle_placementTimer, handle_placementTimer, h.placementTimer, h.window]
    split
    · have hsettled : L.Beside s.settlePlacement t.settlePlacement := by
        cases h with
        | intro hconfig hlinked => exact .intro (s := s.settlePlacement) hconfig hlinked
      exact hsettled.savePlacement _
    · exact .ok h
  | settingsTimer g =>
    have htimer : t.settingsTimer = s.settingsTimer := by
      cases h
      rfl
    have hsettled : L.Beside s.settleSettings t.settleSettings := by
      cases h with
      | intro hconfig hlinked => exact .intro (s := s.settleSettings) hconfig hlinked
    rw [handle_settingsTimer, handle_settingsTimer, htimer]
    exact .ok (hsettled.flush.ite h)

theorem handleQueued (n : Nat) (h : L.Beside s t) :
    L.Along L.Beside (Session.handleQueued n s) (Session.handleQueued n t) := by
  induction n generalizing s t with
  | zero => exact .ok h
  | succ n ih =>
    cases h with
    | @intro st u hconfig hlinked =>
      rw [Session.handleQueued, Session.handleQueued, onStore_queue]
      cases s.queue with
      | nil => exact .ok (.intro hconfig hlinked)
      | cons e es =>
        have hrest : L.Beside { s with queue := es } { s.onStore st u with queue := es } :=
          .intro (s := { s with queue := _ }) hconfig hlinked
        exact (hrest.handle e).bind fun _ _ hr => ih hr

theorem processQueue (h : L.Beside s t) :
    L.Along L.Beside s.processQueue t.processQueue := by
  rw [Session.processQueue, Session.processQueue, h.queue]
  exact handleQueued _ h

theorem nextEvent (h : L.Beside s t) (deadline : Nat) :
    Option.Rel L.Paired (s.nextEvent? deadline) (t.nextEvent? deadline) := by
  cases h with
  | intro hconfig hlinked =>
    simp only [nextEvent?, onStore_queue, onStore_clock]
    cases s.queue with
    | cons e es => exact .some (.intro (.intro (s := { s with queue := _ }) hconfig hlinked))
    | nil =>
      cases s.clock.next? deadline with
      | none => exact .none
      | some p =>
        exact .some (.intro (.intro (s := { s with queue := _, clock := _ }) hconfig hlinked))

theorem setTime (h : L.Beside s t) (now : Nat) : L.Beside (s.setTime now) (t.setTime now) := by
  cases h with
  | intro hconfig hlinked => exact .intro (s := s.setTime now) hconfig hlinked

theorem waitUntil (deadline n : Nat) (h : L.Beside s t) :
    L.Along L.Beside (Session.waitUntil deadline n s) (Session.waitUntil deadline n t) := by
  induction n generalizing s t with
  | zero => exact .ok (h.setTime deadline)
  | succ n ih =>
    have hnext := h.nextEvent deadline
    rw [Session.waitUntil, Session.waitUntil]
    generalize s.nextEvent? deadline = o, t.nextEvent? deadline = o' at hnext
    cases hnext with
    | none => exact .ok (h.setTime deadline)
    | some hpaired =>
      obtain @⟨e, r, r', hr⟩ := hpaired
      exact (hr.handle e).bind fun _ _ hr => ih hr

theorem turns (h : L.Beside s t) : t.turns = s.turns := by
  rw [Session.turns, h.queue, h.clock]
  rfl

theorem wait (h : L.Beside s t) (ms : Nat) : L.Along L.Beside (s.wait ms) (t.wait ms) := by
  rw [Session.wait, Session.wait, h.clock, h.turns]
  exact waitUntil _ _ h

theorem advance (h : L.Beside s t) (ms : Nat) : L.Beside (s.advance ms) (t.advance ms) := by
  cases h with
  | intro hconfig hlinked => exact .intro (s := s.advance ms) hconfig hlinked

theorem runUntil (deadline n : Nat) (h : L.Beside s t) :
    L.Along (fun p q => L.Beside p.2 q.2) (Session.runUntil deadline n s)
      (Session.runUntil deadline n t) := by
  induction n generalizing s t with
  | zero =>
    unfold Session.runUntil
    rw [h.quitting]
    split
    · exact h.shutdown.bind fun _ _ hr => .ok hr
    · exact .ok (h.setTime deadline)
  | succ n ih =>
    have hnext := h.nextEvent deadline
    unfold Session.runUntil
    rw [h.quitting]
    split
    · exact h.shutdown.bind fun _ _ hr => .ok hr
    · generalize s.nextEvent? deadline = o, t.nextEvent? deadline = o' at hnext
      cases hnext with
      | none => exact .ok (h.setTime deadline)
      | some hpaired =>
        obtain @⟨e, r, r', hr⟩ := hpaired
        exact (hr.handle e).bind fun _ _ hr => ih hr

theorem run (h : L.Beside s t) (ms : Nat) :
    L.Along (fun p q => L.Beside p.2 q.2) (s.run ms) (t.run ms) := by
  rw [Session.run, Session.run, h.clock, h.turns]
  exact runUntil _ _ h

/-- Whatever happens to sessions beside each other, they stay so. -/
theorem act (h : L.Beside s t) (a : Action) :
    L.Along (fun p q => L.Beside p.2 q.2) (s.act a) (t.act a) := by
  cases a with
  | init => exact h.init.map fun _ _ hr => hr
  | activate => exact .ok h.activate
  | process => exact h.processQueue.map fun _ _ hr => hr
  | handle e => exact (h.handle e).map fun _ _ hr => hr
  | send e =>
    cases h with
    | intro hconfig hlinked => exact .ok (.intro (s := s.send e) hconfig hlinked)
  | markPlaced =>
    cases h with
    | intro hconfig hlinked => exact .ok (.intro (s := { s with placed := _ }) hconfig hlinked)
  | noteMove => exact .ok h.callPlacementTimer
  | noteState state => exact (h.stateChanged state).map fun _ _ hr => hr
  | noteVisible b => exact .ok (h.visibleChanged b)
  | updateActive => exact .ok h.updateActive
  | updateTitle => exact .ok h.updateTitle
  | updateIcon => exact .ok h.updateIcon
  | updateLeastSize => exact h.updateLeastSize.map fun _ _ hr => hr
  | quit => exact .ok h.quit
  | showFromTray => exact .ok h.showFromTray
  | attachTray => exact .ok h.attachTray
  | detachTray => exact .ok h.detachTray
  | savePlacement state => exact (h.savePlacement state).map fun _ _ hr => hr
  | setRightColumn width => exact (h.setRightColumn width).map fun _ _ hr => hr
  | hideNotQuit => exact .ok h.hideNotQuit.beside
  | hideToTray => exact .ok h.hideToTray.beside
  | close => exact .ok h.close.beside
  | shutdown => exact h.shutdown.map fun _ _ hr => hr
  | desktopRect => exact h.desktopRect.map fun _ _ hr => hr.beside
  | room => exact h.room.map fun _ _ hr => hr.beside
  | growsInPlace width => exact (h.growsInPlace width).map fun _ _ hr => hr.beside
  | widen width => exact (h.widen width).map fun _ _ hr => hr.beside
  | move x y => exact .ok (h.onWindow (Window.move x y))
  | resize width height => exact .ok (h.onWindow (Window.resize width height))
  | setGeometry r => exact .ok (h.onWindow (Window.setGeometry r))
  | setState state => exact .ok (h.onWindow (Window.setState state))
  | setVisible b => exact .ok (h.onWindow (Window.setVisible b))
  | setFocus b => exact .ok (h.onWindow (Window.setFocus b))
  | raise => exact .ok (h.onWindow Window.raise)
  | setMonitors ms =>
    cases h with
    | intro hconfig hlinked => exact .ok (.intro (s := { s with window := _ }) hconfig hlinked)
  | setAccount account =>
    cases h with
    | intro hconfig hlinked => exact .ok (.intro (s := { s with account := _ }) hconfig hlinked)
  | wait ms => exact (h.wait ms).map fun _ _ hr => hr
  | advance ms => exact .ok (h.advance ms)
  | run ms => exact (h.run ms).map fun _ _ hr => hr

end Beside

end StoreLink

namespace Session

variable {σ : Type} [Store σ]

/-- The session after some actions, one after another. -/
def actAll (s : Session σ) : List Action → Outcome σ (Session σ)
  | [] => .ok s
  | a :: as => do
    let (_, s) ← act s a
    actAll s as

end Session

namespace StoreLink

variable {config : Config} {σ τ : Type} [Store σ] [Store τ] {L : StoreLink config σ τ}
  {s : Session σ} {t : Session τ}

theorem Beside.actAll (h : L.Beside s t) (as : List Action) :
    L.Along L.Beside (s.actAll as) (t.actAll as) := by
  induction as generalizing s t with
  | nil => exact .ok h
  | cons a as ih => exact (h.act a).bind fun _ _ hr => ih hr

end StoreLink

end WindowKeeper
