import WindowKeeper.Proofs.Session.Deeds

namespace WindowKeeper

/-- The icon that a window shows, and the one that was made last with what it was made for. -/
@[ext]
structure Emblem where
  shown : Option Icon
  made : Option Icon
  support : Bool
  variant : Int

namespace Session

variable {σ : Type}

def emblem (s : Session σ) : Emblem := ⟨s.window.icon, s.icon, s.iconSupport, s.iconShown⟩

/-- The emblem is a part of the attire. -/
theorem emblem_of_attire {s t : Session σ} (h : t.attire = s.attire) : t.emblem = s.emblem :=
  congrArg (fun a => Emblem.mk a.shown a.made a.support a.variant) h

@[simp] theorem emblem_updateTitle (s : Session σ) : (updateTitle s).emblem = s.emblem := by
  unfold updateTitle
  split <;> rfl

theorem emblem_showFromTray [Store σ] (s : Session σ) : (showFromTray s).emblem = s.emblem :=
  (emblem_updateTitle _).trans (emblem_of_attire (attire_activate s))

theorem emblem_trayActivated [Store σ] (s : Session σ) (a : TrayActivation) :
    (trayActivated s a).emblem = s.emblem := by
  rcases attire_trayActivated s a with hshown | hsame
  · rw [hshown, emblem_showFromTray]
  · exact emblem_of_attire hsame

theorem emblem_close [Store σ] (s : Session σ) : (close s).2.emblem = s.emblem := by
  rcases attire_close s with hsame | hquits
  · exact emblem_of_attire hsame
  · exact congrArg (fun a => Emblem.mk a.shown a.made a.support a.variant) hquits

end Session

/-- The emblem after the icon has been updated for a variant and a mode, with the icon that is made
for them if the one at hand is not it. -/
def Emblem.updated (m : Emblem) (variant : Int) (support : Bool) (made : Except PictureError Icon) :
    Emblem :=
  if m.made.isNone || support != m.support || variant != m.variant then
    match made with
    | .ok i => ⟨some i, some i, support, variant⟩
    | .error _ => { m with shown := m.made.or m.shown }
  else { m with shown := m.made.or m.shown }

namespace Session

variable {σ : Type}

/-- The emblem after the icon has been updated for a variant. -/
def updatedEmblem (s : Session σ) (id : Int) : Emblem :=
  s.emblem.updated id s.supportMode
    (Icon.create s.files s.config.workingDir s.config.assetsDir id s.supportMode)

theorem emblem_updateIcon (s : Session σ) : (updateIcon s).emblem = s.updatedEmblem s.iconId := by
  have hupdate : (updateIcon s).emblem =
      { (renewIcon s).emblem with shown := (renewIcon s).icon.or (renewIcon s).window.icon } := by
    simp only [updateIcon]
    split
    · rename_i i hi
      simp [emblem, hi, Window.setIcon]
    · rename_i hi
      simp [emblem, hi]
  rw [hupdate]
  unfold renewIcon updatedEmblem Emblem.updated
  change _ = if s.icon.isNone || s.supportMode != s.iconSupport || s.iconId != s.iconShown then _
    else _
  cases Icon.create s.files s.config.workingDir s.config.assetsDir s.iconId s.supportMode with
  | ok i => split <;> rfl
  | error _ => split <;> rfl

variable [Store σ] in
theorem emblem_init {s t : Session σ} (h : init s = .ok t) :
    t.emblem = s.updatedEmblem s.iconId := by
  obtain ⟨r, hr, rfl⟩ := init_dresses h
  rw [emblem_updateTitle, emblem_of_attire hr]
  exact emblem_updateIcon s

end Session

/-- The variant of the logo for which a moment updates the icon, if it does. -/
def Moment.variant? {σ : Type} (m : Moment σ) : Option Int :=
  match m.turn with
  | .act .init _ => some m.session.iconId
  | .act .updateIcon _ => some m.session.iconId
  | _ =>
    match m.event? with
    | some (.iconChanged id) => some id
    | some .accountChanged => some m.session.iconId
    | _ => none

namespace Session

variable {σ : Type} [Store σ] {s t : Session σ}

omit [Store σ] in
/-- The emblem after a moment, by the variant for which the moment updates it. -/
def emblemAfter (s : Session σ) (variant : Option Int) : Emblem :=
  variant.elim s.emblem s.updatedEmblem

theorem emblem_handle {e : Event} (h : handle s e = .ok t) :
    t.emblem = s.emblemAfter (Moment.mk s (.handle e)).variant? := by
  cases e with
  | iconChanged id =>
    cases h
    exact emblem_updateIcon { s with iconId := id }
  | accountChanged =>
    exact (emblem_of_attire (attire_updateLeastSize h)).trans (emblem_updateIcon s)
  | trayActivated a =>
    cases h
    exact emblem_trayActivated s a
  | unreadChanged count =>
    cases h
    exact emblem_updateTitle _
  | closeRequested =>
    cases h
    exact emblem_close s
  | quit =>
    cases h
    rfl
  | _ => exact emblem_of_attire ((does_handle h).attire rfl)

theorem emblem_act {a : Action} {reply : Reply} (single : a.isStep)
    (h : act s a = .ok (reply, t)) :
    t.emblem = s.emblemAfter (Moment.mk s (.act a single)).variant? := by
  cases a with
  | init => exact emblem_init (of_answered h)
  | updateIcon =>
    cases h
    exact emblem_updateIcon s
  | updateTitle =>
    cases h
    exact emblem_updateTitle s
  | showFromTray =>
    cases h
    exact emblem_showFromTray s
  | close =>
    cases h
    exact emblem_close s
  | quit =>
    cases h
    rfl
  | _ => exact emblem_of_attire ((does_act single h).attire rfl)

omit [Store σ] in
theorem event?_none {deadline : Nat} (hn : s.nextEvent? deadline = none) :
    (Moment.mk s (.next deadline)).event? = none := by
  simp only [Moment.event?, hn, Option.map_none]

theorem emblem_turn {x : Turn} (h : s.turn x = .ok t) :
    t.emblem = s.emblemAfter (Moment.mk s x).variant? := by
  cases x with
  | act a single =>
    obtain ⟨⟨reply, u⟩, hu, rfl⟩ := map_eq_ok.mp h
    exact emblem_act single hu
  | handle e => exact emblem_handle h
  | next deadline =>
    rcases turn_next_cases h with ⟨hn, rfl⟩ | ⟨e, r, hn, hr⟩
    · simp only [Moment.variant?, event?_none hn]
      rfl
    · rw [emblem_handle hr]
      simp only [Moment.variant?, event?_next hn]
      rcases nextEvent_eq_some hn with ⟨es, -, rfl⟩ | ⟨-, c, -, rfl⟩
      · rfl
      · rfl
  | pass now =>
    cases h
    rfl
  | shutdown =>
    obtain ⟨⟨r, u⟩, hu, rfl⟩ := map_eq_ok.mp h
    obtain ⟨_, _, _, _, _, rfl⟩ := shutdown_touches hu
    rfl

end Session

end WindowKeeper
