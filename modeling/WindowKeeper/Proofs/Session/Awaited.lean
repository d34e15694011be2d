import WindowKeeper.Proofs.Session.Calls

namespace WindowKeeper

theorem UInt64.ofNat_inj_of_lt {m n : Nat} (h : UInt64.ofNat m = UInt64.ofNat n)
    (hm : m < UInt64.size) (hn : n < UInt64.size) : m = n := by
  have hnat := congrArg UInt64.toNat h
  rw [UInt64.toNat_ofNat', UInt64.toNat_ofNat'] at hnat
  rwa [Nat.mod_eq_of_lt hm, Nat.mod_eq_of_lt hn] at hnat

/-- Time passes over a single alarm, which goes off if it is due before the end. -/
theorem Clock.pass_single {ε : Type} (now ms : Nat) (a : Alarm ε) :
    Clock.pass ⟨now, [a]⟩ ms =
      if a.due < now + ms then ([a.event], ⟨now + ms, []⟩) else ([], ⟨now + ms, [a]⟩) := by
  by_cases h : a.due < now + ms <;> simp [pass, collect, next?, earliest, h]

theorem Clock.pass_nil {ε : Type} (now ms : Nat) :
    Clock.pass (⟨now, []⟩ : Clock ε) ms = ([], ⟨now + ms, []⟩) := rfl

/-- A timer on a clock of its own, and all the events that it sent. -/
@[ext]
structure Watch (ε : Type) where
  timer : Timer
  clock : Clock ε
  sent : List ε

/-- What the owner of a timer did. A call is noted with its time, a confirmation with its answer. -/
inductive Deed
  | called (time : Nat)
  | cancelled
  | waited (ms : Nat)
  | confirmed (generation : UInt64) (accepted : Bool)
  deriving DecidableEq

namespace Deed

/-- Whether no earlier call can be accepted after this. -/
def renews : Deed → Bool
  | .called _ => true
  | .cancelled => true
  | _ => false

/-- The number of calls in a history. -/
def calls : List Deed → Nat
  | [] => 0
  | .called _ :: ds => calls ds + 1
  | _ :: ds => calls ds

/-- The numbers that were accepted, the latest first. -/
def accepted : List Deed → List UInt64
  | [] => []
  | .confirmed g true :: ds => g :: accepted ds
  | _ :: ds => accepted ds

/-- The latest call of a history, the latest deed of which comes first, was made at this time and
has been neither cancelled nor accepted. -/
def Awaited (ds : List Deed) (time : Nat) : Prop :=
  ∃ since before, ds = since ++ .called time :: before ∧ (∀ d ∈ since, d.renews = false) ∧
    .confirmed (.ofNat (calls ds)) true ∉ since

variable {ds : List Deed} {d : Deed} {time : Nat}

theorem not_awaited_nil : ¬ Awaited [] time := by
  rintro ⟨since, before, h, -⟩
  cases since <;> cases h

theorem awaited_called {now : Nat} : Awaited (.called now :: ds) time ↔ time = now := by
  constructor
  · rintro ⟨since, before, h, hrenews, -⟩
    cases since with
    | nil =>
      cases h
      rfl
    | cons d since =>
      cases h
      cases hrenews _ List.mem_cons_self
  · rintro rfl
    exact ⟨[], ds, rfl, by simp, by simp⟩

theorem calls_cons (hd : ∀ now, d ≠ .called now) : calls (d :: ds) = calls ds := by
  cases d with
  | called now => exact absurd rfl (hd now)
  | cancelled | waited | confirmed => rfl

/-- Any deed but a call leaves the latest call awaited, unless it cancels or accepts it. -/
theorem awaited_cons (hd : ∀ now, d ≠ .called now) :
    Awaited (d :: ds) time ↔
      d.renews = false ∧ d ≠ .confirmed (.ofNat (calls ds)) true ∧ Awaited ds time := by
  rw [Awaited, calls_cons hd]
  constructor
  · rintro ⟨since, before, h, hrenews, hnew⟩
    cases since with
    | nil =>
      cases h
      exact absurd rfl (hd time)
    | cons c since =>
      cases h
      refine ⟨hrenews _ List.mem_cons_self, ?_, since, before, rfl, ?_, ?_⟩
      · intro heq
        exact hnew (heq ▸ List.mem_cons_self)
      · exact fun c hc => hrenews c (List.mem_cons_of_mem _ hc)
      · exact fun hmem => hnew (List.mem_cons_of_mem _ hmem)
  · rintro ⟨hold, hother, since, before, rfl, hrenews, hnew⟩
    refine ⟨d :: since, before, rfl, ?_, ?_⟩
    · intro c hc
      rcases List.mem_cons.mp hc with rfl | hc
      · exact hold
      · exact hrenews c hc
    · intro hmem
      rcases List.mem_cons.mp hmem with heq | hmem
      · exact hother heq.symm
      · exact hnew hmem

theorem awaited_waited {ms : Nat} : Awaited (.waited ms :: ds) time ↔ Awaited ds time := by
  rw [awaited_cons (by simp)]
  simp [renews]

theorem awaited_unique {time' : Nat} (h : Awaited ds time) (h' : Awaited ds time') :
    time = time' := by
  induction ds with
  | nil => exact absurd h not_awaited_nil
  | cons d ds ih =>
    by_cases hd : ∃ now, d = .called now
    · obtain ⟨now, rfl⟩ := hd
      rw [awaited_called.mp h, awaited_called.mp h']
    · have hother : ∀ now, d ≠ .called now := fun now hnow => hd ⟨now, hnow⟩
      exact ih ((awaited_cons hother).mp h).2.2 ((awaited_cons hother).mp h').2.2

end Deed

namespace Watch

open Deed

variable {ε : Type}

def wait (w : Watch ε) (ms : Nat) : Watch ε :=
  { w with clock := (w.clock.pass ms).2, sent := w.sent ++ (w.clock.pass ms).1 }

/-- Whether the event of a call is accepted now. -/
def accepts (w : Watch ε) (g : UInt64) : Bool := (w.timer.confirm g).1

def confirm (w : Watch ε) (g : UInt64) : Watch ε := { w with timer := (w.timer.confirm g).2 }

variable (event : UInt64 → ε)

/-- What a timer waits for after a history: for nothing, or for the alarm of the latest call to go
off, or for its event, which was sent, to be confirmed. -/
inductive Waits (delay : Nat) (ds : List Deed) (w : Watch ε) : Prop
  | idle (pending : w.timer.pending = false) (alarms : w.clock.alarms = [])
      (free : ∀ time, ¬ Awaited ds time)
  | armed {time : Nat} (pending : w.timer.pending = true) (latest : Awaited ds time)
      (alarms : w.clock.alarms = [⟨time + delay, event w.timer.generation⟩])
      (early : w.clock.now ≤ time + delay)
  | due {time : Nat} (pending : w.timer.pending = true) (latest : Awaited ds time)
      (alarms : w.clock.alarms = []) (sent : event w.timer.generation ∈ w.sent)

/-- A timer after a history. The events of earlier calls may still be around. -/
structure Sound (delay : Nat) (ds : List Deed) (w : Watch ε) : Prop where
  delay_eq : w.timer.delay = delay
  generation : w.timer.generation = .ofNat (calls ds)
  waits : Waits event delay ds w
  sent : ∀ e ∈ w.sent, ∃ k, e = event (.ofNat k) ∧
    (k < calls ds ∨ k = calls ds ∧ ∀ time, Awaited ds time → time + delay < w.clock.now)
  once : (accepted ds).Nodup
  accepted : ∀ g ∈ accepted ds, ∃ k, g = .ofNat k ∧
    (k < calls ds ∨ k = calls ds ∧ ∀ time, ¬ Awaited ds time)

variable {event} {delay ms : Nat} {ds : List Deed} {v w : Watch ε}

theorem sound_start : Sound event delay [] ⟨.withDelay delay, .start, []⟩ where
  delay_eq := rfl
  generation := rfl
  waits := .idle rfl rfl fun _ => not_awaited_nil
  sent := by simp
  once := List.nodup_nil
  accepted := by simp [Deed.accepted]

theorem wait_of_clear (h : w.clock.alarms = []) :
    w.wait ms = { w with clock := ⟨w.clock.now + ms, []⟩ } := by
  obtain ⟨t, ⟨now, as⟩, sent⟩ := w
  cases h
  rw [wait, Clock.pass_nil, List.append_nil]

theorem wait_of_alarm {a : Alarm ε} (h : w.clock.alarms = [a]) :
    w.wait ms = if a.due < w.clock.now + ms then
        { w with clock := ⟨w.clock.now + ms, []⟩, sent := w.sent ++ [a.event] }
      else { w with clock := ⟨w.clock.now + ms, [a]⟩ } := by
  obtain ⟨t, ⟨now, as⟩, sent⟩ := w
  cases h
  rw [wait, Clock.pass_single]
  simp only
  split
  · rfl
  · rw [List.append_nil]

/-- Some time later nothing was sent but perhaps the event of the latest call. -/
theorem Sound.later (h : Sound event delay ds w) (htimer : v.timer = w.timer)
    (hnow : w.clock.now ≤ v.clock.now) (hwaits : Waits event delay (.waited ms :: ds) v)
    (hsent : ∀ e ∈ v.sent, e ∈ w.sent ∨ e = event w.timer.generation ∧
      ∀ time, Awaited ds time → time + delay < v.clock.now) :
    Sound event delay (.waited ms :: ds) v where
  delay_eq := by rw [htimer, h.delay_eq]
  generation := by
    rw [htimer, h.generation]
    rfl
  waits := hwaits
  sent := by
    intro e he
    simp only [awaited_waited]
    rcases hsent e he with he | ⟨heq, hdue⟩
    · obtain ⟨k, heq, hk⟩ := h.sent e he
      refine ⟨k, heq, hk.imp_right fun ⟨hlast, hdue⟩ => ⟨hlast, fun time hlatest => ?_⟩⟩
      exact Nat.lt_of_lt_of_le (hdue time hlatest) hnow
    · rw [h.generation] at heq
      exact ⟨calls ds, heq, .inr ⟨rfl, hdue⟩⟩
  once := h.once
  accepted := by
    simp only [awaited_waited]
    exact h.accepted

theorem sound_wait (h : Sound event delay ds w) :
    Sound event delay (.waited ms :: ds) (w.wait ms) := by
  have hlater : w.clock.now ≤ w.clock.now + ms := Nat.le_add_right _ _
  cases h.waits with
  | idle pending alarms free =>
    rw [wait_of_clear alarms]
    refine h.later rfl hlater ?_ ?_
    · exact .idle pending rfl fun time hlatest => free time (awaited_waited.mp hlatest)
    · exact fun e he => .inl he
  | @armed time pending latest alarms early =>
    rw [wait_of_alarm alarms]
    split
    · rename_i hdue
      refine h.later rfl hlater ?_ ?_
      · exact .due pending (awaited_waited.mpr latest) rfl (List.mem_append_right _ (by simp))
      · intro e he
        rcases List.mem_append.mp he with he | he
        · exact .inl he
        · refine .inr ⟨List.mem_singleton.mp he, fun time' hlatest => ?_⟩
          rw [awaited_unique hlatest latest]
          exact hdue
    · rename_i hearly
      refine h.later rfl hlater ?_ ?_
      · exact .armed pending (awaited_waited.mpr latest) rfl (Nat.le_of_not_lt hearly)
      · exact fun e he => .inl he
  | due pending latest alarms sent =>
    rw [wait_of_clear alarms]
    refine h.later rfl hlater ?_ ?_
    · exact .due pending (awaited_waited.mpr latest) rfl sent
    · exact fun e he => .inl he

theorem Sound.pending_iff (h : Sound event delay ds w) :
    w.timer.pending = true ↔ ∃ time, Awaited ds time := by
  cases h.waits with
  | idle pending _ free => simp [pending, free]
  | armed pending latest | due pending latest => simpa [pending] using ⟨_, latest⟩

theorem Sound.accepts_iff_pending (h : Sound event delay ds w) {g : UInt64} :
    w.accepts g = true ↔ w.timer.pending = true ∧ g = .ofNat (calls ds) := by
  rw [accepts, Timer.confirm_eq, ← h.generation]
  cases hawaits : w.timer.awaits g <;> simpa [Timer.awaits] using hawaits

/-- The event that is accepted is sent when its time has come, not before. -/
theorem Sound.due_of_accepts (h : Sound event delay ds w) (hevent : Function.Injective event)
    (hfew : calls ds < UInt64.size) {g : UInt64} (hg : event g ∈ w.sent)
    (hnumber : g = .ofNat (calls ds)) {time : Nat} (hlatest : Awaited ds time) :
    time + delay < w.clock.now := by
  obtain ⟨k, heq, hk⟩ := h.sent _ hg
  rcases hk with hk | ⟨-, hdue⟩
  · -- an earlier call has another number
    rw [hnumber] at heq
    have hsame := UInt64.ofNat_inj_of_lt (hevent heq) hfew (Nat.lt_trans hk hfew)
    omega
  · exact hdue time hlatest

theorem confirm_eq (w : Watch ε) (g : UInt64) :
    w.confirm g = if w.accepts g then { w with timer := w.timer.settled } else w := by
  rw [confirm, accepts, Timer.confirm_eq]
  cases w.timer.awaits g <;> rfl

theorem awaited_rejected {g : UInt64} {time : Nat} :
    Awaited (.confirmed g false :: ds) time ↔ Awaited ds time := by
  rw [awaited_cons (by simp)]
  simp [Deed.renews]

theorem sound_reject (h : Sound event delay ds w) {g : UInt64} (hg : w.accepts g = false) :
    Sound event delay (.confirmed g false :: ds) (w.confirm g) := by
  have hsame : w.confirm g = w := by rw [confirm_eq, if_neg (by simp [hg])]
  rw [hsame]
  exact {
    delay_eq := h.delay_eq
    generation := h.generation
    waits := by
      cases h.waits with
      | idle pending alarms free =>
        exact .idle pending alarms fun time hlatest => free time (awaited_rejected.mp hlatest)
      | armed pending latest alarms early =>
        exact .armed pending (awaited_rejected.mpr latest) alarms early
      | due pending latest alarms sent =>
        exact .due pending (awaited_rejected.mpr latest) alarms sent
    sent := by
      simp only [awaited_rejected]
      exact h.sent
    once := h.once
    accepted := by
      simp only [awaited_rejected]
      exact h.accepted }

/-- Once nothing is awaited, the events and numbers that are around are those of settled calls. -/
theorem Sound.settled {ds' : List Deed} (h : Sound event delay ds w)
    (hfree : ∀ time, ¬ Awaited ds' time) :
    (∀ e ∈ w.sent, ∃ k, e = event (.ofNat k) ∧
      (k < calls ds ∨ k = calls ds ∧ ∀ time, Awaited ds' time → time + delay < w.clock.now)) ∧
    ∀ g ∈ Deed.accepted ds, ∃ k, g = .ofNat k ∧
      (k < calls ds ∨ k = calls ds ∧ ∀ time, ¬ Awaited ds' time) := by
  constructor
  · intro e he
    obtain ⟨k, heq, hk⟩ := h.sent e he
    refine ⟨k, heq, hk.imp_right fun hk => ⟨hk.1, ?_⟩⟩
    intro time hlatest
    exact absurd hlatest (hfree time)
  · intro g hg
    obtain ⟨k, heq, hk⟩ := h.accepted g hg
    exact ⟨k, heq, hk.imp_right fun hk => ⟨hk.1, hfree⟩⟩

/-- What is accepted is not awaited any more, and has not been accepted before. -/
theorem sound_accept (h : Sound event delay ds w) (hevent : Function.Injective event)
    (hfew : calls ds < UInt64.size) {g : UInt64} (hsent : event g ∈ w.sent)
    (hg : w.accepts g = true) : Sound event delay (.confirmed g true :: ds) (w.confirm g) := by
  obtain ⟨hpending, hnumber⟩ := h.accepts_iff_pending.mp hg
  obtain ⟨time, hlatest⟩ := h.pending_iff.mp hpending
  have hdue := h.due_of_accepts hevent hfew hsent hnumber hlatest
  have hfree : ∀ time, ¬ Awaited (.confirmed g true :: ds) time := by
    intro time hlatest
    obtain ⟨-, hother, -⟩ := (awaited_cons (by simp)).mp hlatest
    exact hother (by rw [hnumber])
  have hclear : w.clock.alarms = [] := by
    cases h.waits with
    | idle _ alarms => exact alarms
    | armed _ latest _ early =>
      rw [awaited_unique latest hlatest] at early
      omega
    | due _ _ alarms => exact alarms
  have hnew : g ∉ accepted ds := by
    intro hmem
    obtain ⟨k, heq, hk⟩ := h.accepted g hmem
    rcases hk with hk | ⟨-, hnone⟩
    · have hsame := UInt64.ofNat_inj_of_lt (hnumber.symm.trans heq) hfew (Nat.lt_trans hk hfew)
      omega
    · exact hnone time hlatest
  rw [confirm_eq, if_pos hg]
  exact {
    delay_eq := h.delay_eq
    generation := h.generation
    waits := .idle rfl hclear hfree
    sent := (h.settled hfree).1
    once := List.nodup_cons.mpr ⟨hnew, h.once⟩
    accepted := by
      intro g' hg'
      rcases List.mem_cons.mp hg' with rfl | hg'
      · exact ⟨calls ds, hnumber, .inr ⟨rfl, hfree⟩⟩
      · exact (h.settled hfree).2 g' hg' }

variable [DecidableEq ε]

def call (event : UInt64 → ε) (w : Watch ε) : Watch ε :=
  { w with
    timer := (w.timer.call event w.clock).1
    clock := (w.timer.call event w.clock).2 }

def cancel (event : UInt64 → ε) (w : Watch ε) : Watch ε :=
  { w with
    timer := (w.timer.cancel event w.clock).1
    clock := (w.timer.cancel event w.clock).2 }

/-- After a call is cancelled no alarm is set. -/
theorem clock_cancel (h : Waits event delay ds w) :
    (w.timer.cancel event w.clock).2 = ⟨w.clock.now, []⟩ := by
  obtain ⟨t, ⟨now, as⟩, sent⟩ := w
  cases h with
  | idle pending alarms =>
    simp only at pending alarms
    simp [Timer.cancel, pending, alarms]
  | armed pending latest alarms =>
    simp only at pending alarms
    simp [Timer.cancel, pending, alarms, Clock.unset]
  | due pending latest alarms =>
    simp only at pending alarms
    simp [Timer.cancel, pending, alarms, Clock.unset]

theorem sound_call (h : Sound event delay ds w) :
    Sound event delay (.called w.clock.now :: ds) (w.call event) := by
  have hgeneration : w.timer.generation + 1 = .ofNat (calls ds + 1) := by
    rw [h.generation, UInt64.ofNat_add]
    rfl
  have hcall : w.call event = ⟨⟨delay, .ofNat (calls ds + 1), true⟩,
      ⟨w.clock.now, [⟨w.clock.now + delay, event (.ofNat (calls ds + 1))⟩]⟩, w.sent⟩ := by
    rw [call, Timer.call_eq, clock_cancel h.waits, h.delay_eq, hgeneration]
    rfl
  -- all numbers that are around become those of earlier calls
  have hearlier {k : Nat} {P : Prop} (hk : k < calls ds ∨ k = calls ds ∧ P) :
      k < calls ds + 1 := by omega
  rw [hcall]
  exact {
    delay_eq := rfl
    generation := rfl
    waits := .armed rfl (awaited_called.mpr rfl) rfl (Nat.le_add_right _ _)
    sent := by
      intro e he
      obtain ⟨k, heq, hk⟩ := h.sent e he
      exact ⟨k, heq, .inl (hearlier hk)⟩
    once := h.once
    accepted := by
      intro g hg
      obtain ⟨k, heq, hk⟩ := h.accepted g hg
      exact ⟨k, heq, .inl (hearlier hk)⟩ }

theorem sound_cancel (h : Sound event delay ds w) :
    Sound event delay (.cancelled :: ds) (w.cancel event) := by
  have hcancel : w.cancel event =
      ⟨(w.timer.cancel event w.clock).1, ⟨w.clock.now, []⟩, w.sent⟩ := by
    rw [cancel, clock_cancel h.waits]
  have hfree : ∀ time, ¬ Awaited (.cancelled :: ds) time := by
    intro time hlatest
    obtain ⟨hrenews, -⟩ := (awaited_cons (by simp)).mp hlatest
    cases hrenews
  rw [hcancel]
  exact {
    delay_eq := (Timer.delay_cancel event w.clock w.timer).trans h.delay_eq
    generation := (Timer.generation_cancel event w.clock w.timer).trans h.generation
    waits := .idle (Timer.pending_cancel event w.clock w.timer) rfl hfree
    sent := (h.settled hfree).1
    once := h.once
    accepted := (h.settled hfree).2 }

/-- A timer of this delay after a history. Only events that were sent are confirmed. -/
inductive Used (event : UInt64 → ε) (delay : Nat) : List Deed → Watch ε → Prop
  | start : Used event delay [] ⟨.withDelay delay, .start, []⟩
  | call {ds : List Deed} {w : Watch ε} (h : Used event delay ds w) :
      Used event delay (.called w.clock.now :: ds) (w.call event)
  | cancel {ds : List Deed} {w : Watch ε} (h : Used event delay ds w) :
      Used event delay (.cancelled :: ds) (w.cancel event)
  | wait {ds : List Deed} {w : Watch ε} (ms : Nat) (h : Used event delay ds w) :
      Used event delay (.waited ms :: ds) (w.wait ms)
  | confirm {ds : List Deed} {w : Watch ε} {g : UInt64} (hsent : event g ∈ w.sent)
      (h : Used event delay ds w) :
      Used event delay (.confirmed g (w.accepts g) :: ds) (w.confirm g)

theorem Used.sound (h : Used event delay ds w) (hevent : Function.Injective event)
    (hfew : calls ds < UInt64.size) : Sound event delay ds w := by
  induction h with
  | start => exact sound_start
  | call _ ih => exact sound_call (ih (Nat.lt_trans (Nat.lt_succ_self _) hfew))
  | cancel _ ih => exact sound_cancel (ih hfew)
  | wait ms _ ih => exact sound_wait (ih hfew)
  | @confirm ds w g hsent _ ih =>
    cases hg : w.accepts g with
    | false => exact sound_reject (ih hfew) hg
    | true => exact sound_accept (ih hfew) hevent hfew hsent hg

/-- No number is accepted twice. The timer is pending while its latest call is awaited, and of all
the events sent just that of the awaited call is accepted, which is sent when the delay has passed
since the call, and surely after that. -/
theorem accepts_iff_awaited (h : Used event delay ds w) (hevent : Function.Injective event)
    (hfew : calls ds < UInt64.size) :
    (accepted ds).Nodup ∧
    (w.timer.pending = true ↔ ∃ time, Awaited ds time) ∧
    (∀ g, event g ∈ w.sent → (w.accepts g = true ↔
      g = .ofNat (calls ds) ∧ ∃ time, Awaited ds time ∧ time + delay ≤ w.clock.now)) ∧
    ∀ time, Awaited ds time → time + delay < w.clock.now →
      event (.ofNat (calls ds)) ∈ w.sent := by
  have hsound := h.sound hevent hfew
  refine ⟨hsound.once, hsound.pending_iff, ?_, ?_⟩
  · intro g hg
    rw [hsound.accepts_iff_pending, hsound.pending_iff]
    constructor
    · rintro ⟨⟨time, hlatest⟩, hnumber⟩
      have hdue := hsound.due_of_accepts hevent hfew hg hnumber hlatest
      exact ⟨hnumber, time, hlatest, Nat.le_of_lt hdue⟩
    · rintro ⟨hnumber, time, hlatest, -⟩
      exact ⟨⟨time, hlatest⟩, hnumber⟩
  · intro time hlatest htime
    rw [← hsound.generation]
    cases hsound.waits with
    | idle _ _ free => exact absurd hlatest (free time)
    | armed _ latest _ early =>
      rw [awaited_unique latest hlatest] at early
      omega
    | due _ _ _ sent => exact sent

/-- A timer is called again when the event of its first call was sent already. -/
theorem accepts_iff_awaited_again :
    ∃ w : Watch Event, Used .placementTimer 5
        [.waited 6, .confirmed 1 false, .called 6, .waited 6, .called 0] w ∧
      w.timer.pending = true ∧ Event.placementTimer 1 ∈ w.sent ∧ w.accepts 1 = false ∧
      w.accepts 2 = true := by
  have hevent : Function.Injective Event.placementTimer := fun _ _ h => by
    cases h
    rfl
  have hfirst : Used Event.placementTimer 5 [.called 6, .waited 6, .called 0] _ :=
    .call (.wait 6 (.call .start))
  have hused : Used Event.placementTimer 5
      [.waited 6, .confirmed 1 false, .called 6, .waited 6, .called 0] _ :=
    .wait 6 (.confirm (g := 1) (by decide) hfirst)
  obtain ⟨-, hpending, haccepts, hsent⟩ := accepts_iff_awaited hused hevent (by decide)
  have hlatest : Awaited [.waited 6, .confirmed 1 false, .called 6, .waited 6, .called 0] 6 :=
    ⟨[.waited 6, .confirmed 1 false], [.waited 6, .called 0], rfl, by decide, by decide⟩
  have hsecond := hsent 6 hlatest (by decide)
  refine ⟨_, hused, hpending.mpr ⟨6, hlatest⟩, by decide, ?_, ?_⟩
  · rw [← Bool.not_eq_true, haccepts 1 (by decide)]
    rintro ⟨hnumber, -⟩
    exact absurd hnumber (by decide)
  · exact (haccepts 2 hsecond).mpr ⟨rfl, 6, hlatest, by decide⟩

end Watch

end WindowKeeper
