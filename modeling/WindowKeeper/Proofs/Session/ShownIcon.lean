import WindowKeeper.Proofs.Icon.Pictures
import WindowKeeper.Proofs.Session.Effects
import WindowKeeper.Proofs.Session.Emblem

namespace WindowKeeper

/-- The window shows the icon `last`, and if the session keeps one, it is that, and it would be made
again for what it was made for. -/
inductive Emblem.Fresh (create : Int → Bool → Except PictureError Icon) :
    Option Icon → Emblem → Prop
  | unmade {last : Option Icon} {support : Bool} {variant : Int} :
      Fresh create last ⟨last, none, support, variant⟩
  | made {i : Icon} {support : Bool} {variant : Int} (h : create variant support = .ok i) :
      Fresh create (some i) ⟨some i, some i, support, variant⟩

/-- An update shows the icon that it would make, and the one before if that cannot be made. -/
theorem Emblem.Fresh.updated {create : Int → Bool → Except PictureError Icon} {last : Option Icon}
    {m : Emblem} (h : m.Fresh create last) (variant : Int) (support : Bool) :
    (m.updated variant support (create variant support)).Fresh create
      ((create variant support).toOption.or last) := by
  cases h with
  | unmade =>
    cases hmade : create variant support with
    | ok i => exact .made hmade
    | error _ => exact .unmade
  | @made i support' variant' h =>
    by_cases hkey : support = support' ∧ variant = variant'
    · -- the icon that is kept is the one that would be made
      obtain ⟨rfl, rfl⟩ := hkey
      have hkept (x : Except PictureError Icon) :
          Emblem.updated ⟨some i, some i, support, variant⟩ variant support x =
            ⟨some i, some i, support, variant⟩ := by
        simp [Emblem.updated]
      rw [hkept, h]
      exact .made h
    · have hstale : ((some i).isNone || support != support' || variant != variant') = true := by
        simpa using Decidable.not_and_iff_or_not.mp hkey
      simp only [Emblem.updated, hstale, if_true]
      cases hmade : create variant support with
      | ok j => exact .made hmade
      | error _ => exact .made h

/-- The icon that the window shows after some moments, the latest first, if each update makes the
icon anew from the files, dark while the account that is signed in is in support mode, and one that
cannot be made leaves the window as it is. -/
def rebuiltIcon {σ : Type} (files : Tree) (c : Config) (before : Option Icon) :
    List (Moment σ) → Option Icon
  | [] => before
  | m :: ms =>
    match m.variant? with
    | some id =>
      (Icon.create files c.workingDir c.assetsDir id
        (m.session.account.any (·.supportMode))).toOption.or (rebuiltIcon files c before ms)
    | none => rebuiltIcon files c before ms

namespace Session

variable {σ : Type} [Store σ]

theorem course_emblem {window : Window} {store : σ} {files : Tree} {config : Config}
    {ms : List (Moment σ)} {t : Session σ}
    (h : (start window store files config).Course ms t)
    (hfixed : ∀ m ∈ ms, files.SameIcons config m.session.files) :
    t.emblem.Fresh (Icon.create files config.workingDir config.assetsDir)
      (rebuiltIcon files config window.icon ms) := by
  induction h with
  | start => exact .unmade
  | @turn ms t u x hcourse ht ih =>
    have hbefore := ih fun m hm => hfixed m (List.mem_cons_of_mem _ hm)
    have hicons := hfixed ⟨t, x⟩ List.mem_cons_self
    have hconfig : t.config = config := config_course hcourse
    rw [emblem_turn ht, rebuiltIcon]
    cases hv : (Moment.mk t x).variant? with
    | none => exact hbefore
    | some id =>
      have hmade := hicons id t.supportMode
      simp only [emblemAfter, Option.elim_some, updatedEmblem, hconfig, hmade]
      exact hbefore.updated id t.supportMode

/-- Whatever happens to a session while the pictures for its icon stay as they are, the window shows
the icon that it would show if every update made it anew. -/
theorem course_shownIcon {window : Window} {store : σ} {files : Tree} {config : Config}
    {ms : List (Moment σ)} {t : Session σ}
    (h : (start window store files config).Course ms t)
    (hfixed : ∀ m ∈ ms, files.SameIcons config m.session.files) :
    t.window.icon = rebuiltIcon files config window.icon ms := by
  have hfresh := course_emblem h hfixed
  have hshown : t.window.icon = t.emblem.shown := rfl
  rw [hshown]
  generalize t.emblem = m, rebuiltIcon files config window.icon ms = last at hfresh ⊢
  cases hfresh with
  | unmade => rfl
  | made => rfl

/-- There is a blue logo and no other. While the green one is wanted the window goes on to show the
blue one, also in support mode, and once the blue one is wanted there, it shows that darkened, which
is black. -/
theorem course_shownIcon_dark :
    let blue : Image := ⟨1, 1, #[⟨0, 0, 255, 255⟩]⟩
    let black : Image := ⟨1, 1, #[⟨0, 0, 0, 255⟩]⟩
    let files := Tree.empty.addAt "assets/logo_256_blue.png" (.file (.picture blue))
    let s : Session MemoryStore :=
      start (.onMonitors [] .none) (.ofSettings .initial) files .initial
    let signedIn := [.act .init rfl, .handle (.iconChanged 1), .handle (.iconChanged 2),
      .act (.setAccount (some ⟨true, 0⟩)) rfl, .handle .accountChanged]
    ∃ p q, s.follow signedIn = .ok p ∧ p.2.window.icon = some ⟨blue⟩ ∧
      p.2.window.icon = rebuiltIcon files .initial none p.1 ∧
      s.follow (signedIn ++ [.handle (.iconChanged 1)]) = .ok q ∧
      q.2.window.icon = some ⟨black⟩ ∧
      q.2.window.icon = rebuiltIcon files .initial none q.1 := by
  intro blue black files s signedIn
  have hfixed (ms : List (Moment MemoryStore)) (hfiles : ∀ m ∈ ms, m.session.files = files) :
      ∀ m ∈ ms, files.SameIcons .initial m.session.files := by
    intro m hm
    rw [hfiles m hm]
    exact fun _ _ => rfl
  obtain ⟨⟨ms, t⟩, hfollow, hicon, hfiles⟩ :
      ∃ p, s.follow signedIn = .ok p ∧ p.2.window.icon = some ⟨blue⟩ ∧
        ∀ m ∈ p.1, m.session.files = files := by
    decide +kernel
  obtain ⟨⟨ms', t'⟩, hfollow', hicon', hfiles'⟩ :
      ∃ q, s.follow (signedIn ++ [.handle (.iconChanged 1)]) = .ok q ∧
        q.2.window.icon = some ⟨black⟩ ∧ ∀ m ∈ q.1, m.session.files = files := by
    decide +kernel
  exact ⟨_, _, hfollow, hicon, course_shownIcon (course_follow hfollow) (hfixed ms hfiles),
    hfollow', hicon', course_shownIcon (course_follow hfollow') (hfixed ms' hfiles')⟩

end Session

end WindowKeeper
