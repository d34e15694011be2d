import WindowKeeper.Proofs.Outcome
import WindowKeeper.Json.Decoder

namespace WindowKeeper.Json

variable {α : Type}

namespace Decoder

theorem integerIn_eq_ok {least greatest n : Int} {wanted : String} {src : Source} {x : Fragment}
    (h : integerIn least greatest wanted src x = .ok n) : least ≤ n ∧ n ≤ greatest := by
  unfold integerIn at h
  split at h
  · split at h
    · rename_i hn
      cases h
      exact hn
    · cases h
  · cases h

end Decoder

/-- What a field keeps of the record that it is stored in. -/
def Field.Keeps (f : Field α) (P : α → Prop) : Prop :=
  ∀ src x a b, P a → f.read src x a = .ok b → P b

namespace Shape

variable {sh : Shape α} {src : Source}

theorem readMembers_keeps {P : α → Prop} (hfields : ∀ f ∈ sh.fields, f.Keeps P) {ms : Members}
    {seen names : List String} {a b : α} (ha : P a)
    (h : sh.readMembers src ms seen a = .ok (names, b)) : P b := by
  fun_induction readMembers sh src ms seen a with
  | case1 seen a =>
    cases h
    exact ha
  | case5 seen a k x rest hfind hskip ih => exact ih ha h
  | case8 seen a k x rest f hfind hseen ih =>
    rw [bind_eq_ok] at h
    obtain ⟨c, hc, h⟩ := h
    exact ih c (hfields f (List.mem_of_find?_eq_some hfind) _ _ _ _ ha hc) h
  | _ => cases h

theorem readElements_keeps {P : α → Prop} (hfields : ∀ f ∈ sh.fields, f.Keeps P)
    {fs : List (Field α)} (hfs : ∀ f ∈ fs, f ∈ sh.fields) {xs : Elements} {n : Nat} {a b : α}
    (ha : P a) (h : sh.readElements src fs xs n a = .ok b) : P b := by
  induction fs generalizing xs n a with
  | nil =>
    cases xs with
    | closed =>
      cases h
      exact ha
    | broken => cases src <;> cases h
    | more x rest => cases src <;> cases h
  | cons f fs ih =>
    have hfs' : ∀ g ∈ fs, g ∈ sh.fields := fun g hg => hfs g (List.mem_cons_of_mem _ hg)
    cases xs with
    | closed =>
      rw [readElements] at h
      split at h
      · exact ih hfs' ha h
      · cases h
    | broken => cases h
    | more x rest =>
      rw [readElements, bind_eq_ok] at h
      obtain ⟨c, hc, h⟩ := h
      exact ih hfs' (hfields f (hfs f List.mem_cons_self) _ _ _ _ ha hc) h

/-- What holds of the blank record and is kept by every field holds of a decoded record. -/
theorem decoder_keeps {P : α → Prop} (hblank : P sh.blank) (hfields : ∀ f ∈ sh.fields, f.Keeps P)
    {x : Fragment} {a : α} (h : sh.decoder src x = .ok a) : P a := by
  unfold decoder at h
  split at h
  · rw [ofMembers, bind_eq_ok] at h
    obtain ⟨⟨names, b⟩, hb, h⟩ := h
    simp only at h
    split at h
    · cases h
    · cases h
      exact readMembers_keeps hfields hblank hb
  · exact readElements_keeps hfields (fun _ hf => hf) hblank h
  · cases h

theorem find?_field {fs : List (Field α)} (hnames : (fs.map (·.name)).Nodup) {f : Field α}
    (hf : f ∈ fs) : fs.find? (·.name == f.name) = some f := by
  induction fs with
  | nil => simp at hf
  | cons g fs ih =>
    obtain ⟨hg, hnames⟩ := List.nodup_cons.mp hnames
    rcases List.mem_cons.mp hf with rfl | hf
    · simp
    · have hne : g.name ≠ f.name := fun heq => hg (List.mem_map.mpr ⟨f, hf, heq.symm⟩)
      rw [List.find?_cons_of_neg (by simpa using hne)]
      exact ih hnames hf

end Shape

end WindowKeeper.Json
