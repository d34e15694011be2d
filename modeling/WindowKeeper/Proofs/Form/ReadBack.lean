import WindowKeeper.Proofs.Form.Config
import WindowKeeper.Proofs.Form.Script

namespace WindowKeeper

open Json

/-- Scripts, configurations, desktops and settings are read back from the texts written for them,
with all numbers of their sizes. -/
theorem readsBack_forms :
    ReadsBack Script.ofText Script.toJson (fun s => ∀ step ∈ s, step.Fits) ∧
    ReadsBack Config.ofText Config.toJson Config.InRange ∧
    ReadsBack (decodeText Monitor.listDecoder) Monitor.listJson (fun ms => ∀ m ∈ ms, m.Fits) ∧
    ReadsBack Settings.ofText Settings.toJson (fun s => s.placement.Fits) :=
  ⟨Script.inverts.readsBack, Config.inverts.readsBack, Monitor.list_inverts.readsBack,
    Settings.inverts.readsBack⟩

/-- A script with the largest numbers, and with a name of characters that need not stand for
themselves. -/
theorem readsBack_forms_escaped :
    let m : Monitor := ⟨"DP-1 \"\\\n\t\x01 🖥", ⟨-2147483648, 0, 2147483647, 1⟩, ⟨0, 0, 0, 0⟩, true⟩
    let s : Script := [.monitors [m, m], .rightColumn none, .rightColumn (some (-1)),
      .unread 4294967295, .placed, .wait 18446744073709551615]
    Script.ofText (Script.toJson s).compact = .ok s ∧
      Script.ofText (Script.toJson s).pretty = .ok s := by
  intro m s
  have hm : m.Fits := by constructor <;> constructor <;> decide
  have hs : ∀ step ∈ s, step.Fits := by
    simp only [s, List.forall_mem_cons]
    refine ⟨?_, by simp [Script.Step.Fits], ?_, Nat.le_refl _, trivial, Nat.le_refl _,
      List.forall_mem_nil _⟩
    · rintro n hn
      simp only [List.mem_cons, List.not_mem_nil, or_false, or_self] at hn
      rwa [hn]
    · rintro w ⟨⟩
      decide
  obtain ⟨hscript, -⟩ := readsBack_forms
  exact ⟨hscript.compact s hs, hscript.pretty s hs⟩

end WindowKeeper
