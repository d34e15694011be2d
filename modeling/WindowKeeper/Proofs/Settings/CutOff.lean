import WindowKeeper.Proofs.Json.CutOff
import WindowKeeper.Proofs.Settings.Saved

namespace WindowKeeper

open Json

theorem Json.decodeText_unclean {α : Type} (d : Decoder α) {t : String}
    (h : (Fragment.ofChars t.toList).2 = false) : ∃ fault, decodeText d t = .error fault := by
  cases hd : d .streamed (Fragment.ofChars t.toList).1 with
  | error fault => exact ⟨fault, by simp only [decodeText, hd]; rfl⟩
  | ok a => exact ⟨.malformed, by simp only [decodeText, hd, h]; rfl⟩

/-- Characters of one byte each. -/
def Narrow (cs : List Char) : Prop := ∀ c ∈ cs, c.utf8Size = 1

theorem utf8ByteSize_narrow {cs : List Char} (h : Narrow cs) :
    (String.ofList cs).utf8ByteSize = cs.length := by
  induction cs with
  | nil => rfl
  | cons c cs ih =>
    obtain ⟨hc, hcs⟩ := List.forall_mem_cons.mp h
    rw [String.ofList_cons, String.utf8ByteSize_append, String.utf8ByteSize_singleton, hc, ih hcs,
      List.length_cons, Nat.add_comm]

theorem narrow_append {cs ds : List Char} : Narrow (cs ++ ds) ↔ Narrow cs ∧ Narrow ds :=
  List.forall_mem_append

theorem narrow_cons {c : Char} {cs : List Char} :
    Narrow (c :: cs) ↔ c.utf8Size = 1 ∧ Narrow cs :=
  List.forall_mem_cons

instance (cs : List Char) : Decidable (Narrow cs) := List.decidableBAll _ cs

theorem Json.narrow_writeInteger (n : Int) : Narrow (writeInteger n) := by
  have hdigits (m : Nat) : Narrow (Nat.toDigits 10 m) := by
    intro c hc
    have hdigit := Nat.isDigit_of_mem_toDigits (by decide) (by decide) hc
    simp only [Char.isDigit, Bool.and_eq_true, decide_eq_true_eq] at hdigit
    exact Char.utf8Size_eq_one_iff.mpr (UInt32.le_trans hdigit.2 (by decide))
  rw [writeInteger]
  split
  · exact narrow_cons.mpr ⟨rfl, hdigits _⟩
  · exact hdigits _

namespace Settings

theorem narrow_write (s : Settings) : Narrow (s.toJson.write .indented 0) := by
  have hmaximized : Narrow ((Json.boolean s.placement.maximized).write .indented 2) := by
    cases s.placement.maximized <;> decide
  have hframe : Narrow ((Json.boolean s.nativeFrame).write .indented 1) := by
    cases s.nativeFrame <;> decide
  have hmode : Narrow (writeText (nameIn WorkMode.choice s.workMode)) := by
    cases s.workMode <;> decide
  have hkeys : ∀ k ∈ ["window_position", "x", "y", "w", "h", "scale", "maximized",
      "monitor_checksum", "work_mode", "native_window_frame"], Narrow (writeText k) := by
    decide
  have hline : ∀ depth ≤ 2, Narrow (Spacing.indented.line depth) := by
    decide
  have hcolon : Narrow Spacing.indented.colon := by
    decide
  simp only [List.forall_mem_cons] at hkeys
  have hnil : Narrow [] := List.forall_mem_nil _
  simp [toJson, Placement.toJson, WorkMode.toJson, write, writeMembers, narrow_append, narrow_cons,
    hkeys, hline, hcolon, hmode, hmaximized, hframe, narrow_writeInteger, hnil, Char.utf8Size]

/-- The text of the settings as far as its first `n` bytes. -/
def cutOff (s : Settings) (n : Nat) : String := String.ofList (s.toText.toList.take n)

theorem utf8ByteSize_cutOff {s : Settings} {n : Nat} (hn : n < s.toText.utf8ByteSize) :
    (s.cutOff n).utf8ByteSize = n := by
  have hnarrow := narrow_write s
  rw [toText, Json.pretty, utf8ByteSize_narrow hnarrow] at hn
  rw [cutOff, toText, Json.pretty, String.toList_ofList,
    utf8ByteSize_narrow fun c hc => hnarrow c (List.mem_of_mem_take hc), List.length_take]
  omega

/-- Settings that were cut off are not read, whatever is left of them. -/
theorem ofText_cutOff {s : Settings} (hs : s.placement.Fits) {n : Nat}
    (hn : n < s.toText.utf8ByteSize) : ∃ fault, ofText (s.cutOff n) = .error fault := by
  have hclean : (Fragment.ofChars (s.toJson.write .indented 0)).2 := by
    rw [ofChars_write Spacing.blank_indented (inverts.legible hs)]
  refine decodeText_unclean _ ?_
  rw [cutOff, toText, Json.pretty, String.toList_ofList, String.toList_ofList]
  refine ofChars_prefix (c := '\x7d') hclean rfl ?_ rfl (List.take_prefix _ _) fun hwhole => ?_
  · rw [toJson, write, List.getLast?_concat]
  · rw [toText, Json.pretty, utf8ByteSize_narrow (narrow_write s)] at hn
    have hlength := congrArg List.length hwhole
    rw [List.length_take] at hlength
    omega

theorem loadFrom_cutOff {s : Settings} (hs : s.placement.Fits) {n : Nat}
    (hn : n < s.toText.utf8ByteSize) {path : String} {t : Tree}
    (ht : t.find? path = some (.file (.text (s.cutOff n)))) :
    ∃ fault, loadFrom t path = .error (.invalid fault) := by
  have hsize := utf8ByteSize_toText hs
  have hlength : ¬ largestFile < (FileContent.text (s.cutOff n)).length := by
    change ¬ 65536 < (s.cutOff n).utf8ByteSize
    rw [utf8ByteSize_cutOff hn]
    omega
  obtain ⟨fault, hfault⟩ := ofText_cutOff hs hn
  exact ⟨fault, by simp only [loadFrom, ht, if_neg hlength, hfault]; rfl⟩

end Settings

namespace FileStore

/-- The stores that come of opening a file, changing the settings and flushing them, no save being
requested, each with the files there are then. -/
inductive Unrequested (path : String) (t : Tree) : FileStore → Tree → Prop
  | opened : Unrequested path t (openAt path t) t
  | setPlacement {f : FileStore} {u : Tree} (h : Unrequested path t f u) (p : Placement) :
      Unrequested path t (Store.setPlacement p f) u
  | setWorkMode {f : FileStore} {u : Tree} (h : Unrequested path t f u) (m : WorkMode) :
      Unrequested path t (Store.setWorkMode m f) u
  | setNativeFrame {f : FileStore} {u : Tree} (h : Unrequested path t f u) (b : Bool) :
      Unrequested path t (Store.setNativeFrame b f) u
  | flushed {f g : FileStore} {u v : Tree} {r : Except Settings.SaveError Unit}
      (h : Unrequested path t f u) (hflush : f.flush u = (r, g, v)) : Unrequested path t g v

variable {path : String} {t u : Tree} {f : FileStore}

/-- Without a request nothing is written. -/
theorem Unrequested.kept (h : Unrequested path t f u) : f.dirty = false ∧ u = t := by
  induction h with
  | opened => exact ⟨(openAt_clean path t).2.1, rfl⟩
  | setPlacement h p ih => exact ih
  | setWorkMode h m ih => exact ih
  | setNativeFrame h b ih => exact ih
  | flushed h hflush ih =>
    rw [flush_clean ih.1] at hflush
    cases hflush
    exact ih

/-- A settings file of which only the first bytes are left cannot be loaded. A store that is opened
on it starts from the initial settings, and leaves the file as it is until a save is requested. -/
theorem openAt_cutOff {s : Settings} (hs : s.placement.Fits) {n : Nat}
    (hn : n < s.toText.utf8ByteSize) (ht : t.find? path = some (.file (.text (s.cutOff n)))) :
    (s.cutOff n).utf8ByteSize = n ∧
    (∃ fault, Settings.loadFrom t path = .error (.invalid fault)) ∧
    openAt path t = ⟨path, .initial, false⟩ ∧
    ∀ f u, Unrequested path t f u → f.flush u = (.ok (), f, t) := by
  obtain ⟨fault, hfault⟩ := Settings.loadFrom_cutOff hs hn ht
  refine ⟨Settings.utf8ByteSize_cutOff hn, ⟨fault, hfault⟩, by rw [openAt, hfault], ?_⟩
  intro f u h
  obtain ⟨hclean, rfl⟩ := h.kept
  exact flush_clean hclean u

/-- A file that ends inside the last name of its settings. -/
theorem openAt_cutOff_inName :
    let s : Settings := ⟨⟨40, -60, 800, 600, 125, true, 679109651⟩, .trayOnly, true⟩
    let t : Tree := ⟨[(["settings.json"], .file (.text (s.cutOff 200)))]⟩
    let f : FileStore := Store.setWorkMode .windowOnly (openAt "settings.json" t)
    200 < s.toText.utf8ByteSize ∧
    (∃ fault, Settings.loadFrom t "settings.json" = .error (.invalid fault)) ∧
    f = ⟨"settings.json", ⟨.empty, .windowOnly, false⟩, false⟩ ∧ f.flush t = (.ok (), f, t) := by
  intro s t f
  have hs : s.placement.Fits := by constructor <;> decide
  have hn : 200 < s.toText.utf8ByteSize := by
    rw [Settings.toText, Json.pretty, utf8ByteSize_narrow s.narrow_write]
    decide +kernel
  have hlocated : t.locate "settings.json" = some ["settings.json"] := by decide +kernel
  have ht : t.find? "settings.json" = some (.file (.text (s.cutOff 200))) := by
    rw [Tree.find?, hlocated]
    rfl
  obtain ⟨-, hfault, hopened, hkept⟩ := openAt_cutOff hs hn ht
  refine ⟨hn, hfault, ?_, hkept f t (.setWorkMode .opened _)⟩
  change Store.setWorkMode _ (openAt _ t) = _
  rw [hopened]
  rfl

end FileStore

end WindowKeeper
