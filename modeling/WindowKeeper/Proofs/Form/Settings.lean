import WindowKeeper.Form.Settings
import WindowKeeper.Proofs.Json.Inverted

namespace WindowKeeper

open Json Decoder

theorem Json.length_writeInteger {n : Int} (hn : n.natAbs < 10000000000) :
    (writeInteger n).length ≤ 11 := by
  have hdigits : (Nat.toDigits 10 n.natAbs).length ≤ 10 :=
    (Nat.length_toDigits_le_iff (by decide) (by decide)).mpr (Nat.lt_of_lt_of_le hn (by decide))
  rw [writeInteger]
  split
  · rw [List.length_cons]
    omega
  · omega

namespace Placement

/-- A record of 32-bit numbers. -/
structure Fits (p : Placement) : Prop where
  x : Fits32 p.x
  y : Fits32 p.y
  w : Fits32 p.w
  h : Fits32 p.h
  scale : Fits32 p.scale

theorem fits_empty : empty.Fits := by constructor <;> decide

theorem monitor_le (p : Placement) : p.monitor.toNat ≤ 4294967295 :=
  Nat.le_of_lt_succ p.monitor.toNat_lt

theorem distinct (p : Placement) : p.toJson.Distinct :=
  ⟨by simp, trivial, trivial, trivial, trivial, trivial, trivial, trivial, trivial⟩

/-- The fields of a record that are listed, the others being as they are initially. -/
def kept (p : Placement) (names : List String) : Placement where
  x := if "x" ∈ names then p.x else empty.x
  y := if "y" ∈ names then p.y else empty.y
  w := if "w" ∈ names then p.w else empty.w
  h := if "h" ∈ names then p.h else empty.h
  scale := if "scale" ∈ names then p.scale else empty.scale
  maximized := if "maximized" ∈ names then p.maximized else empty.maximized
  monitor := if "monitor_checksum" ∈ names then p.monitor else empty.monitor

theorem decoder_lists {p : Placement} (hp : p.Fits) {names : List String} {src : Source}
    {x : Fragment} (hx : x.skippable) (h : p.toJson.Lists names x) :
    shape.decoder src x = .ok (p.kept names) := by
  obtain ⟨ms, rfl, hms⟩ := h
  refine Shape.decoder_partial ?_ (by decide) rfl ?_ hms hx (by decide)
  · exact .cons (int32_finds.read hp.x (by simp [kept])) <|
      .cons (int32_finds.read hp.y (by simp [kept])) <|
      .cons (int32_finds.read hp.w (by simp [kept])) <|
      .cons (int32_finds.read hp.h (by simp [kept])) <|
      .cons (int32_finds.read hp.scale (by simp [kept])) <|
      .cons (boolean_finds.read trivial (by simp [kept])) <|
      .cons (uint32_finds.read p.monitor_le (by simp [kept])) .nil
  · simp [kept]

theorem finds : shape.decoder.Finds toJson Fits := by
  intro p hp src x hx h
  obtain ⟨ms, names, rfl, hlisted, hall⟩ := h
  rw [decoder_lists hp hx ⟨ms, rfl, hlisted⟩]
  simp_all [kept]

theorem inverts : shape.decoder.Inverts toJson Fits := by
  refine finds.inverts ?_ distinct (Shape.decoder_keeps fits_empty ?_)
  · exact fun hp => ⟨int32_inverts.legible hp.x, int32_inverts.legible hp.y,
      int32_inverts.legible hp.w, int32_inverts.legible hp.h, int32_inverts.legible hp.scale,
      trivial, uint32_inverts.legible (monitor_le _), trivial⟩
  · simp only [shape, List.forall_mem_cons]
    exact ⟨int32_inverts.keeps fun _ _ hv hp => { hp with x := hv },
      int32_inverts.keeps fun _ _ hv hp => { hp with y := hv },
      int32_inverts.keeps fun _ _ hv hp => { hp with w := hv },
      int32_inverts.keeps fun _ _ hv hp => { hp with h := hv },
      int32_inverts.keeps fun _ _ hv hp => { hp with scale := hv },
      boolean_inverts.keeps fun _ _ _ hp => { hp with },
      uint32_inverts.keeps fun _ _ _ hp => { hp with }, List.forall_mem_nil _⟩

end Placement

/-- Alternatives whose names are told apart. -/
theorem Json.Choice.inverts {α : Type} [DecidableEq α] {c : Choice α}
    (h : ∀ a, c.find (nameIn c a) = .ok a) :
    c.decoder.Inverts (fun a => .text (nameIn c a)) fun _ => True where
  legible _ := trivial
  decode := by
    intro a _ src
    cases src <;> exact h a
  holds _ := trivial

theorem WorkMode.inverts : WorkMode.choice.decoder.Inverts WorkMode.toJson fun _ => True :=
  Choice.inverts fun m => by cases m <;> rfl

theorem WindowState.inverts :
    WindowState.choice.decoder.Inverts WindowState.toJson fun _ => True :=
  Choice.inverts fun s => by cases s <;> rfl

theorem TrayActivation.inverts :
    TrayActivation.choice.decoder.Inverts TrayActivation.toJson fun _ => True :=
  Choice.inverts fun a => by cases a <;> rfl

theorem WorkMode.finds : WorkMode.choice.decoder.Finds WorkMode.toJson fun _ => True :=
  WorkMode.inverts.finds fun _ _ hx => hx

theorem WindowState.finds : WindowState.choice.decoder.Finds WindowState.toJson fun _ => True :=
  WindowState.inverts.finds fun _ _ hx => hx

theorem TrayActivation.finds :
    TrayActivation.choice.decoder.Finds TrayActivation.toJson fun _ => True :=
  TrayActivation.inverts.finds fun _ _ hx => hx

namespace Settings

theorem distinct (s : Settings) : s.toJson.Distinct :=
  ⟨by simp, s.placement.distinct, trivial, trivial, trivial⟩

/-- The fields of the settings that are listed, and of their record those in `inner`. -/
def kept (s : Settings) (inner names : List String) : Settings where
  placement := if "window_position" ∈ names then s.placement.kept inner else initial.placement
  workMode := if "work_mode" ∈ names then s.workMode else initial.workMode
  nativeFrame := if "native_window_frame" ∈ names then s.nativeFrame else initial.nativeFrame

/-- The members of the settings; that of the record lists the members in `inner`. -/
def slots (s : Settings) (inner : List String) : List Slot := [
  ("window_position", s.placement.toJson.Lists inner), ("work_mode", s.workMode.toJson.Holds),
  ("native_window_frame", (Json.boolean s.nativeFrame).Holds)]

/-- Whether a tree is an object that lists these members of the settings. -/
def ListedIn (s : Settings) (inner names : List String) (x : Fragment) : Prop :=
  ∃ ms, x = .object ms ∧ Listed (s.slots inner) ms names

theorem decoder_listed {s : Settings} (hs : s.placement.Fits) {inner names : List String}
    {src : Source} {x : Fragment} (hx : x.skippable) (h : s.ListedIn inner names x) :
    shape.decoder src x = .ok (s.kept inner names) := by
  obtain ⟨ms, rfl, hms⟩ := h
  have hplacement (x : Fragment) (hx : x.skippable) (h : s.placement.toJson.Lists inner x)
      (names : List String) : (Field.of "window_position" .defaulted Placement.shape.decoder
        fun v s => { s with placement := v }).read src x (s.kept inner names) =
      .ok (s.kept inner ("window_position" :: names)) := by
    change (fun v => { s.kept inner names with placement := v }) <$> _ = _
    rw [Placement.decoder_lists hs hx h]
    simp [kept, Functor.map, Except.map]
  refine Shape.decoder_partial ?_ (by decide) rfl ?_ hms hx (by decide)
  · exact .cons hplacement <|
      .cons (WorkMode.finds.read trivial (by simp [kept])) <|
      .cons (boolean_finds.read trivial (by simp [kept])) .nil
  · simp [kept]

theorem finds : shape.decoder.Finds toJson fun s => s.placement.Fits := by
  intro s hs src x hx h
  have hplacement : s.placement.kept (Placement.shape.fields.map (·.name)) = s.placement := by
    simp [Placement.kept, Placement.shape, Field.of]
  refine Shape.decoder_holds (s.kept (Placement.shape.fields.map (·.name))) ?_ (by decide) rfl ?_ ?_
    hx h
  · exact .cons (Placement.finds.read hs (by simp [kept, hplacement])) <|
      .cons (WorkMode.finds.read trivial (by simp [kept])) <|
      .cons (boolean_finds.read trivial (by simp [kept])) .nil
  · simp [kept]
  · intro names hall
    simp_all [kept]

theorem inverts : shape.decoder.Inverts toJson fun s => s.placement.Fits := by
  refine finds.inverts ?_ distinct
    (Shape.decoder_keeps (P := fun s : Settings => s.placement.Fits) Placement.fits_empty ?_)
  · exact fun hs => ⟨Placement.inverts.legible hs, trivial, trivial, trivial⟩
  · simp only [shape, List.forall_mem_cons]
    exact ⟨Placement.inverts.keeps fun _ _ hv _ => hv, WorkMode.inverts.keeps fun _ _ _ hs => hs,
      boolean_inverts.keeps fun _ _ _ hs => hs, List.forall_mem_nil _⟩

/-- Settings of 32-bit numbers are read back from their text. -/
theorem ofText_toText {s : Settings} (hs : s.placement.Fits) : ofText s.toText = .ok s :=
  inverts.readsBack.pretty s hs

/-- Settings read from a text are of 32-bit numbers. -/
theorem fits_of_ofText {t : String} {s : Settings} (h : ofText t = .ok s) : s.placement.Fits :=
  inverts.holds_text h

theorem length_write {s : Settings} (hs : s.placement.Fits) :
    (s.toJson.write .indented 0).length ≤ 1000 := by
  have hint {n : Int} (hn : Fits32 n) : (writeInteger n).length ≤ 11 := by
    obtain ⟨hleast, hgreatest⟩ := hn
    unfold int32Min at hleast
    unfold int32Max at hgreatest
    exact length_writeInteger (by omega)
  have hx := hint hs.x
  have hy := hint hs.y
  have hw := hint hs.w
  have hh := hint hs.h
  have hscale := hint hs.scale
  have hmonitor : (writeInteger s.placement.monitor.toNat).length ≤ 11 := by
    have hlt := s.placement.monitor.toNat_lt
    exact length_writeInteger (by omega)
  have hmaximized : ((Json.boolean s.placement.maximized).write .indented 2).length ≤ 5 := by
    cases s.placement.maximized <;> decide
  have hframe : ((Json.boolean s.nativeFrame).write .indented 1).length ≤ 5 := by
    cases s.nativeFrame <;> decide
  have hmode : (writeText (nameIn WorkMode.choice s.workMode)).length ≤ 17 := by
    cases s.workMode <;> decide
  have hkeys : ∀ k ∈ ["window_position", "x", "y", "w", "h", "scale", "maximized",
      "monitor_checksum", "work_mode", "native_window_frame"], (writeText k).length ≤ 21 := by
    decide
  have hline : ∀ depth ≤ 2, (Spacing.indented.line depth).length ≤ 5 := by
    decide
  have hcolon : Spacing.indented.colon.length = 1 := rfl
  simp only [List.forall_mem_cons] at hkeys
  have hline₀ := hline 0 (by decide)
  have hline₁ := hline 1 (by decide)
  have hline₂ := hline 2 (by decide)
  simp only [toJson, Placement.toJson, WorkMode.toJson, write, writeMembers, List.length_append,
    List.length_cons, List.length_nil, Nat.zero_add, Nat.reduceAdd, hcolon]
  omega

/-- The settings file is far from the largest one that is read. -/
theorem utf8ByteSize_toText {s : Settings} (hs : s.placement.Fits) :
    s.toText.utf8ByteSize ≤ 4000 := by
  have hsize (cs : List Char) : (String.ofList cs).utf8ByteSize ≤ 4 * cs.length := by
    induction cs with
    | nil => decide
    | cons c cs ih =>
      have hc := c.utf8Size_le_four
      rw [String.ofList_cons, String.utf8ByteSize_append, String.utf8ByteSize_singleton,
        List.length_cons]
      omega
  have hlength := length_write hs
  have htext := hsize (s.toJson.write .indented 0)
  rw [toText, Json.pretty]
  omega

end Settings

end WindowKeeper
