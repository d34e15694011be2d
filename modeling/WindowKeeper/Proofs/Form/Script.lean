import WindowKeeper.Form.Script
import WindowKeeper.Proofs.Form.Geometry
import WindowKeeper.Proofs.Form.Settings

namespace WindowKeeper

open Json Decoder

namespace Script.Step

/-- A step whose numbers are of the sizes that are read. -/
def Fits : Script.Step → Prop
  | .move x y => Fits32 x ∧ Fits32 y
  | .resize w h => Fits32 w ∧ Fits32 h
  | .monitors ms => ∀ m ∈ ms, m.Fits
  | .unread n => n ≤ 4294967295
  | .rightColumn width => ∀ w ∈ width, Fits32 w
  | .wait ms => ms ≤ 18446744073709551615
  | _ => True

/-- A width, or null for none. -/
def writeWidth : Option Int → Json
  | none => .null
  | some w => .integer w

theorem width_inverts :
    (nullable int32).Inverts writeWidth fun width => ∀ w ∈ width, Fits32 w where
  legible := by
    intro width hwidth
    cases width with
    | none => trivial
    | some w => exact int32_inverts.legible (hwidth w rfl)
  decode := by
    intro width hwidth src
    cases width with
    | none => rfl
    | some w =>
      change some <$> int32 src (Json.integer w).fragment = _
      rw [int32_inverts.decode (hwidth w rfl) src]
      rfl
  holds := by
    intro src x width h
    unfold nullable at h
    split at h
    · cases h
      simp
    · rw [map_eq_ok] at h
      obtain ⟨v, hv, rfl⟩ := h
      rintro w ⟨⟩
      exact int32_inverts.holds hv

theorem width_finds : (nullable int32).Finds writeWidth fun width => ∀ w ∈ width, Fits32 w :=
  width_inverts.finds fun width _ h => by cases width <;> exact h

theorem single_holds {α : Type} {d : Decoder α} {write : α → Json} {P : α → Prop} {blank a : α}
    {title name : String} {presence : Presence} {src : Source} {x : Fragment}
    (h : d.Inverts write P) (hblank : P blank)
    (ha : (singleShape title name presence d blank).decoder src x = .ok a) : P a := by
  refine Shape.decoder_keeps hblank ?_ ha
  simp only [singleShape, List.forall_mem_cons]
  exact ⟨h.keeps fun _ _ hv _ => hv, List.forall_mem_nil _⟩

theorem pair_holds {title first second : String} {src : Source} {x : Fragment} {p : Int × Int}
    (h : (pairShape title first second).decoder src x = .ok p) : Fits32 p.1 ∧ Fits32 p.2 := by
  refine Shape.decoder_keeps (P := fun p => Fits32 p.1 ∧ Fits32 p.2) ⟨fits32_zero, fits32_zero⟩ ?_ h
  simp only [pairShape, List.forall_mem_cons]
  exact ⟨int32_inverts.keeps fun _ _ hv hp => ⟨hv, hp.2⟩,
    int32_inverts.keeps fun _ _ hv hp => ⟨hp.1, hv⟩, List.forall_mem_nil _⟩

/-- A step with a single field is decoded from whatever holds it. -/
theorem single_finds {α : Type} {d : Decoder α} {write : α → Json} {P : α → Prop}
    (h : d.Finds write P) (title name : String) (presence : Presence) (blank : α) :
    (singleShape title name presence d blank).decoder.Finds (fun a => .object [(name, write a)])
      P := by
  intro a ha src x hx hholds
  refine Shape.decoder_holds (fun names => if name ∈ names then a else blank) ?_
    (by simp [singleShape]) rfl ?_ ?_ hx hholds
  · exact .cons (h.read ha (by simp)) .nil
  · simp
  · intro names hall
    simp_all

/-- A step with two numbers is decoded from whatever holds it. -/
theorem pair_finds {first second : String} (hne : first ≠ second) (title : String) :
    (pairShape title first second).decoder.Finds
      (fun p => .object [(first, .integer p.1), (second, .integer p.2)])
      fun p => Fits32 p.1 ∧ Fits32 p.2 := by
  intro p hp src x hx h
  refine Shape.decoder_holds (fun names =>
    (if first ∈ names then p.1 else 0, if second ∈ names then p.2 else 0)) ?_
    (by simpa [pairShape, Field.of] using hne) rfl ?_ ?_ hx h
  · exact .cons (int32_finds.read hp.1 (by simp [hne.symm])) <|
      .cons (int32_finds.read hp.2 (by simp [hne])) .nil
  · simp
  · intro names hall
    simp_all

/-- A step is written as the record of its kind, and made of whatever holds its fields. -/
structure Found (step : Script.Step) (kind : Kind) (fields : List (String × Json)) : Prop where
  json : step.toJson = record kind fields
  untagged : ∀ f ∈ fields, f.1 ≠ "type"
  made : ∀ x, x.skippable → (Json.object fields).Holds x → ofFields x kind = .ok step

theorem found_single {β : Type} {d : Decoder β} {write : β → Json} {P : β → Prop}
    {title name : String} {presence : Presence} {blank b : β} (kind : Kind)
    (make : β → Script.Step) (h : d.Finds write P) (hb : P b)
    (hkind : ∀ x, ofFields x kind =
      make <$> (singleShape title name presence d blank).decoder .buffered x)
    (hjson : (make b).toJson = record kind [(name, write b)]) (hname : name ≠ "type") :
    ∃ kind fields, (make b).Found kind fields := by
  refine ⟨kind, _, hjson, by simpa using hname, fun x hx hholds => ?_⟩
  rw [hkind, single_finds h title name presence blank b hb .buffered x hx hholds]
  rfl

theorem found_pair {title first second : String} {x y : Int} (kind : Kind)
    (make : Int × Int → Script.Step) (hx : Fits32 x) (hy : Fits32 y)
    (hkind : ∀ x, ofFields x kind = make <$> (pairShape title first second).decoder .buffered x)
    (hjson : (make (x, y)).toJson = record kind [(first, .integer x), (second, .integer y)])
    (hfirst : first ≠ "type") (hsecond : second ≠ "type") (hne : first ≠ second) :
    ∃ kind fields, (make (x, y)).Found kind fields := by
  refine ⟨kind, _, hjson, by simpa using ⟨hfirst, hsecond⟩, fun z hz hholds => ?_⟩
  rw [hkind, pair_finds hne title (x, y) ⟨hx, hy⟩ .buffered z hz hholds]
  rfl

/-- The steps without fields are made of any object. -/
theorem made_noFields (step : Script.Step) (x : Fragment) (h : (Json.object []).Holds x) :
    (fun _ => step) <$> noFields x = .ok step := by
  obtain ⟨ms, names, rfl, -, -⟩ := h
  rfl

theorem found {step : Script.Step} (h : step.Fits) : ∃ kind fields, step.Found kind fields := by
  cases step with
  | move x y =>
    exact found_pair .move (fun p => .move p.1 p.2) h.1 h.2 (fun _ => rfl) rfl (by decide)
      (by decide) (by decide)
  | resize w height =>
    exact found_pair .resize (fun p => .resize p.1 p.2) h.1 h.2 (fun _ => rfl) rfl (by decide)
      (by decide) (by decide)
  | state s =>
    exact found_single .state .state WindowState.finds trivial (fun _ => rfl) rfl (by decide)
  | visible b =>
    exact found_single .visible .visible boolean_finds trivial (fun _ => rfl) rfl (by decide)
  | focus b => exact found_single .focus .focus boolean_finds trivial (fun _ => rfl) rfl (by decide)
  | monitors ms =>
    exact found_single .monitors .monitors (list_finds Monitor.finds) h (fun _ => rfl) rfl
      (by decide)
  | placed => exact ⟨.placed, [], rfl, by simp, fun x _ => made_noFields .placed x⟩
  | tray a =>
    exact found_single .tray .tray TrayActivation.finds trivial (fun _ => rfl) rfl (by decide)
  | unread n => exact found_single .unread .unread uint32_finds h (fun _ => rfl) rfl (by decide)
  | workMode m =>
    exact found_single .workMode .workMode WorkMode.finds trivial (fun _ => rfl) rfl (by decide)
  | nativeFrame b =>
    exact found_single .nativeFrame .nativeFrame boolean_finds trivial (fun _ => rfl) rfl
      (by decide)
  | rightColumn width =>
    have hjson : (rightColumn width).toJson =
        record .rightColumn [("width", writeWidth width)] := by
      cases width <;> rfl
    exact found_single .rightColumn .rightColumn width_finds h (fun _ => rfl) hjson (by decide)
  | close => exact ⟨.close, [], rfl, by simp, fun x _ => made_noFields .close x⟩
  | wait ms => exact found_single .wait .wait uint64_finds h (fun _ => rfl) rfl (by decide)

theorem find_kind (kind : Kind) : Kind.choice.find (nameIn Kind.choice kind) = .ok kind := by
  cases kind <;> rfl

theorem split_other {k : String} (hk : k ≠ "type") {x : Fragment} (hx : x.storable room)
    {ms rest : Members} {before kind : Option Kind} (h : split ms before = .ok (kind, rest)) :
    split (.more (some k) x ms) before = .ok (kind, .more (some k) x rest) := by
  simp only [split, if_neg hk, if_pos hx, h]
  rfl

/-- Wherever the tag of a step stands, it is found, and the other members are left as they are. -/
theorem split_listed {kind : Kind} {fields : List (String × Json)}
    (hfields : ∀ f ∈ fields, f.1 ≠ "type") {ms : Members} {names : List String}
    (h : Listed (slots (("type", .text (nameIn Kind.choice kind)) :: fields)) ms names)
    (hms : ms.storable room) :
    ("type" ∉ names → Listed (slots fields) ms names ∧
      ∀ k, split ms (some k) = .ok (some k, ms)) ∧
    ("type" ∈ names → ∃ rest, split ms none = .ok (some kind, rest) ∧
      Listed (slots fields) rest (names.erase "type") ∧ rest.storable room) := by
  induction h with
  | closed => exact ⟨fun _ => ⟨.closed, fun _ => rfl⟩, by simp⟩
  | @known k p x ms names hslot hx hk h ih =>
    simp only [Members.storable, Bool.and_eq_true] at hms
    obtain ⟨huntagged, htagged⟩ := ih hms.2
    rcases List.mem_cons.mp hslot with heq | hslot
    · cases heq
      refine ⟨by simp, fun _ => ⟨ms, ?_, ?_, hms.2⟩⟩
      · obtain rfl : x = .text (some (nameIn Kind.choice kind)) := hx
        have hkind : Kind.choice.identifier .streamed (.text (some (nameIn Kind.choice kind))) =
            .ok kind := find_kind kind
        simp only [split, if_true, hkind, bind, Except.bind, (huntagged hk).2]
      · rw [List.erase_cons_head]
        exact (huntagged hk).1
    · have hne : k ≠ "type" := by
        have hname : k ∈ (slots fields).map (·.1) := List.mem_map_of_mem hslot
        rw [Shape.slots_names] at hname
        obtain ⟨f, hf, rfl⟩ := List.mem_map.mp hname
        exact hfields f hf
      refine ⟨fun htype => ?_, fun htype => ?_⟩
      · obtain ⟨hlisted, hsplit⟩ := huntagged fun hmem => htype (List.mem_cons_of_mem _ hmem)
        exact ⟨.known hslot hx hk hlisted, fun l => split_other hne hms.1.2 (hsplit l)⟩
      · obtain ⟨rest, hsplit, hlisted, hrest⟩ := htagged (List.mem_of_ne_of_mem hne.symm htype)
        refine ⟨.more (some k) x rest, split_other hne hms.1.2 hsplit, ?_, ?_⟩
        · rw [List.erase_cons_tail (by simpa using hne)]
          exact .known hslot hx (fun hmem => hk (List.mem_of_mem_erase hmem)) hlisted
        · simp [Members.storable, hms.1.2, hrest]
  | @unknown k ms names x hk h ih =>
    simp only [Members.storable, Bool.and_eq_true] at hms
    obtain ⟨huntagged, htagged⟩ := ih hms.2
    obtain ⟨hne, hk⟩ : k ≠ "type" ∧ k ∉ (slots fields).map (·.1) := by
      simpa [slots] using hk
    refine ⟨fun htype => ?_, fun htype => ?_⟩
    · obtain ⟨hlisted, hsplit⟩ := huntagged htype
      exact ⟨.unknown x hk hlisted, fun l => split_other hne hms.1.2 (hsplit l)⟩
    · obtain ⟨rest, hsplit, hlisted, hrest⟩ := htagged htype
      exact ⟨.more (some k) x rest, split_other hne hms.1.2 hsplit, .unknown x hk hlisted,
        by simp [Members.storable, hms.1.2, hrest]⟩

/-- A step is decoded from whatever holds it, if there is room to store its members. -/
theorem decoder_holds {step : Script.Step} (hstep : step.Fits) {x : Fragment} {src : Source}
    (hx : x.storable (room + 1)) (h : step.toJson.Holds x) : decoder src x = .ok step := by
  obtain ⟨kind, fields, hfound⟩ := found hstep
  rw [hfound.json] at h
  obtain ⟨ms, names, rfl, hlisted, hall⟩ := h
  obtain ⟨htag, hall⟩ := List.forall_mem_cons.mp hall
  simp only [Fragment.storable, Bool.and_eq_true, Nat.add_sub_cancel] at hx
  obtain ⟨rest, hsplit, hrest, hroom⟩ := (split_listed hfound.untagged hlisted hx.2).2 htag
  have hmade : ofFields (.object rest) kind = .ok step := by
    refine hfound.made _ (Members.skippable_of_storable hroom) ⟨rest, _, rfl, hrest, fun f hf => ?_⟩
    exact (List.mem_erase_of_ne (hfound.untagged f hf)).mpr (hall f hf)
  simp only [decoder, hsplit, bind, Except.bind, hmade]

theorem storable_elements {n : Nat} {xs : List Json} (h : ∀ x ∈ xs, x.fragment.storable n) :
    (Json.elements xs).storable n := by
  induction xs with
  | nil => rfl
  | cons x xs ih =>
    obtain ⟨hx, h⟩ := List.forall_mem_cons.mp h
    rw [Json.elements, Elements.storable, hx, ih h]
    rfl

/-- The monitors of a desktop take three brackets inside one another. -/
theorem storable_monitors (ms : List Monitor) : (Monitor.listJson ms).fragment.storable room := by
  have hmonitors : ∀ x ∈ ms.map Monitor.toJson, x.fragment.storable 124 := by
    intro x hx
    obtain ⟨m, -, rfl⟩ := List.mem_map.mp hx
    rfl
  exact storable_elements hmonitors

/-- The steps that are decoded from any fields have numbers of the sizes that are read. -/
theorem fits_of_fields {x : Fragment} {kind : Kind} {step : Script.Step}
    (h : ofFields x kind = .ok step) : step.Fits := by
  cases kind <;> simp only [ofFields, map_eq_ok] at h <;> obtain ⟨v, hv, rfl⟩ := h
  case move | resize => exact pair_holds hv
  case monitors =>
    have hfits := single_holds Monitor.list_inverts (List.forall_mem_nil _) hv
    exact hfits
  case unread =>
    have hfits := single_holds uint32_inverts (Nat.zero_le _) hv
    exact hfits
  case rightColumn =>
    have hfits := single_holds width_inverts (by simp) hv
    exact hfits
  case wait =>
    have hfits := single_holds uint64_inverts (Nat.zero_le _) hv
    exact hfits
  all_goals trivial

theorem storable_fragment (step : Script.Step) : step.toJson.fragment.storable (room + 1) := by
  cases step with
  | monitors ms =>
    have hms := storable_monitors ms
    simp [toJson, record, fragment, members, Fragment.storable, Members.storable, hms]
  | rightColumn width => cases width <;> rfl
  | _ => rfl

theorem distinct (step : Script.Step) : step.toJson.Distinct := by
  cases step with
  | monitors ms => exact ⟨by simp, trivial, distinct_elements Monitor.distinct ms, trivial⟩
  | rightColumn width => cases width <;> exact ⟨by simp, trivial, trivial, trivial⟩
  | move | resize => exact ⟨by simp, trivial, trivial, trivial, trivial⟩
  | placed | close => exact ⟨by simp, trivial, trivial⟩
  | _ => exact ⟨by simp, trivial, trivial, trivial⟩

theorem legible {step : Script.Step} (h : step.Fits) : step.toJson.Legible := by
  cases step with
  | move | resize =>
    exact ⟨trivial, int32_inverts.legible h.1, int32_inverts.legible h.2, trivial⟩
  | monitors ms => exact ⟨trivial, Monitor.list_inverts.legible h, trivial⟩
  | unread n => exact ⟨trivial, uint32_inverts.legible h, trivial⟩
  | rightColumn width => cases width <;> exact ⟨trivial, width_inverts.legible h, trivial⟩
  | placed | close => exact ⟨trivial, trivial⟩
  | wait ms => exact ⟨trivial, uint64_inverts.legible h, trivial⟩
  | _ => exact ⟨trivial, trivial, trivial⟩

theorem inverts : decoder.Inverts toJson Fits where
  legible := legible
  decode {step} h _ := decoder_holds h (storable_fragment step) (holds_fragment _ step.distinct)
  holds := by
    intro src x step h
    unfold decoder at h
    split at h
    · rw [bind_eq_ok] at h
      obtain ⟨⟨kind, fields⟩, -, h⟩ := h
      cases kind with
      | none => cases h
      | some kind => exact fits_of_fields h
    · cases h
    · cases h
    · rw [bind_eq_ok] at h
      obtain ⟨kind, -, h⟩ := h
      split at h
      · exact fits_of_fields h
      · cases h
    · cases h

end Script.Step

theorem Script.inverts : Script.decoder.Inverts Script.toJson fun s => ∀ step ∈ s, step.Fits :=
  list_inverts Script.Step.inverts

end WindowKeeper
