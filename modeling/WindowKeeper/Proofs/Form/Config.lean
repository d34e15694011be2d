import WindowKeeper.Form.Config
import WindowKeeper.Proofs.Form.Geometry

namespace WindowKeeper.Config

open Json Decoder

/-- A configuration whose numbers and delays are of 32 and 64 bits. -/
structure InRange (c : Config) : Prop where
  scale : Fits32 c.scale
  iconId : Fits32 c.iconId
  leastSize : c.leastSize.Fits
  usualSize : c.usualSize.Fits
  bigSize : c.bigSize.Fits
  barHeight : Fits32 c.barHeight
  placementDelay : c.placementDelay ≤ 18446744073709551615
  settingsDelay : c.settingsDelay ≤ 18446744073709551615

theorem inRange_initial : initial.InRange := by
  constructor
  case leastSize | usualSize | bigSize => constructor <;> decide
  all_goals decide

theorem distinct (c : Config) : c.toJson.Distinct :=
  ⟨by simp, trivial, trivial, trivial, trivial, trivial, trivial, trivial, trivial,
    c.leastSize.distinct, c.usualSize.distinct, c.bigSize.distinct, trivial, trivial, trivial,
    trivial⟩

/-- The fields of a configuration that are listed, the others being as they are initially. -/
def kept (c : Config) (names : List String) : Config where
  appName := if "app_name" ∈ names then c.appName else initial.appName
  workingDir := if "working_dir" ∈ names then c.workingDir else initial.workingDir
  assetsDir := if "assets_dir" ∈ names then c.assetsDir else initial.assetsDir
  scale := if "scale_percent" ∈ names then c.scale else initial.scale
  iconId := if "custom_icon_id" ∈ names then c.iconId else initial.iconId
  nativeFrameSupported :=
    if "native_frame_supported" ∈ names then c.nativeFrameSupported
    else initial.nativeFrameSupported
  thirdColumn := if "third_column_by_default" ∈ names then c.thirdColumn else initial.thirdColumn
  hidesOnClose := if "is_mac" ∈ names then c.hidesOnClose else initial.hidesOnClose
  leastSize := if "min_size" ∈ names then c.leastSize else initial.leastSize
  usualSize := if "default_size" ∈ names then c.usualSize else initial.usualSize
  bigSize := if "big_default_size" ∈ names then c.bigSize else initial.bigSize
  barHeight := if "outdated_bar_height" ∈ names then c.barHeight else initial.barHeight
  placementDelay :=
    if "save_position_delay_ms" ∈ names then c.placementDelay else initial.placementDelay
  settingsDelay :=
    if "save_settings_delay_ms" ∈ names then c.settingsDelay else initial.settingsDelay

theorem decoder_lists {c : Config} (hc : c.InRange) {names : List String} {src : Source}
    {x : Fragment} (hx : x.skippable) (h : c.toJson.Lists names x) :
    shape.decoder src x = .ok (c.kept names) := by
  obtain ⟨ms, rfl, hms⟩ := h
  refine Shape.decoder_partial ?_ (by decide) rfl ?_ hms hx (by decide)
  · exact .cons ((textAs_finds _).read trivial (by simp [kept])) <|
      .cons ((textAs_finds _).read trivial (by simp [kept])) <|
      .cons ((textAs_finds _).read trivial (by simp [kept])) <|
      .cons (int32_finds.read hc.scale (by simp [kept])) <|
      .cons (int32_finds.read hc.iconId (by simp [kept])) <|
      .cons (boolean_finds.read trivial (by simp [kept])) <|
      .cons (boolean_finds.read trivial (by simp [kept])) <|
      .cons (boolean_finds.read trivial (by simp [kept])) <|
      .cons (Size.finds.read hc.leastSize (by simp [kept])) <|
      .cons (Size.finds.read hc.usualSize (by simp [kept])) <|
      .cons (Size.finds.read hc.bigSize (by simp [kept])) <|
      .cons (int32_finds.read hc.barHeight (by simp [kept])) <|
      .cons (uint64_finds.read hc.placementDelay (by simp [kept])) <|
      .cons (uint64_finds.read hc.settingsDelay (by simp [kept])) .nil
  · simp [kept]

theorem finds : shape.decoder.Finds toJson InRange := by
  intro c hc src x hx h
  obtain ⟨ms, names, rfl, hlisted, hall⟩ := h
  rw [decoder_lists hc hx ⟨ms, rfl, hlisted⟩]
  simp_all [kept]

theorem inverts : shape.decoder.Inverts toJson InRange := by
  refine finds.inverts ?_ distinct (Shape.decoder_keeps inRange_initial ?_)
  · exact fun hc => ⟨trivial, trivial, trivial, int32_inverts.legible hc.scale,
      int32_inverts.legible hc.iconId, trivial, trivial, trivial,
      Size.inverts.legible hc.leastSize, Size.inverts.legible hc.usualSize,
      Size.inverts.legible hc.bigSize, int32_inverts.legible hc.barHeight,
      uint64_inverts.legible hc.placementDelay, uint64_inverts.legible hc.settingsDelay, trivial⟩
  · simp only [shape, List.forall_mem_cons]
    exact ⟨(textAs_inverts _).keeps fun _ _ _ hc => { hc with },
      (textAs_inverts _).keeps fun _ _ _ hc => { hc with },
      (textAs_inverts _).keeps fun _ _ _ hc => { hc with },
      int32_inverts.keeps fun _ _ hv hc => { hc with scale := hv },
      int32_inverts.keeps fun _ _ hv hc => { hc with iconId := hv },
      boolean_inverts.keeps fun _ _ _ hc => { hc with },
      boolean_inverts.keeps fun _ _ _ hc => { hc with },
      boolean_inverts.keeps fun _ _ _ hc => { hc with },
      Size.inverts.keeps fun _ _ hv hc => { hc with leastSize := hv },
      Size.inverts.keeps fun _ _ hv hc => { hc with usualSize := hv },
      Size.inverts.keeps fun _ _ hv hc => { hc with bigSize := hv },
      int32_inverts.keeps fun _ _ hv hc => { hc with barHeight := hv },
      uint64_inverts.keeps fun _ _ hv hc => { hc with placementDelay := hv },
      uint64_inverts.keeps fun _ _ hv hc => { hc with settingsDelay := hv },
      List.forall_mem_nil _⟩

end WindowKeeper.Config
