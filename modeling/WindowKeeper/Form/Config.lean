import WindowKeeper.Form.Geometry
import WindowKeeper.Config

namespace WindowKeeper

open Json

def Config.shape : Shape Config where
  title := "struct ShellConfig"
  blank := .initial
  fields := [
    .of "app_name" .defaulted Decoder.text fun v c => { c with appName := v },
    .of "working_dir" .defaulted Decoder.path fun v c => { c with workingDir := v },
    .of "assets_dir" .defaulted Decoder.path fun v c => { c with assetsDir := v },
    .of "scale_percent" .defaulted Decoder.int32 fun v c => { c with scale := v },
    .of "custom_icon_id" .defaulted Decoder.int32 fun v c => { c with iconId := v },
    .of "native_frame_supported" .defaulted Decoder.boolean fun v c =>
      { c with nativeFrameSupported := v },
    .of "third_column_by_default" .defaulted Decoder.boolean fun v c => { c with thirdColumn := v },
    .of "is_mac" .defaulted Decoder.boolean fun v c => { c with hidesOnClose := v },
    .of "min_size" .defaulted Size.shape.decoder fun v c => { c with leastSize := v },
    .of "default_size" .defaulted Size.shape.decoder fun v c => { c with usualSize := v },
    .of "big_default_size" .defaulted Size.shape.decoder fun v c => { c with bigSize := v },
    .of "outdated_bar_height" .defaulted Decoder.int32 fun v c => { c with barHeight := v },
    .of "save_position_delay_ms" .defaulted Decoder.uint64 fun v c =>
      { c with placementDelay := v },
    .of "save_settings_delay_ms" .defaulted Decoder.uint64 fun v c => { c with settingsDelay := v }]

def Config.toJson (c : Config) : Json := .object [
  ("app_name", .text c.appName), ("working_dir", .text c.workingDir),
  ("assets_dir", .text c.assetsDir), ("scale_percent", .integer c.scale),
  ("custom_icon_id", .integer c.iconId),
  ("native_frame_supported", .boolean c.nativeFrameSupported),
  ("third_column_by_default", .boolean c.thirdColumn), ("is_mac", .boolean c.hidesOnClose),
  ("min_size", c.leastSize.toJson), ("default_size", c.usualSize.toJson),
  ("big_default_size", c.bigSize.toJson), ("outdated_bar_height", .integer c.barHeight),
  ("save_position_delay_ms", .integer c.placementDelay),
  ("save_settings_delay_ms", .integer c.settingsDelay)]

def Config.ofText (t : String) : Except Fault Config := decodeText Config.shape.decoder t

end WindowKeeper
