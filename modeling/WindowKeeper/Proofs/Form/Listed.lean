import WindowKeeper.Proofs.Form.Config
import WindowKeeper.Proofs.Form.Script
import WindowKeeper.Proofs.Json.Listed
import WindowKeeper.Proofs.Json.Parsed

namespace WindowKeeper

open Json Decoder

theorem Script.decoder_holds {script : Script} (hscript : ∀ step ∈ script, step.Fits)
    {x : Fragment} {src : Source} (hx : x.storable 127) (h : script.toJson.Holds x) :
    decoder src x = .ok script := by
  obtain ⟨es, rfl, hes⟩ := h
  simp only [Fragment.storable, Bool.and_eq_true] at hx
  exact elements_found (fun step hstep x hroom => Step.decoder_holds (hscript step hstep) hroom)
    (Elements.each_storable hx.2) hes

end WindowKeeper
