import Mathlib.Data.List.Forall2
import ReleaseArtifacts.Proofs.Icons.Sizes
import ReleaseArtifacts.Proofs.Raster.Channels

namespace ReleaseArtifacts

/-!
# Channels of icons

Icons are made from whole pixels, but from the bytes of the master icon to those that an icon is
decoded to no channel has an effect on another one.

* `forall₂_inSize` — pictures that agree on a channel agree on it in all sizes.
* `resizeIcons_channelwise` — so do the icons that are made from them; each channel of an icon, the
  alpha channel among them, is made from the same channel of the master icon.
-/

/-- Pictures that agree on a channel agree on it in all sizes. -/
theorem forall₂_inSize {channel : Channel} {master master' : Picture}
    (h : master.AgreesOn channel master') (sizes : List Nat) :
    List.Forall₂ (Picture.AgreesOn channel) (sizes.map master.inSize)
      (sizes.map master'.inSize) := by
  rw [List.forall₂_map_left_iff, List.forall₂_map_right_iff, List.forall₂_same]
  exact fun size _ => h.resample size size

/-- **Channels do not mix.**  Two master icons of one size that agree on a channel at every pixel
    give icons that agree on it at every pixel, in all sizes and whatever is in the other channels.
    There is one rule by which every channel of an icon is made from the same channel of the master
    icon. -/
theorem resizeIcons_channelwise :
    (∀ channel source source' master master', decodePicture source = .ok master →
      decodePicture source' = .ok master' → master.AgreesOn channel master' →
      ∀ origin origin' sizes, AllSizes sizes → ∃ shown shown',
        Yields origin source sizes shown ∧ Yields origin' source' sizes shown' ∧
          List.Forall₂ (Picture.AgreesOn channel) shown shown') ∧
    ∃ rule : ∀ {width height : Nat}, Plane UInt8 width height → ∀ n, Plane UInt8 n n,
      ∀ source master, decodePicture source = .ok master → ∃ raster : ∀ n, Raster n n,
        (∀ origin sizes, AllSizes sizes →
          Yields origin source sizes (sizes.map fun n => ⟨n, n, raster n⟩)) ∧
        ∀ n channel, (raster n).plane channel = rule (master.raster.plane channel) n := by
  constructor
  · intro channel source source' master master' h h' hagrees origin origin' sizes hsizes
    exact ⟨_, _, yields_of_decodePicture h hsizes origin,
      yields_of_decodePicture h' hsizes origin', forall₂_inSize hagrees sizes⟩
  · refine ⟨fun p n => p.inSize n n, fun source master h =>
      ⟨fun n => master.raster.resample n n, fun origin sizes hsizes => ?_, fun n channel => ?_⟩⟩
    · exact yields_of_decodePicture h hsizes origin
    · exact master.raster.plane_resample n n channel

/-- A picture of one pixel that has no more than its alpha in common with the other one. -/
def inkDot : Raster 1 1 := .build 1 1 fun _ _ => ⟨0, 7, 255, 64⟩

theorem agreesOn_dot : Picture.AgreesOn .alpha ⟨1, 1, dot⟩ ⟨1, 1, inkDot⟩ := by
  rw [Picture.agreesOn_iff, dot, inkDot, Raster.plane_build, Raster.plane_build]
  rfl

/-- Two pictures of one pixel that agree on nothing but their alpha give icons that agree on it. -/
theorem resizeIcons_channelwise_dot :
    decodePicture (Png.image dot) = .ok ⟨1, 1, dot⟩ ∧
    decodePicture (Png.image inkDot) = .ok ⟨1, 1, inkDot⟩ ∧
    Picture.AgreesOn .alpha ⟨1, 1, dot⟩ ⟨1, 1, inkDot⟩ ∧
    (∀ channel, channel ≠ .alpha → ¬ Picture.AgreesOn channel ⟨1, 1, dot⟩ ⟨1, 1, inkDot⟩) ∧
    ∃ shown shown', Yields "icon.png" (Png.image dot) [2, 1] shown ∧
      Yields "ink.png" (Png.image inkDot) [2, 1] shown' ∧
      List.Forall₂ (Picture.AgreesOn .alpha) shown shown' := by
  have hdecode : decodePicture (Png.image inkDot) = .ok ⟨1, 1, inkDot⟩ :=
    decodePicture_image (.of_square (by decide) (by decide)) inkDot
  refine ⟨decodePicture_dot, hdecode, agreesOn_dot, fun channel hchannel hagrees => ?_,
    resizeIcons_channelwise.1 .alpha _ _ _ _ decodePicture_dot hdecode agreesOn_dot "icon.png"
      "ink.png" [2, 1] (by decide)⟩
  have hplanes := Picture.agreesOn_iff.mp hagrees
  rw [dot, inkDot, Raster.plane_build, Raster.plane_build] at hplanes
  revert hplanes hchannel
  cases channel <;> decide

end ReleaseArtifacts
