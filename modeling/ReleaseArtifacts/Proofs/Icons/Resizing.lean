import ReleaseArtifacts.Icons.Resize
import ReleaseArtifacts.Proofs.Png.RoundTrip

namespace ReleaseArtifacts

/-!
# Resizing icons

Icons of several sizes are made all or not at all, and each of them shows the master icon in its
own size.

* `decodePicture_image` — an image that was written is read back.
* `iconOf`, `mapM_resizeIcon_eq_ok` — the icons of sizes that are not zero.
* `mapM_resizeIcon_eq_error` — size zero spoils all of them.
* `resizeIcons_eq_error` — what is refused, and how.
* `Icon.Shows` — what an icon shows.
* `resizeIcons_complete` — when there are icons, which fault there is otherwise, and what the icons
  show.
-/

variable {origin : String} {source : Bytes} {master : Picture} {sizes : List Nat} {fault : Fault}

/-! ### Single icons -/

/-- **An image that was written is read back.** -/
theorem decodePicture_image {width height : Nat} (h : Png.IsReadable width height)
    (r : Raster width height) : decodePicture (Png.image r) = .ok ⟨width, height, r⟩ := by
  have hformat : ImageFormat.ofBytes? (Png.image r) = some .png :=
    Png.image_eq r ▸ ImageFormat.ofBytes?_signature _
  rw [decodePicture, hformat]
  dsimp only
  rw [Png.decode_image h r]

/-- The icon of a size that is not zero. -/
def iconOf (master : Picture) (size : Nat) : Icon :=
  ⟨size, Png.image (master.raster.resample size size)⟩

theorem resizeIcon_eq_ok (master : Picture) {size : Nat} (h : size ≠ 0) :
    resizeIcon master size = .ok (iconOf master size) := by
  rw [resizeIcon, Png.encode, if_neg h, if_neg h]
  rfl

theorem resizeIcon_zero (master : Picture) : resizeIcon master 0 = .error .width := rfl

/-! ### Several icons -/

theorem mapM_resizeIcon_eq_ok (master : Picture) (h : 0 ∉ sizes) :
    sizes.mapM (resizeIcon master) = .ok (sizes.map (iconOf master)) := by
  induction sizes with
  | nil => rfl
  | cons size sizes ih =>
    rw [List.mem_cons, not_or] at h
    obtain ⟨hsize, hsizes⟩ := h
    rw [List.mapM_cons, resizeIcon_eq_ok master (Ne.symm hsize), ih hsizes]
    rfl

/-- **Size zero spoils all icons**, wherever it stands. -/
theorem mapM_resizeIcon_eq_error (master : Picture) (h : 0 ∈ sizes) :
    sizes.mapM (resizeIcon master) = .error .width := by
  induction sizes with
  | nil => exact absurd h List.not_mem_nil
  | cons size sizes ih =>
    -- Icons before the first zero are made, but not kept.
    rw [List.mapM_cons]
    by_cases hsize : size = 0
    · subst hsize
      rw [resizeIcon_zero]
      rfl
    · rw [resizeIcon_eq_ok master hsize,
        ih ((List.mem_cons.mp h).resolve_left (Ne.symm hsize))]
      rfl

/-! ### The resizer -/

theorem resizeIcons_of_error {cause : PictureFault} (h : decodePicture source = .error cause)
    (origin : String) (sizes : List Nat) :
    resizeIcons origin source sizes = .error (.image origin cause.message) := by
  rw [resizeIcons, h]

theorem resizeIcons_of_zero (h : decodePicture source = .ok master) (hzero : 0 ∈ sizes)
    (origin : String) :
    resizeIcons origin source sizes = .error (.image origin Png.EmptySide.width.message) := by
  rw [resizeIcons, h]
  dsimp only
  rw [mapM_resizeIcon_eq_error master hzero]
  rfl

theorem resizeIcons_of_ok (h : decodePicture source = .ok master) (hzero : 0 ∉ sizes)
    (origin : String) : resizeIcons origin source sizes = .ok (sizes.map (iconOf master)) := by
  rw [resizeIcons, h]
  dsimp only
  rw [mapM_resizeIcon_eq_ok master hzero]
  rfl

/-- **What is refused** is what cannot be decoded, and size zero. -/
theorem resizeIcons_eq_error (h : resizeIcons origin source sizes = .error fault) :
    (∃ cause, decodePicture source = .error cause ∧ fault = .image origin cause.message) ∨
      (∃ master, decodePicture source = .ok master) ∧ 0 ∈ sizes ∧
        fault = .image origin Png.EmptySide.width.message := by
  cases hsource : decodePicture source with
  | error cause =>
    exact .inl ⟨cause, rfl, Except.error.inj (h.symm.trans (resizeIcons_of_error hsource ..))⟩
  | ok master =>
    by_cases hzero : 0 ∈ sizes
    · exact .inr ⟨⟨master, rfl⟩, hzero,
        Except.error.inj (h.symm.trans (resizeIcons_of_zero hsource hzero origin))⟩
    · exact nomatch h.symm.trans (resizeIcons_of_ok hsource hzero origin)

theorem resizeIcons_eq_error_iff (h : 0 ∉ sizes) :
    resizeIcons origin source sizes = .error fault ↔
      ∃ cause, decodePicture source = .error cause ∧ fault = .image origin cause.message := by
  constructor
  · exact fun hfault => (resizeIcons_eq_error hfault).resolve_right fun hother => h hother.2.1
  · rintro ⟨cause, hcause, rfl⟩
    exact resizeIcons_of_error hcause origin sizes

/-! ### What icons show -/

/-- An icon shows the raster that its image is decoded to. -/
structure Icon.Shows (icon : Icon) (r : Raster icon.size icon.size) : Prop where
  /-- the image is recognised, and its picture is that raster -/
  picture : decodePicture icon.image = .ok ⟨icon.size, icon.size, r⟩
  /-- the image has four channels of eight bits -/
  layout : ∃ decoded, Png.decode icon.image = .ok decoded ∧ decoded.layout.name = "Rgba8" ∧
    decoded.picture = ⟨icon.size, icon.size, r⟩

theorem iconOf_shows (master : Picture) {size : Nat} (h : size ≠ 0) (hsize : size ≤ 4096) :
    (iconOf master size).Shows (master.raster.resample size size) :=
  have hreadable := Png.IsReadable.of_square h hsize
  ⟨decodePicture_image hreadable _, _, Png.decode_image hreadable _, Png.name_plainLayout, rfl⟩

/-- **Icons are made for all sizes or for none.**  There is none if the master icon cannot be
    decoded, which is reported first, or if some size is zero; the fault names the origin.
    Otherwise there is one for each size, in order, and it shows the master icon in that size. -/
theorem resizeIcons_complete (origin : String) (source : Bytes) (sizes : List Nat)
    (hsizes : ∀ size ∈ sizes, size ≤ 4096) :
    ((∃ fault, resizeIcons origin source sizes = .error fault) ↔
      (∃ cause, decodePicture source = .error cause) ∨ 0 ∈ sizes) ∧
    (∀ fault, resizeIcons origin source sizes = .error fault →
      ∃ details, fault = .image origin details) ∧
    (∀ cause, decodePicture source = .error cause →
      resizeIcons origin source sizes = .error (.image origin cause.message)) ∧
    (∀ master, decodePicture source = .ok master → 0 ∈ sizes →
      resizeIcons origin source sizes = .error (.image origin Png.EmptySide.width.message)) ∧
    ∀ master, decodePicture source = .ok master → 0 ∉ sizes →
      ∃ icons, resizeIcons origin source sizes = .ok icons ∧ icons.map Icon.size = sizes ∧
        ∀ icon ∈ icons, icon.Shows (master.raster.resample icon.size icon.size) := by
  refine ⟨?_, fun fault hfault => ?_, fun cause hcause => resizeIcons_of_error hcause origin sizes,
    fun master hmaster hzero => resizeIcons_of_zero hmaster hzero origin,
    fun master hmaster hzero => ⟨_, resizeIcons_of_ok hmaster hzero origin, ?_, ?_⟩⟩
  · constructor
    · rintro ⟨fault, hfault⟩
      rcases resizeIcons_eq_error hfault with ⟨cause, hcause, -⟩ | ⟨-, hzero, -⟩
      · exact .inl ⟨cause, hcause⟩
      · exact .inr hzero
    · rintro (⟨cause, hcause⟩ | hzero)
      · exact ⟨_, resizeIcons_of_error hcause origin sizes⟩
      · cases hsource : decodePicture source with
        | error cause => exact ⟨_, resizeIcons_of_error hsource origin sizes⟩
        | ok master => exact ⟨_, resizeIcons_of_zero hsource hzero origin⟩
  · rcases resizeIcons_eq_error hfault with ⟨cause, -, rfl⟩ | ⟨-, -, rfl⟩ <;> exact ⟨_, rfl⟩
  · rw [List.map_map]
    exact List.map_id sizes
  · intro icon hicon
    obtain ⟨size, hsize, rfl⟩ := List.mem_map.mp hicon
    exact iconOf_shows master (fun heq => hzero (heq ▸ hsize)) (hsizes size hsize)

/-- A picture of one pixel. -/
def dot : Raster 1 1 := .build 1 1 fun _ _ => ⟨255, 128, 0, 64⟩

theorem decodePicture_dot : decodePicture (Png.image dot) = .ok ⟨1, 1, dot⟩ :=
  decodePicture_image (.of_square (by decide) (by decide)) dot

/-- Two sizes of a picture of one pixel, one of them twice, and size zero after a good one. -/
theorem resizeIcons_complete_dot :
    (∃ icons, resizeIcons "icon.png" (Png.image dot) [2, 1, 2] = .ok icons ∧
      icons.map Icon.size = [2, 1, 2] ∧
      ∀ icon ∈ icons, icon.Shows (dot.resample icon.size icon.size)) ∧
    resizeIcons "icon.png" (Png.image dot) [2, 0] =
      .error (.image "icon.png" "Zero width not allowed") :=
  ⟨(resizeIcons_complete "icon.png" (Png.image dot) [2, 1, 2] (by decide)).2.2.2.2 ⟨1, 1, dot⟩
      decodePicture_dot (by decide),
    (resizeIcons_complete "icon.png" (Png.image dot) [2, 0] (by decide)).2.2.2.1 ⟨1, 1, dot⟩
      decodePicture_dot (by decide)⟩

end ReleaseArtifacts
