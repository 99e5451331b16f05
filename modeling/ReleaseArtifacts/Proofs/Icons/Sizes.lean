import ReleaseArtifacts.Proofs.Icons.Resizing

namespace ReleaseArtifacts

/-!
# Icons of several sizes

The icons of a list of sizes are made one by one: none of them depends on the others, on where the
master icon was found, or on more of the master icon than its pixels.  In its own size a square
picture stays as it is, so that an icon made from an icon shows the same picture again.

* `Yields origin source sizes shown` — the icons that a file gives are decoded to these pictures.
* `IndependentSizes source` — each icon of a file depends on its own size only.
* `resizeIcons_independent` — this holds of every file that can be decoded.  Of the file only the
  pixels count, and the origin is named in faults and has no other effect.
* `resizeIcons_native` — resizing to the size that a picture has loses nothing.
-/

variable {origin : String} {source source' : Bytes} {master : Picture} {sizes : List Nat}
  {shown shown' : List Picture}

/-- A file gives icons of these sizes, and their images are decoded to these pictures. -/
def Yields (origin : String) (source : Bytes) (sizes : List Nat) (shown : List Picture) : Prop :=
  ∃ icons, resizeIcons origin source sizes = .ok icons ∧ icons.map Icon.size = sizes ∧
    icons.map (fun icon => decodePicture icon.image) = shown.map .ok

/-- Sizes from 1 to 4096. -/
def AllSizes (sizes : List Nat) : Prop := ∀ n ∈ sizes, 1 ≤ n ∧ n ≤ 4096

instance (sizes : List Nat) : Decidable (AllSizes sizes) :=
  inferInstanceAs (Decidable (∀ n ∈ sizes, 1 ≤ n ∧ n ≤ 4096))

theorem AllSizes.zero_notMem (h : AllSizes sizes) : 0 ∉ sizes := by
  intro hzero
  exact absurd (h 0 hzero).1 (by decide)

theorem AllSizes.append {s t : List Nat} (hs : AllSizes s) (ht : AllSizes t) :
    AllSizes (s ++ t) := List.forall_mem_append.mpr ⟨hs, ht⟩

/-! ### What icons show -/

/-- A picture in a size. -/
def Picture.inSize (master : Picture) (n : Nat) : Picture := ⟨n, n, master.raster.resample n n⟩

theorem decodePicture_iconOf (master : Picture) {n : Nat} (hpos : 1 ≤ n) (hle : n ≤ 4096) :
    decodePicture (iconOf master n).image = .ok (master.inSize n) :=
  decodePicture_image (.of_square (Nat.ne_of_gt hpos) hle) _

/-- **A file that can be decoded gives icons of all sizes,** and each shows the picture of the file
    in its size. -/
theorem yields_of_decodePicture (h : decodePicture source = .ok master) (hsizes : AllSizes sizes)
    (origin : String) : Yields origin source sizes (sizes.map master.inSize) := by
  refine ⟨sizes.map (iconOf master), resizeIcons_of_ok h hsizes.zero_notMem origin, ?_, ?_⟩
  · rw [List.map_map]
    exact List.map_id sizes
  · rw [List.map_map, List.map_map]
    apply List.map_congr_left
    intro n hn
    exact decodePicture_iconOf master (hsizes n hn).1 (hsizes n hn).2

theorem Yields.unique (h : Yields origin source sizes shown)
    (h' : Yields origin source sizes shown') : shown = shown' := by
  obtain ⟨icons, hicons, -, hshown⟩ := h
  obtain ⟨icons', hicons', -, hshown'⟩ := h'
  obtain rfl : icons = icons' := Except.ok.inj (hicons.symm.trans hicons')
  exact List.map_injective_iff.mpr (fun _ _ => Except.ok.inj) (hshown.symm.trans hshown')

/-! ### Each size alone -/

/-- Each icon of a file depends on its own size only. -/
structure IndependentSizes (source : Bytes) : Prop where
  /-- there is one picture for each size, whatever the other sizes are -/
  alone : ∃ picture : Nat → Picture, ∀ origin sizes, AllSizes sizes →
    Yields origin source sizes (sizes.map picture)
  /-- the icons of two lists of sizes are those of one after the other -/
  append : ∀ origin s t, AllSizes s → AllSizes t → ∃ shown shown',
    Yields origin source s shown ∧ Yields origin source t shown' ∧
      Yields origin source (s ++ t) (shown ++ shown')
  /-- sizes in another order give the icons in that order -/
  perm : ∀ origin s t shown shown', AllSizes s → s.Perm t → Yields origin source s shown →
    Yields origin source t shown' → (s.zip shown).Perm (t.zip shown')

theorem independentSizes_of_decodePicture (h : decodePicture source = .ok master) :
    IndependentSizes source where
  alone := ⟨master.inSize, fun origin _ hsizes => yields_of_decodePicture h hsizes origin⟩
  append := by
    intro origin s t hs ht
    refine ⟨s.map master.inSize, t.map master.inSize, yields_of_decodePicture h hs origin,
      yields_of_decodePicture h ht origin, ?_⟩
    rw [← List.map_append]
    exact yields_of_decodePicture h (hs.append ht) origin
  perm := by
    intro origin s t shown shown' hs hperm hshown hshown'
    have ht : AllSizes t := fun n hn => hs n (hperm.mem_iff.mpr hn)
    obtain rfl := hshown.unique (yields_of_decodePicture h hs origin)
    obtain rfl := hshown'.unique (yields_of_decodePicture h ht origin)
    -- Each size stands beside its own picture, in both lists.
    rw [← List.map_prod_left_eq_zip, ← List.map_prod_left_eq_zip]
    exact hperm.map fun n => (n, master.inSize n)

/-! ### Sources and origins -/

/-- **Only the pixels of the file count:** two files that are decoded to pictures of one size with
    the same bytes give the same icons. -/
theorem resizeIcons_congr {master' : Picture} (h : decodePicture source = .ok master)
    (h' : decodePicture source' = .ok master') (hwidth : master.width = master'.width)
    (hheight : master.height = master'.height)
    (hbytes : master.raster.bytes = master'.raster.bytes) (origin : String) (sizes : List Nat) :
    resizeIcons origin source sizes = resizeIcons origin source' sizes := by
  obtain rfl : master = master' := Picture.eq_of_bytes hwidth hheight hbytes
  rw [resizeIcons, resizeIcons, h, h']

/-- **The origin is only named in faults:** from all origins come the same icons, or faults with the
    same details. -/
theorem resizeIcons_origin (source : Bytes) (sizes : List Nat) :
    (∃ icons, ∀ origin, resizeIcons origin source sizes = .ok icons) ∨
      ∃ details, ∀ origin, resizeIcons origin source sizes = .error (.image origin details) := by
  cases hsource : decodePicture source with
  | error cause =>
    right
    exact ⟨cause.message, fun origin => resizeIcons_of_error hsource origin sizes⟩
  | ok master =>
    by_cases hzero : 0 ∈ sizes
    · right
      exact ⟨_, resizeIcons_of_zero hsource hzero⟩
    · left
      exact ⟨_, resizeIcons_of_ok hsource hzero⟩

/-- **Sizes are processed independently.**  Each icon of a file that can be decoded depends on its
    own size only, and on no more of the file than the size and the pixels of its picture; the
    origin is named in faults, and has no other effect. -/
theorem resizeIcons_independent :
    (∀ source master, decodePicture source = .ok master → IndependentSizes source) ∧
    (∀ source source' master master', decodePicture source = .ok master →
      decodePicture source' = .ok master' → master.width = master'.width →
      master.height = master'.height → master.raster.bytes = master'.raster.bytes →
      ∀ origin sizes, resizeIcons origin source sizes = resizeIcons origin source' sizes) ∧
    ∀ source sizes,
      (∃ icons, ∀ origin, resizeIcons origin source sizes = .ok icons) ∨
        ∃ details, ∀ origin, resizeIcons origin source sizes = .error (.image origin details) := by
  refine ⟨?_, ?_, resizeIcons_origin⟩
  · intro source master hmaster
    exact independentSizes_of_decodePicture hmaster
  · intro source source' master master' hmaster hmaster' hwidth hheight hbytes
    exact resizeIcons_congr hmaster hmaster' hwidth hheight hbytes

/-- The icons of a picture of one pixel, in three sizes at once and in two lists of them. -/
theorem resizeIcons_independent_dot :
    decodePicture (Png.image dot) = .ok ⟨1, 1, dot⟩ ∧
    ∃ shown shown', Yields "icon.png" (Png.image dot) [2, 1] shown ∧
      Yields "icon.png" (Png.image dot) [3] shown' ∧
      Yields "icon.png" (Png.image dot) [2, 1, 3] (shown ++ shown') := by
  have hsizes := resizeIcons_independent.1 _ _ decodePicture_dot
  exact ⟨decodePicture_dot, hsizes.append "icon.png" [2, 1] [3] (by decide) (by decide)⟩

/-! ### The size of the picture itself -/

/-- A picture in its own size stays as it is. -/
theorem Raster.resample_self {width height : Nat} (r : Raster width height) :
    r.resample width height = r := dif_pos ⟨rfl, rfl⟩

/-- An icon that is made from an icon of its size shows the same picture. -/
theorem yields_again {n : Nat} (hn : AllSizes [n]) (r : Raster n n)
    (h : decodePicture source = .ok ⟨n, n, r⟩) (origin : String) :
    Yields origin source [n] [⟨n, n, r⟩] := by
  have hyields := yields_of_decodePicture h hn origin
  have hsame : (⟨n, n, r⟩ : Picture).inSize n = ⟨n, n, r⟩ := by
    rw [Picture.inSize, Raster.resample_self]
  rwa [List.map_singleton, hsame] at hyields

/-- **Resizing to the size that a picture has loses nothing.**  A square picture is found again,
    pixel by pixel, in every icon of its own size; and an icon of any picture, resized to the size
    that it has, shows the picture that it showed before. -/
theorem resizeIcons_native :
    (∀ origin source n (r : Raster n n), decodePicture source = .ok ⟨n, n, r⟩ →
      ∀ sizes, AllSizes sizes → ∃ shown, Yields origin source sizes shown ∧
        ∀ i : Nat, sizes[i]? = some n → shown[i]? = some ⟨n, n, r⟩) ∧
    ∀ origin origin' source master n, decodePicture source = .ok master → 1 ≤ n → n ≤ 4096 →
      ∃ icon picture, resizeIcons origin source [n] = .ok [icon] ∧
        decodePicture icon.image = .ok picture ∧ Yields origin' icon.image [n] [picture] := by
  constructor
  · intro origin source n r hsource sizes hsizes
    refine ⟨_, yields_of_decodePicture hsource hsizes origin, fun i hi => ?_⟩
    rw [List.getElem?_map, hi, Option.map_some, Picture.inSize, Raster.resample_self]
  · intro origin origin' source master n hmaster hpos hle
    have hn : AllSizes [n] := by
      intro m hm
      obtain rfl : m = n := List.mem_singleton.mp hm
      exact ⟨hpos, hle⟩
    have hshown := decodePicture_iconOf master hpos hle
    exact ⟨iconOf master n, master.inSize n, resizeIcons_of_ok hmaster hn.zero_notMem origin,
      hshown, yields_again hn _ hshown origin'⟩

theorem resizeIcons_native_dot :
    decodePicture (Png.image dot) = .ok ⟨1, 1, dot⟩ ∧
    (∃ shown, Yields "icon.png" (Png.image dot) [2, 1] shown ∧ shown[1]? = some ⟨1, 1, dot⟩) ∧
    ∃ icon picture, resizeIcons "icon.png" (Png.image dot) [2] = .ok [icon] ∧
      decodePicture icon.image = .ok picture ∧ Yields "2x2.png" icon.image [2] [picture] := by
  refine ⟨decodePicture_dot, ?_, ?_⟩
  · obtain ⟨shown, hyields, hshown⟩ :=
      resizeIcons_native.1 "icon.png" _ 1 dot decodePicture_dot [2, 1] (by decide)
    exact ⟨shown, hyields, hshown 1 rfl⟩
  · exact resizeIcons_native.2 "icon.png" "2x2.png" _ _ 2 decodePicture_dot (by decide) (by decide)

end ReleaseArtifacts
