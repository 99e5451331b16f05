import ReleaseArtifacts.Proofs.FileSystem.Producing
import ReleaseArtifacts.Proofs.Icons.Generating
import ReleaseArtifacts.Proofs.Icons.Paths

namespace ReleaseArtifacts.IconSet

/-!
# Where icons are written

What writing the icons does in a tree without links.  The icons are written from the smallest to the
largest, until one of them cannot be written.

* `names`, `place` — where the icon of a size belongs.
* `target_eq` — its path.
* `leading` — how many icons can be written, from the smallest on.
* `generate_effect` — what is reported, and what there is afterwards.
-/

open FileSystem (CanName Holds Output Apart)
open FileTree (get?_empty get?_put_of)

variable {s s' : FileSystem} {set : IconSet} {r : Repository} {resizer : Resizer} {assets : Place}
  {icons : List Icon} {size : Nat} {master : Bytes}

/-! ### Paths -/

/-- The names of the icon of a size and of the folders that it is in, as far as the assets. -/
def names (set : IconSet) (size : Nat) : List String :=
  [set.application ++ ".png", "apps", sizeDirectory size, "hicolor", "icons"]

/-- The place of the icon of a size. -/
def place (set : IconSet) (assets : Place) (size : Nat) : Place := set.names size ++ assets

/-- An application of which the icons can have their names. -/
theorem canName_application (hslash : '/' ∉ set.application.toList)
    (hnul : '\x00' ∉ set.application.toList)
    (hshort : (set.application ++ ".png").utf8ByteSize ≤ nameLimit) :
    CanName (set.application ++ ".png") := by
  refine ⟨isName_fileName hslash, ?_, hshort⟩
  rw [String.toList_append, List.mem_append]
  exact fun h => h.elim hnul (by decide)

/-- The names of the folders are fine. -/
theorem canName_names (happlication : CanName (set.application ++ ".png"))
    (hsize : size ∈ iconSizes) : ∀ name ∈ set.names size, CanName name := by
  have hfolders : ∀ name ∈ "apps" :: "hicolor" :: "icons" :: iconSizes.map sizeDirectory,
      CanName name := by decide
  intro name hname
  rcases List.mem_cons.mp hname with rfl | hname
  · exact happlication
  · have hmem : name ∈ "apps" :: "hicolor" :: "icons" :: iconSizes.map sizeDirectory := by
      have := List.mem_map_of_mem (f := sizeDirectory) hsize
      simp only [List.mem_cons, List.not_mem_nil, or_false] at hname ⊢
      rcases hname with rfl | rfl | rfl | rfl <;> simp [this]
    exact hfolders name hmem

theorem isName_assets : Path.IsName "assets" := by
  constructor <;> decide

/-- The master icon is in the assets. -/
theorem resolve_source (r : Repository) :
    r.resolve source = Path.below (r.resolve "assets") ["icon.png"] := by
  have hsource : source = Path.below "assets" ["icon.png"] := by decide
  rw [Repository.resolve, hsource,
    Path.join_below _ isName_assets.notEmpty isName_assets.isAbsolute_eq]
  rfl

/-- So are the icons. -/
theorem target_eq (h : ∀ name ∈ set.names size, CanName name) :
    set.target r size = Path.below (r.resolve "assets") (set.names size) := by
  have hjoin : ∀ name outer, name :: outer <:+ set.names size →
      Path.join (Path.below "assets" outer) name = Path.below "assets" (name :: outer) :=
    fun name outer hsuffix => Path.join_name isName_assets.endsInName fun n hn =>
      (h n (hsuffix.subset hn)).toIsName
  have htheme : themeDirectory = Path.below "assets" ["hicolor", "icons"] := by decide
  have houtput : set.outputPath size = Path.below "assets" (set.names size) := by
    rw [outputPath, htheme, hjoin (sizeDirectory size) _ ⟨[_, _], rfl⟩, hjoin "apps" _ ⟨[_], rfl⟩,
      hjoin (set.application ++ ".png") _ ⟨[], rfl⟩]
    rfl
  rw [target, Repository.resolve, houtput,
    Path.join_below _ isName_assets.notEmpty isName_assets.isAbsolute_eq]
  rfl

/-! ### Outputs -/

/-- What is written for an icon. -/
def output (set : IconSet) (r : Repository) (assets : Place) (icon : Icon) : Output :=
  ⟨set.target r icon.size, set.place assets icon.size, icon.image⟩

@[simp] theorem output_place (set : IconSet) (r : Repository) (assets : Place) (icon : Icon) :
    (set.output r assets icon).place = set.place assets icon.size := rfl

theorem fits_output {icon : Icon} (h : Holds s (r.resolve "assets") assets)
    (hnames : ∀ name ∈ set.names icon.size, CanName name)
    (hshort : (set.target r icon.size).utf8ByteSize < pathLimit) :
    (set.output r assets icon).Fits s := by
  rw [target_eq hnames] at hshort
  rw [output, target_eq hnames]
  exact .below h hnames hshort icon.image

/-- Icons of different sizes are apart. -/
theorem pairwise_apart (set : IconSet) (r : Repository) (assets : Place)
    (hsizes : icons.map Icon.size = iconSizes) :
    (icons.map (set.output r assets)).Pairwise fun o o' => Apart o'.place o.place := by
  have hdistinct : (iconSizes.map sizeDirectory).Nodup := by decide
  have hnodup : (icons.map (sizeDirectory ·.size)).Nodup := by
    rw [← hsizes, List.map_map] at hdistinct
    exact hdistinct
  rw [List.pairwise_map]
  refine (List.pairwise_map.mp hnodup).imp fun {icon icon'} hne => ?_
  refine FileSystem.apart_of_length (by simp [output, place, names]) fun heq => hne ?_
  have hnames : set.names icon'.size = set.names icon.size := List.append_cancel_right heq
  simp only [names, List.cons.injEq] at hnames
  exact hnames.2.2.1.symm

/-- How many icons can be written, from the smallest on. -/
def leading (set : IconSet) (t : FileTree) (assets : Place) : Nat :=
  (iconSizes.takeWhile fun size => t.writable (set.place assets size)).length

/-- Icons can be cut where the first one cannot be written. -/
theorem exists_leading (set : IconSet) (t : FileTree) (assets : Place)
    (hsizes : icons.map Icon.size = iconSizes) :
    ∃ written rest, icons = written ++ rest ∧ written.length = set.leading t assets ∧
      (∀ icon ∈ written, t.writable (set.place assets icon.size) = true) ∧
      ∀ next ∈ rest.head?, t.writable (set.place assets next.size) = false := by
  let fits : Icon → Bool := fun icon => t.writable (set.place assets icon.size)
  refine ⟨icons.takeWhile fits, icons.dropWhile fits, List.takeWhile_append_dropWhile.symm, ?_,
    fun icon hicon => ?_, fun next hnext => ?_⟩
  · rw [leading, ← hsizes, List.takeWhile_map, List.length_map]
    rfl
  · exact List.mem_takeWhile_imp (p := fits) hicon
  · have hnot := List.head?_dropWhile_not fits icons
    rwa [hnext] at hnot

/-- **Writing the icons.**  As many of them are written as can be, from the smallest on.  The first
    that cannot be written is reported, if there is one. -/
theorem exists_writeIcons (hfits : ∀ icon ∈ icons, (set.output r assets icon).Fits s)
    (hsizes : icons.map Icon.size = iconSizes) :
    ∃ s', s.Produces ((icons.take (set.leading s.tree assets)).map (set.output r assets)) s' ∧
      ((set.leading s.tree assets = iconSizes.length ∧
        runOn (icons.mapM (set.writeIcon r)) s = (.ok (iconSizes.map (set.target r)), s')) ∨
      ∃ size cause, iconSizes[set.leading s.tree assets]? = some size ∧
        runOn (icons.mapM (set.writeIcon r)) s =
          (.error (.writeFailed (set.target r size) cause), s')) := by
  obtain ⟨written, rest, rfl, hlength, hwritable, hblocked⟩ :=
    exists_leading set s.tree assets hsizes
  have hapart := pairwise_apart set r assets hsizes
  rw [List.map_append, List.pairwise_append] at hapart
  obtain ⟨hapart, -, hothers⟩ := hapart
  obtain ⟨s', hwrites, hproduces⟩ := FileSystem.exists_writesAll
    (by simpa using fun icon hicon => hfits icon (by simp [hicon])) hapart
    (by simpa using hwritable)
  rw [List.map_map] at hwrites
  refine ⟨s', by rwa [List.take_left' hlength], ?_⟩
  rw [writeIcons_append hwrites]
  cases rest with
  | nil =>
    have hall : written.map Icon.size = iconSizes := by rw [← hsizes, List.append_nil]
    refine .inl ⟨by rw [← hall, ← hlength, List.length_map], ?_⟩
    rw [← hall, List.map_map]
    rw [List.mapM_nil, runOn_pure]
    simp
  | cons next others =>
    -- What was written is apart from the next icon, which is as blocked as it was.
    have hnext : s'.tree.writable (set.place assets next.size) = false :=
      (hproduces.writable_eq fun o ho => (hothers o ho _ (List.mem_cons_self ..)).symm).trans
        (hblocked next rfl)
    rcases ((hfits next (by simp)).grows hproduces.grows).write with ⟨hopen, -⟩ | ⟨-, fault, hfault⟩
    · exact absurd (hnext.symm.trans hopen) (by simp)
    · refine .inr ⟨next.size, fault.toIoFault, ?_, ?_⟩
      · rw [← hsizes, ← hlength]
        simp
      · have hwrite : s'.write (set.target r next.size) next.image = (s', .error fault) := hfault
        rw [writeIcons_cons, hwrite]

/-- The assets are a folder, since there is a master icon in it. -/
theorem exists_assets (hlinkless : s.tree.Linkless) (hmaster : s.IsFile (r.resolve source) master) :
    ∃ assets, Holds s (r.resolve "assets") assets ∧
      s.LeadsTo false (r.resolve source) ("icon.png" :: assets) ∧
      s.tree.get? ("icon.png" :: assets) = some (.file master) := by
  have hname : Path.IsName "icon.png" := by constructor <;> decide
  rw [resolve_source] at hmaster ⊢
  exact FileSystem.exists_holds hlinkless (isName_assets.endsInName.join r.root) hname hmaster

/-- **What generating icons does.**  In a tree without links, icons are written from the smallest on
    as far as they can be.  If that is all of them they are reported in their order; otherwise the
    first that cannot be written is reported.  The master icon and all other files stay as they
    were, and nothing else is there afterwards but what the written icons are in. -/
theorem generate_effect (set : IconSet) (r : Repository) (hlinkless : s.tree.Linkless)
    (hslash : '/' ∉ set.application.toList)
    (hnul : '\x00' ∉ set.application.toList)
    (hname : (set.application ++ ".png").utf8ByteSize ≤ nameLimit)
    (hshort : ∀ size ∈ iconSizes, (set.target r size).utf8ByteSize < pathLimit)
    (hmaster : s.IsFile (r.resolve source) master)
    (hresizer : resizer (r.resolve source) master iconSizes = .ok icons)
    (hsizes : icons.map Icon.size = iconSizes) :
    ∃ assets s', s.LeadsTo false (r.resolve source) ("icon.png" :: assets) ∧
      (∀ size ∈ iconSizes, ∀ contents, s.tree.writable (set.place assets size) = true ↔
        (s.write (set.target r size) contents).2 = .ok ()) ∧
      let k := set.leading s.tree assets;
      s.Produces ((icons.take k).map (set.output r assets)) s' ∧
      (∀ icon ∈ icons.take k, s'.contents (set.target r icon.size) = .ok icon.image) ∧
      (∀ p contents, (∀ size ∈ iconSizes.take k, p ≠ set.place assets size) →
        s.tree.get? p = some (.file contents) → s'.tree.get? p = some (.file contents)) ∧
      s'.contents (r.resolve source) = .ok master ∧
      (∀ size, iconSizes[k]? = some size → ∃ cause,
        runOn (set.generate r resizer) s = (.error (.writeFailed (set.target r size) cause), s')) ∧
      (k = iconSizes.length → ∃ report, runOn (set.generate r resizer) s = (.ok report, s') ∧
        report.source = r.resolve source ∧ report.outputs = iconSizes.map (set.target r) ∧
        report.count = 8) := by
  have happlication := canName_application hslash hnul hname
  obtain ⟨assets, holds, hleads, hfile⟩ := exists_assets hlinkless hmaster
  have hfits : ∀ icon : Icon, icon.size ∈ iconSizes → (set.output r assets icon).Fits s :=
    fun icon hsize => fits_output holds (canName_names happlication hsize) (hshort _ hsize)
  have hmem : ∀ icon ∈ icons, icon.size ∈ iconSizes := fun icon hicon =>
    hsizes ▸ List.mem_map_of_mem hicon
  obtain ⟨s', hproduces, hwriting⟩ :=
    exists_writeIcons (fun icon hicon => hfits icon (hmem icon hicon)) hsizes
  have hkept : ∀ p contents, (∀ size ∈ iconSizes.take (set.leading s.tree assets),
      p ≠ set.place assets size) → s.tree.get? p = some (.file contents) →
      s'.tree.get? p = some (.file contents) := by
    intro p contents hother hp
    refine hproduces.kept (fun o ho => ?_) hp
    obtain ⟨icon, hicon, rfl⟩ := List.mem_map.mp ho
    refine hother _ ?_
    rw [← hsizes, ← List.map_take]
    exact List.mem_map_of_mem hicon
  refine ⟨assets, s', hleads, ?_, hproduces, ?_, hkept, ?_, ?_, ?_⟩
  · -- A place is writable if the file could be written to it before all others.
    intro size hsize contents
    rcases (hfits ⟨size, contents⟩ hsize).write with ⟨hopen, _, hwrite, -⟩ | ⟨hclosed, _, hwrite⟩
    · exact iff_of_true hopen (congrArg Prod.snd hwrite)
    · refine iff_of_false (Bool.eq_false_iff.mp hclosed) fun hok => ?_
      exact absurd ((congrArg Prod.snd hwrite).symm.trans hok) (by simp)
  · -- What was written is read back.
    intro icon hicon
    have hwritten : icon ∈ icons := List.mem_of_mem_take hicon
    exact ((hfits icon (hmem icon hwritten)).grows hproduces.grows).contents_eq
      (hproduces.file _ (List.mem_map_of_mem hicon))
  · -- The master icon is in fewer folders than the others.
    refine FileSystem.contents_eq_ok_iff.mpr ⟨_, hleads.grows hproduces.grows, ?_⟩
    refine hkept _ _ (fun size _ heq => ?_) hfile
    have := congrArg List.length heq
    simp [place, names] at this
  · intro size hsize
    rw [generate_of_master hmaster, hresizer]
    dsimp only
    rcases hwriting with ⟨hall, -⟩ | ⟨size', cause, hsize', hfault⟩
    · simp [hall] at hsize
    · obtain rfl := Option.some.inj (hsize'.symm.trans hsize)
      exact ⟨cause, by rw [hfault]⟩
  · intro hall
    rcases hwriting with ⟨-, hok⟩ | ⟨size', cause, hsize', -⟩
    · refine ⟨⟨r.resolve source, iconSizes.map (set.target r)⟩, ?_, rfl, rfl, rfl⟩
      rw [generate_of_master hmaster, hresizer]
      dsimp only
      rw [hok]
    · simp [hall] at hsize'

/-- A file system where a file is in the way of the icons from the third size on. -/
def blockedSystem : FileSystem where
  tree := ((((FileTree.empty.put "assets" [] .folder).put "icon.png" ["assets"] (.file [])).put
    "icons" ["assets"] .folder).put "hicolor" ["icons", "assets"] .folder).put
      "32x32" ["hicolor", "icons", "assets"] (.file [])
  current := none

theorem get?_blockedSystem (p : Place) : blockedSystem.tree.get? p =
    if p = ["32x32", "hicolor", "icons", "assets"] then some (.file [])
    else if p = ["hicolor", "icons", "assets"] then some .folder
    else if p = ["icons", "assets"] then some .folder
    else if p = ["icon.png", "assets"] then some (.file [])
    else if p = ["assets"] then some .folder
    else if p = [] then some .folder else none :=
  get?_put_of (get?_put_of (get?_put_of (get?_put_of (get?_put_of get?_empty _ (by decide)
    (by decide)) _ (by decide) (by decide)) _ (by decide) (by decide)) _ (by decide) (by decide)) _
    (by decide) (by decide) p

/-- Two icons are written to it, and then one that cannot be written is reported. -/
theorem generate_effect_blocked : ∃ s' cause,
    runOn (generate ⟨"app"⟩ ⟨"/"⟩ markedIcons) blockedSystem =
      (.error (.writeFailed "/assets/icons/hicolor/32x32/apps/app.png" cause), s') ∧
    s'.contents "/assets/icons/hicolor/24x24/apps/app.png" = .ok [24] := by
  have hlinkless : blockedSystem.tree.Linkless := by
    intro place target
    rw [get?_blockedSystem]
    split_ifs <;> simp
  have hmaster : blockedSystem.tree.get? ["icon.png", "assets"] = some (.file []) :=
    (get?_blockedSystem _).trans (by decide)
  have hsource := leadsTo_source ((get?_blockedSystem _).trans (by decide)) hmaster
  obtain ⟨assets, s', hleads, -, -, hread, -, -, hfault, -⟩ :=
    generate_effect ⟨"app"⟩ ⟨"/"⟩ hlinkless (by decide) (by decide) (by decide) (by decide)
      ⟨_, hsource, hmaster⟩ (show markedIcons _ _ _ = _ from rfl) (by decide)
  have hassets : assets = ["assets"] := (List.cons.inj (hleads.unique hsource)).2
  have htwo : leading ⟨"app"⟩ blockedSystem.tree assets = 2 := by
    rw [hassets]
    simp only [leading, FileTree.writable, FileTree.isOpen, place, names, List.cons_append,
      get?_blockedSystem]
    decide
  rw [htwo] at hread hfault
  obtain ⟨cause, hresult⟩ := hfault 32 rfl
  exact ⟨s', cause, hresult, hread ⟨24, [24]⟩ (by decide)⟩

end ReleaseArtifacts.IconSet
