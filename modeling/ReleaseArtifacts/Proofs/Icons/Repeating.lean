import ReleaseArtifacts.Proofs.Icons.Generating

namespace ReleaseArtifacts.IconSet

/-!
# Generating icons again

* `generate_idempotent` — icons that were generated can be generated again, with nothing changed.
-/

open FileTree (get?_empty get?_put_of)

variable {s s' : FileSystem} {set : IconSet} {r : Repository} {resizer : Resizer}
  {report : IconReport}

/-- **Generating icons again** does nothing.  Whatever the links in the tree and the name of the
    application make of the paths of the icons, as long as the master icon was not one of them. -/
theorem generate_idempotent (h : runOn (set.generate r resizer) s = (.ok report, s'))
    (hmaster : s'.contents (r.resolve source) = s.contents (r.resolve source)) :
    runOn (set.generate r resizer) s' = (.ok report, s') := by
  obtain ⟨master, icons, hfile, hicons, hwrites, rfl⟩ := generate_eq_ok_iff.mp h
  have hread : s'.contents (r.resolve source) = .ok master :=
    hmaster.trans (FileSystem.contents_eq_ok_iff.mpr hfile)
  exact generate_eq_ok_iff.mpr ⟨master, icons, FileSystem.contents_eq_ok_iff.mp hread, hicons,
    hwrites.idempotent, rfl⟩

/-- A file system with a link to a file. -/
def linkedSystem : FileSystem where
  tree := (((FileTree.empty.put "assets" [] .folder).put "icon.png" ["assets"] (.file [])).put
    "latest.png" [] (.file [])).put "icon.png" [] (.link "latest.png")
  current := none

theorem get?_linkedSystem (p : Place) : linkedSystem.tree.get? p =
    if p = ["icon.png"] then some (.link "latest.png")
    else if p = ["latest.png"] then some (.file [])
    else if p = ["icon.png", "assets"] then some (.file [])
    else if p = ["assets"] then some .folder
    else if p = [] then some .folder else none :=
  get?_put_of (get?_put_of (get?_put_of (get?_put_of get?_empty _ (by decide) (by decide)) _
    (by decide) (by decide)) _ (by decide) (by decide)) _ (by decide) (by decide) p

/-- All icons of an application with an absolute name are written through the link. -/
theorem generate_idempotent_linked : ∃ report s',
    runOn (generate ⟨"/icon"⟩ ⟨"/"⟩ markedIcons) linkedSystem = (.ok report, s') ∧
      runOn (generate ⟨"/icon"⟩ ⟨"/"⟩ markedIcons) s' = (.ok report, s') := by
  have hlink : linkedSystem.tree.get? ["icon.png"] = some (.link "latest.png") :=
    (get?_linkedSystem _).trans (by decide)
  have hlatest : linkedSystem.tree.get? ["latest.png"] = some (.file []) :=
    (get?_linkedSystem _).trans (by decide)
  have hmaster : linkedSystem.tree.get? ["icon.png", "assets"] = some (.file []) :=
    (get?_linkedSystem _).trans (by decide)
  have hsource := leadsTo_source ((get?_linkedSystem _).trans (by decide)) hmaster
  have hready : linkedSystem.Ready "/icon.png" ["latest.png"] := by
    have hfolders : Path.folders "/icon.png" = [] := by decide
    have hsteps : Path.steps "/icon.png" = [.down "icon.png"] := by decide
    have htarget : Path.steps "latest.png" ++ [] = [.down "latest.png"] := by decide
    refine ⟨by simp [hfolders], ⟨[], 1, rfl, by decide, hsteps ▸ ?_⟩, [], hlatest⟩
    refine .link rfl (by decide) (by simp) hlink (htarget ▸ ?_)
    exact .down rfl (by decide) (by simp) hlatest (by simp) (.here _)
  obtain ⟨s', hwrites, hkept⟩ :=
    hready.exists_writesAll (iconSizes.map fun size => [size.toUInt8])
  have hbefore : linkedSystem.IsFile (Repository.resolve ⟨"/"⟩ source) [] := ⟨_, hsource, hmaster⟩
  have hafter : s'.IsFile (Repository.resolve ⟨"/"⟩ source) [] :=
    ⟨_, hsource.grows hwrites.grows, (hkept _ (by decide)).trans hmaster⟩
  have hfirst : runOn (generate ⟨"/icon"⟩ ⟨"/"⟩ markedIcons) linkedSystem = (.ok _, s') :=
    generate_eq_ok_iff.mpr ⟨[], _, hbefore, rfl, hwrites, rfl⟩
  refine ⟨_, s', hfirst, generate_idempotent hfirst ?_⟩
  rw [FileSystem.contents_eq_ok_iff.mpr hbefore, FileSystem.contents_eq_ok_iff.mpr hafter]

end ReleaseArtifacts.IconSet
