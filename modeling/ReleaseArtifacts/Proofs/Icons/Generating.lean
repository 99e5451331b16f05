import ReleaseArtifacts.Icons.Generate
import ReleaseArtifacts.Proofs.FileSystem.Rewriting
import ReleaseArtifacts.Proofs.FileSystem.Tasks
import ReleaseArtifacts.Proofs.FileSystem.Winding
import ReleaseArtifacts.Proofs.Icons.Resizing

namespace ReleaseArtifacts

/-!
# Generating icons

What generating icons does, step by step.  Nothing is written before all icons are made.

* `IconSet.generate_of_missing`, `IconSet.generate_of_master` — without a master icon, and with one.
* `IconSet.writeIcons_cons`, `IconSet.writeIcons_eq_ok_iff` — writing several icons.
* `IconSet.generate_eq_ok_iff` — what it takes to generate icons.
* `IconSet.refuses_resizeIcons_iff` — what the resizer of the library refuses.
* `IconSet.generate_fails_cleanly` — which faults there are before the first icon is written, and
  that they leave the file system as it was.
* `IconSet.generate_despite_master` — faults that a master icon does not rule out.
-/

variable {s : FileSystem} {set : IconSet} {r : Repository} {resizer : Resizer} {icon : Icon}
  {icons : List Icon} {fault : Fault}

namespace IconSet

/-! ### Before the icons are written -/

/-- The path of the master icon leads to a file. -/
def HasMaster (s : FileSystem) (r : Repository) : Prop :=
  ∃ master, s.IsFile (r.resolve source) master

/-- The master icon of the repository in the root. -/
theorem leadsTo_source {master : Bytes} (hassets : s.tree.get? ["assets"] = some .folder)
    (hmaster : s.tree.get? ["icon.png", "assets"] = some (.file master)) :
    s.LeadsTo false (Repository.resolve ⟨"/"⟩ source) ["icon.png", "assets"] := by
  have hsteps : Path.steps (Repository.resolve ⟨"/"⟩ source) =
      [.down "assets", .down "icon.png"] := by decide
  refine ⟨[], 0, rfl, by decide, hsteps ▸ ?_⟩
  exact .down rfl (by decide) (by simp) hassets (by simp)
    (.down hassets (by decide) (by simp) hmaster (by simp) (.here _))

/-- Without a master icon. -/
theorem generate_of_missing (resizer : Resizer) (h : ¬ HasMaster s r) :
    runOn (set.generate r resizer) s = (.error (.iconSourceMissing (r.resolve source)), s) := by
  have hnone : s.hasFile (r.resolve source) = false :=
    Bool.eq_false_iff.mpr (mt FileSystem.hasFile_iff.mp h)
  rw [generate]
  dsimp only
  rw [runOn_bind, Repository.runOn_hasFile, hnone]
  rfl

/-- With a master icon.  Reading it cannot fail, since it was found. -/
theorem generate_of_master {master : Bytes} (h : s.IsFile (r.resolve source) master) :
    runOn (set.generate r resizer) s =
      match resizer (r.resolve source) master iconSizes with
      | .error fault => (.error fault, s)
      | .ok icons =>
        match runOn (icons.mapM (set.writeIcon r)) s with
        | (.ok outputs, s') => (.ok ⟨r.resolve source, outputs⟩, s')
        | (.error fault, s') => (.error fault, s') := by
  rw [generate]
  dsimp only
  rw [runOn_bind, Repository.runOn_hasFile, FileSystem.hasFile_iff.mpr ⟨master, h⟩]
  dsimp only
  rw [Bool.not_true, if_neg Bool.false_ne_true, runOn_bind, Repository.runOn_read,
    FileSystem.contents_eq_ok_iff.mpr h]
  show runOn (generate.liftExcept (resizer _ _ _) >>= _) s = _
  rw [runOn_bind, generate.liftExcept, runOn_mk_pure]
  cases resizer (r.resolve source) master iconSizes with
  | error fault => rfl
  | ok icons =>
    dsimp only
    rw [runOn_bind]
    rcases runOn (icons.mapM (set.writeIcon r)) s with ⟨outputs | fault, s'⟩ <;> rfl

/-! ### Writing the icons -/

/-- The path of the icon of a size in a repository. -/
def target (set : IconSet) (r : Repository) (size : Nat) : String := r.resolve (set.outputPath size)

theorem runOn_writeIcon (icon : Icon) :
    runOn (set.writeIcon r icon) s =
      match s.write (set.target r icon.size) icon.image with
      | (s', .ok ()) => (.ok (set.target r icon.size), s')
      | (s', .error cause) =>
        (.error (.writeFailed (set.target r icon.size) cause.toIoFault), s') := by
  rw [writeIcon, runOn_bind, Repository.runOn_write, target]
  rcases s.write (r.resolve (set.outputPath icon.size)) icon.image with ⟨s', cause | ⟨⟩⟩ <;> rfl

/-- **Writing several icons.**  The first one that cannot be written is the last one that is
    tried. -/
theorem writeIcons_cons (icon : Icon) (icons : List Icon) :
    runOn ((icon :: icons).mapM (set.writeIcon r)) s =
      match s.write (set.target r icon.size) icon.image with
      | (s', .ok ()) =>
        match runOn (icons.mapM (set.writeIcon r)) s' with
        | (.ok outputs, s'') => (.ok (set.target r icon.size :: outputs), s'')
        | (.error fault, s'') => (.error fault, s'')
      | (s', .error cause) =>
        (.error (.writeFailed (set.target r icon.size) cause.toIoFault), s') := by
  rw [List.mapM_cons, runOn_bind, runOn_writeIcon]
  rcases s.write (set.target r icon.size) icon.image with ⟨s', cause | ⟨⟩⟩
  · rfl
  · dsimp only
    rw [runOn_bind]
    rcases runOn (icons.mapM (set.writeIcon r)) s' with ⟨outputs | fault, s''⟩ <;> rfl

/-- Only writing can fail while icons are written. -/
theorem writeIcons_eq_error (h : (runOn (icons.mapM (set.writeIcon r)) s).1 = .error fault) :
    ∃ path cause, fault = .writeFailed path cause := by
  induction icons generalizing s with
  | nil => exact nomatch h
  | cons icon icons ih =>
    rw [writeIcons_cons] at h
    split at h
    · rename_i s' hwritten
      split at h
      · exact nomatch h
      · rename_i fault' s'' hrest
        obtain rfl := Except.error.inj h
        exact ih (congrArg Prod.fst hrest)
    · exact ⟨_, _, (Except.error.inj h).symm⟩

/-- What is written for an icon: the path, and the contents of the file. -/
def file (set : IconSet) (r : Repository) (icon : Icon) : String × Bytes :=
  (set.target r icon.size, icon.image)

/-- Once some icons are written it goes on with the others. -/
theorem writeIcons_append {s' : FileSystem} (h : s.WritesAll (icons.map (set.file r)) s')
    (others : List Icon) :
    runOn ((icons ++ others).mapM (set.writeIcon r)) s =
      match runOn (others.mapM (set.writeIcon r)) s' with
      | (.ok outputs, s'') => (.ok (icons.map (set.target r ·.size) ++ outputs), s'')
      | (.error fault, s'') => (.error fault, s'') := by
  induction icons generalizing s with
  | nil =>
    cases h
    rw [List.nil_append]
    split <;> assumption
  | cons icon icons ih =>
    cases h with
    | cons first rest =>
      rw [List.cons_append, writeIcons_cons, first]
      dsimp only
      rw [ih rest]
      rcases runOn (others.mapM (set.writeIcon r)) _ with ⟨outputs | fault, s''⟩ <;> rfl

/-- **Icons are written if each of them is**, one after the other. -/
theorem writeIcons_eq_ok_iff {s' : FileSystem} {outputs : List String} :
    runOn (icons.mapM (set.writeIcon r)) s = (.ok outputs, s') ↔
      s.WritesAll (icons.map (set.file r)) s' ∧ outputs = icons.map (set.target r ·.size) := by
  constructor
  · intro h
    induction icons generalizing s outputs with
    | nil =>
      obtain ⟨hnone, rfl⟩ := Prod.mk.inj h
      exact ⟨.nil _, (Except.ok.inj hnone).symm⟩
    | cons icon icons ih =>
      rw [writeIcons_cons] at h
      split at h
      · rename_i s₁ hwritten
        split at h
        · rename_i others s'' hrest
          obtain ⟨hok, rfl⟩ := Prod.mk.inj h
          obtain ⟨hwrites, rfl⟩ := ih hrest
          exact ⟨.cons hwritten hwrites, (Except.ok.inj hok).symm⟩
        · exact nomatch (Prod.mk.inj h).1
      · exact nomatch (Prod.mk.inj h).1
  · rintro ⟨hwrites, rfl⟩
    have happend := writeIcons_append hwrites []
    rw [List.append_nil, List.mapM_nil, runOn_pure] at happend
    rw [happend]
    simp

/-- **Icons are generated** if there is a master icon, the resizer makes them from it and all of
    them are written. -/
theorem generate_eq_ok_iff {s' : FileSystem} {report : IconReport} :
    runOn (set.generate r resizer) s = (.ok report, s') ↔
      ∃ master icons, s.IsFile (r.resolve source) master ∧
        resizer (r.resolve source) master iconSizes = .ok icons ∧
        s.WritesAll (icons.map (set.file r)) s' ∧
        report = ⟨r.resolve source, icons.map (set.target r ·.size)⟩ := by
  constructor
  · intro h
    -- Wherever it does not go on the outcome is a fault.
    by_cases hmaster : HasMaster s r
    case neg =>
      rw [generate_of_missing resizer hmaster] at h
      exact nomatch (Prod.mk.inj h).1
    obtain ⟨master, hmaster⟩ := hmaster
    rw [generate_of_master hmaster] at h
    split at h
    case h_1 => exact nomatch (Prod.mk.inj h).1
    rename_i icons hicons
    split at h
    case h_2 => exact nomatch (Prod.mk.inj h).1
    rename_i outputs s'' hwritten
    obtain ⟨hreport, rfl⟩ := Prod.mk.inj h
    obtain ⟨hwrites, rfl⟩ := writeIcons_eq_ok_iff.mp hwritten
    exact ⟨master, icons, hmaster, hicons, hwrites, (Except.ok.inj hreport).symm⟩
  · rintro ⟨master, icons, hmaster, hicons, hwrites, rfl⟩
    rw [generate_of_master hmaster, hicons]
    dsimp only
    rw [writeIcons_eq_ok_iff.mpr ⟨hwrites, rfl⟩]

/-! ### Faults -/

/-- There is a master icon, and the resizer refuses it. -/
def Refuses (s : FileSystem) (r : Repository) (resizer : Resizer) (fault : Fault) : Prop :=
  ∃ master, s.IsFile (r.resolve source) master ∧
    resizer (r.resolve source) master iconSizes = .error fault

end IconSet

/-- Icons that hold no more than a byte of their size. -/
def markedIcons : Resizer := fun _ _ sizes => .ok (sizes.map fun size => ⟨size, [size.toUInt8]⟩)

/-- A resizer that refuses every master icon. -/
def refusing (fault : Fault) : Resizer := fun _ _ _ => .error fault

/-! ### The resizer of the library -/

namespace IconSet

/-- **What the resizer of the library refuses** is what it cannot decode. -/
theorem refuses_resizeIcons_iff :
    Refuses s r resizeIcons fault ↔ ∃ master cause, s.IsFile (r.resolve source) master ∧
      decodePicture master = .error cause ∧ fault = .image (r.resolve source) cause.message := by
  simp only [Refuses, resizeIcons_eq_error_iff (show 0 ∉ iconSizes by decide)]
  exact ⟨fun ⟨master, hfile, cause, hcause⟩ => ⟨master, cause, hfile, hcause⟩,
    fun ⟨master, cause, hfile, hcause⟩ => ⟨master, hfile, cause, hcause⟩⟩

/-- The faults of a task that generates icons, and what they leave. -/
theorem generate_eq_error (h : (runOn (set.generate r resizer) s).1 = .error fault) :
    (¬ HasMaster s r ∧
        fault = .iconSourceMissing (r.resolve source)) ∨
      Refuses s r resizer fault ∨ ∃ path cause, fault = .writeFailed path cause := by
  by_cases hmaster : HasMaster s r
  · obtain ⟨master, hmaster⟩ := hmaster
    rw [generate_of_master hmaster] at h
    split at h
    · rename_i fault' hrefused
      obtain rfl := Except.error.inj h
      exact .inr (.inl ⟨master, hmaster, hrefused⟩)
    · split at h
      · exact nomatch h
      · rename_i hwriting
        obtain rfl := Except.error.inj h
        exact .inr (.inr (writeIcons_eq_error (congrArg Prod.fst hwriting)))
  · rw [generate_of_missing resizer hmaster] at h
    exact .inl ⟨hmaster, (Except.error.inj h).symm⟩

/-- What the resizer refuses is the end of the task, and nothing has changed. -/
theorem generate_of_refuses (h : Refuses s r resizer fault) :
    runOn (set.generate r resizer) s = (.error fault, s) := by
  obtain ⟨master, hmaster, hrefused⟩ := h
  rw [generate_of_master hmaster, hrefused]

/-- A master icon behind many links. -/
theorem hasMaster_winding_iff (turns : Nat) :
    HasMaster (windingSystem turns) ⟨"/"⟩ ↔ turns < linkLimit := isFile_winding_iff turns

theorem decodePicture_winding : decodePicture [1, 2, 3] = .error .unknownFormat := by cbv

/-- **A task that generates icons fails cleanly.**  Until the first icon is written it can only fail
    since there is no master icon or since the resizer refuses it, and then the file system is what
    it was.  It has no fault of input or output of its own.  The resizer of the library refuses what
    it cannot decode. -/
theorem generate_fails_cleanly (s : FileSystem) (r : Repository) (set : IconSet) :
    (∀ resizer : Resizer,
      let result := runOn (set.generate r resizer) s;
      (result.1 = .error (.iconSourceMissing (r.resolve source)) ↔
        ¬ HasMaster s r ∨ Refuses s r resizer (.iconSourceMissing (r.resolve source))) ∧
      (∀ fault, Refuses s r resizer fault → result.1 = .error fault) ∧
      (HasMaster s r → ∀ fault, result.1 = .error fault →
        Refuses s r resizer fault ∨ ∃ path cause, fault = .writeFailed path cause) ∧
      (∀ cause, result.1 = .error (.io cause) ↔ Refuses s r resizer (.io cause)) ∧
      (¬ HasMaster s r ∨ (∃ fault, Refuses s r resizer fault) → result.2 = s)) ∧
    (let result := runOn (set.generate r resizeIcons) s;
      (result.1 = .error (.iconSourceMissing (r.resolve source)) ↔ ¬ HasMaster s r) ∧
      (∀ fault, Refuses s r resizeIcons fault ↔
        ∃ master cause, s.IsFile (r.resolve source) master ∧ decodePicture master = .error cause ∧
          fault = .image (r.resolve source) cause.message) ∧
      ∀ cause, result.1 ≠ .error (.io cause)) := by
  have hmissing : ∀ resizer : Resizer,
      (runOn (set.generate r resizer) s).1 = .error (.iconSourceMissing (r.resolve source)) ↔
        ¬ HasMaster s r ∨ Refuses s r resizer (.iconSourceMissing (r.resolve source)) := by
    intro resizer
    constructor
    · intro h
      rcases generate_eq_error h with ⟨hnone, -⟩ | hrefused | ⟨_, _, hwriting⟩
      · exact .inl hnone
      · exact .inr hrefused
      · exact nomatch hwriting
    · rintro (hnone | hrefused)
      · rw [generate_of_missing resizer hnone]
      · rw [generate_of_refuses hrefused]
  have hio : ∀ (resizer : Resizer) (cause : IoFault),
      (runOn (set.generate r resizer) s).1 = .error (.io cause) ↔
        Refuses s r resizer (.io cause) := by
    intro resizer cause
    refine ⟨fun h => ?_, fun hrefused => by rw [generate_of_refuses hrefused]⟩
    rcases generate_eq_error h with ⟨-, hother⟩ | hrefused | ⟨_, _, hwriting⟩
    · exact nomatch hother
    · exact hrefused
    · exact nomatch hwriting
  refine ⟨fun resizer => ⟨hmissing resizer, fun fault hrefused => ?_, fun hmaster fault h => ?_,
    hio resizer, ?_⟩, ?_, fun fault => refuses_resizeIcons_iff, fun cause h => ?_⟩
  · rw [generate_of_refuses hrefused]
  · exact (generate_eq_error h).resolve_left fun hnone => hnone.1 hmaster
  · rintro (hnone | ⟨fault, hrefused⟩)
    · rw [generate_of_missing resizer hnone]
    · rw [generate_of_refuses hrefused]
  · -- The resizer of the library has faults of its own kind only.
    refine (hmissing resizeIcons).trans (or_iff_left fun hrefused => ?_)
    obtain ⟨_, _, -, -, hother⟩ := refuses_resizeIcons_iff.mp hrefused
    exact nomatch hother
  · obtain ⟨_, _, -, -, hother⟩ := refuses_resizeIcons_iff.mp ((hio resizeIcons cause).mp h)
    exact nomatch hother

/-- A master icon that is no picture, behind as many links as there may be; a resizer with a fault of
    input and output; and a master icon behind one link too many. -/
theorem generate_fails_cleanly_winding :
    (HasMaster (windingSystem 39) ⟨"/"⟩ ∧
      runOn (generate ⟨"app"⟩ ⟨"/"⟩ resizeIcons) (windingSystem 39) =
        (.error (.image "/assets/icon.png" "The image format could not be determined"),
          windingSystem 39) ∧
      runOn (generate ⟨"app"⟩ ⟨"/"⟩ (refusing (.io (.system 5)))) (windingSystem 39) =
        (.error (.io (.system 5)), windingSystem 39)) ∧
    ¬ HasMaster (windingSystem 40) ⟨"/"⟩ ∧
      runOn (generate ⟨"app"⟩ ⟨"/"⟩ resizeIcons) (windingSystem 40) =
        (.error (.iconSourceMissing "/assets/icon.png"), windingSystem 40) := by
  have hfile : (windingSystem 39).IsFile (Repository.resolve ⟨"/"⟩ source) [1, 2, 3] :=
    isFile_winding (by decide)
  have hgarbage : Refuses (windingSystem 39) ⟨"/"⟩ resizeIcons
      (.image "/assets/icon.png" "The image format could not be determined") :=
    refuses_resizeIcons_iff.mpr ⟨_, _, hfile, decodePicture_winding, rfl⟩
  have hrefused : Refuses (windingSystem 39) ⟨"/"⟩ (refusing (.io (.system 5)))
      (.io (.system 5)) := ⟨_, hfile, rfl⟩
  have hmany : ¬ HasMaster (windingSystem 40) ⟨"/"⟩ :=
    mt (hasMaster_winding_iff 40).mp (by decide)
  obtain ⟨hall, -⟩ := generate_fails_cleanly (windingSystem 39) ⟨"/"⟩ ⟨"app"⟩
  obtain ⟨hbeyond, -⟩ := generate_fails_cleanly (windingSystem 40) ⟨"/"⟩ ⟨"app"⟩
  obtain ⟨-, hfault, -, -, htree⟩ := hall resizeIcons
  obtain ⟨-, hfault', -, -, htree'⟩ := hall (refusing (.io (.system 5)))
  obtain ⟨hmissing, -, -, -, htree''⟩ := hbeyond resizeIcons
  exact ⟨⟨⟨_, hfile⟩, Prod.ext (hfault _ hgarbage) (htree (.inr ⟨_, hgarbage⟩)),
    Prod.ext (hfault' _ hrefused) (htree' (.inr ⟨_, hrefused⟩))⟩, hmany,
    Prod.ext (hmissing.mpr (.inl hmany)) (htree'' (.inl hmany))⟩

/-- **A master icon that is there does not rule out** that it is reported missing, or a fault of input
    and output: a resizer can have these faults.  And an icon that its path leads to through more
    links than there may be is reported missing, although the resizer would refuse its contents. -/
theorem generate_despite_master :
    (HasMaster (windingSystem 0) ⟨"/"⟩ ∧
      (runOn (generate ⟨"app"⟩ ⟨"/"⟩ (refusing (.iconSourceMissing "/assets/icon.png")))
        (windingSystem 0)).1 = .error (.iconSourceMissing "/assets/icon.png") ∧
      (runOn (generate ⟨"app"⟩ ⟨"/"⟩ (refusing (.io (.system 5)))) (windingSystem 0)).1 =
        .error (.io (.system 5))) ∧
    (windingSystem 40).tree.Leads false [] (Path.steps "/assets/icon.png") 41 ["m", "assets"] ∧
      (windingSystem 40).tree.get? ["m", "assets"] = some (.file [1, 2, 3]) ∧
      resizeIcons "/assets/icon.png" [1, 2, 3] iconSizes =
        .error (.image "/assets/icon.png" "The image format could not be determined") ∧
      (runOn (generate ⟨"app"⟩ ⟨"/"⟩ resizeIcons) (windingSystem 40)).1 =
        .error (.iconSourceMissing "/assets/icon.png") := by
  have hfile : (windingSystem 0).IsFile (Repository.resolve ⟨"/"⟩ source) [1, 2, 3] :=
    isFile_winding (by decide)
  have hrefused (fault : Fault) : Refuses (windingSystem 0) ⟨"/"⟩ (refusing fault) fault :=
    ⟨_, hfile, rfl⟩
  have hmany : ¬ HasMaster (windingSystem 40) ⟨"/"⟩ :=
    mt (hasMaster_winding_iff 40).mp (by decide)
  refine ⟨⟨⟨_, hfile⟩, ?_, ?_⟩, leads_winding 40, get?_winding_file 40,
    resizeIcons_of_error decodePicture_winding _ _, ?_⟩
  · rw [generate_of_refuses (hrefused _)]
  · rw [generate_of_refuses (hrefused _)]
  · rw [generate_of_missing resizeIcons hmany]
    rfl

end IconSet

end ReleaseArtifacts
