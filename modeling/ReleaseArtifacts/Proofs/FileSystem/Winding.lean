import ReleaseArtifacts.Proofs.FileSystem.Leading
import ReleaseArtifacts.Proofs.Path.Names

namespace ReleaseArtifacts

/-!
# Files behind many links

A file that a path leads to through any number of links, to see where the limit of links is met.

* `windingSystem turns` — a file, and a link to it that leads through `turns` others.
* `leads_winding` — the path of the link leads to the file, whatever the limit is.
* `isFile_winding_iff` — the file is found if there are no more links than the limit.
-/

open ReleaseArtifacts.Path (Step)
open FileTree (get?_empty get?_put_of)

/-- A path with so many parts `d`, and then the part `m`. -/
def windingPath (turns : Nat) : String := Path.textOf (['m'] :: List.replicate turns ['d'])

/-- A folder with a file, a link to the folder itself, and a link that leads through that one so many
    times and then to the file. -/
def windingSystem (turns : Nat) : FileSystem where
  tree := (((FileTree.empty.put "assets" [] .folder).put "d" ["assets"] (.link ".")).put
    "m" ["assets"] (.file [1, 2, 3])).put "icon.png" ["assets"] (.link (windingPath turns))
  current := none

variable (turns : Nat)

theorem get?_windingSystem (p : Place) : (windingSystem turns).tree.get? p =
    if p = ["icon.png", "assets"] then some (.link (windingPath turns))
    else if p = ["m", "assets"] then some (.file [1, 2, 3])
    else if p = ["d", "assets"] then some (.link ".")
    else if p = ["assets"] then some .folder
    else if p = [] then some .folder else none :=
  get?_put_of (get?_put_of (get?_put_of (get?_put_of get?_empty _ (by decide) (by decide)) _
    (by decide) (by decide)) _ (by decide) (by decide)) _ (by decide) (by decide) p

theorem steps_windingPath :
    Path.steps (windingPath turns) = List.replicate turns (.down "d") ++ [.down "m"] := by
  have hnames : Path.namesIn (['m'] :: List.replicate turns ['d']) =
      "m" :: List.replicate turns "d" := by
    simp [Path.namesIn]
  have hproper : ∀ name ∈ Path.namesIn (['m'] :: List.replicate turns ['d']), Path.IsName name := by
    intro name hname
    rw [hnames, List.mem_cons] at hname
    rcases hname with rfl | hname
    · exact ⟨by decide, by decide, by decide, by decide⟩
    · obtain rfl := List.eq_of_mem_replicate hname
      exact ⟨by decide, by decide, by decide, by decide⟩
  rw [windingPath, Path.steps_textOf hproper (by simp), hnames]
  simp

/-- The path starts from the folder of its link. -/
theorem startOf_windingPath (place : Place) : startOf (windingPath turns) place = place := by
  have hrelative : Path.isAbsolute (windingPath turns) = false := by
    cases turns with
    | zero => decide
    | succ turns =>
      have hmore : List.replicate turns ['d'] ++ [['m']] ≠ [] := by simp
      obtain ⟨piece, others, hparts⟩ := List.exists_cons_of_ne_nil hmore
      simp [windingPath, Path.textOf, Path.isAbsolute, List.replicate_succ', List.intercalate,
        hparts]
  rw [startOf, hrelative]
  rfl

theorem get?_winding_folder : (windingSystem turns).tree.get? ["assets"] = some .folder := by
  simp [get?_windingSystem]

theorem get?_winding_turn : (windingSystem turns).tree.get? ["d", "assets"] = some (.link ".") := by
  simp [get?_windingSystem]

theorem get?_winding_link :
    (windingSystem turns).tree.get? ["icon.png", "assets"] = some (.link (windingPath turns)) := by
  simp [get?_windingSystem]

theorem get?_winding_file :
    (windingSystem turns).tree.get? ["m", "assets"] = some (.file [1, 2, 3]) := by
  simp [get?_windingSystem]

/-! ### Through the links -/

/-- Each turn leads back to the folder, through one link. -/
theorem leads_turns (n : Nat) :
    (windingSystem turns).tree.Leads false ["assets"] (List.replicate n (.down "d")) n
      ["assets"] := by
  have hdot : Path.steps "." = [.stay] := by decide
  induction n with
  | zero => exact .here _
  | succ n ih =>
    refine .link (get?_winding_folder turns) (by decide) (by simp) (get?_winding_turn turns) ?_
    rw [hdot]
    exact .move (get?_winding_folder turns) rfl ih

theorem steps_winding_icon :
    Path.steps "/assets/icon.png" = [.down "assets", .down "icon.png"] := by decide

/-- **The path leads to the file,** through one link more than there are turns. -/
theorem leads_winding :
    (windingSystem turns).tree.Leads false [] (Path.steps "/assets/icon.png") (turns + 1)
      ["m", "assets"] := by
  have hlast : (windingSystem turns).tree.Leads false ["assets"] [.down "m"] 0 ["m", "assets"] :=
    .down (get?_winding_folder turns) (by decide) (by simp) (get?_winding_file turns) (by simp)
      (.here _)
  have hwhole := (leads_turns turns turns).append hlast (by simp)
  rw [steps_winding_icon]
  refine .down rfl (by decide) (by simp) (get?_winding_folder turns) (by simp)
    (.link (get?_winding_folder turns) (by decide) (by simp) (get?_winding_link turns) ?_)
  rwa [startOf_windingPath, steps_windingPath, List.append_nil]

/-- With as many turns as the limit of links the path is not found. -/
theorem locate_winding_of_le (h : linkLimit ≤ turns) :
    (windingSystem turns).locate false "/assets/icon.png" = .error .tooManyLinks := by
  obtain ⟨more, hmore⟩ := Nat.exists_eq_add_of_le h
  -- The first link and all turns but one use up the links, and there is one more turn.
  have hturns : List.replicate turns (Step.down "d") ++ [.down "m"] =
      List.replicate 39 (.down "d") ++ (.down "d" :: (List.replicate more (.down "d") ++
        [.down "m"])) := by
    rw [hmore, linkLimit, ← List.replicate_append_replicate, List.append_assoc]
    rfl
  show (windingSystem turns).tree.walk false (39 + 1) [] (Path.steps "/assets/icon.png") = _
  rw [steps_winding_icon, FileTree.walk_down_plain _ rfl (by decide) (by simp)
    (get?_winding_folder turns) (by simp), FileTree.walk_down_link _ (get?_winding_folder turns)
    (by decide) (by simp) (get?_winding_link turns), startOf_windingPath, steps_windingPath,
    List.append_nil, hturns]
  show (windingSystem turns).tree.walk false (0 + 39) ["assets"] _ = _
  rw [(leads_turns turns 39).walk_append, FileTree.walk_down _ (get?_winding_folder turns)
    (by decide) (by simp), get?_winding_turn]
  rfl

theorem isFile_winding {turns : Nat} (h : turns < linkLimit) :
    (windingSystem turns).IsFile "/assets/icon.png" [1, 2, 3] :=
  ⟨["m", "assets"], ⟨[], turns + 1, rfl, h, leads_winding turns⟩, get?_winding_file turns⟩

/-- **The file is found if there are fewer turns than the limit of links.** -/
theorem isFile_winding_iff :
    (∃ contents, (windingSystem turns).IsFile "/assets/icon.png" contents) ↔
      turns < linkLimit := by
  constructor
  · rintro ⟨contents, place, hleads, -⟩
    by_contra hmany
    have hlocate := locate_winding_of_le turns (Nat.le_of_not_lt hmany)
    rw [FileSystem.locate_eq_ok_iff.mpr hleads] at hlocate
    exact nomatch hlocate
  · intro hfew
    exact ⟨_, isFile_winding hfew⟩

end ReleaseArtifacts
