import ReleaseArtifacts.Icons.Set
import ReleaseArtifacts.Proofs.Path.Below

namespace ReleaseArtifacts

/-!
# The paths of icons

The icons of an application have different paths, unless the name of the application leads out of
the theme directory.  Paths may be the same although their texts are not, so that they are compared
part by part.

* `Path.parts` — what counts when paths are compared.
* `IconSet.parts_outputPath` — the parts of the path of an icon.
* `IconSet.injective_outputPath_iff` — when the sizes of an application have different paths.
* `IconSet.outputPath_distinct` — so do icons of different applications, and what their paths are.
-/

/-! ### Parts of paths -/

namespace Path

variable {path base name : String}

/-- What counts when paths are compared: what stands between their slashes, without parts that name
    nothing.  Only the first part counts in any case; it is empty if the path is absolute. -/
def parts (path : String) : List (List Char) :=
  if path = "" then []
  else (pieces path.toList).take 1 ++ ((pieces path.toList).drop 1).filter (!isBlank ·)

/-- Parts that are added after a slash. -/
theorem parts_append_slash (hne : path ≠ "") (rest : String) :
    parts (path ++ "/" ++ rest) = parts path ++ (pieces rest.toList).filter (!isBlank ·) := by
  obtain ⟨first, others, hpieces⟩ := List.exists_cons_of_ne_nil (pieces_ne_nil path.toList)
  have hsome : path ++ "/" ++ rest ≠ "" := by simp [hne]
  rw [parts, if_neg hsome, parts, if_neg hne, pieces_append_slash, hpieces]
  simp

/-- A name counts as one part. -/
theorem IsName.filter_pieces (h : IsName name) :
    (pieces name.toList).filter (!isBlank ·) = [name.toList] := by
  simp only [h.pieces_eq, List.filter_cons, h.isBlank_eq, Bool.not_false, if_true, List.filter_nil]

/-- A name that is added after a slash. -/
theorem parts_append_name (hne : path ≠ "") (h : IsName name) :
    parts (path ++ "/" ++ name) = parts path ++ [name.toList] := by
  rw [parts_append_slash hne, h.filter_pieces]

example : parts "icons//./app.png/" = parts "icons/app.png" := by decide

/-- A text without slashes is a name if it has anything else than dots in it. -/
theorem isName_of_mem {c : Char} (hslash : '/' ∉ name.toList) (hmem : c ∈ name.toList)
    (hdot : c ≠ '.') : IsName name := by
  refine ⟨hslash, ?_, ?_, ?_⟩
  · rintro rfl
    exact absurd hmem List.not_mem_nil
  · rintro rfl
    exact hdot (by simpa using hmem)
  · rintro rfl
    exact hdot (by simpa using hmem)

/-- A relative path is joined with a slash to one that ends in a name. -/
theorem EndsInName.join_eq (hbase : EndsInName base) (h : isAbsolute path = false) :
    Path.join base path = base ++ "/" ++ path := by
  rw [Path.join_eq base h, hbase.lead_eq]

end Path

/-! ### The directories of sizes -/

namespace IconSet

variable {set set' : IconSet} {size size' : Nat}

/-- The directory of a size is named by digits and a cross. -/
theorem isName_sizeDirectory (size : Nat) : Path.IsName (sizeDirectory size) := by
  have hdigits : '/' ∉ (toString size).toList := by
    intro hmem
    have hdigit : ('/').isDigit = true :=
      Nat.isDigit_of_mem_toDigits (b := 10) (n := size) (by decide) (by decide)
        (Nat.toList_repr ▸ hmem)
    exact absurd hdigit (by decide)
  have hcross : 'x' ∈ (sizeDirectory size).toList := by simp [sizeDirectory]
  refine Path.isName_of_mem ?_ hcross (by decide)
  simp only [sizeDirectory, String.toList_append, List.mem_append, not_or]
  exact ⟨⟨hdigits, by decide⟩, hdigits⟩

/-- Different sizes have different directories. -/
theorem sizeDirectory_injective : Function.Injective sizeDirectory := by
  intro size size' h
  have hchars := congrArg String.toList h
  simp only [sizeDirectory, String.toList_append, List.append_assoc] at hchars
  -- The same digits stand on both sides of the cross, so that their number is half of the others'.
  have hlength : (toString size).toList.length = (toString size').toList.length := by
    have htotal := congrArg List.length hchars
    simp only [List.length_append] at htotal
    omega
  exact Nat.repr_injective (String.toList_inj.mp (List.append_inj_left hchars hlength))

/-! ### Paths -/

theorem isName_apps : Path.IsName "apps" := by
  constructor <;> decide

/-- Whether a name starts with a slash does not depend on its ending. -/
theorem isAbsolute_fileName (application : String) :
    Path.isAbsolute (application ++ ".png") = Path.isAbsolute application := by
  by_cases hempty : application = ""
  · rw [hempty]
    decide
  · exact Path.isAbsolute_append hempty ".png"

theorem isAbsolute_of_fileName (h : Path.IsName (set.application ++ ".png")) :
    Path.isAbsolute set.application = false :=
  (isAbsolute_fileName _).symm.trans h.isAbsolute_eq

/-- All sizes of an application that is named by an absolute path have the same path. -/
theorem outputPath_of_isAbsolute (h : Path.isAbsolute set.application = true) (size : Nat) :
    set.outputPath size = set.application ++ ".png" := by
  rw [outputPath, Path.join, if_pos ((isAbsolute_fileName _).trans h)]

/-- All others have a path below the theme directory. -/
theorem outputPath_eq (h : Path.isAbsolute set.application = false) (size : Nat) :
    set.outputPath size = themeDirectory ++ "/" ++ sizeDirectory size ++ "/" ++ "apps" ++ "/" ++
      (set.application ++ ".png") := by
  have htheme : Path.EndsInName themeDirectory :=
    ⟨["assets".toList, "icons".toList], "hicolor".toList, by decide, by decide⟩
  have hsize := isName_sizeDirectory size
  rw [outputPath, htheme.join_eq hsize.isAbsolute_eq,
    (hsize.endsInName.append_slash _).join_eq isName_apps.isAbsolute_eq,
    (isName_apps.endsInName.append_slash _).join_eq ((isAbsolute_fileName _).trans h)]

/-- **The parts of a path** name the size, and then what the name of the application says. -/
theorem parts_outputPath (h : Path.isAbsolute set.application = false) (size : Nat) :
    Path.parts (set.outputPath size) =
      ["assets".toList, "icons".toList, "hicolor".toList, (sizeDirectory size).toList,
        "apps".toList] ++
          (Path.pieces (set.application ++ ".png").toList).filter (!Path.isBlank ·) := by
  have htheme :
      Path.parts themeDirectory = ["assets".toList, "icons".toList, "hicolor".toList] := by decide
  rw [outputPath_eq h, Path.parts_append_slash (by simp),
    Path.parts_append_name (by simp) isName_apps,
    Path.parts_append_name (by decide) (isName_sizeDirectory size), htheme]
  rfl

/-- The size can be told from the path. -/
theorem size_eq_of_parts (h : Path.isAbsolute set.application = false)
    (h' : Path.isAbsolute set'.application = false)
    (heq : Path.parts (set.outputPath size) = Path.parts (set'.outputPath size')) :
    size = size' := by
  rw [parts_outputPath h, parts_outputPath h'] at heq
  simp only [List.cons_append, List.cons.injEq, true_and] at heq
  exact sizeDirectory_injective (String.toList_inj.mp heq.1)

/-- An application without a slash in its name names a file. -/
theorem isName_fileName (h : '/' ∉ set.application.toList) :
    Path.IsName (set.application ++ ".png") := by
  have hletter : 'p' ∈ (set.application ++ ".png").toList := by simp
  refine Path.isName_of_mem ?_ hletter (by decide)
  rw [String.toList_append, List.mem_append]
  exact fun hmem => hmem.elim h (by decide)

/-- Such an application can be told from the path as well. -/
theorem application_eq_of_parts (h : '/' ∉ set.application.toList)
    (h' : '/' ∉ set'.application.toList)
    (heq : Path.parts (set.outputPath size) = Path.parts (set'.outputPath size')) :
    set.application = set'.application := by
  have hname := isName_fileName h
  have hname' := isName_fileName h'
  rw [parts_outputPath (isAbsolute_of_fileName hname),
    parts_outputPath (isAbsolute_of_fileName hname'), hname.filter_pieces,
    hname'.filter_pieces] at heq
  simp only [List.cons_append, List.cons.injEq, true_and, List.nil_append, and_true] at heq
  exact (String.append_left_inj ".png").mp (String.toList_inj.mp heq.2)

/-- **All sizes have different paths** exactly if the application is not named by an absolute path,
    in whatever way paths are compared, as long as different parts are told apart. -/
theorem injective_outputPath_iff {α : Type} (view : String → α)
    (hview : ∀ path path', view path = view path' → Path.parts path = Path.parts path') :
    (Function.Injective fun size : UInt32 => view (set.outputPath size.toNat)) ↔
      Path.isAbsolute set.application = false := by
  constructor
  · intro hinj
    rw [Bool.eq_false_iff]
    intro h
    -- Two sizes are enough to see that they have the same path.
    have hsame : set.outputPath (0 : UInt32).toNat = set.outputPath (1 : UInt32).toNat :=
      (outputPath_of_isAbsolute h _).trans (outputPath_of_isAbsolute h _).symm
    exact absurd (hinj (congrArg view hsame)) (by decide)
  · intro h size size' heq
    exact UInt32.toNat_inj.mp (size_eq_of_parts h h (hview _ _ heq))

/-- **Icons have different paths,** unless the application is named by an absolute path, whether
    texts are compared or parts.  If there is no slash in its name the path is a file in the
    directory of the size, and tells both the application and the size. -/
theorem outputPath_distinct :
    (∀ set : IconSet,
      ((Function.Injective fun size : UInt32 => set.outputPath size.toNat) ↔
        Path.isAbsolute set.application = false) ∧
      ((Function.Injective fun size : UInt32 => Path.parts (set.outputPath size.toNat)) ↔
        Path.isAbsolute set.application = false)) ∧
    (∀ set : IconSet, '/' ∉ set.application.toList → ∀ size, set.outputPath size =
      "assets/icons/hicolor/" ++ toString size ++ "x" ++ toString size ++ "/apps/" ++
        set.application ++ ".png") ∧
    ∀ (set set' : IconSet) (size size' : Nat), '/' ∉ set.application.toList →
      '/' ∉ set'.application.toList →
      Path.parts (set.outputPath size) = Path.parts (set'.outputPath size') →
      set = set' ∧ size = size' := by
  refine ⟨fun set => ?_, fun set hslash size => ?_, ?_⟩
  · exact ⟨injective_outputPath_iff id fun _ _ heq => congrArg Path.parts heq,
      injective_outputPath_iff Path.parts fun _ _ heq => heq⟩
  · have htheme : "assets/icons/hicolor/" = themeDirectory ++ "/" := by decide
    have happs : "/apps/" = "/" ++ "apps" ++ "/" := by decide
    rw [outputPath_eq (isAbsolute_of_fileName (isName_fileName hslash)), htheme, happs,
      sizeDirectory]
    simp only [String.append_assoc]
  · intro set set' size size' hslash hslash' heq
    have hsize := size_eq_of_parts (isAbsolute_of_fileName (isName_fileName hslash))
      (isAbsolute_of_fileName (isName_fileName hslash')) heq
    refine ⟨?_, hsize⟩
    rw [IconSet.mk.injEq]
    exact application_eq_of_parts hslash hslash' heq

/-- Two applications whose names look like sizes. -/
theorem outputPath_distinct_digits :
    '/' ∉ "16x16".toList ∧ '/' ∉ "6x16".toList ∧
    outputPath ⟨"16x16"⟩ 1 = "assets/icons/hicolor/1x1/apps/16x16.png" ∧
    Path.parts (outputPath ⟨"16x16"⟩ 1) ≠ Path.parts (outputPath ⟨"6x16"⟩ 11) := by
  have hslash : '/' ∉ "16x16".toList := by decide
  have hslash' : '/' ∉ "6x16".toList := by decide
  refine ⟨hslash, hslash', outputPath_distinct.2.1 ⟨"16x16"⟩ hslash 1, fun heq => ?_⟩
  obtain ⟨-, hsize⟩ := outputPath_distinct.2.2 ⟨"16x16"⟩ ⟨"6x16"⟩ 1 11 hslash hslash' heq
  exact absurd hsize (by decide)

end IconSet

end ReleaseArtifacts
