import ReleaseArtifacts.Proofs.Formula.Openings
import ReleaseArtifacts.Proofs.Formula.Rendering
import ReleaseArtifacts.Proofs.Formula.Texts

namespace ReleaseArtifacts.Formula

/-!
# Recovering the package from its formula

A formula says everything about a package and a release, if no text in them has a double quote or a
line feed.

* `headLine_inj`, `databaseLine_inj`, `execLine_inj` — the lines with two texts are cut at a double
  quote, which none of the texts has.
* `launchers_inj` — the launchers are recovered from the lines with their names, the lines that
  start their binaries, and the caveats.
* `formulaLines_inj` — the lists of the package are found by the openings of their lines; then all
  other lines stand at known places.
* `rendered_inj` — the rendered texts of two packages or two releases differ.
-/

open Text (Lacks starting)

/-! ### Single lines -/

/-- What stands before the first of certain characters, and after it. -/
theorem cut_inj {α : Type} {c : α} {a a' x x' : List α} (ha : c ∉ a) (ha' : c ∉ a')
    (h : a ++ c :: x = a' ++ c :: x') : a = a' ∧ x = x' := by
  induction a generalizing a' with
  | nil =>
    cases a' with
    | nil => exact ⟨rfl, List.tail_eq_of_cons_eq h⟩
    | cons d a' => exact absurd (List.head_eq_of_cons_eq h) fun hcd => ha' (by simp [hcd])
  | cons d a ih =>
    cases a' with
    | nil => exact absurd (List.head_eq_of_cons_eq h) fun hdc => ha (by simp [hdc])
    | cons d' a' =>
      obtain ⟨hd, htail⟩ := List.cons_eq_cons.mp h
      obtain ⟨hbefore, hafter⟩ :=
        ih (fun hc => ha (by simp [hc])) (fun hc => ha' (by simp [hc])) htail
      exact ⟨by rw [hd, hbefore], hafter⟩

/-- Texts without a double quote, each with one after it. -/
theorem cut_at_quote {a b x y : String} (ha : Lacks '"' a) (hb : Lacks '"' b)
    (h : a ++ ("\"" ++ x) = b ++ ("\"" ++ y)) : a = b ∧ x = y := by
  rw [← String.toList_inj] at h
  simp only [String.toList_append] at h
  obtain ⟨hbefore, hafter⟩ := cut_inj ha hb h
  exact ⟨String.toList_inj.mp hbefore, String.toList_inj.mp hafter⟩

theorem headLine_inj {h h' : HeadSource} (hurl : Lacks '"' h.url) (hurl' : Lacks '"' h'.url)
    (heq : headLine h = headLine h') : h = h' := by
  have hsplit : "\", branch: \"" = "\"" ++ ", branch: \"" := by decide
  unfold headLine at heq
  simp only [hsplit, String.append_assoc, String.append_right_inj] at heq
  obtain ⟨hu, hrest⟩ := cut_at_quote hurl hurl' heq
  have hbranch : h.branch = h'.branch := by
    simpa only [String.append_right_inj, String.append_left_inj] using hrest
  cases h
  cases h'
  rw [HeadSource.mk.injEq]
  exact ⟨hu, hbranch⟩

/-- The line with the database gives the variable and the file. -/
theorem databaseLine_inj {t t' : RuntimeLayout} (henv : Lacks '"' t.dbEnv)
    (henv' : Lacks '"' t'.dbEnv) (heq : databaseLine t = databaseLine t') :
    t.dbEnv = t'.dbEnv ∧ t.dbFile = t'.dbFile := by
  have hsplit : "=\"" = "=" ++ "\"" := by decide
  have hlacks : Lacks '"' (t.dbEnv ++ "=") := by simp +decide only [Text.lacks_append, henv]
  have hlacks' : Lacks '"' (t'.dbEnv ++ "=") := by simp +decide only [Text.lacks_append, henv']
  unfold databaseLine at heq
  simp only [hsplit, String.append_assoc, String.append_right_inj] at heq
  conv at heq => lhs; rw [← String.append_assoc]
  conv at heq => rhs; rw [← String.append_assoc]
  obtain ⟨hname, hrest⟩ := cut_at_quote hlacks hlacks' heq
  have henveq : t.dbEnv = t'.dbEnv := (String.append_left_inj "=").mp hname
  refine ⟨henveq, ?_⟩
  -- The variable is named again behind the quote; with it the rest gives the file.
  simpa only [henveq, String.append_right_inj, String.append_left_inj] using hrest

theorem execLine_inj {t : RuntimeLayout} {l l' : Launcher} (hl : Lacks '"' l.binary)
    (hl' : Lacks '"' l'.binary) (heq : execLine t l = execLine t l') :
    l.binary = l'.binary ∧ l.passDb = l'.passDb := by
  unfold execLine at heq
  simp only [String.append_assoc, String.append_right_inj] at heq
  obtain ⟨hbinary, hrest⟩ := cut_at_quote hl hl' heq
  have harguments : databaseArguments t l = databaseArguments t l' := by
    simpa only [String.append_left_inj] using hrest
  have hsome : " --db \"" ++ "$\x7b" ++ t.dbEnv ++ "\x7d" ++ "\"" ≠ "" := by
    simp +decide only [ne_eq, String.append_eq_empty_iff, and_false]
  refine ⟨hbinary, ?_⟩
  -- One launcher that passes the database has arguments, and one that does not has none.
  unfold databaseArguments at harguments
  cases hpass : l.passDb <;> cases hpass' : l'.passDb <;> simp_all

theorem commandLine_inj {width : Nat} {l l' : Launcher} (hname : l.name = l'.name)
    (heq : commandLine width l = commandLine width l') : l.summary = l'.summary := by
  unfold commandLine at heq
  rw [hname] at heq
  simpa only [String.append_assoc, String.append_right_inj, String.append_left_inj] using heq

/-! ### Launchers -/

theorem openingLine_inj {l l' : Launcher} (heq : openingLine l = openingLine l') :
    l.name = l'.name := by
  unfold openingLine at heq
  simpa only [String.append_assoc, String.append_right_inj, String.append_left_inj] using heq

/-- Lists with the same values have the same value at each place. -/
theorem map_getElem_eq {α β : Type} {f g : α → β} {xs ys : List α} (h : xs.map f = ys.map g)
    {i : Nat} (hx : i < xs.length) (hy : i < ys.length) : f xs[i] = g ys[i] := by
  have hget : (xs.map f)[i]? = (ys.map g)[i]? := by rw [h]
  simpa only [List.getElem?_map, List.getElem?_eq_getElem hx, List.getElem?_eq_getElem hy,
    Option.map_some, Option.some.injEq] using hget

theorem length_eq_of_map_eq {α β : Type} {f g : α → β} {xs ys : List α}
    (h : xs.map f = ys.map g) : xs.length = ys.length := by
  simpa only [List.length_map] using congrArg List.length h

/-- The width of the column depends on the names only. -/
theorem columnWidth_congr {p p' : Profile}
    (h : p.launchers.map openingLine = p'.launchers.map openingLine) :
    p.columnWidth = p'.columnWidth := by
  have hwidths : p.launchers.map (fun l => Text.byteWidth l.name) =
      p'.launchers.map (fun l => Text.byteWidth l.name) := by
    refine List.ext_getElem (by simpa using length_eq_of_map_eq h) fun i hi hi' => ?_
    rw [List.length_map] at hi hi'
    rw [List.getElem_map, List.getElem_map, openingLine_inj (map_getElem_eq h hi hi')]
  rw [Profile.columnWidth, Profile.longestName, hwidths, ← Profile.longestName,
    ← Profile.columnWidth]

/-- Launchers are recovered from the lines with their names, the lines that start their binaries,
    and their lines in the caveats. -/
theorem launchers_inj {t : RuntimeLayout} {width : Nat} {ls ls' : List Launcher}
    (hls : ∀ l ∈ ls, Lacks '"' l.binary) (hls' : ∀ l ∈ ls', Lacks '"' l.binary)
    (hopening : ls.map openingLine = ls'.map openingLine)
    (hexec : ls.map (execLine t) = ls'.map (execLine t))
    (hcommand : ls.map (commandLine width) = ls'.map (commandLine width)) : ls = ls' := by
  refine List.ext_getElem (length_eq_of_map_eq hopening) fun i hi hi' => ?_
  -- The name comes first: the column that it fills stands in front of the summary.
  have hname := openingLine_inj (map_getElem_eq hopening hi hi')
  have hsummary := commandLine_inj hname (map_getElem_eq hcommand hi hi')
  obtain ⟨hbinary, hpass⟩ := execLine_inj (hls _ (List.getElem_mem hi))
    (hls' _ (List.getElem_mem hi')) (map_getElem_eq hexec hi hi')
  cases hl : ls[i]
  cases hl' : ls'[i]
  rw [hl, hl'] at hname hsummary hbinary hpass
  rw [Launcher.mk.injEq]
  exact ⟨hname, hbinary, hsummary, hpass⟩

/-! ### Whole formulas -/

theorem dependencyLine_inj {d d' : String} (heq : dependencyLine d = dependencyLine d') :
    d = d' := by
  unfold dependencyLine at heq
  simpa only [String.append_assoc, String.append_right_inj, String.append_left_inj] using heq

theorem binaryLine_inj {b b' : String} (heq : binaryLine b = binaryLine b') : b = b' := by
  unfold binaryLine at heq
  simpa only [String.append_assoc, String.append_right_inj, String.append_left_inj] using heq

theorem headLines_inj {p p' : Profile} {r r' : Release} (hp : ∀ t ∈ p.texts, Lacks '"' t)
    (hp' : ∀ t ∈ p'.texts, Lacks '"' t) (heq : headLines p r = headLines p' r') :
    p.className = p'.className ∧ p.desc = p'.desc ∧ p.homepage = p'.homepage ∧
      p.license = p'.license ∧ p.head = p'.head ∧ r = r' := by
  unfold headLines titleLines releaseLines urlLine checksumLine versionLine sourceLines at heq
  simp only [List.cons_append, List.nil_append, List.cons.injEq, String.append_assoc,
    String.append_right_inj, String.append_left_inj, and_true] at heq
  obtain ⟨hclass, hdesc, hpage, hurl, hsum, hversion, hlicense, hhead⟩ := heq
  refine ⟨hclass, hdesc, hpage, hlicense, headLine_inj (hp _ ?_) (hp' _ ?_) hhead, ?_⟩
  · simp [Profile.texts]
  · simp [Profile.texts]
  · cases r
    cases r'
    rw [Release.mk.injEq]
    exact ⟨hversion, hurl, hsum⟩

theorem tailLines_inj {p p' : Profile} (heq : tailLines p = tailLines p') :
    p.runtime.homeDir = p'.runtime.homeDir ∧ p.test = p'.test := by
  unfold tailLines noteLines testLines at heq
  simp only [List.cons_append, List.nil_append, List.cons.injEq, String.append_assoc,
    String.append_right_inj, String.append_left_inj, and_true, true_and] at heq
  obtain ⟨hdir, hcommand, hexpect⟩ := heq
  refine ⟨hdir, ?_⟩
  cases htest : p.test
  cases htest' : p'.test
  rw [htest, htest'] at hcommand hexpect
  rw [SmokeTest.mk.injEq]
  exact ⟨hcommand, hexpect⟩

/-- The caveats of the launchers and what comes after them stand at the end. -/
theorem bodyLines_eq_append (p : Profile) : ∃ front,
    bodyLines p = front ++ (p.launchers.map (commandLine p.columnWidth) ++ tailLines p) := by
  refine ⟨p.buildDependencies.map dependencyLine ++ (buildLines p ++ (p.binaries.map binaryLine ++
    (moduleLines ++ (p.launchers.flatMap (scriptLines p.runtime) ++ (p.launchers.map modeLine ++
      caveatsLines))))), ?_⟩
  simp only [bodyLines, List.append_assoc]

/-- **A formula determines its package and its release.** -/
theorem formulaLines_inj {p p' : Profile} {r r' : Release} (hp : ∀ t ∈ p.texts, Lacks '"' t)
    (hp' : ∀ t ∈ p'.texts, Lacks '"' t) (hsome : p.launchers ≠ [])
    (heq : formulaLines p r = formulaLines p' r') : p = p' ∧ r = r' := by
  -- The lists of the package, by the openings of their lines.
  have hdependencies : p.buildDependencies = p'.buildDependencies := by
    have hlines := starting_dependencyOpening p r
    rw [heq, starting_dependencyOpening] at hlines
    exact ((List.map_inj_right fun _ _ => dependencyLine_inj).mp hlines).symm
  have hbinaries : p.binaries = p'.binaries := by
    have hlines := starting_binaryOpening p r
    rw [heq, starting_binaryOpening] at hlines
    exact ((List.map_inj_right fun _ _ => binaryLine_inj).mp hlines).symm
  have hopening : p.launchers.map openingLine = p'.launchers.map openingLine := by
    rw [← starting_launcherOpening p r, heq, starting_launcherOpening]
  have hexec : p.launchers.map (execLine p.runtime) = p'.launchers.map (execLine p'.runtime) := by
    rw [← starting_execOpening p r, heq, starting_execOpening]
  have hexport : (p.launchers.map fun _ => databaseLine p.runtime) =
      p'.launchers.map fun _ => databaseLine p'.runtime := by
    rw [← starting_exportOpening p r, heq, starting_exportOpening]
  have hlength := length_eq_of_map_eq hopening
  -- The other lines stand at known places.
  obtain ⟨hhead, hbody⟩ := List.append_inj heq rfl
  obtain ⟨front, hfront⟩ := bodyLines_eq_append p
  obtain ⟨front', hfront'⟩ := bodyLines_eq_append p'
  rw [hfront, hfront'] at hbody
  have hend := List.append_inj_right' hbody (by simp [hlength, tailLines, noteLines, testLines])
  obtain ⟨hcommand, htail⟩ := List.append_inj hend (by simp [hlength])
  obtain ⟨hclass, hdesc, hpage, hlicense, hsource, hrelease⟩ := headLines_inj hp hp' hhead
  obtain ⟨hdir, htest⟩ := tailLines_inj htail
  have hruntime : p.runtime = p'.runtime := by
    have hpos : 0 < p.launchers.length := List.length_pos_iff.mpr hsome
    obtain ⟨henv, hfile⟩ := databaseLine_inj (hp _ (by simp [Profile.texts]))
      (hp' _ (by simp [Profile.texts])) (map_getElem_eq hexport hpos (hlength ▸ hpos))
    cases ht : p.runtime
    cases ht' : p'.runtime
    rw [ht, ht'] at hdir henv hfile
    rw [RuntimeLayout.mk.injEq]
    exact ⟨hdir, henv, hfile⟩
  have hlaunchers : p.launchers = p'.launchers := by
    rw [← hruntime] at hexec
    rw [← columnWidth_congr hopening] at hcommand
    exact launchers_inj
      (fun l hl => hp _ (Profile.mem_texts_of_launcher hl (by simp [Launcher.texts])))
      (fun l hl => hp' _ (Profile.mem_texts_of_launcher hl (by simp [Launcher.texts])))
      hopening hexec hcommand
  refine ⟨?_, hrelease⟩
  cases p
  cases p'
  rw [Profile.mk.injEq]
  exact ⟨hclass, hdesc, hpage, hlicense, hsource, hdependencies, hbinaries, hruntime, hlaunchers,
    htest⟩

/-- **Rendering loses nothing.**  If the texts of two packages have no double quotes, no text has a
    line feed, and there are launchers, then the rendered texts are the same only if the packages
    are the same and the releases are the same. -/
theorem rendered_inj (p p' : Profile) (r r' : Release)
    (hp : ∀ t ∈ p.texts, Lacks '"' t ∧ Lacks '\n' t)
    (hp' : ∀ t ∈ p'.texts, Lacks '"' t ∧ Lacks '\n' t)
    (hr : ∀ t ∈ r.texts, Lacks '\n' t) (hr' : ∀ t ∈ r'.texts, Lacks '\n' t)
    (hsome : p.launchers ≠ []) (hwidth : p.columnWidth ≤ 65535) (hwidth' : p'.columnWidth ≤ 65535)
    (heq : rendered p r = rendered p' r') : p = p' ∧ r = r' := by
  rw [rendered_of_width p r hwidth, rendered_of_width p' r' hwidth'] at heq
  have htext : formulaText p r = formulaText p' r' := Except.ok.inj heq
  have hlines : formulaLines p r ++ [""] = formulaLines p' r' ++ [""] := by
    rw [← lines_formulaText (fun t ht => (hp t ht).2) hr, htext,
      lines_formulaText (fun t ht => (hp' t ht).2) hr']
  exact formulaLines_inj (fun t ht => (hp t ht).1) (fun t ht => (hp' t ht).1) hsome
    (List.append_cancel_right hlines)

theorem rendered_inj_application :
    (Profile.application = Profile.application ∧ firstRelease = firstRelease) ∧
      rendered Profile.application firstRelease ≠ rendered Profile.application braceRelease := by
  have htexts : ∀ t ∈ Profile.application.texts, Lacks '"' t ∧ Lacks '\n' t := by decide
  have hfirst : ∀ t ∈ firstRelease.texts, Lacks '\n' t := by decide
  have hbrace : ∀ t ∈ braceRelease.texts, Lacks '\n' t := by decide
  refine ⟨rendered_inj _ _ _ _ htexts htexts hfirst hfirst (by decide) (by decide) (by decide) rfl,
    fun heq => ?_⟩
  obtain ⟨-, hrelease⟩ := rendered_inj _ _ _ _ htexts htexts hfirst hbrace (by decide) (by decide)
    (by decide) heq
  revert hrelease
  decide

end ReleaseArtifacts.Formula
