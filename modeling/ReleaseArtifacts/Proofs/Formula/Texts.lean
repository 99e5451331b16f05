import ReleaseArtifacts.Proofs.Formula.Arguments
import ReleaseArtifacts.Proofs.Formula.Lines

namespace ReleaseArtifacts

/-!
# The texts of packages and releases

* `Profile.texts`, `Release.texts` — all texts in a package or a release.
* `lines_formulaText` — if none of them has a line feed, the lines of a formula are found again in
  its text.
-/

/-- The texts of a launcher. -/
def Launcher.texts (l : Launcher) : List String := [l.name, l.binary, l.summary]

/-- The texts of a package. -/
def Profile.texts (p : Profile) : List String :=
  [p.className, p.desc, p.homepage, p.license, p.head.url, p.head.branch] ++
    (p.buildDependencies ++ (p.binaries ++
      ([p.runtime.homeDir, p.runtime.dbEnv, p.runtime.dbFile] ++
        (p.launchers.flatMap Launcher.texts ++ [p.test.command, p.test.expect]))))

/-- The texts of a release. -/
def Release.texts (r : Release) : List String := [r.version, r.url, r.sha256]

theorem Profile.mem_texts_of_launcher {p : Profile} {l : Launcher} (hl : l ∈ p.launchers)
    {t : String} (ht : t ∈ l.texts) : t ∈ p.texts := by
  have hmem : t ∈ p.launchers.flatMap Launcher.texts := List.mem_flatMap.mpr ⟨l, hl, ht⟩
  simp only [texts, List.mem_append]
  exact .inr (.inr (.inr (.inr (.inl hmem))))

namespace Formula

open Text (Lacks lacks_append)

variable {p : Profile} {r : Release}

/-! ### Lines without line feeds -/

theorem lacks_padRight {c : Char} {s : String} (hc : c ≠ ' ') (hs : Lacks c s) (width : Nat) :
    Lacks c (Text.padRight s width) := by
  rw [Text.padRight, lacks_append]
  refine ⟨hs, ?_⟩
  rw [Lacks, String.toList_ofList]
  exact fun hmem => hc (List.eq_of_mem_replicate hmem)

theorem lacks_titleLines (hp : ∀ t ∈ p.texts, Lacks '\n' t) :
    ∀ line ∈ titleLines p, Lacks '\n' line := by
  have hclass : Lacks '\n' p.className := hp _ (by simp [Profile.texts])
  have hdesc : Lacks '\n' p.desc := hp _ (by simp [Profile.texts])
  have hpage : Lacks '\n' p.homepage := hp _ (by simp [Profile.texts])
  unfold titleLines
  simp +decide only [List.forall_mem_cons, lacks_append, hclass, hdesc, hpage]

theorem lacks_releaseLines (hr : ∀ t ∈ r.texts, Lacks '\n' t) :
    ∀ line ∈ releaseLines r, Lacks '\n' line := by
  have hversion : Lacks '\n' r.version := hr _ (by simp [Release.texts])
  have hurl : Lacks '\n' r.url := hr _ (by simp [Release.texts])
  have hsum : Lacks '\n' r.sha256 := hr _ (by simp [Release.texts])
  unfold releaseLines urlLine checksumLine versionLine
  simp +decide only [List.forall_mem_cons, lacks_append, hversion, hurl, hsum]

theorem lacks_sourceLines (hp : ∀ t ∈ p.texts, Lacks '\n' t) :
    ∀ line ∈ sourceLines p, Lacks '\n' line := by
  have hlicense : Lacks '\n' p.license := hp _ (by simp [Profile.texts])
  have hurl : Lacks '\n' p.head.url := hp _ (by simp [Profile.texts])
  have hbranch : Lacks '\n' p.head.branch := hp _ (by simp [Profile.texts])
  unfold sourceLines headLine
  simp +decide only [List.forall_mem_cons, lacks_append, hlicense, hurl, hbranch]

/-- A character that is neither in the names of the binaries nor in the other arguments of the
    command that builds them. -/
theorem lacks_buildInvocation {c : Char}
    (hfixed : ∀ a ∈ ["cargo", "build", "--release", "--locked", "--bin"], Lacks c a)
    (h : ∀ b ∈ p.binaries, Lacks c b) : ∀ a ∈ p.buildInvocation, Lacks c a := by
  refine List.forall_mem_append.mpr ⟨fun a ha => hfixed a (List.mem_append_left ["--bin"] ha), ?_⟩
  -- Behind the command are the names of the binaries, and the option before each of them.
  intro a ha
  obtain ⟨b, hb, hab⟩ := List.mem_flatMap.mp ha
  have hcases : a = "--bin" ∨ a = b := by simpa using hab
  rcases hcases with rfl | rfl
  · exact hfixed _ (by simp)
  · exact h _ hb

theorem lacks_buildLines (hp : ∀ t ∈ p.texts, Lacks '\n' t) :
    ∀ line ∈ buildLines p, Lacks '\n' line := by
  have harguments : Lacks '\n' (argumentList p.buildInvocation) :=
    lacks_argumentList (by decide) <| lacks_buildInvocation (by decide) fun b hb =>
      hp _ (by simp [Profile.texts, hb])
  unfold buildLines systemLine
  simp +decide only [List.forall_mem_cons, lacks_append, harguments]

theorem lacks_scriptLines (hp : ∀ t ∈ p.texts, Lacks '\n' t) {l : Launcher}
    (hl : l ∈ p.launchers) : ∀ line ∈ scriptLines p.runtime l, Lacks '\n' line := by
  have hname : Lacks '\n' l.name :=
    hp _ (Profile.mem_texts_of_launcher hl (by simp [Launcher.texts]))
  have hbinary : Lacks '\n' l.binary :=
    hp _ (Profile.mem_texts_of_launcher hl (by simp [Launcher.texts]))
  have hdir : Lacks '\n' p.runtime.homeDir := hp _ (by simp [Profile.texts])
  have henv : Lacks '\n' p.runtime.dbEnv := hp _ (by simp [Profile.texts])
  have hfile : Lacks '\n' p.runtime.dbFile := hp _ (by simp [Profile.texts])
  have hpass : Lacks '\n' (databaseArguments p.runtime l) := by
    unfold databaseArguments
    split
    · simp +decide only [lacks_append, henv]
    · decide
  unfold scriptLines bootstrapLines openingLine rootLine databaseLine execLine closingLine
  simp +decide only [List.forall_mem_cons, List.forall_mem_append, lacks_append, hname, hbinary,
    hdir, henv, hfile, hpass]

theorem lacks_commandLine (hp : ∀ t ∈ p.texts, Lacks '\n' t) {l : Launcher}
    (hl : l ∈ p.launchers) : Lacks '\n' (commandLine p.columnWidth l) := by
  have hname : Lacks '\n' l.name :=
    hp _ (Profile.mem_texts_of_launcher hl (by simp [Launcher.texts]))
  have hsummary : Lacks '\n' l.summary :=
    hp _ (Profile.mem_texts_of_launcher hl (by simp [Launcher.texts]))
  have hcolumn := lacks_padRight (by decide) hname p.columnWidth
  unfold commandLine
  simp +decide only [lacks_append, hcolumn, hsummary]

theorem lacks_tailLines (hp : ∀ t ∈ p.texts, Lacks '\n' t) :
    ∀ line ∈ tailLines p, Lacks '\n' line := by
  have hdir : Lacks '\n' p.runtime.homeDir := hp _ (by simp [Profile.texts])
  have hcommand : Lacks '\n' p.test.command := hp _ (by simp [Profile.texts])
  have hexpect : Lacks '\n' p.test.expect := hp _ (by simp [Profile.texts])
  unfold tailLines noteLines testLines closingLine
  simp +decide only [List.forall_mem_cons, List.forall_mem_append, lacks_append, hdir, hcommand,
    hexpect]

/-- No line of a formula has a line feed if no text in the package and the release has one. -/
theorem lacks_formulaLines (hp : ∀ t ∈ p.texts, Lacks '\n' t) (hr : ∀ t ∈ r.texts, Lacks '\n' t) :
    ∀ line ∈ formulaLines p r, Lacks '\n' line := by
  have hdependencies : ∀ d ∈ p.buildDependencies, Lacks '\n' (dependencyLine d) := by
    intro d hd
    have hlacks : Lacks '\n' d := hp _ (by simp [Profile.texts, hd])
    unfold dependencyLine
    simp +decide only [lacks_append, hlacks]
  have hbinaries : ∀ b ∈ p.binaries, Lacks '\n' (binaryLine b) := by
    intro b hb
    have hlacks : Lacks '\n' b := hp _ (by simp [Profile.texts, hb])
    unfold binaryLine
    simp +decide only [lacks_append, hlacks]
  have hmodes : ∀ l ∈ p.launchers, Lacks '\n' (modeLine l) := by
    intro l hl
    have hname : Lacks '\n' l.name :=
      hp _ (Profile.mem_texts_of_launcher hl (by simp [Launcher.texts]))
    unfold modeLine
    simp +decide only [lacks_append, hname]
  have hmodules : ∀ line ∈ moduleLines, Lacks '\n' line := by decide
  have hcaveats : ∀ line ∈ caveatsLines, Lacks '\n' line := by decide
  have hscripts : ∀ line ∈ p.launchers.flatMap (scriptLines p.runtime), Lacks '\n' line := by
    intro line hline
    obtain ⟨l, hl, hline⟩ := List.mem_flatMap.mp hline
    exact lacks_scriptLines hp hl line hline
  simp only [formulaLines, headLines, bodyLines, List.forall_mem_append, List.forall_mem_map]
  exact ⟨⟨lacks_titleLines hp, lacks_releaseLines hr, lacks_sourceLines hp⟩, hdependencies,
    lacks_buildLines hp, hbinaries, hmodules, hscripts, hmodes, hcaveats,
    fun l hl => lacks_commandLine hp hl, lacks_tailLines hp⟩

/-- **The lines are found again.**  If no text of the package and the release has a line feed, the
    text of the formula has its lines, and the empty one after the last line feed. -/
theorem lines_formulaText (hp : ∀ t ∈ p.texts, Lacks '\n' t) (hr : ∀ t ∈ r.texts, Lacks '\n' t) :
    Text.lines (formulaText p r) = formulaLines p r ++ [""] :=
  Text.lines_unlines (lacks_formulaLines hp hr)

end Formula

end ReleaseArtifacts
