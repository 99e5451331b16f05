import ReleaseArtifacts.Proofs.Formula.Openings
import ReleaseArtifacts.Proofs.Formula.Rendering
import ReleaseArtifacts.Proofs.Formula.Texts

namespace ReleaseArtifacts.Formula

/-!
# The lines that name the release

Of all lines of a formula, three depend on the release.

* `NamedOnce` — each of them stands there once: `namedOnce`, since no other line starts like it.
* `AgreeBut` — all other lines are the same: `formulaLines_agreeBut`.
* `formulaLines_eq_frame` — what stands before and after them depends on the package only.
* `rendered_releases` — the texts for two releases agree on all other lines.
-/

open Text (Lacks Opened count_of_starting lines opens_of_startsWith starting starting_append
  starting_between starting_blank starting_cons)

variable (p : Profile) (r : Release)

/-! ### Each of them stands there once -/

theorem starting_urlOpening : starting urlOpening (formulaLines p r) = [urlLine r.url] := by
  have hrest : Opened [checksumOpening, versionOpening]
      [checksumLine r.sha256, versionLine r.version] :=
    .cons (opens_of_startsWith (checksumLine_startsWith r.sha256)) <|
      .cons (opens_of_startsWith (versionLine_startsWith r.version)) <| .nil _
  rw [starting_of_release p r (by decide) (by decide), releaseLines,
    starting_cons (urlLine_startsWith r.url), hrest.starting_eq_nil (by decide)]

theorem starting_checksumOpening :
    starting checksumOpening (formulaLines p r) = [checksumLine r.sha256] := by
  have hfirst : Opened [urlOpening] [urlLine r.url] :=
    .cons (opens_of_startsWith (urlLine_startsWith r.url)) <| .nil _
  have hlast : Opened [versionOpening] [versionLine r.version] :=
    .cons (opens_of_startsWith (versionLine_startsWith r.version)) <| .nil _
  rw [starting_of_release p r (by decide) (by decide)]
  exact starting_between (checksumLine_startsWith r.sha256) hfirst hlast (by decide)

theorem starting_versionOpening :
    starting versionOpening (formulaLines p r) = [versionLine r.version] := by
  have hbefore : Opened [urlOpening, checksumOpening] [urlLine r.url, checksumLine r.sha256] :=
    .cons (opens_of_startsWith (urlLine_startsWith r.url)) <|
      .cons (opens_of_startsWith (checksumLine_startsWith r.sha256)) <| .nil _
  rw [starting_of_release p r (by decide) (by decide)]
  exact starting_between (versionLine_startsWith r.version) hbefore (.nil []) (by decide)

/-- The archive, the checksum and the number of a release are on one line each. -/
structure NamedOnce (r : Release) (ls : List String) : Prop where
  url : ls.count (urlLine r.url) = 1
  checksum : ls.count (checksumLine r.sha256) = 1
  version : ls.count (versionLine r.version) = 1

theorem namedOnce : NamedOnce r (formulaLines p r ++ [""]) where
  url := by
    refine count_of_starting (urlLine_startsWith r.url) ?_
    rw [starting_append, starting_urlOpening, starting_blank (by decide), List.append_nil]
  checksum := by
    refine count_of_starting (checksumLine_startsWith r.sha256) ?_
    rw [starting_append, starting_checksumOpening, starting_blank (by decide), List.append_nil]
  version := by
    refine count_of_starting (versionLine_startsWith r.version) ?_
    rw [starting_append, starting_versionOpening, starting_blank (by decide), List.append_nil]

/-! ### The other lines do not depend on the release -/

/-- What stands before and after the release depends on the package only. -/
theorem formulaLines_eq_frame :
    formulaLines p r = titleLines p ++ (releaseLines r ++ (sourceLines p ++ bodyLines p)) := by
  simp only [formulaLines, headLines, List.append_assoc]

/-- Two lists that differ inside a frame only. -/
theorem getElem?_frame {α : Type} {before inner inner' after : List α}
    (hlength : inner.length = inner'.length) {i : Nat} {x x' : α}
    (hx : (before ++ (inner ++ after))[i]? = some x)
    (hx' : (before ++ (inner' ++ after))[i]? = some x') :
    x = x' ∨ ∃ j : Nat, inner[j]? = some x ∧ inner'[j]? = some x' := by
  by_cases hbefore : i < before.length
  · rw [List.getElem?_append_left hbefore] at hx hx'
    exact .inl (Option.some.inj (hx.symm.trans hx'))
  · rw [List.getElem?_append_right (by omega)] at hx hx'
    by_cases hinner : i - before.length < inner.length
    · rw [List.getElem?_append_left hinner] at hx
      rw [List.getElem?_append_left (by omega)] at hx'
      exact .inr ⟨i - before.length, hx, hx'⟩
    · rw [List.getElem?_append_right (by omega)] at hx hx'
      rw [hlength] at hx
      exact .inl (Option.some.inj (hx.symm.trans hx'))

/-- As many lines, which differ only where they name the release. -/
structure AgreeBut (r r' : Release) (ls ls' : List String) : Prop where
  length : ls.length = ls'.length
  same : ∀ (i : Nat) l l', ls[i]? = some l → ls'[i]? = some l' →
    l = l' ∨ (l = urlLine r.url ∧ l' = urlLine r'.url) ∨
      (l = checksumLine r.sha256 ∧ l' = checksumLine r'.sha256) ∨
      (l = versionLine r.version ∧ l' = versionLine r'.version)

theorem formulaLines_agreeBut (r r' : Release) :
    AgreeBut r r' (formulaLines p r ++ [""]) (formulaLines p r' ++ [""]) where
  length := by
    rw [formulaLines_eq_frame, formulaLines_eq_frame]
    simp only [List.length_append]
    rfl
  same := by
    intro i l l' hl hl'
    simp only [formulaLines_eq_frame, List.append_assoc] at hl hl'
    have hlength : (releaseLines r).length = (releaseLines r').length := rfl
    rcases getElem?_frame hlength hl hl' with heq | ⟨j, hj, hj'⟩
    · exact .inl heq
    · right
      match j with
      | 0 => exact .inl ⟨(Option.some.inj hj).symm, (Option.some.inj hj').symm⟩
      | 1 => exact .inr (.inl ⟨(Option.some.inj hj).symm, (Option.some.inj hj').symm⟩)
      | 2 => exact .inr (.inr ⟨(Option.some.inj hj).symm, (Option.some.inj hj').symm⟩)
      | _ + 3 => cases hj

/-- **The release in the formula.**  The lines with the archive, the checksum and the number of a
    release stand once each in the rendered text.  For another release of the same package the text
    has as many lines, and no other line differs. -/
theorem rendered_releases (p : Profile) (r r' : Release) (hwidth : p.columnWidth ≤ 65535)
    (hp : ∀ t ∈ p.texts, Lacks '\n' t) (hr : ∀ t ∈ r.texts, Lacks '\n' t)
    (hr' : ∀ t ∈ r'.texts, Lacks '\n' t) :
    ∃ text text', rendered p r = .ok text ∧ rendered p r' = .ok text' ∧
      NamedOnce r (lines text) ∧ AgreeBut r r' (lines text) (lines text') := by
  refine ⟨formulaText p r, formulaText p r', rendered_of_width p r hwidth,
    rendered_of_width p r' hwidth, ?_⟩
  rw [lines_formulaText hp hr, lines_formulaText hp hr']
  exact ⟨namedOnce p r, formulaLines_agreeBut p r r'⟩

theorem rendered_releases_application :
    ∃ text text', rendered Profile.application braceRelease = .ok text ∧
      rendered Profile.application firstRelease = .ok text' ∧
      NamedOnce braceRelease (lines text) ∧
      AgreeBut braceRelease firstRelease (lines text) (lines text') :=
  rendered_releases Profile.application braceRelease firstRelease (by decide) (by decide)
    (by decide) (by decide)

end ReleaseArtifacts.Formula
