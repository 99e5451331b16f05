import ReleaseArtifacts.Formula.Arguments
import ReleaseArtifacts.Proofs.Text.Lines

namespace ReleaseArtifacts.Formula

/-!
# Laws of argument lists

* `argumentList_append` — the arguments of two lists, with a comma between them.
* `argumentList_infix` — arguments that follow one another are found side by side.
-/

open Text (Lacks lacks_append)

theorem argumentList_singleton (a : String) : argumentList [a] = "\"" ++ a ++ "\"" := by
  rw [argumentList, List.map_singleton, String.intercalate_singleton]

/-- The arguments of two lists, with a comma between them. -/
theorem argumentList_append {xs ys : List String} (hx : xs ≠ []) (hy : ys ≠ []) :
    argumentList (xs ++ ys) = argumentList xs ++ ", " ++ argumentList ys := by
  have hx' : xs.map (fun a => "\"" ++ a ++ "\"") ≠ [] := by simpa using hx
  have hy' : ys.map (fun a => "\"" ++ a ++ "\"") ≠ [] := by simpa using hy
  rw [argumentList, List.map_append, String.intercalate_append_of_ne_nil hx' hy',
    ← argumentList, ← argumentList]

theorem argumentList_pair (a b : String) :
    argumentList [a, b] = "\"" ++ a ++ "\", \"" ++ b ++ "\"" := by
  have hmarks : "\", \"" = "\"" ++ ", " ++ "\"" := by decide
  rw [← List.singleton_append, argumentList_append (by simp) (by simp), argumentList_singleton,
    argumentList_singleton, hmarks]
  simp only [String.append_assoc]

/-- **Arguments side by side.**  What follows one another in a list does so in its text. -/
theorem argumentList_infix (xs ys : List String) {zs : List String} (hz : zs ≠ []) :
    ∃ before after, argumentList (xs ++ (zs ++ ys)) = before ++ argumentList zs ++ after := by
  have hzy : ∃ after, argumentList (zs ++ ys) = argumentList zs ++ after := by
    by_cases hy : ys = []
    · exact ⟨"", by rw [hy, List.append_nil, String.append_empty]⟩
    · exact ⟨", " ++ argumentList ys, by rw [argumentList_append hz hy, String.append_assoc]⟩
  obtain ⟨after, hafter⟩ := hzy
  by_cases hx : xs = []
  · exact ⟨"", after, by rw [hx, List.nil_append, hafter, String.empty_append]⟩
  · refine ⟨argumentList xs ++ ", ", after, ?_⟩
    rw [argumentList_append hx (by simp [hz]), hafter]
    simp only [String.append_assoc]

/-- A character that is neither in the arguments nor among the marks around them. -/
theorem lacks_argumentList {c : Char} {arguments : List String} (hmarks : Lacks c "\", \"")
    (h : ∀ a ∈ arguments, Lacks c a) : Lacks c (argumentList arguments) := by
  have hsplit : "\", \"" = "\"" ++ ", " ++ "\"" := by decide
  rw [hsplit, lacks_append, lacks_append] at hmarks
  -- On the arguments; the last one has no comma after it, so that it is a case of its own.
  induction arguments with
  | nil => exact List.not_mem_nil
  | cons a rest ih =>
    have ha : Lacks c (argumentList [a]) := by
      rw [argumentList_singleton, lacks_append, lacks_append]
      exact ⟨⟨hmarks.2, h a (by simp)⟩, hmarks.2⟩
    by_cases hrest : rest = []
    · rw [hrest]
      exact ha
    · rw [← List.singleton_append, argumentList_append (by simp) hrest, lacks_append, lacks_append]
      exact ⟨⟨ha, hmarks.1.2⟩, ih fun b hb => h b (by simp [hb])⟩

end ReleaseArtifacts.Formula
