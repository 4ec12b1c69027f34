import PageMarkup.Proofs.Outcome
import PageMarkup.Title.Check

/-!
# What titles are refused for

A text is refused as a title for a flaw of its own, and as a title in its place for where it stands; on a known site
there is no other fault. A title that leads to another wiki lies in the main namespace, so that it is never taken for a
file unless files lie there.
-/
namespace PageMarkup.Title

/-- A text has a flaw, or is a title of the site; one that leads to another wiki names a page of the main namespace. -/
theorem read_cases (site : Site) (given : Text) (fallback : Int) :
    (∃ flaw, read site given fallback = .error (.invalidTitle given flaw)) ∨
      ∃ title, read site given fallback = .ok title ∧ title.site = site ∧
        (title.isExternal = true → title.namespaceId = site.mainId) := by
  unfold read
  extract_lets tidied leadingColon body fallback
  by_cases hillegal : (cutFragment body).1.any isIllegalInTitle = true
  · exact Or.inl ⟨_, if_pos hillegal⟩
  · dsimp only
    rw [if_neg hillegal]
    generalize resolveLead site (cutFragment body).1 = resolved
    obtain ⟨lead, main⟩ := resolved
    dsimp only
    cases flaw? lead main (cutFragment body).2 with
    | some flaw => exact Or.inl ⟨flaw, rfl⟩
    | none =>
      refine Or.inr ⟨_, rfl, rfl, ?_⟩
      cases lead with
      | page => simp [isExternal, Lead.destination]
      | ofNamespace id => simp [isExternal, Lead.destination]
      | ofInterwiki label => simp [Lead.destination]

end PageMarkup.Title
