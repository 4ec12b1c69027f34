import PageMarkup.Link.Render
import PageMarkup.Proofs.Title.Acceptance
import PageMarkup.Proofs.Title.ReadBack

/-!
# Titles and displays of rendered links

A title that was read has no characters of markup in its name, nor in the prefix of another wiki. Its fragment is cut
off before the characters are checked, and the name of its namespace comes from the site; what stands there is written
as it is (`Title.isMarkupFree_render_iff`). Where neither has such characters, a link that is cut at its first pipe
falls into its title and its display, and its title holds nothing that ends the link or opens other markup
(`PageLink.apart_iff`).
-/
namespace PageMarkup

/-- Whether markup begins, ends or is divided with the character. -/
def isMarkup (c : Char) : Bool := ['|', '[', ']', '{', '}', '<', '>'].contains c

/-- Whether the text has no characters of markup. -/
def IsMarkupFree (s : Text) : Prop := ∀ c ∈ s, isMarkup c = false

instance (s : Text) : Decidable (IsMarkupFree s) := List.decidableBAll _ s

theorem isMarkupFree_iff {s : Text} : IsMarkupFree s ↔ ∀ c, isMarkup c = true → c ∉ s := by
  constructor
  · intro h c hc hmem
    simp [h c hmem] at hc
  · intro h c hmem
    rw [Bool.eq_false_iff]
    exact fun hc => h c hc hmem

theorem isIllegalInTitle_of_isMarkup {c : Char} (h : isMarkup c = true) : isIllegalInTitle c = true := by
  simp only [isMarkup, List.contains_iff_mem, List.mem_cons, List.not_mem_nil, or_false] at h
  obtain rfl | rfl | rfl | rfl | rfl | rfl | rfl := h <;> decide

/-! ## Rendered titles -/

namespace Title

variable {t : Title}

/-- Colons and number signs apart, a rendered title has the characters of its parts. -/
theorem mem_render_iff {c : Char} (hcolon : c ≠ ':') (hcut : c ≠ '#') :
    c ∈ t.render true true ↔ c ∈ t.interwiki ∨ c ∈ t.namespaceName ∨ c ∈ t.main ∨ c ∈ t.fragment := by
  have hjoin : ∀ parts : List Text, c ∈ Text.joinWith [':'] parts ↔ ∃ part ∈ parts, c ∈ part := by
    intro parts
    induction parts with
    | nil => simp [Text.joinWith]
    | cons part rest ih =>
      cases rest with
      | nil => simp [Text.joinWith]
      | cons next others => simp [Text.joinWith, ih, hcolon]
  have hinterwiki : t.isExternal = false → t.interwiki = [] := by simp [isExternal]
  have hcolonText : c ∉ (if t.leadingColon then [':'] else []) := by
    split <;> simp [hcolon]
  have hfragment : c ∈ (if t.fragment.isEmpty then [] else '#' :: t.fragment) ↔ c ∈ t.fragment := by
    cases hempty : t.fragment with
    | nil => simp
    | cons d rest => simp [hcut]
  have hbody : c ∈ t.render false false ↔ c ∈ t.interwiki ∨ c ∈ t.namespaceName ∨ c ∈ t.main := by
    cases hexternal : t.isExternal with
    | true => cases hname : t.namespaceName <;> simp [render, hexternal, hname, hjoin]
    | false => cases hname : t.namespaceName <;> simp [render, hexternal, hname, hjoin, hinterwiki hexternal]
  rw [render_eq_pieces, List.mem_append, List.mem_append, hfragment, hbody]
  simp only [hcolonText, false_or, or_assoc]

/-- A character of markup in a rendered title stands in the name of its namespace or in its fragment. -/
theorem mem_render_iff_of_isMarkup (hsite : t.site.Made) {v : Value} {site : Option Site} (h : linked site v = .ok t)
    {c : Char} (hc : isMarkup c = true) : c ∈ t.render true true ↔ c ∈ t.namespaceName ∨ c ∈ t.fragment := by
  obtain ⟨given, fallback, hread⟩ := exists_read_of_linked h
  have hillegal : ∀ {s : Text}, IsName s → c ∉ s := by
    intro s hs hmem
    have hlegal := hs.legal c hmem
    rw [isIllegalInTitle_of_isMarkup hc] at hlegal
    exact absurd hlegal (by simp)
  have hmain : c ∉ t.main := hillegal (isName_main_of_read hread)
  have hinterwiki : c ∉ t.interwiki := by
    by_cases hlocal : t.interwiki = []
    · simp [hlocal]
    · exact hillegal (external_of_read hsite hread hlocal).1
  have hcolon : c ≠ ':' := by
    rintro rfl
    simp [isMarkup] at hc
  have hcut : c ≠ '#' := by
    rintro rfl
    simp [isMarkup] at hc
  rw [mem_render_iff hcolon hcut]
  simp only [hinterwiki, hmain, false_or]

/-- The rendered title of a link has no characters of markup if and only if the name of its namespace and its fragment
have none. -/
theorem isMarkupFree_render_iff (hsite : t.site.Made) {v : Value} {site : Option Site} (h : linked site v = .ok t) :
    IsMarkupFree (t.render true true) ↔ IsMarkupFree t.namespaceName ∧ IsMarkupFree t.fragment := by
  simp only [isMarkupFree_iff]
  constructor
  · intro hfree
    constructor
    · intro c hc hmem
      exact hfree c hc ((mem_render_iff_of_isMarkup hsite h hc).mpr (Or.inl hmem))
    · intro c hc hmem
      exact hfree c hc ((mem_render_iff_of_isMarkup hsite h hc).mpr (Or.inr hmem))
  · rintro ⟨hname, hfragment⟩ c hc hmem
    exact ((mem_render_iff_of_isMarkup hsite h hc).mp hmem).elim (hname c hc) (hfragment c hc)

end Title

/-! ## Links -/

/-- What stands between the brackets of a link. -/
def insideBrackets (title : Text) (display : Option Text) : Text :=
  title ++
    match display with
    | some display => '|' :: display
    | none => []

theorem writeBrackets_eq (title : Text) (display : Option Text) :
    writeBrackets title display = ['[', '['] ++ insideBrackets title display ++ [']', ']'] := by
  cases display <;> simp [writeBrackets, insideBrackets]

/-- The first pipe of a link stands behind the title unless the title has one. -/
theorem cutAtFirst_insideBrackets_iff (title : Text) (display : Option Text) :
    Text.cutAtFirst '|' (insideBrackets title display) = (title, display) ↔ '|' ∉ title := by
  constructor
  · intro h hmem
    obtain ⟨before, behind, rfl, hbefore⟩ := List.eq_append_cons_of_mem hmem
    unfold insideBrackets at h
    rw [List.append_assoc, List.cons_append, Text.cutAtFirst_append_cons _ hbefore] at h
    simpa using congrArg (·.1.length) h
  · intro hnone
    cases display with
    | none => simpa [insideBrackets] using Text.cutAtFirst_of_notMem hnone
    | some display => exact Text.cutAtFirst_append_cons display hnone

/-- The title of a link that is accepted has no characters of markup, as far as its namespace and its fragment have none,
and unless they have a pipe, the link falls into title and display at its first pipe. -/
theorem PageLink.apart_iff {site : Option Site} {title display : Value} {link : PageLink}
    (h : create site title display = .ok link) (hsite : link.title.site.Made) :
    (IsMarkupFree (link.title.render true true) ↔
        IsMarkupFree link.title.namespaceName ∧ IsMarkupFree link.title.fragment) ∧
      ∀ withoutDisplay, ∃ inner, link.render withoutDisplay = ['[', '['] ++ inner ++ [']', ']'] ∧
        (Text.cutAtFirst '|' inner = (link.title.render true true, if withoutDisplay then none else link.display) ↔
          '|' ∉ link.title.namespaceName ∧ '|' ∉ link.title.fragment) := by
  obtain ⟨t, htitle, hrest⟩ := Outcome.bind_eq_ok.mp h
  obtain ⟨shown, -, hpure⟩ := Outcome.bind_eq_ok.mp hrest
  obtain rfl := Except.ok.inj hpure
  have hlinked := Title.linked_of_targeted htitle
  refine ⟨Title.isMarkupFree_render_iff hsite hlinked, fun withoutDisplay => ⟨_, writeBrackets_eq _ _, ?_⟩⟩
  rw [cutAtFirst_insideBrackets_iff, Title.mem_render_iff_of_isMarkup hsite hlinked (by decide), not_or]

/-- A link to a place on the page of a file. -/
def filePageLink : PageLink where
  title :=
    { site := Site.small, namespaceId := 6, main := "Foo.png".toList, fragment := "Legend".toList, interwiki := [],
      leadingColon := true }
  display := some "a|b".toList

/-- A link with a pipe in its display falls into title and display at the pipe behind its title. -/
theorem PageLink.apart_filePageLink :
    create (some Site.small) (.text ":file:foo.png#Legend".toList) (.text "a|b".toList) = .ok filePageLink ∧
      IsMarkupFree (filePageLink.title.render true true) ∧
      ∃ inner, filePageLink.render = ['[', '['] ++ inner ++ [']', ']'] ∧
        Text.cutAtFirst '|' inner = (filePageLink.title.render true true, some "a|b".toList) := by
  have hcreate : create (some Site.small) (.text ":file:foo.png#Legend".toList) (.text "a|b".toList) =
      .ok filePageLink := rfl
  have hname : filePageLink.title.namespaceName = "File".toList := by decide +kernel
  obtain ⟨hfree, hcut⟩ := apart_iff hcreate Site.made_small
  obtain ⟨inner, hrender, hinner⟩ := hcut false
  rw [hname] at hfree hinner
  exact ⟨hcreate, hfree.mpr (by decide), inner, hrender, hinner.mpr (by decide)⟩

/-- A link to a place whose name has a pipe. -/
def pipedLink : PageLink where
  title :=
    { site := Site.small, namespaceId := 0, main := "Foo".toList, fragment := "a|b".toList, interwiki := [],
      leadingColon := false }
  display := none

/-- A pipe in the fragment of a link ends its title too early, and what stands behind it is taken for a display. -/
theorem PageLink.render_pipedLink :
    create (some Site.small) (.text "Foo#a|b".toList) = .ok pipedLink ∧
      pipedLink.title.render true true = "Foo#a|b".toList ∧ '|' ∈ pipedLink.title.render true true ∧
      pipedLink.render = "[[Foo#a|b]]".toList ∧
      Text.cutAtFirst '|' "Foo#a|b".toList = ("Foo#a".toList, some "b".toList) := by
  refine ⟨rfl, ?_⟩
  decide +kernel

end PageMarkup
