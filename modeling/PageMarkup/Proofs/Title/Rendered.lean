import PageMarkup.Proofs.Title.Acceptance
import PageMarkup.Proofs.Title.ReadBack
import PageMarkup.Template.Basic

/-!
# Rendered titles

Where a title is written no blanks stand at its ends, if none stand at the ends of the names of namespaces: the other
parts of a title were tidied when it was read.
-/
namespace PageMarkup

/-- Whether no namespace has a name with blanks at its ends. -/
def Site.NamesTrimmed (site : Site) : Prop :=
  ∀ id space name, site.namespace? id = some space → space.name = some name → Text.trim name = name

namespace Title

open Text

variable {site : Site} {given : Text} {fallback : Int} {t : Title}

theorem trim_namespaceName (hnames : t.site.NamesTrimmed) : trim t.namespaceName = t.namespaceName := by
  unfold namespaceName
  split
  · rfl
  · split
    · rename_i space hspace
      cases hname : space.name with
      | none => rfl
      | some name => exact hnames _ space name hspace hname
    · rfl

/-- The body of a title has no blanks at its ends. -/
theorem trim_render_body (hsite : t.site.Made) (hnames : t.site.NamesTrimmed)
    (hread : read t.site given fallback = .ok t) : trim (t.render false false) = t.render false false := by
  have hmain := isName_main_of_read hread
  by_cases hlocal : t.interwiki = []
  · rw [render_of_local hlocal]
    split
    · exact hmain.trimmed
    · exact trim_append_cons (by decide) (trim_eq_self_iff.mp (trim_namespaceName hnames)).1
        (trim_eq_self_iff.mp hmain.trimmed).2
  · obtain ⟨hwiki, -, -, -, hplace⟩ := external_of_read hsite hread hlocal
    rw [render_of_external hlocal hplace]
    exact trim_append_cons (by decide) (trim_eq_self_iff.mp hwiki.trimmed).1 (trim_eq_self_iff.mp hmain.trimmed).2

theorem trim_colon_append {s : Text} (colon : Bool) (h : trim s = s) :
    trim ((if colon then [':'] else []) ++ s) = (if colon then [':'] else []) ++ s := by
  cases colon with
  | false => exact h
  | true => exact trim_append_cons (a := []) (by decide) rfl (trim_eq_self_iff.mp h).2

/-- A full title has no blanks at its ends. -/
theorem trim_render (hsite : t.site.Made) (hnames : t.site.NamesTrimmed) (hread : read t.site given fallback = .ok t) :
    trim (t.render true true) = t.render true true := by
  have hlead := trim_colon_append t.leadingColon (trim_render_body hsite hnames hread)
  rw [render_eq_pieces]
  cases t.fragment.isEmpty with
  | true => simpa using hlead
  | false =>
    refine trim_append_cons (by decide) (trim_eq_self_iff.mp hlead).1 ?_
    rw [← tidy_fragment_of_read hread]
    exact (trim_eq_self_iff.mp (trim_tidy _)).2

end Title

/-- The text of a template's title has no blanks at its ends. -/
theorem Template.trim_titleText {t : Template} {given : Text} {fallback : Int} (hsite : t.title.site.Made)
    (hnames : t.title.site.NamesTrimmed) (hread : Title.read t.title.site given fallback = .ok t.title) :
    Text.trim t.titleText = t.titleText := by
  have hbody := Title.trim_render_body hsite hnames hread
  unfold titleText
  split
  · exact (Title.isName_main_of_read hread).trimmed
  · split
    · exact Title.trim_colon_append true hbody
    · exact hbody

end PageMarkup
