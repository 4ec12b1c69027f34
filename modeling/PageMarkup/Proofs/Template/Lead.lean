import PageMarkup.Proofs.Node.Attempts
import PageMarkup.Proofs.Template.TitleText

/-!
# Texts in front of titles

What is put in front of a template's title loses its last colon where the title is one with a colon in front, so that
two colons do not meet. Whether the title is written with that colon is decided elsewhere, by the place that it lies in.
The two agree for every title outside of the namespace of templates, unless the site names a namespace with a colon, and
in the namespace of templates just for the titles of which `Title.ColonShown` says so (`Node.render_glued_iff`).
-/
namespace PageMarkup

namespace Text

/-- The two texts one after the other, with one colon where one would meet another. -/
def glued (lead s : Text) : Text :=
  (if endsWith [':'] lead && startsWith [':'] s then lead.dropLast else lead) ++ s

theorem dropLast_ne_self {s : Text} (h : endsWith [':'] s = true) : s.dropLast ≠ s := by
  obtain ⟨before, rfl⟩ := (endsWith_iff _ _).mp h
  intro heq
  have hlength := congrArg List.length heq
  simp at hlength

end Text

open Text

namespace TemplateStyle

/-- What stands between the opening braces and the parameters, if nothing but colons that meet is left out. -/
def gluedHead (style : TemplateStyle) (title plain : Text) : Text :=
  glued style.lead title ++ style.trail ++ if style.breaksAfterTitle plain then ['\n'] else []

/-- A colon is left out of the lead rightly where the title is written with one, and rightly kept elsewhere. -/
theorem headText_eq_gluedHead_iff (style : TemplateStyle) (colon : Bool) (title plain : Text) :
    style.headText colon title plain = style.gluedHead title plain ↔
      (endsWith [':'] style.lead = true → (colon = true ↔ [':'] <+: title)) := by
  rw [headText, gluedHead, glued, List.append_left_inj, List.append_left_inj, List.append_left_inj,
    ← startsWith_iff]
  cases hlead : endsWith [':'] style.lead with
  | false => simp
  | true =>
    have hdrop := dropLast_ne_self hlead
    cases colon <;> cases startsWith [':'] title <;> simp [hdrop, Ne.symm hdrop]

end TemplateStyle

namespace Title

/-- Whether a template with the title shows a colon in front of it just where the title is taken for one with such a
colon. In the namespace of templates the name is written alone, with a colon only if it has one itself. Elsewhere the
colon of the title is written, so that there must be no other one. -/
def ColonShown (t : Title) : Prop :=
  if t.namespaceId = t.site.templateId ∧ t.interwiki = [] then
    (t.leadingColon = true ∨ t.namespaceId = t.site.mainId) ↔ [':'] <+: t.main
  else
    t.interwiki = [] → t.leadingColon = false → t.namespaceId ≠ t.site.mainId → ¬ [':'] <+: t.render false false

end Title

namespace Template

open Title

variable {t : Template} {given : Text} {fallback : Int}

theorem hasLeadingColon_iff : t.hasLeadingColon = true ↔
    t.title.leadingColon = true ∨ t.title.namespaceId = t.title.site.mainId ∧ t.title.interwiki = [] := by
  simp [hasLeadingColon, isExternal]

/-- The title text begins with a colon where the title counts as one with a colon, if the title shows it. -/
theorem hasLeadingColon_iff_titleText (hsite : t.title.site.Made)
    (hread : read t.title.site given fallback = .ok t.title) :
    (t.hasLeadingColon = true ↔ [':'] <+: t.titleText) ↔ t.title.ColonShown := by
  rw [ColonShown]
  by_cases hplace : t.title.namespaceId = t.title.site.templateId ∧ t.title.interwiki = []
  · have htext : t.titleText = t.title.main := by simp [titleText, hplace, isExternal]
    rw [if_pos hplace, hasLeadingColon_iff, htext]
    simp [hplace.2]
  · rw [if_neg hplace, titleText_eq fun htemplate hlocal => hplace ⟨htemplate, hlocal⟩]
    cases hcolon : t.hasLeadingColon with
    | true =>
      refine iff_of_true (by simp) fun hlocal hnone hmain => ?_
      rw [hasLeadingColon_iff, hnone] at hcolon
      simp [hmain] at hcolon
    | false =>
      have hnone : ¬ (t.title.leadingColon = true ∨
          t.title.namespaceId = t.title.site.mainId ∧ t.title.interwiki = []) := by
        rw [← hasLeadingColon_iff, hcolon]
        exact Bool.false_ne_true
      obtain ⟨hleading, hmain⟩ := not_or.mp hnone
      rw [if_neg Bool.false_ne_true, List.nil_append]
      by_cases hlocal : t.title.interwiki = []
      · have hleading' : t.title.leadingColon = false := by simpa using hleading
        have hmain' : t.title.namespaceId ≠ t.title.site.mainId := fun h => hmain ⟨h, hlocal⟩
        simp [hlocal, hleading', hmain']
      · -- The prefix of another wiki has no colon.
        have hstart : ¬ [':'] <+: t.title.render false false := by
          obtain ⟨-, hwiki, -, -, hmain⟩ := external_of_read hsite hread hlocal
          obtain ⟨c, rest, hinter⟩ := List.exists_cons_of_ne_nil hlocal
          rw [render_of_external hlocal hmain, hinter]
          intro hbegin
          obtain rfl : ':' = c := (List.cons_prefix_cons.mp hbegin).1
          exact hwiki (by rw [hinter]; exact List.mem_cons_self)
        exact iff_of_true (by simp [hstart]) fun h => absurd h hlocal

/-- A template is written with its lead glued to its title exactly if no colon meets the lead, or the title shows its
colon. -/
theorem headText_eq_gluedHead_iff (hsite : t.title.site.Made)
    (hread : read t.title.site given fallback = .ok t.title) (style : TemplateStyle) :
    style.headText t.hasLeadingColon t.titleText t.title.inText = style.gluedHead t.titleText t.title.inText ↔
      (endsWith [':'] style.lead = true → t.title.ColonShown) := by
  rw [TemplateStyle.headText_eq_gluedHead_iff]
  exact imp_congr_right fun _ => hasLeadingColon_iff_titleText hsite hread

end Template

/-- The head of what is written between braces is settled by the text, as what stands behind it is. -/
theorem exists_writeBraces_iff {table : Except Fault Text} {head other text : Text}
    (h : (do return writeBraces head (← table)) = .ok text) :
    (∃ params, table = .ok params ∧ text = writeBraces other params) ↔ head = other := by
  obtain ⟨params, htable, hpure⟩ := Outcome.bind_eq_ok.mp h
  obtain rfl := Except.ok.inj hpure
  constructor
  · rintro ⟨params', htable', htext⟩
    obtain rfl : params = params' := Except.ok.inj (htable.symm.trans htable')
    simpa [writeBraces] using htext
  · rintro rfl
    exact ⟨params, htable, rfl⟩

/-- However a template was made and edited, what is written between its braces is the lead, glued to its title so that
one colon is left of two that meet, and then what is put behind the title and the parameters. This is so exactly if the
lead ends with no colon, or the title shows its colon where it has one. -/
theorem Node.render_glued_iff {node : Node} (hmade : node.Made) (edits : List Node.Edit) :
    (∀ t, node.run edits = .template t → t.title.site.Made → ∀ style text, t.render style = .ok text →
      ((∃ params, style.tableText t.params (.ok none) = .ok params ∧
          text = writeBraces (style.gluedHead t.titleText t.title.inText) params) ↔
        (endsWith [':'] style.lead = true → t.title.ColonShown))) ∧
    ∀ t, node.run edits = .scannedTemplate t → t.title.site.Made → ∀ style text, t.render false style = .ok text →
      ((∃ params, style.tableText t.params (t.params.asScanned? t.scannedParams t.record.seeds) = .ok params ∧
          text = writeBraces (style.gluedHead t.titleText t.title.inText) params) ↔
        (endsWith [':'] style.lead = true → t.title.ColonShown)) := by
  have haccepted := Node.titleAccepted_run hmade edits
  constructor
  · intro t ht hsite style text hrender
    obtain ⟨given, fallback, hread⟩ := haccepted.exists_read (t := t.title) (by rw [ht]; rfl)
    rw [exists_writeBraces_iff hrender, Template.headText_eq_gluedHead_iff hsite hread]
  · intro t ht hsite style text hrender
    obtain ⟨given, fallback, hread⟩ := haccepted.exists_read (t := t.title) (by rw [ht]; rfl)
    have hhead : t.titlePart false = t.titleText := rfl
    rw [ScannedTemplate.render, hhead] at hrender
    rw [exists_writeBraces_iff hrender, Template.headText_eq_gluedHead_iff hsite hread]

/-- A page of the main namespace, behind leads that end with one colon and with two. -/
theorem Node.render_glued_main : ∃ t, Template.create (some .small) (.text ":foo".toList) = .ok t ∧
    t.titleText = ":Foo".toList ∧
    ∀ lead ∈ ["subst:".toList, "msgnw::".toList], ∃ params,
      t.render { lead } = .ok (writeBraces (({ lead } : TemplateStyle).gluedHead t.titleText t.title.inText) params) := by
  obtain ⟨u, hread, hid, hmain, hlocal⟩ : ∃ u, Title.read .small ":foo".toList Site.small.templateId = .ok u ∧
      u.namespaceId = 0 ∧ u.main = "Foo".toList ∧ u.interwiki = [] := Title.exists_read_eq_ok (by decide +kernel)
  have hsite := Title.site_of_read hread
  have hplace : u.namespaceId = u.site.mainId := by rw [hsite, hid, Site.mainId_small]
  have hcreate := Template.create_of_transcluded (Title.transcluded_text_eq_ok_iff.mpr
    ⟨by decide +kernel, hread, by simp [hmain], by simp [Title.isExternal, hlocal]⟩)
  have hother : ¬ (u.namespaceId = u.site.templateId ∧ u.interwiki = []) := by
    rintro ⟨htemplate, -⟩
    rw [hsite, hid] at htemplate
    exact absurd htemplate (by decide +kernel)
  have htext : ({ title := u, params := .empty [] } : Template).titleText = ":Foo".toList := by
    have hname : u.namespaceName = [] := by rw [Title.namespaceName, if_pos hplace]
    rw [Template.titleText_eq fun htemplate hnone => hother ⟨htemplate, hnone⟩, Title.render_of_local hlocal, hname, hmain,
      if_pos (Template.hasLeadingColon_iff.mpr (Or.inr ⟨hplace, hlocal⟩))]
    rfl
  have hshown : u.ColonShown := by
    rw [Title.ColonShown, if_neg hother]
    exact fun _ _ hmain => absurd hplace hmain
  refine ⟨_, hcreate, htext, fun lead _ => ?_⟩
  obtain ⟨text, hrender⟩ : ∃ text, ({ title := u, params := .empty [] } : Template).render { lead } = .ok text := ⟨_, rfl⟩
  obtain ⟨params, -, hglued⟩ := ((Node.render_glued_iff (.template hcreate) []).1 _ rfl (hsite ▸ Site.made_small) _ _
    hrender).mpr fun _ => hshown
  exact ⟨params, hglued ▸ hrender⟩

/-- A title that is given with a colon and the name of the namespace of templates is written without either, so that the
lead without its colon is taken for a part of the name. -/
theorem Template.render_unglued : Site.small.Made ∧
    ∃ t, create (some .small) (.text ":Template:Foo".toList) = .ok t ∧ t.titleText = "Foo".toList ∧
      t.render { lead := "subst:".toList } = .ok "\x7b\x7bsubstFoo\x7d\x7d".toList ∧
      glued "subst:".toList t.titleText = "subst:Foo".toList := by
  have hread : Title.read .small ":Template:Foo".toList Site.small.templateId =
      .ok (Title.built .small ":Template:Foo".toList Site.small.templateId) := Title.read_eq_built _ (by decide +kernel)
  have hcreate := create_of_transcluded (Title.transcluded_text_eq_ok_iff.mpr
    ⟨by decide +kernel, hread, by decide +kernel, by decide +kernel⟩)
  have htext : ({ title := Title.built .small ":Template:Foo".toList Site.small.templateId
                  params := .empty [] } : Template).titleText = "Foo".toList := by decide +kernel
  have hcolon : ({ title := Title.built .small ":Template:Foo".toList Site.small.templateId
                   params := .empty [] } : Template).hasLeadingColon = true := by decide +kernel
  refine ⟨Site.made_small, _, hcreate, htext, ?_, ?_⟩
  · rw [render, htext, hcolon]
    rfl
  · rw [htext]
    decide

end PageMarkup
