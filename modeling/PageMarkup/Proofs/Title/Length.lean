import PageMarkup.Proofs.Title.Acceptance
import PageMarkup.Proofs.Title.ReadBack

/-!
# The length limit

The bytes of a name are counted before its first letter is made a capital, and a capital can be longer than the letter.
So the name of a title that was read is within the limit in exactly the cases in which its capital fits in what the rest
of the name leaves (`main_within_limit_iff`), and it is never beyond it by more than four bytes
(`utf8Length_main_le_of_read`). A name within the limit is still within it where the title is checked again, as nothing
but a prefix is taken off the rendered title. A name beyond it is refused then (`refusedAsTooLong_of_widened`).
-/
namespace PageMarkup

namespace Text

theorem utf8Length_append (s t : Text) : utf8Length (s ++ t) = utf8Length s + utf8Length t := by
  induction s with
  | nil => exact (Nat.zero_add _).symm
  | cons c s ih =>
    rw [List.cons_append, utf8Length, utf8Length, ih]
    omega

theorem utf8Length_le_of_sublist {s t : Text} (h : s.Sublist t) : utf8Length s ≤ utf8Length t := by
  induction h with
  | slnil => exact Nat.le_refl _
  | cons c _ ih =>
    rw [utf8Length]
    omega
  | cons_cons c _ ih =>
    rw [utf8Length, utf8Length]
    omega

/-- An upper case of several characters has at most four bytes more. -/
theorem upperExpansions_growth :
    (upperExpansions.all fun entry => utf8Length entry.2 ≤ (Char.ofNat entry.1).utf8Size + 4) = true := by
  decide +kernel

theorem utf8Length_upperChar_le (c : Char) : utf8Length (upperChar c) ≤ c.utf8Size + 4 := by
  obtain hsame | ⟨-, -, ⟨-, hmem⟩ | ⟨-, -, u, hu, -, -⟩⟩ := upperChar_cases c
  · rw [hsame, utf8Length, utf8Length]
    omega
  · have hgrowth := List.all_eq_true.mp upperExpansions_growth _ hmem
    simpa using hgrowth
  · have hsize := u.utf8Size_le_four
    rw [hu, utf8Length, utf8Length]
    omega

theorem utf8Length_capitalize_le (s : Text) : utf8Length (capitalize s) ≤ utf8Length s + 4 := by
  cases s with
  | nil => exact Nat.zero_le _
  | cons c rest =>
    have hfirst := utf8Length_upperChar_le c
    rw [capitalize, utf8Length_append, utf8Length]
    omega

end Text

namespace Title

open Text

variable {site : Site} {given : Text} {fallback : Int} {t : Title}

/-! ## The name that is kept -/

/-- Whether the name fits in the limit with its first letter as a capital, if the title's place asks for one. -/
def CapitalFits (t : Title) (name : Text) : Prop :=
  t.interwiki = [] → ∀ space, t.site.namespace? t.namespaceId = some space → space.capitalizes = true →
    ∀ c rest, name = c :: rest → utf8Length (upperChar c) + utf8Length rest ≤ maxTitleBytes

/-- What is read as a name is within the limit. -/
theorem utf8Length_writtenName_le (hread : read site given fallback = .ok t) :
    utf8Length (writtenName site given) ≤ maxTitleBytes := by
  by_cases hnil : writtenName site given = []
  · rw [hnil]
    exact Nat.zero_le _
  · exact ((flaw?_of_ne_nil hnil).mp (read_eq_ok_iff.mp hread).2.1).2.2

theorem utf8Length_main_le_iff (hread : read site given fallback = .ok t) :
    utf8Length t.main ≤ maxTitleBytes ↔ CapitalFits t (writtenName site given) := by
  have hwritten := utf8Length_writtenName_le hread
  have hmain := main_of_read hread
  rw [← site_of_read hread] at hmain hwritten ⊢
  by_cases hcase : t.interwiki = [] ∧ ∃ space, t.site.namespace? t.namespaceId = some space ∧ space.capitalizes = true
  · obtain ⟨hlocal, space, hspace, hcapital⟩ := hcase
    have hname : t.main = capitalize (writtenName t.site given) := by
      rw [hmain, applyCase, hlocal, hspace]
      simp [hcapital]
    rw [hname]
    constructor
    · intro hle _ _ _ _ c rest hsplit
      rwa [hsplit, capitalize, utf8Length_append] at hle
    · intro hfits
      cases hsplit : writtenName t.site given with
      | nil => exact Nat.zero_le _
      | cons c rest =>
        rw [capitalize, utf8Length_append]
        exact hfits hlocal space hspace hcapital c rest hsplit
  · have hname : t.main = writtenName t.site given := by
      rw [hmain, applyCase]
      split
      · rename_i hlocal
        split
        · rename_i space hspace
          exact if_neg fun hcapital => hcase ⟨List.isEmpty_iff.mp hlocal, space, hspace, hcapital⟩
        · rfl
      · rfl
    rw [hname]
    exact iff_of_true hwritten fun hlocal space hspace hcapital => absurd ⟨hlocal, space, hspace, hcapital⟩ hcase

/-- Whatever its first letter is, the name of a title is at most four bytes beyond the limit. -/
theorem utf8Length_main_le_of_read (hread : read site given fallback = .ok t) :
    utf8Length t.main ≤ maxTitleBytes + 4 := by
  have hwritten := utf8Length_writtenName_le hread
  rw [main_of_read hread]
  obtain hkept | hcapital := applyCase_eq_or site t.namespaceId t.interwiki
  · rw [hkept]
    omega
  · have hgrowth := utf8Length_capitalize_le (writtenName site given)
    rw [hcapital]
    omega

/-! ## The name that is read again -/

theorem resolveLead_sublist (site : Site) (s : Text) : (resolveLead site s).2.Sublist s := by
  have hrest : ∀ {lead rest : Text}, cutLead s = some (lead, rest) → rest.Sublist s := by
    intro lead rest hcut
    obtain ⟨before, behind, rfl, -, -, -, rfl⟩ := cutLead_eq_some_iff.mp hcut
    exact (trimStart_suffix behind).sublist.trans ((List.sublist_cons_self _ _).trans (List.sublist_append_right _ _))
  obtain hpage | ⟨lead, rest, hcut, ⟨id, -, hresolve⟩ | ⟨iw, -, -, hresolve⟩⟩ := resolveLead_cases site s
  · rw [hpage]
  · rw [hresolve]
    exact hrest hcut
  · rw [hresolve]
    exact hrest hcut

/-- What is read as a name is a part of the text behind a leading colon. -/
theorem writtenName_sublist (site : Site) (given : Text) : (writtenName site given).Sublist (behindColon given) :=
  (resolveLead_sublist site _).trans (writtenBody_prefixOf given).sublist

theorem behindColon_sublist (given : Text) : (behindColon given).Sublist (tidy given) := by
  unfold behindColon
  split
  · exact ((trimStart_suffix _).trans (List.drop_suffix 1 _)).sublist
  · exact List.Sublist.refl _

/-- The fragment of a rendered title does not count for the name that is read from it. -/
theorem writtenName_render (site : Site) (t : Title) :
    writtenName site (t.render true true) =
      writtenName site ((if t.leadingColon then [':'] else []) ++ t.render false false) := by
  rw [writtenName, writtenName, render_eq_pieces]
  cases t.fragment.isEmpty with
  | true => rw [if_pos rfl, List.append_nil]
  | false => rw [if_neg Bool.false_ne_true, writtenBody_hash]

/-- The name of the title is what is read behind a prefix in front of it. -/
theorem writtenName_prefixed {lead : Text} {resolved : Lead} (hread : read site given fallback = .ok t)
    (hlead : ∀ c ∈ lead, c ≠ '#' ∧ isIllegalInTitle c = false) (hcolon : ':' ∉ lead) (htidy : tidy lead ≠ [])
    (hcore : t.render false false = lead ++ ':' :: t.main)
    (hresolve : resolveLead site (tidy (lead ++ ':' :: t.main)) = (resolved, t.main)) :
    writtenName site (t.render true true) = t.main := by
  have hcut := (legal_append_colon hlead (isName_main_of_read hread)).1
  have hbody := (parts_of_pieces t.leadingColon [] hcut fun _ => hasColon_append_colon t.main hcolon htidy).2.1
  rw [List.isEmpty_nil, if_pos rfl, List.append_nil] at hbody
  rw [writtenName_render, hcore, writtenName, hbody, hresolve]

theorem exists_namespace_of_namespaceName (h : t.namespaceName ≠ []) :
    ∃ space, t.site.namespace? t.namespaceId = some space ∧ space.name = some t.namespaceName := by
  revert h
  unfold namespaceName
  split
  · exact fun h => absurd rfl h
  · split
    · rename_i space hspace
      cases hname : space.name with
      | none => exact fun h => absurd rfl h
      | some name => exact fun _ => ⟨space, hspace, hname⟩
    · exact fun h => absurd rfl h

/-- Of a rendered title at most the name is read as the name again. -/
theorem utf8Length_writtenName_render_le (hsite : site.Made) (hread : read site given fallback = .ok t)
    (hname : t.namespaceName = [] ∨ IsNamespaceName t.namespaceName) :
    utf8Length (writtenName site (t.render true true)) ≤ utf8Length t.main := by
  have hmain := isName_main_of_read hread
  by_cases hlocal : t.interwiki = []
  · obtain hnil | hplain := hname
    · have hcore : t.render false false = t.main := by
        rw [render_of_local hlocal, hnil]
        rfl
      rw [writtenName_render, hcore]
      apply utf8Length_le_of_sublist
      apply (writtenName_sublist site _).trans
      cases t.leadingColon with
      | false => simpa [hmain.tidy_eq] using behindColon_sublist t.main
      | true => simp [behindColon_colon, hmain.tidy_eq]
    · -- The namespace is known by its own name, though it may be as another one.
      obtain ⟨id, hid⟩ : ∃ id, site.namespaceId? t.namespaceName = some id := by
        obtain ⟨c, hc, -⟩ := hplain.visible
        obtain ⟨space, hspace, hown⟩ := exists_namespace_of_namespaceName (List.ne_nil_of_mem hc)
        rw [← site_of_read hread]
        exact Site.exists_namespaceId?_of_mem (Keyed.mem_of_get? hspace) (by simp [Namespace.names, hown])
      have htidy := tidy_ne_nil hplain
      have hcolon : ':' ∉ t.namespaceName := fun hmem => (hplain.plain _ hmem).1 rfl
      have hresolve : resolveLead site (tidy (t.namespaceName ++ ':' :: t.main)) = (.ofNamespace id, t.main) := by
        rw [resolveLead, cutLead_append_colon hcolon htidy, hmain.tidy_eq]
        dsimp only
        rw [namespaceId?_tidy hplain.plain, hid]
      have hcore : t.render false false = t.namespaceName ++ ':' :: t.main := by
        obtain ⟨c, hc, -⟩ := hplain.visible
        rw [render_of_local hlocal, if_neg]
        simp [List.ne_nil_of_mem hc]
      rw [writtenName_prefixed hread (fun c hc => ⟨(hplain.plain c hc).2.1, (hplain.plain c hc).2.2.2⟩) hcolon htidy
        hcore hresolve]
  · obtain ⟨hwiki, hcolon, -, -, hplace⟩ := external_of_read hsite hread hlocal
    have hcore := render_of_external hlocal ((site_of_read hread).symm ▸ hplace)
    rw [writtenName_prefixed hread hwiki.uncut_and_legal hcolon (by rwa [hwiki.tidy_eq]) hcore
      (resolveLead_external hsite hread hlocal)]

/-! ## Titles that are checked again -/

/-- Whether a check ends with the fault that the name is too long. -/
def RefusedAsTooLong (outcome : Except Fault Title) : Prop :=
  ∃ given, outcome = .error (.invalidTitle given .tooLong)

/-- The checks of titles in their places. -/
def placeChecks : List (Option Site → Value → Except Fault Title) := [transcluded, linked, embedded, targeted]

/-- The length of a name is looked at last. -/
theorem flaw?_eq_tooLong_iff {lead : Lead} {main fragment : Text} :
    flaw? lead main fragment = some .tooLong ↔
      includes ['~', '~', '~'] main = false ∧ isRelativePath main = false ∧ maxTitleBytes < utf8Length main := by
  by_cases hnil : main = []
  · have hnone : flaw? lead main fragment ≠ some .tooLong := by
      simp only [flaw?, List.isEmpty_iff, if_pos hnil]
      cases lead with
      | ofNamespace _ => simp
      | ofInterwiki _ => split <;> simp
      | page => split <;> simp
    exact iff_of_false hnone fun h => by simp [hnil, utf8Length] at h
  · simp only [flaw?, List.isEmpty_iff, if_neg hnil]
    by_cases hsignature : includes ['~', '~', '~'] main = true
    · simp [hsignature]
    · by_cases hpath : isRelativePath main = true
      · simp [hsignature, hpath]
      · simp [hsignature, hpath]

/-- A text whose characters are legal is refused as too long if that is all that is wrong with its name. -/
theorem refusedAsTooLong_read_iff : RefusedAsTooLong (read site given fallback) ↔
    (writtenBody given).any isIllegalInTitle = false ∧ includes ['~', '~', '~'] (writtenName site given) = false ∧
      isRelativePath (writtenName site given) = false ∧ maxTitleBytes < utf8Length (writtenName site given) := by
  rw [← @flaw?_eq_tooLong_iff (resolveLead site (writtenBody given)).1 _ (writtenFragment given)]
  unfold RefusedAsTooLong read
  extract_lets tidied leadingColon body fallback'
  have hbody : cutFragment body = (writtenBody given, writtenFragment given) := rfl
  rw [hbody]
  dsimp only
  cases hillegal : (writtenBody given).any isIllegalInTitle with
  | true => simp
  | false =>
    rw [if_neg Bool.false_ne_true]
    unfold writtenName
    generalize resolveLead site (writtenBody given) = resolved
    obtain ⟨lead, main⟩ := resolved
    dsimp only
    cases flaw? lead main (writtenFragment given) with
    | none => simp
    | some flaw => simp

/-- A check of a title in its place refuses a name as too long only where reading it does. -/
theorem refusedAsTooLong_of_placeChecks {own : Option Site} {check : Option Site → Value → Except Fault Title}
    (hcheck : check ∈ placeChecks) (h : RefusedAsTooLong (check own (.leaf (.title t)))) :
    RefusedAsTooLong (ofValue own (.leaf (.title t))) := by
  obtain ⟨given, h⟩ := h
  simp only [placeChecks, List.mem_cons, List.not_mem_nil, or_false] at hcheck
  rcases hcheck with rfl | rfl | rfl | rfl
  · simp only [transcluded, bind, Except.bind] at h
    split at h
    · simp at h
    · cases hread : ofValue (some (own.getD t.site)) (.leaf (.title t)) with
      | error fault =>
        rw [hread] at h
        simp only [Functor.map, Except.map, Except.error.injEq] at h
        exact ⟨given, h ▸ hread⟩
      | ok title =>
        rw [hread] at h
        simp only [Functor.map, Except.map] at h
        split at h
        · simp at h
        · split at h <;> simp at h
  · exact ⟨given, h⟩
  · obtain herror | ⟨title, -, htitle⟩ := Outcome.bind_eq_error.mp h
    · exact ⟨given, herror⟩
    · repeat' split at htitle
      all_goals simp at htitle
  · obtain herror | ⟨title, -, htitle⟩ := Outcome.bind_eq_error.mp h
    · exact ⟨given, herror⟩
    · split at htitle <;> simp at htitle

/-- The name of a title is within the limit exactly if its capital fits. A title with such a name is never refused as
too long when it is checked again on its site, if what stands in front of the name can be told from it. -/
theorem main_within_limit_iff (hsite : site.Made) (hread : read site given fallback = .ok t) :
    (utf8Length t.main ≤ maxTitleBytes ↔ CapitalFits t (writtenName site given)) ∧
      (CapitalFits t (writtenName site given) → t.namespaceName = [] ∨ IsNamespaceName t.namespaceName →
        ∀ own : Option Site, own.getD site = site →
          (∀ fallback', ¬ RefusedAsTooLong (ofValue own (.leaf (.title t)) fallback')) ∧
            ∀ check ∈ placeChecks, ¬ RefusedAsTooLong (check own (.leaf (.title t)))) := by
  refine ⟨utf8Length_main_le_iff hread, fun hfits hname own hown => ?_⟩
  have hagain : ∀ fallback', ¬ RefusedAsTooLong (ofValue own (.leaf (.title t)) fallback') := by
    intro fallback' hrefused
    have hof : ofValue own (.leaf (.title t)) fallback' =
        read site (t.render true true) (fallback'.getD site.mainId) := by
      rw [ofValue, site_of_read hread, hown]
    rw [hof, refusedAsTooLong_read_iff] at hrefused
    have hlong := hrefused.2.2.2
    have hshort := utf8Length_writtenName_render_le hsite hread hname
    have hlimit := (utf8Length_main_le_iff hread).mpr hfits
    omega
  exact ⟨hagain, fun check hcheck hrefused => hagain none (refusedAsTooLong_of_placeChecks hcheck hrefused)⟩

/-- A name of just as many bytes as are allowed, whose capital has no more bytes than its first letter. -/
theorem main_within_limit_accented :
    ∃ t, read .small ('é' :: List.replicate 253 'a') Site.small.mainId = .ok t ∧ utf8Length t.main = maxTitleBytes ∧
      ∀ check ∈ placeChecks, ¬ RefusedAsTooLong (check none (.leaf (.title t))) := by
  have hread : read .small ('é' :: List.replicate 253 'a') Site.small.mainId =
      .ok (built .small ('é' :: List.replicate 253 'a') Site.small.mainId) := read_eq_built _ (by decide +kernel)
  have hlength : utf8Length (built .small ('é' :: List.replicate 253 'a') Site.small.mainId).main = maxTitleBytes := by
    decide +kernel
  obtain ⟨hlimit, hagain⟩ := main_within_limit_iff Site.made_small hread
  have hfits := hlimit.mp (Nat.le_of_eq hlength)
  have hname : (built .small ('é' :: List.replicate 253 'a') Site.small.mainId).namespaceName = [] := by decide +kernel
  exact ⟨_, hread, hlength, (hagain hfits (Or.inl hname) none rfl).2⟩

/-- A letter whose upper case has two characters makes a name of 255 bytes too long to be read again. -/
theorem refusedAsTooLong_of_widened : Site.small.Made ∧
    ∃ t, read .small ('ŉ' :: List.replicate 253 'a') Site.small.mainId = .ok t ∧ utf8Length t.main = 256 ∧
      RefusedAsTooLong (ofValue none (.leaf (.title t))) := by
  have hread : read .small ('ŉ' :: List.replicate 253 'a') Site.small.mainId =
      .ok (built .small ('ŉ' :: List.replicate 253 'a') Site.small.mainId) := read_eq_built _ (by decide +kernel)
  refine ⟨Site.made_small, _, hread, by decide +kernel, ?_⟩
  have hrender : (built .small ('ŉ' :: List.replicate 253 'a') Site.small.mainId).render true true =
      'ʼ' :: 'N' :: List.replicate 253 'a' := by decide +kernel
  have hof : ∀ t, t.site = .small → t.render true true = 'ʼ' :: 'N' :: List.replicate 253 'a' →
      ofValue none (.leaf (.title t)) = read .small ('ʼ' :: 'N' :: List.replicate 253 'a') Site.small.mainId := by
    intro t hsite hrender
    rw [ofValue, Option.getD_none, Option.getD_none, hsite, hrender]
  rw [hof _ rfl hrender, refusedAsTooLong_read_iff]
  decide +kernel

end Title

end PageMarkup
