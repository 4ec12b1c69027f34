import PageMarkup.Proofs.Title.Reading

/-!
# Names and prefixes

What is read as the name of a page, and each of the two sides of a prefix's colon, is a name that is read as it stands
(`IsName`). A known prefix takes one colon off a text, so that the number of colons tells whether one was taken off
(`count_colon_of_resolveLead`), and a prefix that is printed in front of a name is recognized again
(`cutLead_append_colon`). Capitalizing a name and reading it again changes nothing more (`applyCase_applyCase`).
-/
namespace PageMarkup.Title

open Text

/-! ## Names -/

/-- Whether the text is read as it stands, as a name or as a prefix. -/
structure IsName (s : Text) : Prop where
  tidy : IsTidy s
  trimmed : trim s = s
  uncut : '#' ∉ s
  legal : ∀ c ∈ s, isIllegalInTitle c = false

theorem isLetter_of_isIllegalInTitle {c : Char} (h : isIllegalInTitle c = true) : isLetter c = false := by
  rw [Bool.eq_false_iff]
  intro hletter
  have hother : ∀ d ∈ ['<', '>', '[', ']', '{', '}', '|', '\ufffd'], isLetter d = false :=
    forall_not_isLetter (by decide)
  simp only [isIllegalInTitle, Bool.or_eq_true, decide_eq_true_eq, List.contains_iff_mem] at h
  obtain hcode | hmem := h
  · simp only [isLetter, inRuns, letterZones, List.any_cons, List.any_nil, Bool.or_eq_true, Bool.and_eq_true,
      decide_eq_true_eq, Bool.false_eq_true, or_false] at hletter
    omega
  · simp [hother c hmem] at hletter

variable {site : Site} {s t lead rest main : Text}

theorem IsName.tidy_eq (h : IsName s) : Title.tidy s = s := tidy_eq_self h.tidy h.trimmed

/-- Letters for letters keep a name a name. -/
theorem IsName.respelled (hs : IsName s) (h : Respelled s t) : IsName t where
  tidy := hs.tidy.respelled h
  trimmed := h.trim_eq_self hs.trimmed
  uncut hmem := (h.mem_or_isLetter hmem).elim hs.uncut (by decide)
  legal c hc := by
    obtain hmem | hletter := h.mem_or_isLetter hc
    · exact hs.legal c hmem
    · by_contra hbad
      simp [isLetter_of_isIllegalInTitle (by simpa using hbad)] at hletter

theorem isTidy_behindColon (given : Text) : IsTidy (behindColon given) := by
  unfold behindColon
  split
  · exact (isTidy_tidy given).within ((trimStart_suffix _).trans (List.drop_suffix 1 _)).isInfix
  · exact isTidy_tidy given

theorem trim_behindColon (given : Text) : trim (behindColon given) = behindColon given := by
  have htrim := trim_eq_self_iff.mp (trim_tidy given)
  unfold behindColon
  split
  · refine trim_eq_self_iff.mpr ⟨trimStart_trimStart _, ?_⟩
    exact trimEnd_of_suffixOf htrim.2 ((trimStart_suffix _).trans (List.drop_suffix 1 _))
  · exact trim_tidy given

theorem cutFragment_cases (s : Text) :
    '#' ∉ s ∧ cutFragment s = (s, []) ∨
      ∃ before behind, '#' ∉ before ∧ s = before ++ '#' :: behind ∧ cutFragment s = (trimEnd before, trim behind) := by
  obtain ⟨hnone, hcut⟩ | ⟨before, behind, hbefore, hsplit, hcut⟩ := cutAtFirst_cases '#' s
  · exact Or.inl ⟨hnone, by rw [cutFragment, hcut]⟩
  · exact Or.inr ⟨before, behind, hbefore, hsplit, by rw [cutFragment, hcut]⟩

/-- What is read as a name is one, if its characters are legal. -/
theorem isName_writtenBody {given : Text} (hlegal : ∀ c ∈ writtenBody given, isIllegalInTitle c = false) :
    IsName (writtenBody given) := by
  have htidy := isTidy_behindColon given
  have htrim := trim_behindColon given
  revert hlegal
  unfold writtenBody
  obtain ⟨hnone, hcut⟩ | ⟨before, behind, hbefore, hsplit, hcut⟩ := cutFragment_cases (behindColon given)
  · rw [hcut]
    exact fun hlegal => ⟨htidy, htrim, hnone, hlegal⟩
  · rw [hcut]
    have hbegin : before <+: behindColon given := ⟨'#' :: behind, hsplit.symm⟩
    have hstart := trimStart_of_prefixOf (trim_eq_self_iff.mp htrim).1 ((trimEnd_prefixOf before).trans hbegin)
    exact fun hlegal => ⟨htidy.within ((trimEnd_prefixOf before).trans hbegin).isInfix,
      trim_eq_self_iff.mpr ⟨hstart, trimEnd_trimEnd before⟩,
      fun hmem => hbefore ((trimEnd_prefixOf before).subset hmem),
      hlegal⟩

theorem writtenBody_prefixOf (given : Text) : writtenBody given <+: behindColon given := by
  unfold writtenBody
  obtain ⟨-, hcut⟩ | ⟨before, behind, -, hsplit, hcut⟩ := cutFragment_cases (behindColon given)
  · rw [hcut]
  · rw [hcut]
    exact (trimEnd_prefixOf before).trans ⟨'#' :: behind, hsplit.symm⟩

theorem tidy_writtenFragment (given : Text) : Title.tidy (writtenFragment given) = writtenFragment given := by
  have htidy := isTidy_behindColon given
  unfold writtenFragment
  obtain ⟨-, hcut⟩ | ⟨before, behind, -, hsplit, hcut⟩ := cutFragment_cases (behindColon given)
  · rw [hcut]
    rfl
  · rw [hcut]
    have hsuffix : behind <:+ behindColon given := ⟨before ++ ['#'], by rw [hsplit]; simp⟩
    have hpart : trim behind <:+: behind := (trimEnd_prefixOf _).isInfix.trans (trimStart_suffix _).isInfix
    exact tidy_eq_self (htidy.within (hpart.trans hsuffix.isInfix)) (trim_trim behind)

/-! ## Prefixes -/

theorem cutLead_eq_some_iff : cutLead s = some (lead, rest) ↔
    ∃ before behind, s = before ++ ':' :: behind ∧ ':' ∉ before ∧ before ≠ [] ∧
      trimEnd before = lead ∧ trimStart behind = rest := by
  constructor
  · intro h
    obtain ⟨-, hcut⟩ | ⟨before, behind, hbefore, hsplit, hcut⟩ := cutAtFirst_cases ':' s
    · rw [cutLead, hcut] at h
      cases s <;> simp at h
    · cases before with
      | nil => simp [cutLead, hcut] at h
      | cons c before =>
        obtain ⟨hlead, hrest⟩ : trimEnd (c :: before) = lead ∧ trimStart behind = rest := by
          simpa [cutLead, hcut] using h
        exact ⟨c :: before, behind, hsplit, hbefore, by simp, hlead, hrest⟩
  · rintro ⟨before, behind, rfl, hbefore, hne, rfl, rfl⟩
    obtain ⟨c, cs, rfl⟩ := List.exists_cons_of_ne_nil hne
    rw [cutLead, cutAtFirst_append_cons behind hbefore]

/-- A possible prefix and what stands behind it are names; one colon lies between them. -/
theorem isName_of_cutLead (hs : IsName s) (h : cutLead s = some (lead, rest)) :
    IsName lead ∧ lead ≠ [] ∧ ':' ∉ lead ∧ IsName rest ∧ s.count ':' = rest.count ':' + 1 := by
  obtain ⟨hstart, hend⟩ := trim_eq_self_iff.mp hs.trimmed
  obtain ⟨before, behind, hsplit, hbefore, hne, rfl, rfl⟩ := cutLead_eq_some_iff.mp h
  obtain ⟨c, cs, rfl⟩ := List.exists_cons_of_ne_nil hne
  have hblank : isBlank c = false := head_trimStart (hstart.trans hsplit)
  have hbegin : trimEnd (c :: cs) <+: s := (trimEnd_prefixOf _).trans ⟨':' :: behind, hsplit.symm⟩
  have hsuffix : trimStart behind <:+ s := (trimStart_suffix _).trans ⟨c :: cs ++ [':'], by rw [hsplit]; simp⟩
  refine ⟨⟨hs.tidy.within hbegin.isInfix, ?_, fun hmem => hs.uncut (hbegin.subset hmem),
    fun d hd => hs.legal d (hbegin.subset hd)⟩, ?_, fun hmem => hbefore ((trimEnd_prefixOf _).subset hmem),
    ⟨hs.tidy.within hsuffix.isInfix, ?_, fun hmem => hs.uncut (hsuffix.subset hmem),
    fun d hd => hs.legal d (hsuffix.subset hd)⟩, ?_⟩
  · exact trim_eq_self_iff.mpr ⟨trimStart_of_prefixOf hstart hbegin, trimEnd_trimEnd _⟩
  · rw [trimEnd_cons cs hblank]
    simp
  · exact trim_eq_self_iff.mpr ⟨trimStart_trimStart _, trimEnd_of_suffixOf hend hsuffix⟩
  · rw [count_trimStart behind (by decide), hsplit, List.count_append, List.count_eq_zero.mpr hbefore,
      List.count_cons_self, Nat.zero_add]

/-- A prefix that was put in front of a name is cut off again. -/
theorem cutLead_append_colon (hcolon : ':' ∉ lead) (hne : Title.tidy lead ≠ []) (rest : Text) :
    cutLead (Title.tidy (lead ++ ':' :: rest)) = some (Title.tidy lead, Title.tidy rest) := by
  have hlead : trimEnd (trimStart (spread lead)) = Title.tidy lead := (tidy_eq_trim_spread lead).symm
  have hrest : trimStart (trimEnd (spread rest)) = Title.tidy rest := by rw [tidy_eq_trim_spread, trimStart_trimEnd]
  have hmem : ':' ∉ trimStart (spread lead) :=
    fun hmem => (mem_spread ((trimStart_suffix _).subset hmem)).elim hcolon (by decide)
  have hstart : trimStart (spread lead) ≠ [] := by
    intro hnil
    rw [← hlead, hnil] at hne
    exact hne rfl
  exact cutLead_eq_some_iff.mpr ⟨_, _, tidy_append_colon lead rest, hmem, hstart, hlead, hrest⟩

/-- A text is a page's whole title, or begins with a prefix that the site knows. -/
theorem resolveLead_cases (site : Site) (s : Text) :
    resolveLead site s = (.page, s) ∨
      ∃ lead rest, cutLead s = some (lead, rest) ∧
        ((∃ id, site.namespaceId? lead = some id ∧ resolveLead site s = (.ofNamespace id, rest)) ∨
          ∃ iw, site.namespaceId? lead = none ∧ site.interwiki? lead = some iw ∧
            resolveLead site s = (.ofInterwiki (lower iw.label), rest)) := by
  unfold resolveLead
  cases hcut : cutLead s with
  | none => exact Or.inl rfl
  | some pair =>
    obtain ⟨lead, rest⟩ := pair
    dsimp only
    cases hid : site.namespaceId? lead with
    | some id => exact Or.inr ⟨lead, rest, rfl, Or.inl ⟨id, hid, rfl⟩⟩
    | none =>
      cases hiw : site.interwiki? lead with
      | some iw => exact Or.inr ⟨lead, rest, rfl, Or.inr ⟨iw, hid, hiw, rfl⟩⟩
      | none => exact Or.inl rfl

/-- A text begins with no known prefix, or it has one colon more than what is behind the prefix. -/
theorem count_colon_of_resolveLead (site : Site) (hs : IsName s) :
    resolveLead site s = (.page, s) ∨ s.count ':' = (resolveLead site s).2.count ':' + 1 := by
  obtain hpage | ⟨lead, rest, hcut, ⟨id, -, hresolve⟩ | ⟨iw, -, -, hresolve⟩⟩ := resolveLead_cases site s
  · exact Or.inl hpage
  · rw [hresolve]
    exact Or.inr (isName_of_cutLead hs hcut).2.2.2.2
  · rw [hresolve]
    exact Or.inr (isName_of_cutLead hs hcut).2.2.2.2

theorem isName_resolveLead (hs : IsName s) : IsName (resolveLead site s).2 := by
  obtain hpage | ⟨lead, rest, hcut, ⟨id, -, hresolve⟩ | ⟨iw, -, -, hresolve⟩⟩ := resolveLead_cases site s
  · rw [hpage]
    exact hs
  · rw [hresolve]
    exact (isName_of_cutLead hs hcut).2.2.2.1
  · rw [hresolve]
    exact (isName_of_cutLead hs hcut).2.2.2.1

/-- A prefix is compared in lower case, and it is not compared as the empty name. -/
theorem normalizedName_of_isName (hs : IsName s) (hne : s ≠ []) :
    normalizedName s = lower s ∧ normalizedName s ≠ [] := by
  have hname : normalizedName s = lower s := by
    conv_lhs => rw [← hs.tidy_eq]
    rw [normalizedName_tidy, hs.tidy_eq]
  refine ⟨hname, ?_⟩
  rw [hname]
  exact mt (respelled_lower s).eq_nil_iff.mp hne

/-! ## Capitalized names -/

/-- In one place all names are left as they are, or all are capitalized. -/
theorem applyCase_eq_or (site : Site) (id : Int) (interwiki : Text) :
    (∀ main, applyCase site id interwiki main = main) ∨ ∀ main, applyCase site id interwiki main = capitalize main := by
  unfold applyCase
  by_cases hinterwiki : interwiki.isEmpty = true
  · simp only [if_pos hinterwiki]
    cases site.namespace? id with
    | none => exact Or.inl fun _ => rfl
    | some space =>
      cases hcase : space.capitalizes with
      | true => exact Or.inr fun main => by simp [hcase]
      | false => exact Or.inl fun main => by simp [hcase]
  · exact Or.inl fun main => if_neg hinterwiki

theorem respelled_applyCase (site : Site) (id : Int) (interwiki main : Text) :
    Respelled main (applyCase site id interwiki main) := by
  obtain h | h := applyCase_eq_or site id interwiki
  · rw [h]
    exact .refl main
  · rw [h]
    exact respelled_capitalize main

@[simp] theorem applyCase_applyCase (site : Site) (id : Int) (interwiki main : Text) :
    applyCase site id interwiki (applyCase site id interwiki main) = applyCase site id interwiki main := by
  obtain h | h := applyCase_eq_or site id interwiki
  · rw [h, h]
  · rw [h, h, capitalize_capitalize]

/-! ## Flaws -/

theorem isRelativePath_iff (s : Text) : isRelativePath s = true ↔
    s = ['.'] ∨ s = ['.', '.'] ∨ ['.', '/'] <+: s ∨ ['.', '.', '/'] <+: s ∨ ['/', '.', '/'] <:+: s ∨
      ['/', '.', '.', '/'] <:+: s ∨ ['/', '.'] <:+ s ∨ ['/', '.', '.'] <:+ s := by
  simp only [isRelativePath, Bool.or_eq_true, beq_iff_eq, startsWith_iff, endsWith_iff, includes_iff, or_assoc]

/-- Letters for letters make no text a relative path. -/
theorem isRelativePath_of_respelled (h : Respelled s t) (ht : isRelativePath t = true) : isRelativePath s = true := by
  have hplain : ∀ c ∈ ['.', '/'], isLetter c = false := forall_not_isLetter (by decide)
  have hpattern : ∀ p : Text, p ⊆ ['.', '/'] → ∀ c ∈ p, isLetter c = false := fun p hp c hc => hplain c (hp hc)
  have heq : ∀ p : Text, p ⊆ ['.', '/'] → t = p → s = p := by
    rintro p hp rfl
    exact h.eq_of_forall_not_isLetter (hpattern t hp)
  rw [isRelativePath_iff] at ht ⊢
  exact ht.imp (heq _ (by simp)) fun ht => ht.imp (heq _ (by simp)) fun ht =>
    ht.imp (h.prefixOf (hpattern _ (by simp))) fun ht => ht.imp (h.prefixOf (hpattern _ (by simp))) fun ht =>
    ht.imp (h.infixOf (hpattern _ (by simp))) fun ht => ht.imp (h.infixOf (hpattern _ (by simp))) fun ht =>
    ht.imp (h.suffixOf (hpattern _ (by simp))) (h.suffixOf (hpattern _ (by simp)))

theorem flaw?_of_ne_nil {lead : Lead} {fragment : Text} (hne : main ≠ []) :
    flaw? lead main fragment = none ↔
      includes ['~', '~', '~'] main = false ∧ isRelativePath main = false ∧ utf8Length main ≤ maxTitleBytes := by
  simp only [flaw?, List.isEmpty_iff, if_neg hne]
  by_cases hsignature : includes ['~', '~', '~'] main = true
  · simp [hsignature]
  · by_cases hpath : isRelativePath main = true
    · simp [hsignature, hpath]
    · simp [hsignature, hpath]

/-- Letters for letters make no signature. -/
theorem unsigned_of_respelled (h : Respelled s t) (hs : includes ['~', '~', '~'] s = false) :
    includes ['~', '~', '~'] t = false := by
  rw [Bool.eq_false_iff, Ne, includes_iff] at hs ⊢
  exact mt (h.infixOf (forall_not_isLetter (by decide))) hs

/-- A name without a flaw has none in another spelling, as long as it is not too long. -/
theorem flaw?_of_respelled {lead other : Lead} {fragment fragment' : Text} (h : Respelled s t) (hne : t ≠ [])
    (hs : flaw? lead s fragment = none) (hlength : utf8Length t ≤ maxTitleBytes) : flaw? other t fragment' = none := by
  have hne' : s ≠ [] := mt h.eq_nil_iff.mpr hne
  obtain ⟨hsignature, hpath, -⟩ := (flaw?_of_ne_nil hne').mp hs
  refine (flaw?_of_ne_nil hne).mpr ⟨unsigned_of_respelled h hsignature, ?_, hlength⟩
  rw [Bool.eq_false_iff] at hpath ⊢
  exact mt (isRelativePath_of_respelled h) hpath

end PageMarkup.Title
