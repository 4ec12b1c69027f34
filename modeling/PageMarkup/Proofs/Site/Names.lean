import PageMarkup.Proofs.Keyed
import PageMarkup.Site.Basic

/-!
# Names of namespaces and other wikis

A site that is made of its parts finds a namespace by its own id and by one of its own names only, and a prefix of
another wiki by its label.
-/
namespace PageMarkup.Site

/-- Whether the site is made of the lists of its parts. -/
def Made (site : Site) : Prop :=
  ∃ name spaces words hooks interwikis, site = ofParts name spaces words hooks interwikis

/-- Whether the main namespace has no name but the empty one. -/
def MainUnnamed (site : Site) : Prop :=
  ∀ space, site.namespace? site.mainId = some space → ∀ name ∈ space.names, name = []

variable {site : Site}

/-- A name that is known is a name of one of the namespaces. -/
theorem exists_mem_of_namespaceId? {name : Text} {id : Int} (h : site.namespaceId? name = some id) :
    ∃ entry ∈ site.namespaces, entry.2.id = id ∧
      ∃ known ∈ entry.2.names, normalizedName known = normalizedName name := by
  suffices hfold : ∀ (entries : Keyed Int Namespace) (ids : Keyed Text Int),
      Keyed.get? (normalizedName name) (entries.foldl (fun m entry =>
        entry.2.names.foldl (fun m name => Keyed.put (normalizedName name) entry.2.id m) m) ids) = some id →
      (∃ entry ∈ entries, entry.2.id = id ∧ ∃ known ∈ entry.2.names, normalizedName known = normalizedName name) ∨
        Keyed.get? (normalizedName name) ids = some id by
    obtain hmem | hnone := hfold site.namespaces [] h
    · exact hmem
    · simp [Keyed.get?] at hnone
  intro entries
  induction entries with
  | nil => exact fun ids hids => Or.inr hids
  | cons entry entries ih =>
    intro ids hids
    obtain ⟨other, hother, hnamed⟩ | hbefore := ih _ hids
    · exact Or.inl ⟨other, List.mem_cons_of_mem entry hother, hnamed⟩
    · obtain ⟨known, hknown, hname, hid⟩ | hold := Keyed.get?_foldl_put_cases hbefore
      · exact Or.inl ⟨entry, List.mem_cons_self, hid, known, hknown, hname⟩
      · exact Or.inr hold

/-- A name of one of the namespaces is known. -/
theorem exists_namespaceId?_of_mem {entry : Int × Namespace} (hentry : entry ∈ site.namespaces) {name : Text}
    (hname : name ∈ entry.2.names) : ∃ id, site.namespaceId? name = some id := by
  suffices hfold : ∀ (entries : Keyed Int Namespace) (ids : Keyed Text Int),
      (entry ∈ entries ∨ normalizedName name ∈ Keyed.keys ids) →
      normalizedName name ∈ Keyed.keys (entries.foldl (fun m entry =>
        entry.2.names.foldl (fun m name => Keyed.put (normalizedName name) entry.2.id m) m) ids) by
    have hmem := hfold site.namespaces [] (Or.inl hentry)
    by_contra hnone
    have hget : site.namespaceId? name = none := Option.eq_none_iff_forall_ne_some.mpr (not_exists.mp hnone)
    exact (Keyed.get?_eq_none_iff _ _).mp hget hmem
  intro entries
  induction entries with
  | nil => exact fun ids hids => hids.resolve_left List.not_mem_nil
  | cons other entries ih =>
    intro ids hids
    refine ih _ ?_
    rw [Keyed.mem_keys_foldl_put]
    obtain hmem | hold := hids
    · obtain rfl | hmem := List.mem_cons.mp hmem
      · exact Or.inr (Or.inl (List.mem_map_of_mem hname))
      · exact Or.inl hmem
    · exact Or.inr (Or.inr hold)

/-- A name leads to the last of the namespaces that are known by it. -/
theorem get?_namespaceIds (site : Site) (key : Text) : Keyed.get? key site.namespaceIds =
    (site.namespaces.reverse.find? fun entry => key ∈ entry.2.names.map normalizedName).map (·.2.id) := by
  have hnames : ∀ (names : List Text) (id : Int) (ids : Keyed Text Int),
      Keyed.get? key (names.foldl (fun m name => Keyed.put (normalizedName name) id m) ids) =
        if key ∈ names.map normalizedName then some id else Keyed.get? key ids := by
    intro names id
    induction names with
    | nil => simp
    | cons name names ih =>
      intro ids
      rw [List.foldl_cons, ih, Keyed.get?_put, List.map_cons]
      by_cases hmem : key ∈ names.map normalizedName
      · rw [if_pos hmem, if_pos (List.mem_cons_of_mem _ hmem)]
      · by_cases hkey : normalizedName name = key
        · rw [if_neg hmem, if_pos hkey, if_pos (List.mem_cons.mpr (Or.inl hkey.symm))]
        · rw [if_neg hmem, if_neg hkey, if_neg (mt List.mem_cons.mp (not_or.mpr ⟨Ne.symm hkey, hmem⟩))]
  rw [namespaceIds]
  induction site.namespaces using List.reverseRecOn with
  | nil => rfl
  | append_singleton entries entry ih =>
    rw [List.foldl_append, List.foldl_cons, List.foldl_nil, hnames, ih, List.reverse_append, List.reverse_singleton,
      List.singleton_append, List.find?_cons]
    by_cases hkey : key ∈ entry.2.names.map normalizedName <;> simp [hkey]

/-- A name that is compared as the empty one names the main namespace or none. -/
theorem eq_mainId_of_normalizedName {name : Text} {id : Int} (hname : normalizedName name = [])
    (h : site.namespaceId? name = some id) : id = site.mainId := by
  rw [namespaceId?, hname] at h
  simp [mainId, h]

namespace Made

/-- A namespace stands under its own id. -/
theorem namespace?_of_mem (hsite : site.Made) {entry : Int × Namespace} (hentry : entry ∈ site.namespaces) :
    site.namespace? entry.2.id = some entry.2 := by
  obtain ⟨name, spaces, words, hooks, interwikis, rfl⟩ := hsite
  have hempty : (Keyed.keys ([] : Keyed Int Namespace)).Nodup := List.nodup_nil
  have hget := Keyed.get?_of_mem (Keyed.nodup_keys_foldl_put Namespace.id (fun space => space) spaces hempty) hentry
  obtain ⟨space, -, hid, hspace⟩ | hnone := Keyed.get?_foldl_put_cases hget
  · have hkey : entry.1 = entry.2.id := by rw [← hspace, hid]
    rw [← hkey]
    exact hget
  · simp [Keyed.get?] at hnone

/-- A name that is known is a name of the namespace that it leads to. -/
theorem exists_of_namespaceId? (hsite : site.Made) {name : Text} {id : Int} (h : site.namespaceId? name = some id) :
    ∃ space, site.namespace? id = some space ∧ ∃ known ∈ space.names, normalizedName known = normalizedName name := by
  obtain ⟨entry, hentry, rfl, hknown⟩ := exists_mem_of_namespaceId? h
  exact ⟨entry.2, hsite.namespace?_of_mem hentry, hknown⟩

/-- An unnamed main namespace is found by nothing but a name that is compared as the empty one. -/
theorem normalizedName_of_main (hsite : site.Made) (hmain : site.MainUnnamed) {name : Text}
    (h : site.namespaceId? name = some site.mainId) : normalizedName name = [] := by
  obtain ⟨space, hspace, known, hknown, hname⟩ := hsite.exists_of_namespaceId? h
  rw [← hname, hmain space hspace known hknown]
  rfl

/-- A prefix of another wiki has a label that differs from it in case and in the blanks around it at most. -/
theorem label_of_interwiki? (hsite : site.Made) {lead : Text} {iw : Interwiki} (h : site.interwiki? lead = some iw) :
    Text.lower iw.label = Text.lower (Text.trim lead) := by
  obtain ⟨name, spaces, words, hooks, interwikis, rfl⟩ := hsite
  obtain ⟨other, -, hlabel, rfl⟩ | hnone := Keyed.get?_foldl_put_cases h
  · exact hlabel
  · simp [Keyed.get?] at hnone

end Made

/-! ## A small site -/

/-- A site with pages, files and templates, and one other wiki whose pages can be transcluded. -/
def small : Site :=
  ofParts .null
    [{ id := 0, name := some [], canonical := none, aliases := [], titleCase := .text firstLetterSetting },
     { id := 6, name := some "File".toList, canonical := some "File".toList, aliases := [some "Image".toList]
       titleCase := .text firstLetterSetting },
     { id := 10, name := some "Template".toList, canonical := some "Template".toList, aliases := []
       titleCase := .text firstLetterSetting }]
    [] []
    [{ label := "fr".toList, url := .null, isLocal := false, transcludes := true, isLocalLink := false }]

theorem made_small : small.Made := ⟨_, _, _, _, _, rfl⟩

theorem mainId_small : small.mainId = 0 := by decide +kernel

theorem mainUnnamed_small : small.MainUnnamed := by
  intro space hspace
  rw [mainId_small] at hspace
  obtain rfl := Option.some.inj hspace
  decide

end PageMarkup.Site
