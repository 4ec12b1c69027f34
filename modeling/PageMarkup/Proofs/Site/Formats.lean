import PageMarkup.Datum.Encode
import PageMarkup.Proofs.Outcome
import PageMarkup.Proofs.Site.Names
import PageMarkup.Site.Description

/-!
# The formats of descriptions

What is known of a site (`SiteFacts`) is written as a description in the older format or in the newer one, and bare or
under `query`. All of these descriptions are read as the same listing (`SiteFacts.read_encode`), so they give the same
site, and it is the one that is known (`Site.ofDescription_encode`).
-/
namespace PageMarkup

open Datum (named ofText? ofTexts)

/-! ## Facts -/

/-- What is known of a namespace. -/
structure NamespaceFacts where
  id : Int
  name : Text
  canonical : Option Text
  aliases : List Text
  titleCase : Text

/-- What is known of a prefix that leads to another wiki. -/
structure InterwikiFacts where
  label : Text
  url : Text
  isLocal : Bool
  transcludes : Bool
  isLocalLink : Bool

/-- What is known of a site. -/
structure SiteFacts where
  serverName : Option Text
  namespaces : List NamespaceFacts
  words : List MagicWord
  functionHooks : List Text
  interwikis : List InterwikiFacts

/-- The word as descriptions list it. -/
def MagicWord.listed (word : MagicWord) : ListedWord where
  name := .text word.name
  aliases := ofTexts word.aliases
  caseSensitive := word.caseSensitive

/-- Every name that the namespace is known by. -/
def NamespaceFacts.names (space : NamespaceFacts) : List Text := space.name :: (space.canonical.toList ++ space.aliases)

/-- The namespace as descriptions list it. -/
def NamespaceFacts.listed (space : NamespaceFacts) : ListedNamespace where
  id := space.id
  name := .text space.name
  canonical := ofText? space.canonical
  aliases := space.aliases.map .text
  titleCase := .text space.titleCase

def NamespaceFacts.toNamespace (space : NamespaceFacts) : Namespace where
  id := space.id
  name := some space.name
  canonical := space.canonical
  aliases := space.aliases.map some
  titleCase := .text space.titleCase

/-- The prefix as descriptions list it. -/
def InterwikiFacts.listed (iw : InterwikiFacts) : ListedInterwiki where
  label := .text iw.label
  url := .text iw.url
  isLocal := iw.isLocal
  transcludes := iw.transcludes
  isLocalLink := iw.isLocalLink

def InterwikiFacts.toInterwiki (iw : InterwikiFacts) : Interwiki where
  label := iw.label
  url := .text iw.url
  isLocal := iw.isLocal
  transcludes := iw.transcludes
  isLocalLink := iw.isLocalLink

/-- The site is the one that is known, under the given name or that of the server. Of namespaces with a name in common
the last one has it, and of prefixes with one label the last one counts. -/
structure SiteFacts.Describes (facts : SiteFacts) (given : Option Text) (site : Site) : Prop where
  name_eq : site.name = ofText? (given.or facts.serverName)
  namespaces_eq : site.namespaces = facts.namespaces.map fun space => (space.id, space.toNamespace)
  get?_namespaceIds : ∀ key, Keyed.get? key site.namespaceIds =
    (facts.namespaces.reverse.find? fun space => key ∈ space.names.map normalizedName).map (·.id)
  magicWords_eq : site.magicWords = facts.words
  mem_functionHooks : ∀ hook, hook ∈ site.functionHooks ↔ hook ∈ facts.functionHooks
  nodup_functionHooks : site.functionHooks.Nodup
  get?_interwikis : ∀ key, Keyed.get? key site.interwikis =
    (facts.interwikis.reverse.find? fun iw => Text.lower iw.label = key).map InterwikiFacts.toInterwiki

/-! ## Descriptions -/

namespace Description

/-- The format of a description. -/
inductive Format where
  | older
  | newer

/-- The field for a name. -/
def Format.nameField (format : Format) (name : String) : Text :=
  match format with
  | older => ['*']
  | newer => name.toList

/-- What stands in a record for a flag. -/
def Format.flagFields (format : Format) (name : String) (isSet : Bool) : List (Text × Plain) :=
  match format with
  | older => if isSet then [named name (.text [])] else []
  | newer => [named name (.bool isSet)]

def encodeAlias (format : Format) (entry : Int × Text) : Plain :=
  .record [named "id" (.int entry.1), (format.nameField "alias", .text entry.2)]

def encodeWord (format : Format) (word : MagicWord) : Plain :=
  .record ([named "name" (.text word.name), named "aliases" (ofTexts word.aliases)] ++
    format.flagFields "case-sensitive" word.caseSensitive)

end Description

open Description (Format encodeAlias encodeWord readAlias readNamespace readWord readInterwiki)

def NamespaceFacts.encode (format : Format) (space : NamespaceFacts) : Text × Plain :=
  (Text.ofInt space.id, .record ([named "id" (.int space.id), named "case" (.text space.titleCase),
    (format.nameField "name", .text space.name)] ++
    (space.canonical.map fun name => named "canonical" (.text name)).toList))

def InterwikiFacts.encode (format : Format) (iw : InterwikiFacts) : Plain :=
  .record ([named "prefix" (.text iw.label), named "url" (.text iw.url)] ++ format.flagFields "local" iw.isLocal ++
    format.flagFields "trans" iw.transcludes ++ format.flagFields "localinterwiki" iw.isLocalLink)

namespace SiteFacts

/-- What a description of the site is made of, given the aliases of all its namespaces with their ids. -/
def query (facts : SiteFacts) (format : Format) (aliases : List (Int × Text)) : Plain :=
  .record ([named "namespaces" (.record (facts.namespaces.map (·.encode format))),
    named "namespacealiases" (.list (aliases.map (encodeAlias format))),
    named "magicwords" (.list (facts.words.map (encodeWord format))),
    named "functionhooks" (ofTexts facts.functionHooks),
    named "interwikimap" (.list (facts.interwikis.map (·.encode format)))] ++
    (facts.serverName.map fun name => named "general" (.record [named "servername" (.text name)])).toList)

/-- The description of a site, bare or under `query`. -/
def encode (facts : SiteFacts) (format : Format) (isWrapped : Bool) (aliases : List (Int × Text)) : Plain :=
  if isWrapped then .record [named "query" (facts.query format aliases)] else facts.query format aliases

/-- Whether the aliases with their ids are those of the namespaces, those of each namespace in their order. -/
def Lists (facts : SiteFacts) (aliases : List (Int × Text)) : Prop :=
  ∀ space ∈ facts.namespaces, (aliases.filter fun entry => entry.1 = space.id).map (·.2) = space.aliases

/-- The aliases of one namespace after the other. -/
def aliasesInOrder (facts : SiteFacts) : List (Int × Text) :=
  facts.namespaces.flatMap fun space => space.aliases.map fun name => (space.id, name)

end SiteFacts

/-! ## Reading -/

section

variable (format : Format)

theorem readAlias_encode (entry : Int × Text) :
    readAlias (encodeAlias format entry) = .ok (entry.1, .text entry.2) := by
  cases format <;> rfl

theorem readWord_encode (word : MagicWord) : readWord (encodeWord format word) = .ok word.listed := by
  obtain ⟨name, aliases, isSensitive⟩ := word
  cases format <;> cases isSensitive <;> rfl

theorem readInterwiki_encode (iw : InterwikiFacts) : readInterwiki (iw.encode format) = .ok iw.listed := by
  obtain ⟨label, url, isLocal, transcludes, isLocalLink⟩ := iw
  cases format <;> cases isLocal <;> cases transcludes <;> cases isLocalLink <;> rfl

theorem readNamespace_encode (aliases : List (Int × Plain)) (space : NamespaceFacts) :
    readNamespace aliases (space.encode format).1 (space.encode format).2 =
      .ok { space.listed with aliases := (aliases.filter fun entry => entry.1 = space.id).map (·.2) } := by
  obtain ⟨id, name, canonical, own, titleCase⟩ := space
  cases format <;> cases canonical <;> rfl

end

namespace SiteFacts

/-- What the descriptions of a site list. -/
def listing (facts : SiteFacts) (given : Option Text) : Description where
  name := ofText? (given.or facts.serverName)
  namespaces := facts.namespaces.map NamespaceFacts.listed
  words := facts.words.map MagicWord.listed
  functionHooks := ofTexts facts.functionHooks
  interwikis := facts.interwikis.map InterwikiFacts.listed

variable {facts : SiteFacts} {aliases : List (Int × Text)}

/-- A description is read piece by piece, under `query` as well as bare. -/
theorem read_eq (format : Format) (isWrapped : Bool) (given : Option Text) :
    Description.read (facts.encode format isWrapped aliases) (ofText? given) = (do
      let aliases ← (aliases.map (encodeAlias format)).mapM readAlias
      let namespaces ← (facts.namespaces.map (·.encode format)).mapM fun entry =>
        readNamespace aliases entry.1 entry.2
      let words ← (facts.words.map (encodeWord format)).mapM readWord
      let interwikis ← (facts.interwikis.map (·.encode format)).mapM readInterwiki
      return { name := ofText? (given.or facts.serverName), namespaces, words
               functionHooks := ofTexts facts.functionHooks, interwikis }) := by
  obtain ⟨serverName, namespaces, words, hooks, interwikis⟩ := facts
  cases isWrapped <;> cases given <;> cases serverName <;> rfl

theorem read_encode (h : facts.Lists aliases) (format : Format) (isWrapped : Bool) (given : Option Text) :
    Description.read (facts.encode format isWrapped aliases) (ofText? given) = .ok (facts.listing given) := by
  have haliases : (aliases.map (encodeAlias format)).mapM readAlias =
      .ok (aliases.map fun entry => (entry.1, .text entry.2)) :=
    Outcome.mapM_map_eq_ok fun entry _ => readAlias_encode format entry
  have hnamespaces : (facts.namespaces.map (·.encode format)).mapM (fun entry =>
      readNamespace (aliases.map fun entry => (entry.1, .text entry.2)) entry.1 entry.2) =
        .ok (facts.listing given).namespaces := by
    refine Outcome.mapM_map_eq_ok fun space hspace => ?_
    have hown : ((aliases.map fun entry => (entry.1, (.text entry.2 : Plain))).filter fun entry =>
        entry.1 = space.id).map (·.2) = space.aliases.map .text := by
      rw [← h space hspace]
      simp [List.filter_map, Function.comp_def]
    rw [readNamespace_encode, hown]
    rfl
  have hwords : (facts.words.map (encodeWord format)).mapM readWord = .ok (facts.listing given).words :=
    Outcome.mapM_map_eq_ok fun word _ => readWord_encode format word
  have hinterwikis : (facts.interwikis.map (·.encode format)).mapM readInterwiki =
      .ok (facts.listing given).interwikis :=
    Outcome.mapM_map_eq_ok fun iw _ => readInterwiki_encode format iw
  rw [read_eq, haliases]
  refine Outcome.bind_eq_ok.mpr ⟨_, rfl, Outcome.bind_eq_ok.mpr ⟨_, hnamespaces, ?_⟩⟩
  exact Outcome.bind_eq_ok.mpr ⟨_, hwords, Outcome.bind_eq_ok.mpr ⟨_, hinterwikis, rfl⟩⟩

end SiteFacts

/-! ## The site -/

/-- The members of a set of texts. -/
theorem Datum.exists_distinct_texts (texts : List Text) : ∃ kept : List Text,
    distinct (texts.map (text : Text → Plain)) = kept.map text ∧ kept.Nodup ∧ ∀ s, s ∈ kept ↔ s ∈ texts := by
  induction texts using List.reverseRecOn with
  | nil => exact ⟨[], rfl, List.nodup_nil, fun s => Iff.rfl⟩
  | append_singleton texts s ih =>
    obtain ⟨kept, hkept, hnodup, hmem⟩ := ih
    have hstep : distinct ((texts ++ [s]).map (text : Text → Plain)) =
        if (kept.map (text : Text → Plain)).any (·.same (text s)) then kept.map text
        else kept.map text ++ [text s] := by
      rw [← hkept]
      simp [distinct]
    have hsame : (kept.map (text : Text → Plain)).any (·.same (text s)) = true ↔ s ∈ kept := by
      simp [same]
    rw [hstep]
    by_cases hs : s ∈ kept
    · rw [if_pos (hsame.mpr hs)]
      refine ⟨kept, rfl, hnodup, fun u => ?_⟩
      rw [List.mem_append, List.mem_singleton, ← hmem]
      exact ⟨Or.inl, fun hu => hu.elim id fun heq => heq ▸ hs⟩
    · rw [if_neg (mt hsame.mp hs)]
      refine ⟨kept ++ [s], by simp, ?_, fun u => ?_⟩
      · refine List.nodup_append.mpr ⟨hnodup, List.nodup_singleton s, ?_⟩
        rintro u hu v hv rfl
        exact hs (List.mem_singleton.mp hv ▸ hu)
      · rw [List.mem_append, List.mem_append, hmem]

theorem NamespaceFacts.names_toNamespace (space : NamespaceFacts) : space.toNamespace.names = space.names := by
  cases hcanonical : space.canonical <;> simp [Namespace.names, toNamespace, names, hcanonical]

namespace SiteFacts

variable {facts : SiteFacts} (given : Option Text)

theorem named_listed (space : NamespaceFacts) : space.listed.named = .ok space.toNamespace := by
  have haliases : (space.aliases.map .text).mapM Description.nameOf = .ok (space.aliases.map some) :=
    Outcome.mapM_map_eq_ok fun _ _ => rfl
  obtain ⟨id, name, canonical, aliases, titleCase⟩ := space
  refine Outcome.bind_eq_ok.mpr ⟨some name, rfl, Outcome.bind_eq_ok.mpr ⟨canonical, ?_, ?_⟩⟩
  · cases canonical <;> rfl
  · exact Outcome.bind_eq_ok.mpr ⟨_, haliases, rfl⟩

theorem mapM_text? (texts : List Text) : (texts.map (.text : Text → Plain)).mapM Datum.text? = some texts := by
  induction texts with
  | nil => rfl
  | cons s texts ih => simp [Datum.text?, ih]

theorem written?_listed (word : MagicWord) : word.listed.written? = some word := by
  simp [ListedWord.written?, MagicWord.listed, ofTexts, Datum.items?, Datum.text?, mapM_text?, -List.mapM_map]

/-- The listing is that of the site that is known. -/
theorem exists_site (h : (facts.namespaces.map (·.id)).Nodup) :
    ∃ site, (facts.listing given).site = .ok site ∧ facts.Describes given site := by
  obtain ⟨kept, hkept, hnodup, hmem⟩ := Datum.exists_distinct_texts facts.functionHooks
  have hfunctions : (facts.listing given).functions = .ok (kept.map .text) := by
    have hhashable : (facts.functionHooks.map .text).mapM (Datum.expectHashable : Plain → Except Fault Plain) =
        .ok (facts.functionHooks.map .text) := Outcome.mapM_map_eq_ok fun _ _ => rfl
    exact Outcome.map_eq_ok.mpr ⟨_, hhashable, hkept⟩
  have hinterwikis : (facts.listing given).interwikis.mapM ListedInterwiki.labelled =
      .ok (facts.interwikis.map InterwikiFacts.toInterwiki) := Outcome.mapM_map_eq_ok fun _ _ => rfl
  -- Namespaces with different ids take no place from each other in the tables of the site.
  have hlive : (facts.listing given).liveNamespaces = facts.namespaces.map fun space => (space.id, space.listed) := by
    have hlisted : ((facts.namespaces.map NamespaceFacts.listed).map ListedNamespace.id).Nodup := by
      rw [List.map_map]
      exact h
    exact (Keyed.foldl_put_of_nodup _ _ hlisted).trans (List.map_map ..)
  have hspaces : (facts.listing given).liveNamespaces.mapM (fun entry => entry.2.named) =
      .ok (facts.namespaces.map NamespaceFacts.toNamespace) := by
    rw [hlive]
    exact Outcome.mapM_map_eq_ok fun space _ => named_listed space
  refine ⟨_, Outcome.bind_eq_ok.mpr ⟨_, hfunctions, Outcome.bind_eq_ok.mpr ⟨_, hinterwikis,
    Outcome.bind_eq_ok.mpr ⟨_, hspaces, rfl⟩⟩⟩, ?_⟩
  have hnamespaces : (facts.namespaces.map NamespaceFacts.toNamespace).foldl
      (fun m space => Keyed.put space.id space m) [] =
        facts.namespaces.map fun space => (space.id, space.toNamespace) := by
    have hmade : ((facts.namespaces.map NamespaceFacts.toNamespace).map Namespace.id).Nodup := by
      rw [List.map_map]
      exact h
    exact (Keyed.foldl_put_of_nodup _ _ hmade).trans (List.map_map ..)
  have hhooks : (kept.map (.text : Text → Plain)).filterMap Datum.text? = kept := by
    simp [List.filterMap_map, Function.comp_def, Datum.text?]
  constructor
  case name_eq => rfl
  case namespaces_eq => exact hnamespaces
  case get?_namespaceIds =>
    intro key
    rw [Site.get?_namespaceIds, Site.ofParts, hnamespaces, ← List.map_reverse, List.find?_map, Option.map_map]
    simp only [Function.comp_def, NamespaceFacts.names_toNamespace]
    rfl
  case magicWords_eq =>
    have hwords : (facts.words.map MagicWord.listed).filterMap ListedWord.written? = facts.words := by
      simp [List.filterMap_map, written?_listed]
    exact hwords
  case mem_functionHooks =>
    intro hook
    rw [← hmem hook]
    exact iff_of_eq (congrArg (hook ∈ ·) hhooks)
  case nodup_functionHooks => exact hhooks.symm ▸ hnodup
  case get?_interwikis =>
    intro key
    have hget := Keyed.get?_foldl_put (fun iw : Interwiki => Text.lower iw.label) id
      (facts.interwikis.map InterwikiFacts.toInterwiki) key
    refine hget.trans ?_
    rw [← List.map_reverse, List.find?_map, Option.map_map]
    rfl

/-- The aliases of one namespace after the other are those of the namespaces. -/
theorem lists_aliasesInOrder (h : (facts.namespaces.map (·.id)).Nodup) : facts.Lists facts.aliasesInOrder := by
  have hown : ∀ (space : NamespaceFacts) (id : Int),
      ((space.aliases.map fun name => (space.id, name)).filter fun entry => entry.1 = id).map (·.2) =
        if space.id = id then space.aliases else [] := by
    intro space id
    by_cases hid : space.id = id <;> simp [List.filter_map, Function.comp_def, hid]
  unfold Lists aliasesInOrder
  revert h
  induction facts.namespaces with
  | nil => simp
  | cons first rest ih =>
    intro h space hspace
    obtain ⟨hfirst, hrest⟩ := List.nodup_cons.mp h
    rw [List.flatMap_cons, List.filter_append, List.map_append, hown]
    obtain rfl | hmem := List.mem_cons.mp hspace
    · have hnone : ((rest.flatMap fun space => space.aliases.map fun name => (space.id, name)).filter
          fun entry => entry.1 = space.id) = [] := by
        rw [List.filter_eq_nil_iff]
        rintro ⟨id, name⟩ hentry
        obtain ⟨other, hother, hin⟩ := List.mem_flatMap.mp hentry
        obtain ⟨own, -, hsame⟩ := List.mem_map.mp hin
        obtain ⟨rfl, -⟩ := Prod.mk.inj hsame
        have hne : other.id ≠ space.id := fun hid => hfirst (List.mem_map.mpr ⟨other, hother, hid⟩)
        simpa using hne
      rw [if_pos rfl, hnone, List.map_nil, List.append_nil]
    · have hne : first.id ≠ space.id := fun hid => hfirst (List.mem_map.mpr ⟨space, hmem, hid.symm⟩)
      rw [if_neg hne, List.nil_append]
      exact ih hrest space hmem

end SiteFacts

/-- All descriptions of what is known of a site give the same site, and it is the one that is known: those in the older
format and those in the newer one, bare and under `query`, with the aliases of the namespaces in any order that keeps
those of each namespace in theirs. -/
theorem Site.ofDescription_encode {facts : SiteFacts} (h : (facts.namespaces.map (·.id)).Nodup) (given : Option Text) :
    ∃ site, facts.Describes given site ∧ facts.Lists facts.aliasesInOrder ∧
      ∀ format isWrapped aliases, facts.Lists aliases →
        Site.ofDescription (facts.encode format isWrapped aliases) (ofText? given) = .ok site := by
  obtain ⟨site, hsite, hdescribes⟩ := SiteFacts.exists_site given h
  refine ⟨site, hdescribes, SiteFacts.lists_aliasesInOrder h, fun format isWrapped aliases haliases => ?_⟩
  exact Outcome.bind_eq_ok.mpr ⟨_, SiteFacts.read_encode haliases format isWrapped given, hsite⟩

/-- A site with an alias that two namespaces share, and with flags that are set and flags that are not. -/
def sharedAliasFacts : SiteFacts where
  serverName := some "wiki.example.org".toList
  namespaces := [⟨0, [], none, [], firstLetterSetting⟩,
    ⟨6, "Datei".toList, some "File".toList, ["Bild".toList, "Image".toList], firstLetterSetting⟩,
    ⟨10, "Vorlage".toList, some "Template".toList, ["image".toList], "case-sensitive".toList⟩]
  words := [⟨"if".toList, ["wenn".toList], false⟩, ⟨"pagename".toList, [], true⟩]
  functionHooks := ["if".toList, "pagename".toList, "if".toList]
  interwikis := [⟨"Foo".toList, "http://foo.example/$1".toList, false, true, false⟩]

/-- The aliases of `sharedAliasFacts`, mixed. -/
def mixedAliases : List (Int × Text) := [(6, "Bild".toList), (10, "image".toList), (6, "Image".toList)]

/-- Both descriptions of `sharedAliasFacts` give the site whose template namespace has the shared alias. -/
theorem Site.ofDescription_sharedAliasFacts :
    (sharedAliasFacts.namespaces.map (·.id)).Nodup ∧
    ∃ site, Site.ofDescription (sharedAliasFacts.encode .older true mixedAliases) = .ok site ∧
      Site.ofDescription (sharedAliasFacts.encode .newer false sharedAliasFacts.aliasesInOrder) = .ok site ∧
      site.namespaceId? "IMAGE".toList = some 10 ∧ site.namespaceId? "bild".toList = some 6 ∧
      (∀ hook, hook ∈ site.functionHooks ↔ hook ∈ sharedAliasFacts.functionHooks) := by
  have hids : (sharedAliasFacts.namespaces.map (·.id)).Nodup := by decide
  obtain ⟨site, hdescribes, hlists, hsite⟩ := Site.ofDescription_encode hids none
  have hmixed : sharedAliasFacts.Lists mixedAliases := by
    unfold SiteFacts.Lists
    decide
  refine ⟨hids, site, hsite .older true _ hmixed, hsite .newer false _ hlists, ?_, ?_, hdescribes.mem_functionHooks⟩
  · rw [Site.namespaceId?, hdescribes.get?_namespaceIds]
    decide +kernel
  · rw [Site.namespaceId?, hdescribes.get?_namespaceIds]
    decide +kernel

end PageMarkup
