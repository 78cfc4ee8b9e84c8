import LorePia.Catalog.Winners

namespace LorePia.Catalog

open Lib List CatalogLayer SortedMap

/-!
# The merge meets its specification

`mergeCatalogLayers_describes`: what a merge returns is what `Describes` says of its layers, and
neither its success nor its result depends on the order they are listed in.
-/

variable {id : String} {catalog : MergedCatalog} {manifest : MergedCatalogManifest}
  {model : MergedCatalogModel}

variable {now : Int} {policy : CatalogFreshnessPolicy} {V : CatalogValidators}
  {layers layers' : List CatalogLayer}

/-! ### One live entry per key -/

/-- Entries with distinct keys have at most one with a property that fixes the key. -/
theorem length_filter_le_one {α κ : Type} {key : α → κ} {k : κ} {p : α → Prop} [DecidablePred p]
    {xs : List α} (hkeys : (xs.map key).Nodup) (hp : ∀ x, p x → key x = k) :
    (xs.filter fun x => decide (p x)).length ≤ 1 := by
  induction xs with
  | nil => simp
  | cons x xs ih =>
    rw [map_cons, nodup_cons] at hkeys
    by_cases hx : p x
    · have hrest : (xs.filter fun x => decide (p x)) = [] := by
        rw [filter_eq_nil_iff]
        intro y hy hpy
        have heq : key y = key x := (hp y (of_decide_eq_true hpy)).trans (hp x hx).symm
        exact hkeys.1 (heq ▸ mem_map_of_mem hy)
      rw [filter_cons_of_pos (by simpa using hx), hrest]
      exact le_refl 1
    · rw [filter_cons_of_neg (by simpa using hx)]
      exact ih hkeys.2

theorem liveManifests_sublist (layer : CatalogLayer) :
    (layer.liveManifests now).Sublist layer.manifests := by
  rw [liveManifests]
  split
  · exact filter_sublist
  · exact nil_sublist _

theorem liveModels_sublist (layer : CatalogLayer) :
    (layer.liveModels now).Sublist layer.models := by
  rw [liveModels]
  split
  · exact filter_sublist
  · exact nil_sublist _

/-- What validation establishes about the entries that count: the layers have distinct names, and
    the live entries of each layer distinct identifiers. -/
structure Distinct (now : Int) (layers : List CatalogLayer) : Prop where
  ids : (layers.map CatalogLayer.id).Nodup
  manifests : ∀ layer ∈ layers, ((layer.liveManifests now).map fun entry => entry.template.id).Nodup
  models : ∀ layer ∈ layers, ((layer.liveModels now).map CatalogModelEntry.id).Nodup

theorem distinct_of_validateLayers (h : validateLayers V layers = .ok u) :
    Distinct now layers := by
  obtain ⟨hids, hlayers⟩ := (validateLayers_ok V).mp h
  refine
    { ids := hids
      manifests := fun layer hlayer => ?_
      models := fun layer hlayer => ?_ }
  · exact (nodup_of_validateLayer V (hlayers layer hlayer)).1.sublist
      ((liveManifests_sublist layer).map _)
  · exact (nodup_of_validateLayer V (hlayers layer hlayer)).2.sublist
      ((liveModels_sublist layer).map _)

section Wins

variable (hdist : Distinct now layers)
include hdist

theorem lastManifest_eq_some_iff {contribution : CatalogLayer × CatalogManifestEntry} :
    lastWith (fun contribution => decide (contribution.2.template.id = id))
        (contributions layers (liveManifests now)) = some contribution ↔
      Wins layers (liveManifests now)
        (fun entry : CatalogManifestEntry => entry.template.id = id)
        contribution.1 contribution.2 := by
  refine lastWith_contributions_eq_some_iff
    (p := fun entry : CatalogManifestEntry => entry.template.id = id)
    hdist.ids ?_
  intro layer hlayer
  exact length_filter_le_one (hdist.manifests layer hlayer) fun entry hid => hid

/-- The last model of an identifier among those with a property. -/
theorem lastModel_eq_some_iff {p : CatalogModelEntry → Prop} [DecidablePred p]
    (hp : ∀ entry, p entry → entry.id = id) {contribution : CatalogLayer × CatalogModelEntry} :
    lastWith (fun contribution => decide (p contribution.2))
        (contributions layers (liveModels now)) = some contribution ↔
      Wins layers (liveModels now) p contribution.1 contribution.2 := by
  refine lastWith_contributions_eq_some_iff hdist.ids ?_
  intro layer hlayer
  exact length_filter_le_one (hdist.models layer hlayer) hp

end Wins

/-! ### The parts of a merged catalog -/

/-- The merged manifest of a contribution. -/
def mergedManifest (now : Int) (policy : CatalogFreshnessPolicy)
    (contribution : CatalogLayer × CatalogManifestEntry) : MergedCatalogManifest :=
  ⟨contribution.2, entryProvenance now policy contribution.1 contribution.2.verifiedAt
    contribution.2.expiresAt⟩

theorem flatMap_manifestsOf :
    (orderedLayers layers).flatMap (manifestsOf now policy) =
      (contributions layers (CatalogLayer.liveManifests now)).map (mergedManifest now policy) := by
  rw [contributions, map_flatMap]
  refine flatMap_congr fun layer _ => ?_
  rw [manifestsOf, map_map]
  rfl

/-- The models of one identifier, in the order of the layers. -/
def modelsWithId (now : Int) (layers : List CatalogLayer) (id : String) :
    List (CatalogLayer × CatalogModelEntry) :=
  (contributions layers (CatalogLayer.liveModels now)).filter fun contribution =>
    decide (contribution.2.id = id)

/-- What a merge returns, in terms of the entries that count. -/
theorem mergeCatalogLayers_ok (h : mergeCatalogLayers now policy V layers = .ok catalog) :
    Distinct now layers ∧
      catalog.manifests = (index (fun manifest => manifest.entry.template.id)
        ((contributions layers (liveManifests now)).map
          (mergedManifest now policy))).values ∧
      catalog.models = (foldModels now policy .empty
        (contributions layers (liveModels now))).values := by
  obtain ⟨_, hval, state, hmerge, h⟩ := steps₂ h
  cases pure_inj h
  obtain ⟨hmans, hmods⟩ := mergeLayers_ok hmerge
  rw [flatMap_manifestsOf] at hmans
  refine ⟨distinct_of_validateLayers hval, ?_, ?_⟩
  · exact congrArg values hmans
  · exact congrArg values hmods

/-! ### Manifests -/

section Manifests

variable {manifests : List MergedCatalogManifest}
  (hdist : Distinct now layers)
  (hmans : manifests = (index (fun manifest => manifest.entry.template.id)
    ((contributions layers (liveManifests now)).map
      (mergedManifest now policy))).values)
include hmans

theorem mem_manifests_iff :
    manifest ∈ manifests ↔ ∃ contribution, lastWith (fun contribution =>
          decide (contribution.2.template.id = manifest.entry.template.id))
        (contributions layers (liveManifests now)) = some contribution ∧
      mergedManifest now policy contribution = manifest := by
  rw [hmans, mem_values_index, lastWith_map, Option.map_eq_some_iff]
  rfl

theorem manifests_present :
    (∃ manifest ∈ manifests, manifest.entry.template.id = id) ↔
      ∃ layer entry, Contributes layers (liveManifests now)
        (fun entry => entry.template.id = id) layer entry := by
  rw [← exists_contributes]
  constructor
  · rintro ⟨manifest, hmem, rfl⟩
    obtain ⟨contribution, hlast, rfl⟩ := (mem_manifests_iff hmans).mp hmem
    obtain ⟨hcontr, hid⟩ := lastWith_mem hlast
    exact ⟨contribution, hcontr, of_decide_eq_true hid⟩
  · rintro ⟨contribution, hcontr, hid⟩
    obtain ⟨last, hlast⟩ := exists_lastWith
      (p := fun contribution : CatalogLayer × CatalogManifestEntry =>
        decide (contribution.2.template.id = id)) hcontr (decide_eq_true hid)
    have hlastId : last.2.template.id = id := of_decide_eq_true (lastWith_mem hlast).2
    refine ⟨mergedManifest now policy last, (mem_manifests_iff hmans).mpr ⟨last, ?_, rfl⟩, hlastId⟩
    show lastWith (fun contribution => decide (contribution.2.template.id = last.2.template.id)) _
      = some last
    rw [hlastId]
    exact hlast

include hdist in
theorem manifest_wins (hmem : manifest ∈ manifests) :
    ∃ layer, Wins layers (liveManifests now)
        (fun entry => entry.template.id = manifest.entry.template.id) layer manifest.entry ∧
      manifest.provenance =
        entryProvenance now policy layer manifest.entry.verifiedAt manifest.entry.expiresAt := by
  obtain ⟨contribution, hlast, rfl⟩ := (mem_manifests_iff hmans).mp hmem
  exact ⟨contribution.1, (lastManifest_eq_some_iff hdist).mp hlast, rfl⟩

end Manifests

/-! ### Models -/

section Models

variable {models : List MergedCatalogModel}
  (hmods : models = (foldModels now policy .empty
    (contributions layers (liveModels now))).values)

theorem get?_foldModels :
    (foldModels now policy .empty (contributions layers (liveModels now))).get? id =
      foldOf (overlayStep now policy) (modelsWithId now layers id) :=
  get?_foldKeyed

/-- The model under an identifier, with its metadata and items. -/
theorem foldModels_get?
    (h : (foldModels now policy .empty
      (contributions layers (liveModels now))).get? id = some model) :
    OverlaidModel now policy (modelsWithId now layers id) model ∧ model.entry.id = id := by
  rw [get?_foldModels] at h
  have hover := overlayModels_eq_some h
  refine ⟨hover, ?_⟩
  obtain ⟨contribution, hlast, hent, _⟩ := hover.last
  have hid : contribution.2.id = id := by
    have hmem := mem_filter.mp (mem_of_getLast? hlast)
    exact of_decide_eq_true hmem.2
  rw [hent]
  exact hid

include hmods in
theorem overlaid_of_mem (hmem : model ∈ models) :
    OverlaidModel now policy (modelsWithId now layers model.entry.id) model := by
  rw [hmods, mem_values] at hmem
  obtain ⟨id, hget⟩ := hmem
  obtain ⟨hover, hid⟩ := foldModels_get? hget
  rw [hid]
  exact hover

include hmods in
theorem models_present :
    (∃ model ∈ models, model.entry.id = id) ↔
      ∃ layer entry, Contributes layers (liveModels now)
        (fun entry => entry.id = id) layer entry := by
  rw [← exists_contributes]
  constructor
  · rintro ⟨model, hmem, rfl⟩
    obtain ⟨contribution, hlast, _⟩ := (overlaid_of_mem hmods hmem).last
    obtain ⟨hcontr, hid⟩ := mem_filter.mp (mem_of_getLast? hlast)
    exact ⟨contribution, hcontr, of_decide_eq_true hid⟩
  · rintro ⟨contribution, hcontr, hid⟩
    have hmem : contribution ∈ modelsWithId now layers id :=
      mem_filter.mpr ⟨hcontr, decide_eq_true hid⟩
    cases hfold : foldOf (overlayStep now policy) (modelsWithId now layers id) with
    | none =>
      rw [foldOf_eq_none_iff.mp hfold] at hmem
      cases hmem
    | some model =>
      have hget := get?_foldModels.trans hfold
      rw [hmods]
      exact ⟨model, mem_values.mpr ⟨id, hget⟩, (foldModels_get? hget).2⟩

/-- The items a merge keeps for an identifier are the ones the specification describes. -/
theorem describesItems (hdist : Distinct now layers) {κ ρ : Type} [LinearOrder κ]
    [DecidableEq ρ] {key : ρ → κ} {items : CatalogModelEntry → List ρ}
    {merged : List ρ} {recorded : SortedMap κ CatalogFieldProvenance}
    (h : RecordsItems key ((modelsWithId now layers id).map fun contribution =>
      (sourceOf now policy contribution, items contribution.2)) merged recorded) :
    DescribesItems now policy layers id key items merged recorded := by
  -- the last contribution of the identifier that lists a key wins it
  have hwins : ∀ k contribution,
      lastWith (fun contribution => (items contribution.2).any fun item => decide (key item = k))
          (modelsWithId now layers id) = some contribution →
        Wins layers (liveModels now)
          (fun entry => entry.id = id ∧ ∃ item ∈ items entry, key item = k)
          contribution.1 contribution.2 := by
    intro k contribution hlast
    rw [modelsWithId, lastWith_filter] at hlast
    have hsame : (fun contribution : CatalogLayer × CatalogModelEntry =>
        decide (contribution.2.id = id) &&
          (items contribution.2).any fun item => decide (key item = k)) =
        fun contribution : CatalogLayer × CatalogModelEntry =>
          decide (contribution.2.id = id ∧ ∃ item ∈ items contribution.2, key item = k) := by
      funext contribution
      rw [Bool.eq_iff_iff]
      simp
    rw [hsame] at hlast
    exact (lastModel_eq_some_iff hdist
      (p := fun entry => entry.id = id ∧ ∃ item ∈ items entry, key item = k)
      fun entry hent => hent.1).mp hlast
  have hpresent : ∀ k, (∃ item ∈ merged, key item = k) ↔
      ∃ contribution ∈ modelsWithId now layers id, ∃ item ∈ items contribution.2, key item = k := by
    intro k
    rw [h.merged, exists_mem_values_index]
    simp only [mem_flatMap, mem_map]
    constructor
    · rintro ⟨item, ⟨_, ⟨contribution, hmem, rfl⟩, hitem⟩, hk⟩
      exact ⟨contribution, hmem, item, hitem, hk⟩
    · rintro ⟨contribution, hmem, item, hitem, hk⟩
      exact ⟨item, ⟨_, ⟨contribution, hmem, rfl⟩, hitem⟩, hk⟩
  refine
    { sorted := ?_
      present := fun k => ?_
      value := fun item hitem => ?_
      recordedOnly := fun k hk => ?_ }
  · rw [h.merged]
    exact values_pairwise fun k v => key_of_get?_index
  · rw [hpresent, ← exists_contributes]
    simp only [modelsWithId, mem_filter, decide_eq_true_eq, and_assoc]
  · rw [h.merged, mem_values_index, lastWith_flatMap, lastWith_map] at hitem
    obtain ⟨_, hlisted, hitem⟩ := Option.bind_eq_some_iff.mp hitem
    obtain ⟨contribution, hlast, rfl⟩ := Option.map_eq_some_iff.mp hlisted
    refine ⟨contribution.1, contribution.2, hwins _ _ hlast, hitem, ?_⟩
    rw [h.recorded, lastWith_map, hlast]
    rfl
  · rw [h.recorded, lastWith_map, Option.isSome_map, Option.isSome_map] at hk
    obtain ⟨contribution, hlast⟩ := Option.isSome_iff_exists.mp hk
    obtain ⟨hmem, hany⟩ := lastWith_mem hlast
    exact (hpresent k).mpr ⟨contribution, hmem, by simpa using hany⟩

end Models

/-! ### The merge -/

/-- What a merge returns is what its layers describe. -/
theorem describes_of_merge (h : mergeCatalogLayers now policy V layers = .ok catalog) :
    Describes now policy layers catalog := by
  obtain ⟨hdist, hmans, hmods⟩ := mergeCatalogLayers_ok h
  refine
    { manifestsSorted := ?_
      manifestPresent := fun id => manifests_present hmans
      manifestValue := fun manifest => manifest_wins hdist hmans
      modelsSorted := ?_
      modelPresent := fun id => models_present hmods
      metadataValue := fun model hmod => ?_
      capabilities := fun model hmod => ?_
      parameters := fun model hmod => ?_ }
  · rw [hmans]
    exact values_pairwise fun k v => key_of_get?_index
  · rw [hmods]
    have hkey : ∀ id (model : MergedCatalogModel), (foldModels now policy .empty
        (contributions layers (liveModels now))).get? id = some model →
          model.entry.id = id := fun id model hget => (foldModels_get? hget).2
    exact values_pairwise hkey
  · obtain ⟨contribution, hlast, hent, hprovenance⟩ := (overlaid_of_mem hmods hmod).last
    rw [← lastWith_true, modelsWithId, lastWith_filter] at hlast
    simp only [Bool.and_true] at hlast
    exact ⟨contribution.1, contribution.2,
      (lastModel_eq_some_iff hdist fun entry hid => hid).mp hlast, hent, hprovenance⟩
  · exact describesItems hdist (overlaid_of_mem hmods hmod).capabilities
  · exact describesItems hdist (overlaid_of_mem hmods hmod).parameters

theorem validateLayers_congr (h : layers.Perm layers') :
    validateLayers V layers = .ok () ↔ validateLayers V layers' = .ok () := by
  rw [validateLayers_ok, validateLayers_ok, (h.map CatalogLayer.id).nodup_iff]
  exact and_congr_right fun _ => forall_congr' fun layer => imp_congr_left h.mem_iff

/-- A permutation of the layers merges into the same catalog. -/
theorem merge_ok_of_perm (h : layers.Perm layers')
    (hmerge : mergeCatalogLayers now policy V layers = .ok catalog) :
    mergeCatalogLayers now policy V layers' = .ok catalog := by
  obtain ⟨u, hval, hmerge⟩ := bind_ok.mp hmerge
  have hord : orderedLayers layers = orderedLayers layers' :=
    orderedLayers_congr ((validateLayers_ok V).mp hval).1 h
  rw [hord] at hmerge
  exact then_ok ((validateLayers_congr h).mp hval) hmerge

/-- **Merge semantics.** For every list of layers, time and freshness policy: whether a merge
    succeeds, and what it returns, are the same for every order of the list; and what it returns
    holds, of every manifest, every model, and every capability and parameter of a model, what the
    greatest effective and unexpired layer with an unexpired entry for it says, names that layer as
    its source, and holds nothing else. -/
theorem mergeCatalogLayers_describes (now : Int) (policy : CatalogFreshnessPolicy)
    (V : CatalogValidators) (layers : List CatalogLayer) :
    (∀ layers', layers.Perm layers' → ∀ catalog,
      mergeCatalogLayers now policy V layers = .ok catalog ↔
        mergeCatalogLayers now policy V layers' = .ok catalog) ∧
    ∀ catalog, mergeCatalogLayers now policy V layers = .ok catalog →
      Describes now policy layers catalog := by
  constructor
  · intro layers' hperm catalog
    exact ⟨merge_ok_of_perm hperm, merge_ok_of_perm hperm.symm⟩
  · intro catalog hmerge
    exact describes_of_merge hmerge

/-! ### A bundled layer under a signed one -/

/-- A crate that knows one address, and validators that accept every manifest. -/
def sampleValidators : CatalogValidators where
  url :=
    { parse := fun value =>
        if value = "https://example.com/models" then
          .ok ⟨"https", some "example.com", "", none, "/models", none, none, "https://example.com"⟩
        else .error "unknown" }
  connectionFields := fun _ => true
  manifest := fun _ => true
  modelParameters := fun _ _ => true

def sampleSource : CatalogSource where
  url := ⟨"https://example.com/models"⟩
  contentSha256 := "0123456789abcdef0123456789abcdef0123456789abcdef0123456789abcdef"
  verifiedAt := 1

/-- An entry for one model with a capability of its own. -/
def sampleModel (capability : CatalogCapability) (expiresAt : Option Int) : CatalogModelEntry where
  id := "model"
  providerTemplateId := "template"
  modelMatch := .anyModel
  apiFamily := .ollamaNative
  metadataVersion := 1
  capabilities := [capability]
  parameters := []
  lifecycle := .active
  sources := [sampleSource]
  verifiedAt := 1
  expiresAt := expiresAt

def sampleBundled : CatalogLayer where
  id := "bundled"
  authority := .bundled
  revision := 1
  effectiveAt := 1
  expiresAt := none
  manifests := []
  models := [sampleModel ⟨.streaming, .boolean true⟩ none]

def sampleSigned : CatalogLayer where
  id := "signed"
  authority := .signedCatalog
  revision := 1
  effectiveAt := 2
  expiresAt := some 9
  manifests := []
  models := [sampleModel ⟨.toolCalling, .boolean true⟩ (some 9)]

theorem orderedLayers_sample :
    orderedLayers [sampleBundled, sampleSigned] = [sampleBundled, sampleSigned] := by
  refine mergeSort_of_pairwise ?_
  decide

theorem validateLayers_sample :
    validateLayers sampleValidators [sampleBundled, sampleSigned] = .ok () := by
  decide

/-- The catalog of the sample layers. -/
def sampleCatalog : MergedCatalog where
  manifests := []
  models := [
    { entry :=
        { sampleModel ⟨.toolCalling, .boolean true⟩ (some 9) with
          capabilities := [⟨.streaming, .boolean true⟩, ⟨.toolCalling, .boolean true⟩] }
      metadataProvenance := entryProvenance 5 .default sampleSigned 1 (some 9)
      capabilityProvenance :=
        (SortedMap.empty.insert .streaming (entryProvenance 5 .default sampleBundled 1 none)).insert
          .toolCalling (entryProvenance 5 .default sampleSigned 1 (some 9))
      parameterProvenance := .empty }]
  report := ⟨[], [], []⟩

theorem mergeCatalogLayers_sample :
    mergeCatalogLayers 5 .default sampleValidators [sampleBundled, sampleSigned] =
      .ok sampleCatalog := by
  rw [mergeCatalogLayers, validateLayers_sample, orderedLayers_sample]
  rfl

/-- Listed in either order, the layers merge into the sample catalog, as the specification says. -/
theorem mergeCatalogLayers_describes_sample :
    mergeCatalogLayers 5 .default sampleValidators [sampleSigned, sampleBundled] =
        .ok sampleCatalog ∧
      Describes 5 .default [sampleSigned, sampleBundled] sampleCatalog := by
  have h := mergeCatalogLayers_describes 5 .default sampleValidators [sampleSigned, sampleBundled]
  have hmerge := (h.1 [sampleBundled, sampleSigned] (List.Perm.swap _ _ _) sampleCatalog).mpr
    mergeCatalogLayers_sample
  exact ⟨hmerge, h.2 sampleCatalog hmerge⟩

end LorePia.Catalog
