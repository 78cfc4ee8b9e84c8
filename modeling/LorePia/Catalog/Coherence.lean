import LorePia.Catalog.Merged
import LorePia.Catalog.Payload
import Mathlib.Data.List.Dedup
import Mathlib.Data.List.Flatten
import Mathlib.Data.List.Perm.Subperm

namespace LorePia.Catalog

open Lib List CatalogCapability CatalogLayer CatalogRevisionSnapshot SortedMap

/-!
# When a merge passes as a snapshot

A merge checks an entry against the one it overrides, and a snapshot is checked across its
entries.  Of layers that are valid by themselves, `Coherent` says what is left to demand of the
entries that count at a moment; no entry of it speaks of the merge.

* `merge_isOk_iff` — a merge succeeds iff the entries that count agree with one another;
* `fromMerged_isOk_iff` — its snapshot is valid iff the entries that count complete one another;
* `snapshot_isOk_iff_coherent` — both together.
-/

variable {moment : Int} {ε : Type} {a b : CatalogLayer × CatalogManifestEntry}
  {contribution : CatalogLayer × CatalogModelEntry} {entry : ε} {expiresAt : ε → Option Int}
  {live : CatalogLayer → List ε} {model : MergedCatalogModel} {p : ε → Prop} {revision : Nat}

/-! ### Agreement and completeness -/

/-- A manifest may follow another: it keeps the family, and under one authority its version does
    not go back. -/
def ManifestsAgree (a b : CatalogLayer × CatalogManifestEntry) : Prop :=
  a.2.template.apiFamily = b.2.template.apiFamily ∧ (a.1.authority = b.1.authority →
      a.2.template.manifestVersion ≤ b.2.template.manifestVersion)

/-- A model may follow another. -/
def ModelsAgree (a b : CatalogLayer × CatalogModelEntry) : Prop :=
  a.2.providerTemplateId = b.2.providerTemplateId ∧ a.2.modelMatch = b.2.modelMatch ∧
    a.2.apiFamily = b.2.apiFamily ∧
    (a.1.authority = b.1.authority → a.2.metadataVersion ≤ b.2.metadataVersion)

variable (V : CatalogValidators) (now capturedAt : Int) (layers : List CatalogLayer)

/-- The entries that count agree: a later one of an identifier may follow every earlier one. -/
structure Agree : Prop where
  manifests : (contributions layers (CatalogLayer.liveManifests now)).Pairwise fun a b =>
    a.2.template.id = b.2.template.id → ManifestsAgree a b
  models : (contributions layers (CatalogLayer.liveModels now)).Pairwise fun a b =>
    a.2.id = b.2.id → ModelsAgree a b

/-- The parameters that count for a model: of each identifier the last. -/
def parametersOf (id : String) : List ParameterSpec :=
  (SortedMap.index ParameterSpec.id
    ((modelsWithId now layers id).flatMap fun contribution => contribution.2.parameters)).values

/-- Every model that counts has a manifest that counts. -/
def TemplatesPresent : Prop :=
  ∀ model ∈ contributions layers (CatalogLayer.liveModels now),
    ∃ manifest ∈ contributions layers (CatalogLayer.liveManifests now),
      manifest.2.template.id = model.2.providerTemplateId

/-- The parameters that count for a model are valid together. -/
def ParametersValid : Prop :=
  ∀ model ∈ contributions layers (CatalogLayer.liveModels now),
    V.modelParameters model.2.apiFamily (parametersOf now layers model.2.id) = true

/-- The identifiers that count are within the limits of a snapshot. -/
structure WithinLimits : Prop where
  manifests : ((contributions layers (CatalogLayer.liveManifests now)).map fun contribution =>
    contribution.2.template.id).dedup.length ≤ maxCatalogManifests
  models : ((contributions layers (CatalogLayer.liveModels now)).map fun contribution =>
    contribution.2.id).dedup.length ≤ maxCatalogModels

/-- No entry that counts was verified after the capture. -/
structure VerifiedBy : Prop where
  manifests : ∀ layer entry, Wins layers (CatalogLayer.liveManifests now)
    (fun other => other.template.id = entry.template.id) layer entry →
      entry.verifiedAt ≤ capturedAt + clockSkew
  models : ∀ layer entry, Wins layers (CatalogLayer.liveModels now)
    (fun other => other.id = entry.id) layer entry → entry.verifiedAt ≤ capturedAt + clockSkew

/-- What is demanded of the entries that count at a moment. -/
structure Coherent : Prop where
  agree : Agree now layers
  templates : TemplatesPresent now layers
  parameters : ParametersValid V now layers
  limits : WithinLimits now layers
  verified : VerifiedBy now capturedAt layers

/-! ### When a merge succeeds -/

variable {V now capturedAt layers} {policy : CatalogFreshnessPolicy} {layer : CatalogLayer}

def ManifestsFit (now : Int) (policy : CatalogFreshnessPolicy)
    (merged : SortedMap String MergedCatalogManifest)
    (contributions : List (CatalogLayer × CatalogManifestEntry)) : Prop :=
  SortedMap.Fits (fun contribution => contribution.2.template.id)
    (fun _ contribution => mergedManifest now policy contribution)
    (fun previous contribution => mayFollowManifest contribution.1 previous contribution.2)
    merged contributions

def ModelsFit (now : Int) (policy : CatalogFreshnessPolicy)
    (merged : SortedMap String MergedCatalogModel)
    (contributions : List (CatalogLayer × CatalogModelEntry)) : Prop :=
  SortedMap.Fits (fun contribution => contribution.2.id) (overlayStep now policy)
    (fun previous contribution => mayFollowModel contribution.1 previous contribution.2)
    merged contributions

theorem mergeManifestEntries_isOk_iff (hlive : isExpired layer.expiresAt now = false)
    {entries : List CatalogManifestEntry} :
    (∃ state', entries.foldlM (mergeManifestEntry now policy layer) state = .ok state') ↔
      ManifestsFit now policy state.manifests
        ((entries.filter fun entry => !isExpired entry.expiresAt now).map fun entry =>
          (layer, entry)) := by
  induction entries generalizing state with
  | nil => exact ⟨fun _ => trivial, fun _ => ⟨state, rfl⟩⟩
  | cons entry entries ih =>
    simp only [foldlM_cons]
    rw [mergeManifestEntry]
    by_cases hexpir : isExpired entry.expiresAt now = true
    · rw [if_pos ((entryProvenance_expired hlive).mpr hexpir),
        filter_cons_of_neg (by simp [hexpir])]
      exact ih
    · rw [if_neg fun h => hexpir ((entryProvenance_expired hlive).mp h),
        filter_cons_of_pos (by simp [hexpir]), map_cons, ManifestsFit,
        SortedMap.Fits]
      simp only [bind_assoc, guard_ok, pure_bind, exists_and_left]
      exact and_congr_right fun _ => ih

theorem mergeModelEntries_isOk_iff (hlive : isExpired layer.expiresAt now = false)
    {entries : List CatalogModelEntry} :
    (∃ state', entries.foldlM (mergeModelEntry now policy layer) state = .ok state') ↔
      ModelsFit now policy state.models
        ((entries.filter fun entry => !isExpired entry.expiresAt now).map fun entry =>
          (layer, entry)) := by
  induction entries generalizing state with
  | nil => exact ⟨fun _ => trivial, fun _ => ⟨state, rfl⟩⟩
  | cons entry entries ih =>
    simp only [foldlM_cons]
    rw [mergeModelEntry]
    by_cases hexpir : isExpired entry.expiresAt now = true
    · rw [if_pos ((entryProvenance_expired hlive).mpr hexpir),
        filter_cons_of_neg (by simp [hexpir])]
      exact ih
    · rw [if_neg fun h => hexpir ((entryProvenance_expired hlive).mp h),
        filter_cons_of_pos (by simp [hexpir]), map_cons, ModelsFit,
        SortedMap.Fits]
      simp only [bind_assoc, guard_ok, pure_bind, exists_and_left]
      exact and_congr_right fun _ => ih

/-- The live manifests of a layer, with the layer. -/
def manifestPairs (now : Int) (layer : CatalogLayer) : List (CatalogLayer × CatalogManifestEntry) :=
  (layer.liveManifests now).map fun entry => (layer, entry)

theorem mergeLayer_isOk_iff :
    (∃ state', mergeLayer now policy state layer = .ok state') ↔
      ManifestsFit now policy state.manifests (manifestPairs now layer) ∧
        ModelsFit now policy state.models (modelsOf now layer) := by
  rw [manifestPairs, modelsOf, liveManifests, liveModels]
  by_cases hlive : layer.isLive now = true
  · have hparts := hlive
    rw [isLive, Bool.and_eq_true, decide_eq_true_eq, Bool.not_eq_true'] at hparts
    rw [if_pos hlive, if_pos hlive, mergeLayer, if_neg (Int.not_lt.mpr hparts.1),
      if_neg (by simp [hparts.2]), ← mergeManifestEntries_isOk_iff hparts.2]
    simp only [bind_ok]
    constructor
    · rintro ⟨state', middle, hmans, hmods⟩
      refine ⟨⟨middle, hmans⟩, ?_⟩
      rw [← (mergeManifestEntries_ok hparts.2 hmans).2]
      exact (mergeModelEntries_isOk_iff hparts.2).mp ⟨state', hmods⟩
    · rintro ⟨⟨middle, hmans⟩, hmods⟩
      rw [← (mergeManifestEntries_ok hparts.2 hmans).2] at hmods
      obtain ⟨state', hmods⟩ := (mergeModelEntries_isOk_iff hparts.2).mpr hmods
      exact ⟨state', middle, hmans, hmods⟩
  · rw [if_neg hlive, if_neg hlive, mergeLayer]
    refine ⟨fun _ => ⟨trivial, trivial⟩, fun _ => ?_⟩
    by_cases hearly : now < layer.effectiveAt
    · exact ⟨state, if_pos hearly⟩
    · have hexpir : isExpired layer.expiresAt now = true := by
        by_contra hexpir
        exact hlive (by simp [isLive, Int.not_lt.mp hearly, hexpir])
      rw [if_neg hearly, if_pos hexpir]
      exact ⟨_, rfl⟩

theorem manifestsOf_eq : manifestsOf now policy layer =
    (manifestPairs now layer).map (mergedManifest now policy) := by
  rw [manifestsOf, manifestPairs, map_map]
  rfl

theorem manifestsFit_append {first second : List (CatalogLayer × CatalogManifestEntry)} :
    ManifestsFit now policy merged (first ++ second) ↔ ManifestsFit now policy merged first ∧
      ManifestsFit now policy (insertManifests merged (first.map (mergedManifest now policy)))
        second := by
  rw [ManifestsFit, fits_append, insertManifests, foldl_map]
  rfl

/-- A merge succeeds iff every entry that counts may follow what is merged before it. -/
theorem mergeLayers_isOk_iff :
    (∃ state', layers.foldlM (mergeLayer now policy) state = .ok state') ↔
      ManifestsFit now policy state.manifests (layers.flatMap (manifestPairs now)) ∧
        ModelsFit now policy state.models (layers.flatMap (modelsOf now)) := by
  induction layers generalizing state with
  | nil => exact ⟨fun _ => ⟨trivial, trivial⟩, fun _ => ⟨state, rfl⟩⟩
  | cons layer layers ih =>
    have hsplit : (∃ state', (layer :: layers).foldlM (mergeLayer now policy) state = .ok state') ↔
        ∃ middle, mergeLayer now policy state layer = .ok middle ∧
          ∃ state', layers.foldlM (mergeLayer now policy) middle = .ok state' := by
      simp only [foldlM_cons, bind_ok]
      exact ⟨fun ⟨state', middle, hlayer, hrest⟩ => ⟨middle, hlayer, state', hrest⟩,
        fun ⟨middle, hlayer, state', hrest⟩ => ⟨state', middle, hlayer, hrest⟩⟩
    rw [hsplit, flatMap_cons, flatMap_cons, manifestsFit_append, ModelsFit,
      fits_append, ← manifestsOf_eq]
    constructor
    · rintro ⟨middle, hlayer, hrest⟩
      obtain ⟨hfit, hfit'⟩ := mergeLayer_isOk_iff.mp ⟨middle, hlayer⟩
      obtain ⟨hmans, hmods⟩ := mergeLayer_ok hlayer
      obtain ⟨hrest, hrest'⟩ := ih.mp hrest
      rw [hmans] at hrest
      rw [hmods] at hrest'
      exact ⟨⟨hfit, hrest⟩, hfit', hrest'⟩
    · rintro ⟨⟨hfit, hrest⟩, hfit', hrest'⟩
      obtain ⟨middle, hlayer⟩ := mergeLayer_isOk_iff.mpr ⟨hfit, hfit'⟩
      obtain ⟨hmans, hmods⟩ := mergeLayer_ok hlayer
      refine ⟨middle, hlayer, ih.mpr ⟨?_, ?_⟩⟩
      · rw [hmans]
        exact hrest
      · rw [hmods]
        exact hrest'

/-! ### Agreement -/

theorem precedence_injective : Function.Injective CatalogAuthority.precedence := by
  intro a b h
  cases a <;> cases b <;> first | rfl | cases h

/-- The contributions are in the order of the authorities of their layers. -/
theorem contributions_pairwise_precedence :
    (contributions layers live).Pairwise fun a b =>
      a.1.authority.precedence ≤ b.1.authority.precedence := by
  have hrank : (contributions layers live).Pairwise fun a b => a.1.rank ≤ b.1.rank := by
    rw [contributions, pairwise_flatMap]
    constructor
    · intro layer _
      rw [pairwise_map]
      exact pairwise_of_forall fun _ _ => le_refl _
    · refine (orderedLayers_pairwise_le layers).imp ?_
      intro a b hle x hx y hy
      obtain ⟨_, _, rfl⟩ := mem_map.mp hx
      obtain ⟨_, _, rfl⟩ := mem_map.mp hy
      exact hle
  refine hrank.imp ?_
  intro a b hle
  rcases Prod.Lex.le_iff.mp hle with hlt | ⟨heq, _⟩
  · exact hlt.le
  · exact heq.le

/-- Between two of one authority there is only that authority. -/
theorem authority_between {a b c : CatalogAuthority} (hab : a.precedence ≤ b.precedence)
    (hbc : b.precedence ≤ c.precedence) (hac : a = c) : a = b ∧ b = c := by
  subst hac
  have hb : b = a := precedence_injective (le_antisymm hbc hab)
  exact ⟨hb.symm, hb⟩

theorem ManifestsAgree.trans (hab : a.1.authority.precedence ≤ b.1.authority.precedence)
    (hbc : b.1.authority.precedence ≤ c.1.authority.precedence) (h : ManifestsAgree a b)
    (h' : ManifestsAgree b c) : ManifestsAgree a c := by
  refine ⟨h.1.trans h'.1, fun hac => ?_⟩
  obtain ⟨hfirst, hsnd⟩ := authority_between hab hbc hac
  exact (h.2 hfirst).trans (h'.2 hsnd)

theorem ModelsAgree.trans {a b c : CatalogLayer × CatalogModelEntry}
    (hab : a.1.authority.precedence ≤ b.1.authority.precedence)
    (hbc : b.1.authority.precedence ≤ c.1.authority.precedence)
    (h : ModelsAgree a b) (h' : ModelsAgree b c) : ModelsAgree a c := by
  refine ⟨h.1.trans h'.1, h.2.1.trans h'.2.1, h.2.2.1.trans h'.2.2.1, fun hac => ?_⟩
  obtain ⟨hfirst, hsnd⟩ := authority_between hab hbc hac
  exact (h.2.2.2 hfirst).trans (h'.2.2.2 hsnd)

theorem mayFollowManifest_iff (h : previous = mergedManifest now policy a) :
    mayFollowManifest b.1 previous b.2 = true ↔ ManifestsAgree a b := by
  subst h
  show (a.2.template.apiFamily == b.2.template.apiFamily && (a.1.authority != b.1.authority ||
    decide (a.2.template.manifestVersion ≤ b.2.template.manifestVersion))) = true ↔ _
  simp [ManifestsAgree, imp_iff_not_or]

theorem mayFollowModel_iff {a b : CatalogLayer × CatalogModelEntry} :
    mayFollowModel b.1 (overlayStep now policy previous a) b.2 = true ↔ ModelsAgree a b := by
  show (a.2.providerTemplateId == b.2.providerTemplateId && a.2.modelMatch == b.2.modelMatch &&
    a.2.apiFamily == b.2.apiFamily && (a.1.authority != b.1.authority ||
      decide (a.2.metadataVersion ≤ b.2.metadataVersion))) = true ↔ _
  simp [ModelsAgree, imp_iff_not_or, and_assoc]

/-- A merge succeeds iff its layers are valid and the entries that count agree. -/
theorem merge_isOk_iff :
    (∃ catalog, mergeCatalogLayers now policy V layers = .ok catalog) ↔
      validateLayers V layers = .ok () ∧ Agree now layers := by
  have hagree : ManifestsFit now policy .empty (contributions layers (liveManifests now)) ∧
      ModelsFit now policy .empty (contributions layers (liveModels now)) ↔
      Agree now layers := by
    rw [ManifestsFit, ModelsFit, fits_empty_iff (fun _ a b _ => mayFollowManifest_iff rfl)
        contributions_pairwise_precedence (fun a b c => ManifestsAgree.trans),
      fits_empty_iff (fun _ a b _ => mayFollowModel_iff)
        contributions_pairwise_precedence (fun a b c => ModelsAgree.trans)]
    exact ⟨fun h => ⟨h.1, h.2⟩, fun h => ⟨h.manifests, h.models⟩⟩
  rw [← hagree]
  simp only [mergeCatalogLayers, unit_bind_ok, exists_and_left]
  refine and_congr_right fun _ => Iff.trans ⟨?_, ?_⟩ (@mergeLayers_isOk_iff _ _ _ .start)
  · rintro ⟨catalog, h⟩
    obtain ⟨state', hmerge, _⟩ := bind_ok.mp h
    exact ⟨state', hmerge⟩
  · rintro ⟨state', hmerge⟩
    exact ⟨state'.catalog, then_ok hmerge rfl⟩

/-! ### What validation establishes of an entry -/

theorem validateCapabilities_ok :
    validateCapabilities capabilities = .ok u ↔ (capabilities.map key).Nodup ∧
        ∀ capability ∈ capabilities, capability.isValid = true := by
  have hfrom : ∀ seen, validateCapabilitiesFrom seen capabilities = .ok u ↔
      (capabilities.map key).Nodup ∧
        (∀ capability ∈ capabilities, capability.key ∉ seen) ∧
          ∀ capability ∈ capabilities, capability.isValid = true := by
    induction capabilities with
    | nil => simp [validateCapabilitiesFrom]
    | cons capability capabilities ih =>
      intro seen
      rw [validateCapabilitiesFrom, guard_ok, guard_ok, ih]
      simp only [map_cons, nodup_cons, mem_cons, not_or, mem_map, not_exists,
        not_and, forall_eq_or_imp]
      constructor
      · rintro ⟨hnew, hval, hnodup, hseen, hrest⟩
        exact ⟨⟨fun other hoth => (hseen other hoth).1, hnodup⟩,
          ⟨hnew, fun other hoth => (hseen other hoth).2⟩, hval, hrest⟩
      · rintro ⟨⟨hdiff, hnodup⟩, ⟨hnew, hseen⟩, hval, hrest⟩
        exact ⟨hnew, hval, hnodup, fun other hoth => ⟨hdiff other hoth, hseen other hoth⟩, hrest⟩
  rw [validateCapabilities, hfrom]
  simp

section Validation

variable (hval : validateLayers V layers = .ok ())
include hval

theorem validateLayerManifest_of_mem {contribution : CatalogLayer × CatalogManifestEntry}
    (hmem : contribution ∈ contributions layers (liveManifests now)) :
    validateLayerManifest V contribution.2 contribution.1 = .ok () := by
  obtain ⟨hlayer, hent⟩ := mem_contributions.mp hmem
  obtain ⟨_, hparts⟩ := guard_ok.mp (((validateLayers_ok V).mp hval).2 _ hlayer)
  obtain ⟨_, hmans, _⟩ := bind_ok.mp hparts
  exact (forEachUnique_ok.mp hmans).2.2 _ ((liveManifests_sublist _).subset hent)

theorem validateLayerModel_of_mem
    (hmem : contribution ∈ contributions layers (liveModels now)) :
    validateLayerModel V contribution.2 contribution.1 = .ok () := by
  obtain ⟨hlayer, hent⟩ := mem_contributions.mp hmem
  obtain ⟨_, hparts⟩ := guard_ok.mp (((validateLayers_ok V).mp hval).2 _ hlayer)
  obtain ⟨_, _, hmods⟩ := bind_ok.mp hparts
  exact (forEachUnique_ok.mp hmods).2.2 _ ((liveModels_sublist _).subset hent)

omit hval in
/-- Of a manifest of a layer, a snapshot demands nothing new but that it was verified by then. -/
theorem validateSnapshotManifest_iff {entry : CatalogManifestEntry}
    (h : validateLayerManifest V entry layer = .ok ()) :
    validateSnapshotManifest V capturedAt entry = .ok () ↔
      entry.verifiedAt ≤ capturedAt + clockSkew := by
  obtain ⟨⟨hsound, _, _, hexpiry, _⟩, hfields, h⟩ := guards₂ h
  obtain ⟨hman, hsources⟩ := guard_ok.mp h
  rw [validateSnapshotManifest, guard_ok, guard_ok, guard_ok, mapError_ok]
  exact ⟨fun h => h.1.2.1, fun h => ⟨⟨hsound, h, hexpiry⟩, hfields, hman, hsources⟩⟩

omit hval in
/-- Of a merged model, a snapshot demands what its own entry in a layer does not establish. -/
theorem validateSnapshotModel_iff {entry merged : CatalogModelEntry} (h : validateLayerModel V entry layer = .ok ())
    (hmerged : merged = { entry with
      capabilities := merged.capabilities
      parameters := merged.parameters })
    (hcaps : validateCapabilities merged.capabilities = .ok ()) :
    validateSnapshotModel V capturedAt manifestIds merged = .ok () ↔
      merged.providerTemplateId ∈ manifestIds ∧ merged.verifiedAt ≤ capturedAt + clockSkew ∧
        V.modelParameters merged.apiFamily merged.parameters = true := by
  obtain ⟨capabilities, parameters, rfl⟩ : ∃ capabilities parameters, merged =
      { entry with capabilities := capabilities, parameters := parameters } := ⟨_, _, hmerged⟩
  obtain ⟨⟨hidentifier, _, hpositive, _, hexpiry, _⟩, h⟩ := guard_ok.mp h
  obtain ⟨hmodMatch, h⟩ := unit_bind_ok.mp h
  obtain ⟨_, _, hsources⟩ := rest₂ h
  rw [validateSnapshotModel, guard_ok, unit_bind_ok, unit_bind_ok, unit_bind_ok,
    mapError_ok, mapError_ok, mapError_ok, mapError_ok, validateModelParameters,
    require_ok]
  constructor
  · rintro ⟨⟨_, htmpl, _, hver, _⟩, _, _, hparams, _⟩
    exact ⟨htmpl, hver, hparams⟩
  · rintro ⟨htmpl, hver, hparams⟩
    exact ⟨⟨hidentifier, htmpl, hpositive, hver, hexpiry⟩, hmodMatch, hcaps, hparams, hsources⟩

end Validation

/-! ### The snapshot of a merge -/

theorem Wins.unique {first second : CatalogLayer} (h : Wins layers live p first entry)
    (h' : Wins layers live p second entry') : second = first ∧ entry' = entry := by
  rcases h.2 second entry' h'.1 with heq | hlt
  · exact heq
  · rcases h'.2 first entry h.1 with heq | hgt
    · exact ⟨heq.1.symm, heq.2.symm⟩
    · exact absurd (hlt.trans hgt) (lt_irrefl _)

theorem Wins.mem (h : Wins layers live p layer entry) : (layer, entry) ∈ contributions layers live :=
  mem_contributions.mpr ⟨h.1.1, h.1.2.1⟩

/-- Values under distinct keys are as many as their keys. -/
theorem length_eq_dedup {α κ : Type} [LinearOrder κ] {key : α → κ} {values : List α} {keys : List κ}
    (hsrt : values.Pairwise fun a b => key a < key b)
    (hkeys : ∀ k, (∃ value ∈ values, key value = k) ↔ k ∈ keys) :
    values.length = keys.dedup.length := by
  have hnodup : (values.map key).Nodup := pairwise_map.mpr (hsrt.imp fun hlt => ne_of_lt hlt)
  have hperm : (values.map key).Perm keys.dedup := by
    refine (perm_ext_iff_of_nodup hnodup keys.nodup_dedup).mpr fun k => ?_
    rw [mem_dedup, ← hkeys, mem_map]
  rw [← hperm.length_eq, length_map]

section Snapshot

variable {catalog : MergedCatalog} (h : mergeCatalogLayers now policy V layers = .ok catalog)
include h

theorem manifests_length_eq :
    catalog.manifests.length =
      ((contributions layers (liveManifests now)).map fun contribution =>
        contribution.2.template.id).dedup.length := by
  have hdesc := describes_of_merge h
  refine length_eq_dedup hdesc.manifestsSorted fun id => ?_
  rw [hdesc.manifestPresent, ← exists_contributes, mem_map]

theorem models_length_eq :
    catalog.models.length =
      ((contributions layers (liveModels now)).map fun contribution =>
        contribution.2.id).dedup.length := by
  have hdesc := describes_of_merge h
  refine length_eq_dedup hdesc.modelsSorted fun id => ?_
  rw [hdesc.modelPresent, ← exists_contributes, mem_map]

theorem mem_manifestIds {id : String} :
    id ∈ (catalog.manifests.map MergedCatalogManifest.entry).map (fun entry => entry.template.id) ↔
      ∃ manifest ∈ contributions layers (liveManifests now),
        manifest.2.template.id = id := by
  rw [exists_contributes (p := fun entry : CatalogManifestEntry => entry.template.id = id),
    ← (describes_of_merge h).manifestPresent, map_map, mem_map]
  rfl

/-- The manifests pass iff those that win were verified by the capture. -/
theorem manifests_valid_iff :
    (∀ entry ∈ catalog.manifests.map MergedCatalogManifest.entry,
        validateSnapshotManifest V capturedAt entry = .ok ()) ↔
      ∀ layer entry, Wins layers (liveManifests now)
        (fun other => other.template.id = entry.template.id) layer entry →
          entry.verifiedAt ≤ capturedAt + clockSkew := by
  have hdesc := describes_of_merge h
  have hval := (merge_isOk_iff.mp ⟨catalog, h⟩).1
  rw [forall_mem_map]
  constructor
  · intro hall layer entry hwins
    obtain ⟨manifest, hmem, hid⟩ := (hdesc.manifestPresent entry.template.id).mpr
      ⟨layer, entry, hwins.1⟩
    obtain ⟨layer', hwins', _⟩ := hdesc.manifestValue manifest hmem
    rw [hid] at hwins'
    obtain ⟨_, heq⟩ := hwins.unique hwins'
    have hcheck := (validateSnapshotManifest_iff
      (validateLayerManifest_of_mem hval hwins'.mem)).mp (hall manifest hmem)
    rwa [heq] at hcheck
  · intro hall manifest hmem
    obtain ⟨layer, hwins, _⟩ := hdesc.manifestValue manifest hmem
    exact (validateSnapshotManifest_iff (validateLayerManifest_of_mem hval hwins.mem)).mpr
      (hall layer manifest.entry hwins)

/-- The model that is merged under the identifier of a contribution agrees with it. -/
theorem exists_model_of_mem
    (hmem : contribution ∈ contributions layers (liveModels now)) :
    ∃ model ∈ catalog.models, model.entry.id = contribution.2.id ∧
      model.entry.providerTemplateId = contribution.2.providerTemplateId ∧
      model.entry.apiFamily = contribution.2.apiFamily := by
  obtain ⟨hdist, _, hmods⟩ := mergeCatalogLayers_ok h
  obtain ⟨_, hagree⟩ := merge_isOk_iff.mp ⟨catalog, h⟩
  have hpresent := (models_present hmods).mpr (exists_contributes.mp ⟨contribution, hmem, rfl⟩)
  obtain ⟨model, hmod, hid⟩ := hpresent
  obtain ⟨last, hlast, hent, _⟩ := (overlaid_of_mem hmods hmod).last
  have htmpl : model.entry.providerTemplateId = last.2.providerTemplateId := by rw [hent]
  have hfam : model.entry.apiFamily = last.2.apiFamily := by rw [hent]
  rw [hid, ← lastWith_true, modelsWithId, lastWith_filter] at hlast
  refine ⟨model, hmod, hid, ?_⟩
  rw [htmpl, hfam]
  rcases eq_or_rel_of_lastWith hagree.models hlast hmem (by simp) with rfl | hrel
  · exact ⟨rfl, rfl⟩
  · have hlastId : last.2.id = contribution.2.id := by
      simpa using (lastWith_mem hlast).2
    obtain ⟨htmpls, _, hfamilies, _⟩ := hrel hlastId.symm
    exact ⟨htmpls.symm, hfamilies.symm⟩

/-- A merged model has the parameters that count for it. -/
theorem parameters_eq (hmod : model ∈ catalog.models) :
    model.entry.parameters = parametersOf now layers model.entry.id := by
  obtain ⟨_, _, hmods⟩ := mergeCatalogLayers_ok h
  rw [parametersOf, (overlaid_of_mem hmods hmod).parameters.merged, flatMap_map]

/-- What a merged model is checked for. -/
theorem model_valid_iff (hmod : model ∈ catalog.models) :
    validateSnapshotModel V capturedAt manifestIds model.entry = .ok () ↔
      model.entry.providerTemplateId ∈ manifestIds ∧
        model.entry.verifiedAt ≤ capturedAt + clockSkew ∧
          V.modelParameters model.entry.apiFamily model.entry.parameters = true := by
  have hdesc := describes_of_merge h
  have hval := (merge_isOk_iff.mp ⟨catalog, h⟩).1
  obtain ⟨layer, entry, hwins, hent, _⟩ := hdesc.metadataValue model hmod
  refine validateSnapshotModel_iff (validateLayerModel_of_mem hval hwins.mem) hent ?_
  have hitems := hdesc.capabilities model hmod
  refine validateCapabilities_ok.mpr ⟨?_, fun capability hcapability => ?_⟩
  · exact pairwise_map.mpr (hitems.sorted.imp fun hlt => ne_of_lt hlt)
  · -- the capability is one of an entry that counts
    obtain ⟨source, origin, horig, hlast, _⟩ := hitems.value capability hcapability
    obtain ⟨_, h⟩ := guard_ok.mp (validateLayerModel_of_mem hval horig.mem)
    obtain ⟨_, _, _, hcaps, _⟩ := steps₂ h
    exact (validateCapabilities_ok.mp hcaps).2 capability (lastWith_mem hlast).1

/-- The models pass iff those that win were verified by the capture, every one that counts has a
    manifest, and the parameters that count are valid. -/
theorem models_valid_iff :
    (∀ entry ∈ catalog.models.map MergedCatalogModel.entry,
        validateSnapshotModel V capturedAt manifestIds entry = .ok ()) ↔
      (∀ contribution ∈ contributions layers (liveModels now),
        contribution.2.providerTemplateId ∈ manifestIds) ∧
      (∀ layer entry, Wins layers (liveModels now)
        (fun other => other.id = entry.id) layer entry → entry.verifiedAt ≤ capturedAt + clockSkew) ∧
      ParametersValid V now layers := by
  have hdesc := describes_of_merge h
  rw [forall_mem_map]
  constructor
  · intro hall
    refine ⟨fun contribution hmem => ?_, fun layer entry hwins => ?_, fun contribution hmem => ?_⟩
    · obtain ⟨model, hmod, _, htmpl, _⟩ := exists_model_of_mem h hmem
      rw [← htmpl]
      exact ((model_valid_iff h hmod).mp (hall model hmod)).1
    · obtain ⟨model, hmod, hid⟩ := (hdesc.modelPresent entry.id).mpr ⟨layer, entry, hwins.1⟩
      obtain ⟨layer', entry', hwins', hent, _⟩ := hdesc.metadataValue model hmod
      rw [hid] at hwins'
      obtain ⟨_, rfl⟩ := hwins.unique hwins'
      have hver : model.entry.verifiedAt = entry'.verifiedAt := by rw [hent]
      rw [← hver]
      exact ((model_valid_iff h hmod).mp (hall model hmod)).2.1
    · obtain ⟨model, hmod, hid, _, hfam⟩ := exists_model_of_mem h hmem
      rw [← hfam, ← hid, ← parameters_eq h hmod]
      exact ((model_valid_iff h hmod).mp (hall model hmod)).2.2
  · rintro ⟨htmpls, hver, hparams⟩ model hmod
    obtain ⟨layer, entry, hwins, hent, _⟩ := hdesc.metadataValue model hmod
    have hid : model.entry.id = entry.id := by rw [hent]
    have htmpl : model.entry.providerTemplateId = entry.providerTemplateId := by rw [hent]
    have hfam : model.entry.apiFamily = entry.apiFamily := by rw [hent]
    have hverAt : model.entry.verifiedAt = entry.verifiedAt := by rw [hent]
    rw [hid] at hwins
    refine (model_valid_iff h hmod).mpr ⟨?_, ?_, ?_⟩
    · rw [htmpl]
      exact htmpls (layer, entry) hwins.mem
    · rw [hverAt]
      exact hver layer entry hwins
    · rw [parameters_eq h hmod, hfam, hid]
      exact hparams (layer, entry) hwins.mem

/-- The snapshot of a merge is valid iff the entries that count complete one another. -/
theorem fromMerged_isOk_iff (hrev : revision ≠ 0) :
    (∃ snapshot, fromMerged V revision capturedAt catalog = .ok snapshot) ↔
      TemplatesPresent now layers ∧ ParametersValid V now layers ∧ WithinLimits now layers ∧
        VerifiedBy now capturedAt layers := by
  have hdesc := describes_of_merge h
  have hmanIds : ((catalog.manifests.map MergedCatalogManifest.entry).map
      fun entry => entry.template.id).Nodup := by
    rw [map_map]
    exact pairwise_map.mpr (hdesc.manifestsSorted.imp fun hlt => ne_of_lt hlt)
  have hmodIds : ((catalog.models.map MergedCatalogModel.entry).map CatalogModelEntry.id).Nodup := by
    rw [map_map]
    exact pairwise_map.mpr (hdesc.modelsSorted.imp fun hlt => ne_of_lt hlt)
  have hsplit : (∃ snapshot, fromMerged V revision capturedAt catalog =
      .ok snapshot) ↔
      (catalog.manifests.length ≤ maxCatalogManifests ∧ catalog.models.length ≤ maxCatalogModels) ∧
      (∀ entry ∈ catalog.manifests.map MergedCatalogManifest.entry,
        validateSnapshotManifest V capturedAt entry = .ok ()) ∧
      ∀ entry ∈ catalog.models.map MergedCatalogModel.entry,
        validateSnapshotModel V capturedAt ((catalog.manifests.map MergedCatalogManifest.entry).map
          fun entry => entry.template.id) entry = .ok () := by
    simp only [fromMerged, validateRevisionSnapshot, require_ok,
      unit_bind_ok, forEachUnique_ok, length_map]
    constructor
    · rintro ⟨snapshot, _, ⟨⟨_, _, hfew⟩, hmans, hmods⟩, _⟩
      exact ⟨hfew, hmans.2.2, hmods.2.2⟩
    · rintro ⟨hfew, hmans, hmods⟩
      exact ⟨_, hrev, ⟨⟨trivial, hrev, hfew⟩, ⟨hmanIds, fun _ _ => not_mem_nil,
        hmans⟩, hmodIds, fun _ _ => not_mem_nil, hmods⟩, rfl⟩
  rw [hsplit, manifests_valid_iff h, models_valid_iff h, manifests_length_eq h, models_length_eq h]
  constructor
  · rintro ⟨⟨hfew, hfewMods⟩, hver, htmpls, hverMods, hparams⟩
    exact ⟨fun model hmem => (mem_manifestIds h).mp (htmpls model hmem), hparams,
      ⟨hfew, hfewMods⟩, ⟨hver, hverMods⟩⟩
  · rintro ⟨htmpls, hparams, hlims, hver⟩
    exact ⟨⟨hlims.manifests, hlims.models⟩, hver.manifests,
      fun model hmem => (mem_manifestIds h).mpr (htmpls model hmem), hver.models,
      hparams⟩

end Snapshot

/-- **Coherence.** Of valid layers, a moment has a catalog and a snapshot iff the entries that
    count at it are coherent. -/
theorem snapshot_isOk_iff_coherent (hval : validateLayers V layers = .ok ()) (hrev : revision ≠ 0) :
    (∃ catalog, mergeCatalogLayers now policy V layers = .ok catalog ∧
      ∃ snapshot, fromMerged V revision capturedAt catalog = .ok snapshot) ↔
      Coherent V now capturedAt layers := by
  constructor
  · rintro ⟨catalog, hmerge, hsnap⟩
    obtain ⟨htmpls, hparams, hlims, hver⟩ := (fromMerged_isOk_iff hmerge hrev).mp hsnap
    exact
      { agree := (merge_isOk_iff.mp ⟨catalog, hmerge⟩).2
        templates := htmpls
        parameters := hparams
        limits := hlims
        verified := hver }
  · intro hcoh
    obtain ⟨catalog, hmerge⟩ : ∃ catalog, mergeCatalogLayers now policy V layers = .ok catalog :=
      merge_isOk_iff.mpr ⟨hval, hcoh.agree⟩
    exact ⟨catalog, hmerge, (fromMerged_isOk_iff hmerge hrev).mpr
      ⟨hcoh.templates, hcoh.parameters, hcoh.limits, hcoh.verified⟩⟩

/-! ### As time passes -/

/-- What counts later counted at an earlier moment at which its layers were effective. -/
theorem contributions_sublist (h : ∀ layer ∈ layers, (live layer).Sublist (live' layer)) :
    (contributions layers live).Sublist (contributions layers live') := by
  refine List.Sublist.flatMap_right (orderedLayers layers) fun layer hlayer => ?_
  exact (h layer (mem_orderedLayers.mp hlayer)).map _

theorem isExpired_mono {expiresAt : Option Int} (hmoment : moment ≤ now)
    (h : isExpired expiresAt now = false) : isExpired expiresAt moment = false := by
  cases expiresAt with
  | none => rfl
  | some expiry =>
    have hlate : now < expiry := by simpa [isExpired] using h
    simpa [isExpired] using hmoment.trans_lt hlate

theorem isLive_mono (hmoment : moment ≤ now)
    (heffective : layer.effectiveAt ≤ moment) (h : layer.isLive now = true) :
    layer.isLive moment = true := by
  rw [isLive, Bool.and_eq_true, Bool.not_eq_true'] at h ⊢
  exact ⟨decide_eq_true heffective, isExpired_mono hmoment h.2⟩

theorem filter_unexpired_sublist {entries : List ε} (hmoment : moment ≤ now) :
    (entries.filter fun entry => !isExpired (expiresAt entry) now).Sublist
      (entries.filter fun entry => !isExpired (expiresAt entry) moment) := by
  refine monotone_filter_right entries fun entry hent => ?_
  rw [Bool.not_eq_true'] at hent ⊢
  exact isExpired_mono hmoment hent

/-- A moment at which the layers that count now were already effective. -/
def Settled (now moment : Int) (layers : List CatalogLayer) : Prop :=
  ∀ layer ∈ layers, layer.isLive now = true → layer.effectiveAt ≤ moment ∧ moment ≤ now

theorem Settled.sublist {entries : CatalogLayer → List ε} (h : Settled now moment layers) :
    (contributions layers fun layer => if layer.isLive now then
        (entries layer).filter fun entry => !isExpired (expiresAt entry) now else []).Sublist
      (contributions layers fun layer => if layer.isLive moment then
        (entries layer).filter fun entry => !isExpired (expiresAt entry) moment else []) := by
  refine contributions_sublist fun layer hlayer => ?_
  by_cases hlive : layer.isLive now = true
  · obtain ⟨heffective, hmoment⟩ := h layer hlayer hlive
    rw [if_pos hlive, if_pos (isLive_mono hmoment heffective hlive)]
    exact filter_unexpired_sublist hmoment
  · rw [if_neg hlive]
    exact nil_sublist _

theorem Settled.manifests_sublist (h : Settled now moment layers) :
    (contributions layers (liveManifests now)).Sublist
      (contributions layers (liveManifests moment)) :=
  h.sublist

theorem Settled.models_sublist (h : Settled now moment layers) :
    (contributions layers (liveModels now)).Sublist
      (contributions layers (liveModels moment)) :=
  h.sublist

theorem length_dedup_le {α κ : Type} [DecidableEq κ] {key : α → κ} {xs ys : List α}
    (h : xs.Sublist ys) : (xs.map key).dedup.length ≤ (ys.map key).dedup.length := by
  refine List.Subperm.length_le (subperm_of_subset (nodup_dedup _) fun k hk => ?_)
  rw [mem_dedup] at hk ⊢
  exact (h.map key).subset hk

/-- **As time passes.** From a coherent moment on, once its layers are effective and its entries
    verified, only two parts of coherence can be lost: the manifests of models, and the validity
    of parameters. -/
theorem Coherent.later_iff (h : Coherent V moment capturedAt layers)
    (hsett : Settled now moment layers)
    (hmans : ∀ layer ∈ layers, ∀ entry ∈ layer.manifests, entry.verifiedAt ≤ capturedAt + clockSkew)
    (hmods : ∀ layer ∈ layers, ∀ entry ∈ layer.models, entry.verifiedAt ≤ capturedAt + clockSkew) :
    Coherent V now capturedAt layers ↔ TemplatesPresent now layers ∧ ParametersValid V now layers := by
  constructor
  · intro hnow
    exact ⟨hnow.templates, hnow.parameters⟩
  · rintro ⟨htmpls, hparams⟩
    exact
      { agree :=
          { manifests := h.agree.manifests.sublist hsett.manifests_sublist
            models := h.agree.models.sublist hsett.models_sublist }
        templates := htmpls
        parameters := hparams
        limits :=
          { manifests := (length_dedup_le hsett.manifests_sublist).trans h.limits.manifests
            models := (length_dedup_le hsett.models_sublist).trans h.limits.models }
        verified :=
          { manifests := fun layer entry hwins => hmans layer hwins.1.1 entry
              ((liveManifests_sublist layer).subset hwins.1.2.1)
            models := fun layer entry hwins => hmods layer hwins.1.1 entry
              ((liveModels_sublist layer).subset hwins.1.2.1) } }

end LorePia.Catalog
