import LorePia.Catalog.Merge
import LorePia.Lib.Override

namespace LorePia.Catalog

open Lib List Prod SortedMap

/-!
# What a merged catalog holds

For every manifest, every model, and every capability and parameter of a model, the merged
catalog holds what the greatest live layer says about it.

* `Contributes`, `Wins` — the entries that count at a moment, and the greatest of them;
* `Describes` — the specification: what a merged catalog must hold;
* `mergeLayers_ok` — the loop computes two folds, over the live manifests and over the live models
  in the order of the layers;
* `overlayModels_eq_some` — the fold of the models of one identifier, item by item;
* `orderedLayers_congr` — the layers have one order, whatever the order of their list;
* `lastWith_contributions_eq_some_iff` — the last entry of interest is the one that wins.
-/

/-! ### The specification -/

variable (now : Int) (policy : CatalogFreshnessPolicy)

/-- A layer that is effective and has not expired. -/
def CatalogLayer.isLive (layer : CatalogLayer) : Bool :=
  decide (layer.effectiveAt ≤ now) && !isExpired layer.expiresAt now

/-- The manifests of a layer that count at a moment. -/
def CatalogLayer.liveManifests (layer : CatalogLayer) : List CatalogManifestEntry :=
  if layer.isLive now then layer.manifests.filter fun entry => !isExpired entry.expiresAt now else []

/-- The models of a layer that count at a moment. -/
def CatalogLayer.liveModels (layer : CatalogLayer) : List CatalogModelEntry :=
  if layer.isLive now then layer.models.filter fun entry => !isExpired entry.expiresAt now else []

/-- Some layer of the list lists the entry among its live ones, and the entry is of interest. -/
def Contributes {ε : Type} (layers : List CatalogLayer) (live : CatalogLayer → List ε)
    (p : ε → Prop) (layer : CatalogLayer) (entry : ε) : Prop :=
  layer ∈ layers ∧ entry ∈ live layer ∧ p entry

/-- The contribution of the greatest layer. -/
def Wins {ε : Type} (layers : List CatalogLayer) (live : CatalogLayer → List ε) (p : ε → Prop)
    (layer : CatalogLayer) (entry : ε) : Prop :=
  Contributes layers live p layer entry ∧ ∀ layer' entry', Contributes layers live p layer' entry' →
      layer' = layer ∧ entry' = entry ∨ layer'.rank < layer.rank

/-- The items of a merged model under one key each: which there are, and whose they are. -/
structure DescribesItems {κ ρ : Type} [LinearOrder κ] (layers : List CatalogLayer) (id : String)
    (key : ρ → κ) (items : CatalogModelEntry → List ρ) (merged : List ρ)
    (recorded : SortedMap κ CatalogFieldProvenance) : Prop where
  sorted : merged.Pairwise fun a b => key a < key b
  present : ∀ k, (∃ item ∈ merged, key item = k) ↔
    ∃ layer entry, Contributes layers (CatalogLayer.liveModels now)
      (fun entry => entry.id = id ∧ ∃ item ∈ items entry, key item = k) layer entry
  value : ∀ item ∈ merged, ∃ layer entry, Wins layers (CatalogLayer.liveModels now)
      (fun entry => entry.id = id ∧ ∃ other ∈ items entry, key other = key item) layer entry ∧
    lastWith (fun other => decide (key other = key item)) (items entry) = some item ∧
    recorded.get? (key item) =
      some (entryProvenance now policy layer entry.verifiedAt entry.expiresAt)
  recordedOnly : ∀ k, (recorded.get? k).isSome → ∃ item ∈ merged, key item = k

/-- **Merge semantics.** What a merged catalog holds. -/
structure Describes (layers : List CatalogLayer) (catalog : MergedCatalog) : Prop where
  manifestsSorted : catalog.manifests.Pairwise fun a b => a.entry.template.id < b.entry.template.id
  manifestPresent : ∀ id, (∃ manifest ∈ catalog.manifests, manifest.entry.template.id = id) ↔
    ∃ layer entry, Contributes layers (CatalogLayer.liveManifests now)
      (fun entry => entry.template.id = id) layer entry
  manifestValue : ∀ manifest ∈ catalog.manifests, ∃ layer,
    Wins layers (CatalogLayer.liveManifests now)
      (fun entry => entry.template.id = manifest.entry.template.id) layer manifest.entry ∧
    manifest.provenance =
      entryProvenance now policy layer manifest.entry.verifiedAt manifest.entry.expiresAt
  modelsSorted : catalog.models.Pairwise fun a b => a.entry.id < b.entry.id
  modelPresent : ∀ id, (∃ model ∈ catalog.models, model.entry.id = id) ↔
    ∃ layer entry, Contributes layers (CatalogLayer.liveModels now)
      (fun entry => entry.id = id) layer entry
  metadataValue : ∀ model ∈ catalog.models, ∃ layer entry,
    Wins layers (CatalogLayer.liveModels now) (fun entry => entry.id = model.entry.id) layer entry ∧
    model.entry = { entry with
      capabilities := model.entry.capabilities
      parameters := model.entry.parameters } ∧
    model.metadataProvenance = entryProvenance now policy layer entry.verifiedAt entry.expiresAt
  capabilities : ∀ model ∈ catalog.models,
    DescribesItems now policy layers model.entry.id CatalogCapability.key
      CatalogModelEntry.capabilities model.entry.capabilities model.capabilityProvenance
  parameters : ∀ model ∈ catalog.models,
    DescribesItems now policy layers model.entry.id ParameterSpec.id
      CatalogModelEntry.parameters model.entry.parameters model.parameterProvenance

/-! ### The loop as two folds -/

variable {now policy}

theorem isExpired_minimumExpiry :
    isExpired (minimumExpiry left right) now = (isExpired left now || isExpired right now) := by
  cases left <;> cases right <;> simp [minimumExpiry, isExpired, Bool.decide_or]

/-- The freshness of an entry is that it expired iff its layer or the entry itself did. -/
theorem freshness_eq_expired_iff :
    freshness now policy authority verifiedAt expiresAt = .expired ↔
      isExpired expiresAt now = true := by
  rw [freshness]
  split
  case isTrue h => exact ⟨fun _ => h, fun _ => rfl⟩
  case isFalse h =>
    refine ⟨fun heq => ?_, fun hexpir => absurd hexpir h⟩
    split at heq
    · cases heq
    · split at heq <;> cases heq

/-- The manifests a layer brings into the merge, with their provenance. -/
def manifestsOf (now : Int) (policy : CatalogFreshnessPolicy) (layer : CatalogLayer) :
    List MergedCatalogManifest :=
  (layer.liveManifests now).map fun entry =>
    ⟨entry, entryProvenance now policy layer entry.verifiedAt entry.expiresAt⟩

/-- The models a layer brings into the merge. -/
def modelsOf (now : Int) (layer : CatalogLayer) : List (CatalogLayer × CatalogModelEntry) :=
  (layer.liveModels now).map fun entry => (layer, entry)

/-- The provenance of a contribution. -/
def sourceOf (now : Int) (policy : CatalogFreshnessPolicy)
    (contribution : CatalogLayer × CatalogModelEntry) : CatalogFieldProvenance :=
  entryProvenance now policy contribution.1 contribution.2.verifiedAt contribution.2.expiresAt

def overlayStep (now : Int) (policy : CatalogFreshnessPolicy)
    (previous : Option MergedCatalogModel) (contribution : CatalogLayer × CatalogModelEntry) :
    MergedCatalogModel :=
  overlayModel contribution.2 (sourceOf now policy contribution) previous

def insertManifests (merged : SortedMap String MergedCatalogManifest)
    (manifests : List MergedCatalogManifest) : SortedMap String MergedCatalogManifest :=
  manifests.foldl (fun m manifest => m.insert manifest.entry.template.id manifest) merged

def foldModels (now : Int) (policy : CatalogFreshnessPolicy)
    (merged : SortedMap String MergedCatalogModel)
    (contributions : List (CatalogLayer × CatalogModelEntry)) :
    SortedMap String MergedCatalogModel :=
  SortedMap.foldKeyed (fun contribution => contribution.2.id) (overlayStep now policy) merged
    contributions

variable {layer : CatalogLayer}

section

variable (hlive : isExpired layer.expiresAt now = false)
include hlive

/-- An entry of a live layer is left out iff it expired itself. -/
theorem entryProvenance_expired :
    (entryProvenance now policy layer verifiedAt expiresAt).freshness = .expired ↔
      isExpired expiresAt now = true := by
  show freshness now policy layer.authority verifiedAt _ = .expired ↔ _
  rw [freshness_eq_expired_iff, isExpired_minimumExpiry, hlive, Bool.false_or]

theorem mergeManifestEntries_ok {entries : List CatalogManifestEntry}
    (h : entries.foldlM (mergeManifestEntry now policy layer) state = .ok state') :
    state'.manifests = insertManifests state.manifests
        ((entries.filter fun entry => !isExpired entry.expiresAt now).map fun entry =>
          ⟨entry, entryProvenance now policy layer entry.verifiedAt entry.expiresAt⟩) ∧
      state'.models = state.models := by
  induction entries generalizing state with
  | nil =>
    cases pure_inj h
    exact ⟨rfl, rfl⟩
  | cons entry entries ih =>
    obtain ⟨middle, hent, h⟩ := bind_ok.mp h
    obtain ⟨hmans, hmods⟩ := ih h
    rw [mergeManifestEntry] at hent
    split at hent
    case isTrue hexpir =>
      cases pure_inj hent
      rw [entryProvenance_expired hlive] at hexpir
      rw [filter_cons_of_neg (by simp [hexpir])]
      exact ⟨hmans, hmods⟩
    case isFalse hexpir =>
      obtain ⟨_, hent⟩ := guard_ok.mp hent
      cases pure_inj hent
      rw [entryProvenance_expired hlive] at hexpir
      rw [filter_cons_of_pos (by simp [hexpir]), map_cons]
      exact ⟨hmans, hmods⟩

theorem mergeModelEntries_ok {entries : List CatalogModelEntry}
    (h : entries.foldlM (mergeModelEntry now policy layer) state = .ok state') :
    state'.manifests = state.manifests ∧ state'.models = foldModels now policy state.models
        ((entries.filter fun entry => !isExpired entry.expiresAt now).map fun entry =>
          (layer, entry)) := by
  induction entries generalizing state with
  | nil =>
    cases pure_inj h
    exact ⟨rfl, rfl⟩
  | cons entry entries ih =>
    obtain ⟨middle, hent, h⟩ := bind_ok.mp h
    obtain ⟨hmans, hmods⟩ := ih h
    rw [mergeModelEntry] at hent
    split at hent
    case isTrue hexpir =>
      cases pure_inj hent
      rw [entryProvenance_expired hlive] at hexpir
      rw [filter_cons_of_neg (by simp [hexpir])]
      exact ⟨hmans, hmods⟩
    case isFalse hexpir =>
      obtain ⟨_, hent⟩ := guard_ok.mp hent
      cases pure_inj hent
      rw [entryProvenance_expired hlive] at hexpir
      rw [filter_cons_of_pos (by simp [hexpir]), map_cons]
      exact ⟨hmans, hmods⟩

end

/-- One layer brings its live manifests and models into the merge. -/
theorem mergeLayer_ok (h : mergeLayer now policy state layer = .ok state') :
    state'.manifests = insertManifests state.manifests (manifestsOf now policy layer) ∧
      state'.models = foldModels now policy state.models (modelsOf now layer) := by
  rw [mergeLayer] at h
  split at h
  case isTrue hearly =>
    cases pure_inj h
    have hlive : layer.isLive now = false := by simp [CatalogLayer.isLive, hearly]
    simp [manifestsOf, modelsOf, CatalogLayer.liveManifests, CatalogLayer.liveModels, hlive,
      insertManifests, foldModels, foldKeyed]
  case isFalse hearly =>
    split at h
    case isTrue hexpir =>
      cases pure_inj h
      have hlive : layer.isLive now = false := by simp [CatalogLayer.isLive, hexpir]
      simp [manifestsOf, modelsOf, CatalogLayer.liveManifests, CatalogLayer.liveModels, hlive,
        insertManifests, foldModels, foldKeyed]
    case isFalse hexpir =>
      rw [Bool.not_eq_true] at hexpir
      have hlive : layer.isLive now = true := by
        simp [CatalogLayer.isLive, hexpir, Int.not_lt.mp hearly]
      obtain ⟨middle, hmans, hmods⟩ := bind_ok.mp h
      obtain ⟨hmans, hkept⟩ := mergeManifestEntries_ok hexpir hmans
      obtain ⟨hkept', hmods⟩ := mergeModelEntries_ok hexpir hmods
      rw [manifestsOf, modelsOf, CatalogLayer.liveManifests, CatalogLayer.liveModels, if_pos hlive,
        if_pos hlive, hkept', hmods, hmans, hkept]
      exact ⟨rfl, rfl⟩

theorem mergeLayers_ok {layers : List CatalogLayer}
    (h : layers.foldlM (mergeLayer now policy) state = .ok state') :
    state'.manifests = insertManifests state.manifests (layers.flatMap (manifestsOf now policy)) ∧
      state'.models = foldModels now policy state.models (layers.flatMap (modelsOf now)) := by
  induction layers generalizing state with
  | nil =>
    cases pure_inj h
    exact ⟨rfl, rfl⟩
  | cons layer layers ih =>
    obtain ⟨middle, hlayer, h⟩ := bind_ok.mp h
    obtain ⟨hmans, hmods⟩ := ih h
    obtain ⟨hmans', hmods'⟩ := mergeLayer_ok hlayer
    rw [flatMap_cons, flatMap_cons, hmans, hmods, hmans', hmods',
      insertManifests, insertManifests, insertManifests, foldl_append, foldModels, foldModels,
      foldModels, foldKeyed, foldKeyed, foldKeyed, foldl_append]
    exact ⟨rfl, rfl⟩

/-! ### The items of a model -/

section Items

variable {κ ρ : Type} [LinearOrder κ] {key : ρ → κ} {k : κ}
  {recorded : SortedMap κ CatalogFieldProvenance} {new : List ρ}

theorem overrideItems_eq :
    overrideItems key old new = (SortedMap.index key (old ++ new)).values := by
  rw [overrideItems, index, foldl_append]

theorem get?_recordItems :
    (recordItems key source recorded new).get? k =
      if ∃ item ∈ new, key item = k then some source else recorded.get? k := by
  induction new generalizing recorded with
  | nil => simp [recordItems]
  | cons item new ih =>
    show (recordItems key source (recorded.insert (key item) source) new).get? k = _
    rw [ih, get?_insert]
    by_cases hnew : ∃ other ∈ new, key other = k
    · rw [if_pos hnew, if_pos]
      obtain ⟨other, hoth, hk⟩ := hnew
      exact ⟨other, mem_cons_of_mem item hoth, hk⟩
    · rw [if_neg hnew]
      by_cases hk : k = key item
      · rw [if_pos hk, if_pos ⟨item, mem_cons_self, hk.symm⟩]
      · rw [if_neg hk, if_neg]
        rintro ⟨other, hoth, hothKey⟩
        rcases mem_cons.mp hoth with rfl | hoth
        · exact hk hothKey.symm
        · exact hnew ⟨other, hoth, hothKey⟩

/-- Nothing is missing when every item has a provenance. -/
theorem recordMissing_eq (h : ∀ item ∈ items, (recorded.get? (key item)).isSome = true) :
    recordMissing key source recorded items = recorded := by
  induction items with
  | nil => rfl
  | cons item items ih =>
    rw [forall_mem_cons] at h
    show recordMissing key source (if (recorded.get? (key item)).isSome then recorded
      else recorded.insert (key item) source) items = recorded
    rw [if_pos h.1]
    exact ih h.2

/-- The items and provenances of a model whose contributions list `listed`, each with its own
    source: the last listing of every key. -/
structure RecordsItems (key : ρ → κ) (listed : List (CatalogFieldProvenance × List ρ))
    (merged : List ρ) (recorded : SortedMap κ CatalogFieldProvenance) : Prop where
  merged : merged = (SortedMap.index key (listed.flatMap Prod.snd)).values
  recorded : ∀ k, recorded.get? k =
    (lastWith (fun entry => entry.2.any fun item => decide (key item = k)) listed).map Prod.fst

/-- An entry is laid over the items there are. -/
theorem RecordsItems.overlay {listed : List (CatalogFieldProvenance × List ρ)}
    (h : RecordsItems key listed old recorded) :
    RecordsItems key (listed ++ [(source, new)]) (overrideItems key old new)
      (recordMissing key source (recordItems key source recorded new)
        (overrideItems key old new)) := by
  have hmerged : overrideItems key old new =
      (SortedMap.index key ((listed ++ [(source, new)]).flatMap Prod.snd)).values := by
    rw [overrideItems_eq, h.merged, SortedMap.index_values_append, flatMap_append]
    simp
  have hrecorded : ∀ k, (recordItems key source recorded new).get? k =
      (lastWith (fun entry => entry.2.any fun item => decide (key item = k))
        (listed ++ [(source, new)])).map fst := by
    intro k
    rw [get?_recordItems, lastWith_concat, h.recorded]
    by_cases hk : ∃ item ∈ new, key item = k
    · rw [if_pos hk, if_pos (by simpa using hk)]
      rfl
    · rw [if_neg hk, if_neg (by simpa using hk)]
  -- every merged item was listed, so it has a provenance
  have hall : ∀ item ∈ overrideItems key old new,
      ((recordItems key source recorded new).get? (key item)).isSome = true := by
    intro item hitem
    rw [hmerged, mem_values_index] at hitem
    obtain ⟨entry, hent, hmem⟩ := mem_flatMap.mp (lastWith_mem hitem).1
    obtain ⟨last, hlast⟩ := exists_lastWith
      (p := fun entry => entry.2.any fun other => decide (key other = key item)) hent
      (by simpa using ⟨item, hmem, rfl⟩)
    rw [hrecorded, hlast]
    rfl
  exact ⟨hmerged, fun k => by rw [recordMissing_eq hall]; exact hrecorded k⟩

/-- The first entry of a model is laid over itself. -/
theorem RecordsItems.first :
    RecordsItems key [(source, new)] (overrideItems key new new)
      (recordMissing key source (recordItems key source .empty new)
        (overrideItems key new new)) := by
  have hmerged : overrideItems key new new = (SortedMap.index key new).values := by
    rw [overrideItems_eq, SortedMap.index_append_self]
  have hempty : RecordsItems key [] ([] : List ρ) .empty := ⟨rfl, fun _ => rfl⟩
  have hover : RecordsItems key ([] ++ [(source, new)]) (overrideItems key [] new)
      (recordMissing key source (recordItems key source .empty new) (overrideItems key [] new)) :=
    hempty.overlay
  have hsame : overrideItems key [] new = overrideItems key new new := by
    rw [overrideItems_eq, hmerged]
    rfl
  rw [hsame] at hover
  exact hover

end Items

/-! ### The fold of one model -/

/-- What the fold of contributions holds. -/
structure OverlaidModel (now : Int) (policy : CatalogFreshnessPolicy)
    (contributions : List (CatalogLayer × CatalogModelEntry)) (model : MergedCatalogModel) :
    Prop where
  last : ∃ contribution, contributions.getLast? = some contribution ∧
    model.entry = { contribution.2 with
      capabilities := model.entry.capabilities
      parameters := model.entry.parameters } ∧
    model.metadataProvenance = sourceOf now policy contribution
  capabilities : RecordsItems CatalogCapability.key (contributions.map fun contribution =>
      (sourceOf now policy contribution, contribution.2.capabilities))
    model.entry.capabilities model.capabilityProvenance
  parameters : RecordsItems ParameterSpec.id (contributions.map fun contribution =>
      (sourceOf now policy contribution, contribution.2.parameters))
    model.entry.parameters model.parameterProvenance

open RecordsItems

theorem overlayModels_eq_some {contributions : List (CatalogLayer × CatalogModelEntry)}
    (h : SortedMap.foldOf (overlayStep now policy) contributions = some model) :
    OverlaidModel now policy contributions model := by
  induction contributions using List.reverseRecOn generalizing model with
  | nil => cases h
  | append_singleton earlier contribution ih =>
    rw [SortedMap.foldOf_concat] at h
    cases h
    have hlast : (earlier ++ [contribution]).getLast? = some contribution := by simp
    cases hearlier : foldOf (overlayStep now policy) earlier with
    | none =>
      have hnil : earlier = [] := by
        cases earlier using List.reverseRecOn with
        | nil => rfl
        | append_singleton => cases foldOf_concat.symm.trans hearlier
      subst hnil
      exact
        { last := ⟨contribution, rfl, rfl, rfl⟩, capabilities := first, parameters := first }
    | some previous =>
      have hprev := ih hearlier
      refine
        { last := ⟨contribution, hlast, rfl, rfl⟩, capabilities := ?_, parameters := ?_ }
      · rw [map_append]
        exact hprev.capabilities.overlay
      · rw [map_append]
        exact hprev.parameters.overlay

/-! ### The order of the layers -/

variable {layers : List CatalogLayer}

theorem rank_injOn (hids : (layers.map CatalogLayer.id).Nodup) (ha : a ∈ layers) (hb : b ∈ layers)
    (h : a.rank = b.rank) : a = b := by
  have hid : a.id = b.id :=
    congrArg (fun rank : ℕ ×ₗ ℕ ×ₗ ℤ ×ₗ String => (ofLex (ofLex (ofLex rank).2).2).2) h
  exact inj_on_of_nodup_map hids ha hb hid

theorem orderedLayers_perm (layers : List CatalogLayer) : (orderedLayers layers).Perm layers :=
  mergeSort_perm _ _

theorem mem_orderedLayers : layer ∈ orderedLayers layers ↔ layer ∈ layers :=
  (orderedLayers_perm layers).mem_iff

theorem orderedLayers_pairwise_le (layers : List CatalogLayer) :
    (orderedLayers layers).Pairwise fun a b => a.rank ≤ b.rank := by
  have htrans : ∀ a b c : CatalogLayer, decide (a.rank ≤ b.rank) = true →
      decide (b.rank ≤ c.rank) = true → decide (a.rank ≤ c.rank) = true :=
    fun a b c hab hbc => decide_eq_true (le_trans (of_decide_eq_true hab) (of_decide_eq_true hbc))
  have htotal : ∀ a b : CatalogLayer,
      (decide (a.rank ≤ b.rank) || decide (b.rank ≤ a.rank)) = true := by
    intro a b
    simpa using le_total a.rank b.rank
  have h : (orderedLayers layers).Pairwise fun a b => decide (a.rank ≤ b.rank) = true :=
    pairwise_mergeSort htrans htotal layers
  exact h.imp of_decide_eq_true

theorem orderedLayers_pairwise (hids : (layers.map CatalogLayer.id).Nodup) :
    (orderedLayers layers).Pairwise fun a b => a.rank < b.rank := by
  have hnodup : (orderedLayers layers).Nodup :=
    (orderedLayers_perm layers).nodup_iff.mpr (List.Nodup.of_map CatalogLayer.id hids)
  refine ((orderedLayers_pairwise_le layers).and hnodup).imp_of_mem ?_
  rintro a b ha hb ⟨hle, hne⟩
  refine lt_of_le_of_ne hle fun heq => hne ?_
  exact rank_injOn hids (mem_orderedLayers.mp ha) (mem_orderedLayers.mp hb) heq

/-- The order of the list does not matter. -/
theorem orderedLayers_congr (hids : (layers.map CatalogLayer.id).Nodup)
    (h : layers.Perm layers') : orderedLayers layers = orderedLayers layers' := by
  refine List.Perm.eq_of_pairwise ?_ (orderedLayers_pairwise_le layers)
    (orderedLayers_pairwise_le layers')
    ((orderedLayers_perm layers).trans (h.trans (orderedLayers_perm layers').symm))
  intro a b ha hb hab hba
  exact rank_injOn hids (mem_orderedLayers.mp ha)
    (h.mem_iff.mpr (mem_orderedLayers.mp hb)) (le_antisymm hab hba)

/-! ### Winners -/

theorem pairwise_of_length_le_one {α : Type} {r : α → α → Prop} {xs : List α}
    (h : xs.length ≤ 1) : xs.Pairwise r := by
  cases xs with
  | nil => exact .nil
  | cons x xs =>
    cases xs with
    | nil => exact pairwise_singleton r x
    | cons y ys => simp at h

section Contributions

variable {ε : Type} {live : CatalogLayer → List ε} {p : ε → Prop} [DecidablePred p]

/-- The live entries with their layers, in the order of the layers. -/
def contributions (layers : List CatalogLayer) (live : CatalogLayer → List ε) :
    List (CatalogLayer × ε) :=
  (orderedLayers layers).flatMap fun layer => (live layer).map fun entry => (layer, entry)

theorem mem_contributions :
    contribution ∈ contributions layers live ↔
      contribution.1 ∈ layers ∧ contribution.2 ∈ live contribution.1 := by
  obtain ⟨layer, entry⟩ := contribution
  simp only [contributions, mem_flatMap, mem_map, mem_orderedLayers, Prod.mk.injEq]
  constructor
  · rintro ⟨_, hlayer, _, hent, rfl, rfl⟩
    exact ⟨hlayer, hent⟩
  · rintro ⟨hlayer, hent⟩
    exact ⟨layer, hlayer, entry, hent, rfl, rfl⟩

omit [DecidablePred p] in
theorem exists_contributes :
    (∃ contribution ∈ contributions layers live, p contribution.2) ↔
      ∃ layer entry, Contributes layers live p layer entry := by
  constructor
  · rintro ⟨contribution, hmem, hp⟩
    obtain ⟨hlayer, hent⟩ := mem_contributions.mp hmem
    exact ⟨contribution.1, contribution.2, hlayer, hent, hp⟩
  · rintro ⟨layer, entry, hlayer, hent, hp⟩
    exact ⟨(layer, entry), mem_contributions.mpr ⟨hlayer, hent⟩, hp⟩

/-- Where each layer has at most one live entry of interest, these are in strict order. -/
theorem contributions_pairwise (hids : (layers.map CatalogLayer.id).Nodup)
    (hone : ∀ layer ∈ layers, ((live layer).filter fun entry => decide (p entry)).length ≤ 1) :
    ((contributions layers live).filter fun contribution => decide (p contribution.2)).Pairwise
      fun a b => a.1.rank < b.1.rank := by
  rw [contributions, filter_flatMap, pairwise_flatMap]
  constructor
  · intro layer hlayer
    have hlen := hone layer (mem_orderedLayers.mp hlayer)
    rw [filter_map]
    have hle : (((live layer).filter fun entry => decide (p entry)).map
        fun entry => (layer, entry)).length ≤ 1 := by
      rw [length_map]
      exact hlen
    exact pairwise_of_length_le_one hle
  · refine (orderedLayers_pairwise hids).imp ?_
    intro a b hlt x hx y hy
    obtain ⟨_, _, rfl⟩ := mem_map.mp (mem_filter.mp hx).1
    obtain ⟨_, _, rfl⟩ := mem_map.mp (mem_filter.mp hy).1
    exact hlt

/-- The last entry of interest is the one that wins. -/
theorem lastWith_contributions_eq_some_iff (hids : (layers.map CatalogLayer.id).Nodup)
    (hone : ∀ layer ∈ layers, ((live layer).filter fun entry => decide (p entry)).length ≤ 1) :
    lastWith (fun contribution => decide (p contribution.2)) (contributions layers live) =
        some contribution ↔
      Wins layers live p contribution.1 contribution.2 := by
  have hfilter : lastWith (fun contribution => decide (p contribution.2))
        (contributions layers live) =
      lastWith (fun _ => true)
        ((contributions layers live).filter fun contribution => decide (p contribution.2)) := by
    rw [lastWith_filter]
    simp
  rw [hfilter, lastWith_eq_some_iff (contributions_pairwise hids hone)
    fun a b hab hba => absurd (hab.trans hba) (lt_irrefl _)]
  simp only [mem_filter, decide_eq_true_eq, mem_contributions, Wins, Contributes, true_and,
    forall_const]
  constructor
  · rintro ⟨⟨hmem, hp⟩, hmax⟩
    refine ⟨⟨hmem.1, hmem.2, hp⟩, ?_⟩
    rintro layer entry ⟨hlayer, hent, hp'⟩
    rcases hmax (layer, entry) ⟨⟨hlayer, hent⟩, hp'⟩ with heq | hlt
    · exact .inl ⟨congrArg fst heq, congrArg snd heq⟩
    · exact .inr hlt
  · rintro ⟨⟨hlayer, hent, hp⟩, hmax⟩
    refine ⟨⟨⟨hlayer, hent⟩, hp⟩, ?_⟩
    rintro other ⟨hmem, hp'⟩
    rcases hmax other.1 other.2 ⟨hmem.1, hmem.2, hp'⟩ with ⟨hlayer', hent'⟩ | hlt
    · exact .inl (Prod.ext hlayer' hent')
    · exact .inr hlt

end Contributions

end LorePia.Catalog
