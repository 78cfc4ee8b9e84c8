import LorePia.ModelSync.Graph
import LorePia.ModelSync.Runs

namespace LorePia.ModelSync

open List Option

open Lib Lib.Stateful
open ProviderStore (ConnectionRow GenerationPreset ModelRoute ProviderConnection)

/-!
# Model synchronization — the effect of a commit

* `Writes` — the batches that a commit and a refresh have in common;
* `Applies` — what a commit leaves of the provider graph;
* `Agrees` — how that differs from what a refresh leaves;
* `commitTransaction_applies` — every commit that goes through applies its review, and agrees with
  the refresh for the same listing.
-/

variable {X : Externals} {uuid : String} {store store' : Store}
  {current refreshed : ProviderConnection} {name observedAt : String}
  {observation : CapabilityObservation} {old : ModelRoute} {preset : GenerationPreset}
  {presets : List GenerationPreset}

/-! ### The batches -/

/-- The routes and observations are written in batches: the listed routes, then the marks on the
    ones that are missing; and the observations, after those of the listed routes are deleted. -/
structure Writes (mark : ModelRoute → ModelRoute) (connectionId : String)
    (routes : List ModelRoute) (missingIds listedIds : List String)
    (observations : List CapabilityObservation) (store store' : Store) : Prop where
  routes : ∃ listed, Batch ModelRoute.id writeRoute KeepsIdentity routes
      store.provider.providerModels.find? listed ∧
    Batch id (markRoute mark connectionId) (fun _ _ => True) missingIds listed
      store'.provider.providerModels.find?
  observations : Batch CapabilityObservation.id (fun observation _ => some observation)
    KeepsSubject observations (deleteProviderObservations listedIds store).observations.find?
    store'.observations.find?

/-- The tables that a commit leaves alone. -/
structure SameRest (store store' : ProviderStore.Store) : Prop where
  providerProfiles : store'.providerProfiles = store.providerProfiles
  generations : store'.generations = store.generations
  modelSyncJobs : store'.modelSyncJobs = store.modelSyncJobs
  discoverySessions : store'.providerDiscoverySessions = store.providerDiscoverySessions
  appSettings : store'.appSettings = store.appSettings

theorem upsertProviderConnectionRow_ok
    (h : ProviderStore.upsertProviderConnectionRow X.toExternals uuid connection provider
      = .ok provider') :
    (∀ old, (provider.activeConnection connection.id).map ConnectionRow.connection = some old →
        old.templateId = connection.templateId ∧ old.templateVersion = connection.templateVersion) ∧
      provider' = provider.putConnection connection := by
  obtain ⟨_, _, _, h⟩ := rest₃ h
  obtain ⟨htmpl, _, h⟩ := guards₂ h
  obtain ⟨written, hwritten, _, _, h⟩ := steps₂ h
  obtain rfl := pure_inj h
  refine ⟨?_, (ProviderStore.execute_enforce_ok hwritten).1⟩
  intro old hold
  simpa [hold] using htmpl

/-- The missing routes, as a commit calculates them. -/
def missingIds (diff : ModelSyncDiff) : List String :=
  canonical id ((diff.expectedModelRoutes.map ModelRoute.id).filter
    fun id => id ∉ diff.listedRoutes.map ModelRoute.id)

/-- The connection of a review, as a commit leaves it. -/
def committedConnection (current : ProviderConnection) (observedAt : String) :
    ProviderConnection :=
  { current with status := .connected, updatedAt := observedAt }

theorem applyReview_ok
    (h : applyReview X uuid jobId connectionId current review store = .ok store') :
    Writes (missRoute jobId) connectionId review.diff.listedRoutes (missingIds review.diff)
        (review.diff.listedRoutes.map ModelRoute.id) review.diff.capabilityObservations
        store store' ∧
      Batch GenerationPreset.id writePreset KeepsOwner review.diff.initialPresets
        store.provider.generationPresets.find? store'.provider.generationPresets.find? ∧
      store'.provider.providerConnections = (store.provider.putConnection
          (committedConnection current review.diff.observedAt)).providerConnections ∧
      SameRest store.provider store'.provider := by
  obtain ⟨listed, hlisted, _, h⟩ := step_guard h
  obtain ⟨marked, hmarked, preset, hpre, observed, hobserved, h⟩ := steps₃ h
  obtain ⟨provider, hprov, _, _, h⟩ := steps₂ h
  obtain rfl := pure_inj h
  obtain ⟨models, rfl, hrts⟩ := upsertListedRoutes_batch hlisted
  obtain ⟨models', rfl, hmarks⟩ := markAllMissing_batch hmarked
  obtain ⟨presets, rfl, hpres⟩ := upsertInitialPresets_batch hpre
  obtain ⟨observations, rfl, hobs⟩ := upsertObservations_batch hobserved
  obtain ⟨_, rfl⟩ := upsertProviderConnectionRow_ok hprov
  exact ⟨⟨⟨models.find?, hrts, hmarks⟩, hobs⟩, hpres, rfl, rfl, rfl, rfl, rfl, rfl⟩

theorem commitModelRefresh_ok {expected : ProviderConnection}
    (h : commitModelRefresh X uuid expected refreshed routes presets observations observedAt store
      = .ok store') :
    expected.id = refreshed.id ∧ Writes unlistedRoute refreshed.id
        (routes.map (seenRoute (routesOf store refreshed.id) observedAt))
        (((routesOf store refreshed.id).map ModelRoute.id).filter
          fun id => decide (id ∉ routes.map ModelRoute.id))
        (routes.map ModelRoute.id) observations store store' := by
  obtain ⟨hid, h⟩ := guard_ok.mp h
  obtain ⟨_, _, _, h⟩ := rest₃ h
  obtain ⟨listed, hlisted, _, _, marked, hmarked, h⟩ := steps₃ h
  obtain ⟨preset, hpre, observed, hobserved, h⟩ := steps₂ h
  obtain ⟨provider, hprov, _, _, h⟩ := steps₂ h
  obtain rfl := pure_inj h
  obtain ⟨models, rfl, hrts⟩ := upsertSeenRoutes_batch hlisted
  obtain ⟨models', rfl, hmarks⟩ := markUnlisted_batch hmarked
  obtain ⟨_, rfl⟩ := upsertNewPresets_frame hpre
  obtain ⟨observations, rfl, hobs⟩ :=
    upsertObservations_batch (upsertRefreshObservations_ok hobserved)
  obtain ⟨_, rfl⟩ := upsertProviderConnectionRow_ok hprov
  exact ⟨hid, ⟨models.find?, hrts, hmarks⟩, hobs⟩

/-! ### Routes -/

theorem over_eq_self {route : ModelRoute} (hid : old.id = route.id)
    (hident : old.identity = route.identity) (hfirst : old.firstSeenAt = route.firstSeenAt) :
    route.over old = route := by
  obtain ⟨hconn, hfam, hmod, hconfig⟩ := ProviderStore.RouteIdentity.mk.inj hident
  rw [ModelRoute.over, hid, hconn, hfam, hmod, hconfig, hfirst, ite_self]

section Routes

variable {mark : ModelRoute → ModelRoute} {connectionId : String} {routes : List ModelRoute}
  {missing listedIds : List String} {observations : List CapabilityObservation}

section

variable (h : Writes mark connectionId routes missing listedIds observations store store')
include h

/-- A route that is neither written nor marked stays. -/
theorem Writes.other (hrts : name ∉ routes.map ModelRoute.id) (hmissing : name ∉ missing) :
    store'.provider.providerModels.find? name = store.provider.providerModels.find? name := by
  obtain ⟨listed, hlisted, hmarks⟩ := h.routes
  rw [hmarks.lookup_of_not_mem (by simpa using hmissing), hlisted.lookup_of_not_mem hrts]

/-- A route of the connection that is marked, and not written. -/
theorem Writes.marked (hnodup : missing.Nodup) (hrts : route.id ∉ routes.map ModelRoute.id)
    (hmissing : route.id ∈ missing) (hconn : route.connectionId = connectionId)
    (hstored : store.provider.providerModels.find? route.id = some route) :
    store'.provider.providerModels.find? route.id = some (mark route) := by
  obtain ⟨listed, hlisted, hmarks⟩ := h.routes
  have hafter : store'.provider.providerModels.find? route.id =
      markRoute mark connectionId route.id (listed route.id) :=
    (hmarks.lookup_of_mem (by simpa using hnodup) hmissing).2
  rw [hafter, hlisted.lookup_of_not_mem hrts, hstored, markRoute, Option.map_some, if_pos hconn]

/-- A route that is written, and not marked, is stored as it is: what an upsert would keep of a
    stored row is the same. -/
theorem Writes.written (hnodup : (routes.map ModelRoute.id).Nodup) (hrt : route ∈ routes)
    (hmissing : route.id ∉ missing)
    (hfirst : ∀ old, store.provider.providerModels.find? route.id = some old →
      old.identity = route.identity → old.firstSeenAt = route.firstSeenAt) :
    store'.provider.providerModels.find? route.id = some route := by
  obtain ⟨listed, hlisted, hmarks⟩ := h.routes
  rw [hmarks.lookup_of_not_mem (by simpa using hmissing)]
  obtain ⟨hkeeps, hwrite⟩ := hlisted.lookup_of_mem hnodup hrt
  rw [hwrite, writeRoute]
  cases hold : store.provider.providerModels.find? route.id with
  | none => rfl
  | some old =>
    have hident := hkeeps old hold
    rw [Option.elim_some,
      over_eq_self (Table.find?_eq_some.mp hold).2 hident (hfirst old hold hident)]

end

end Routes

section Commit

variable {diff : ModelSyncDiff} {jobId : String}

theorem mem_missingIds {id : String} : id ∈ missingIds diff ↔
    id ∈ diff.expectedModelRoutes.map ModelRoute.id ∧ id ∉ diff.listedRoutes.map ModelRoute.id := by
  rw [missingIds, mem_canonical, mem_filter, decide_eq_true_eq]

theorem nodup_missingIds : (missingIds diff).Nodup := by
  have hlt : (missingIds diff).Pairwise fun a b => id a < id b :=
    pairwise_lt_canonical Function.injective_id
  exact hlt.imp fun h => ne_of_lt h

/-- The expected routes are those of the connection. -/
def Expects (diff : ModelSyncDiff) (store : Store) : Prop :=
  routesOf store diff.connectionId = sortByKey ModelRoute.id diff.expectedModelRoutes

theorem Expects.mem_iff (h : Expects diff store) : route ∈ diff.expectedModelRoutes ↔
    route ∈ store.provider.providerModels.rows ∧ route.connectionId = diff.connectionId := by
  have hsrt : route ∈ routesOf store diff.connectionId ↔ route ∈ diff.expectedModelRoutes := by
    rw [h, mem_sortByKey]
  rw [← hsrt, routesOf, mem_sortByKey, mem_filter, beq_iff_eq]

theorem Expects.stored (h : Expects diff store) (hrt : route ∈ diff.expectedModelRoutes) :
    store.provider.providerModels.find? route.id = some route :=
  Table.find?_eq_some.mpr ⟨(h.mem_iff.mp hrt).1, rfl⟩

/-- The expected route of a name. -/
theorem find?_expected (hl : Listing X diff) (hrt : route ∈ diff.expectedModelRoutes) (hname : route.id = name) {routes : List ModelRoute}
    (hmem : ∀ other, other ∈ routes ↔ other ∈ diff.expectedModelRoutes) :
    (routes.find? fun existing => existing.id == name) = some route := by
  cases hfind : routes.find? fun existing => existing.id == name with
  | none =>
    have hnot := List.find?_eq_none.mp hfind route ((hmem route).mpr hrt)
    exact absurd (beq_iff_eq.mpr hname) hnot
  | some other =>
    have hoth := (hmem other).mp (mem_of_find?_eq_some hfind)
    have hid : other.id = name := by simpa using find?_some hfind
    rw [inj_on_of_nodup_map hl.expectedNodup hoth hrt (hid.trans hname.symm)]

/-- A listed route that is stored was first seen when it says. -/
theorem Listing.firstSeen (hl : Listing X diff) (hexps : Expects diff store)
    (hrt : route ∈ diff.listedRoutes)
    (hold : store.provider.providerModels.find? route.id = some old)
    (hident : old.identity = route.identity) : old.firstSeenAt = route.firstSeenAt := by
  obtain ⟨hconn, _, _, hfirst⟩ := hl.listed route hrt
  obtain ⟨hstored, hid⟩ := Table.find?_eq_some.mp hold
  have hsame : old.connectionId = route.connectionId :=
    congrArg ProviderStore.RouteIdentity.connectionId hident
  have hexp : old ∈ diff.expectedModelRoutes := hexps.mem_iff.mpr ⟨hstored, hsame.trans hconn⟩
  rw [hfirst, find?_expected hl hexp hid fun other => Iff.rfl]
  rfl

/-- A route of a checked listing is what a refresh stores of it. -/
theorem Listing.seenRoute_eq (hl : Listing X diff) (hexps : Expects diff store)
    (hrt : route ∈ diff.listedRoutes) :
    seenRoute (routesOf store diff.connectionId) diff.observedAt route = route := by
  obtain ⟨_, hmiss, hseen, hfirst⟩ := hl.listed route hrt
  have hmem : ∀ other, other ∈ routesOf store diff.connectionId ↔
      other ∈ diff.expectedModelRoutes := by
    intro other
    rw [hexps, mem_sortByKey]
  have hfind : ((routesOf store diff.connectionId).find? fun old => old.id == route.id) =
      diff.expectedModelRoutes.find? fun old => old.id == route.id := by
    cases hold : diff.expectedModelRoutes.find? fun old => old.id == route.id with
    | some old =>
      have hid : old.id = route.id := by simpa using find?_some hold
      exact find?_expected hl (mem_of_find?_eq_some hold) hid hmem
    | none =>
      rw [List.find?_eq_none] at hold ⊢
      intro old hmemOld
      exact hold old ((hmem old).mp hmemOld)
  rw [seenRoute, hfind, ← hfirst, ← hmiss, ← hseen]

end Commit

/-! ### The effect -/

/-- What a commit leaves of the provider graph. -/
structure Applies (jobId : String) (diff : ModelSyncDiff) (store store' : Store) : Prop where
  /-- Each listed route is stored as it was reviewed. -/
  listed : ∀ route ∈ diff.listedRoutes,
    store'.provider.providerModels.find? route.id = some route ∧ route.missCount = 0
  /-- The expected routes are those that the store had of the connection; each that was not listed
      counts the miss. -/
  expected : ∀ route, route ∈ diff.expectedModelRoutes ↔
    route ∈ store.provider.providerModels.rows ∧ route.connectionId = diff.connectionId
  missing : ∀ route ∈ diff.expectedModelRoutes, route.id ∉ diff.listedRoutes.map ModelRoute.id →
    store'.provider.providerModels.find? route.id = some (missRoute jobId route)
  otherRoutes : ∀ id, id ∉ diff.listedRoutes.map ModelRoute.id →
    id ∉ diff.expectedModelRoutes.map ModelRoute.id →
    store'.provider.providerModels.find? id = store.provider.providerModels.find? id
  /-- The observations by the provider of the listed routes are the reviewed ones. -/
  observed : ∀ observation : CapabilityObservation, observation.source = .providerApi →
    observation.modelRouteId ∈ diff.listedRoutes.map ModelRoute.id →
    (store'.observations.find? observation.id = some observation ↔
      observation ∈ diff.capabilityObservations)
  otherObservations : ∀ observation : CapabilityObservation, ¬ (observation.source = .providerApi ∧
      observation.modelRouteId ∈ diff.listedRoutes.map ModelRoute.id) →
    (store'.observations.find? observation.id = some observation ↔
      store.observations.find? observation.id = some observation)
  /-- A preset of a stored route stays; the initial presets are added. -/
  presets : ∀ preset : GenerationPreset,
    store.provider.generationPresets.find? preset.id = some preset →
    store.provider.hasRoute preset.modelRouteId = true →
    store'.provider.generationPresets.find? preset.id = some preset
  initialPresets : ∀ preset ∈ diff.initialPresets,
    store.provider.generationPresets.find? preset.id = none →
    store'.provider.generationPresets.find? preset.id = some preset
  noOtherPresets : ∀ id, id ∉ diff.initialPresets.map GenerationPreset.id →
    store'.provider.generationPresets.find? id = store.provider.generationPresets.find? id
  /-- The connection is connected, and the others stay. -/
  connection : (store'.provider.activeConnection diff.connectionId).map ConnectionRow.connection =
    some (committedConnection diff.expectedConnection diff.observedAt)
  otherConnections : ∀ id, id ≠ diff.connectionId →
    store'.provider.providerConnections.find? id = store.provider.providerConnections.find? id
  rest : SameRest store.provider store'.provider

/-- What a refresh for the same listing leaves instead: it has no job that a missing route could
    name. -/
structure Agrees (jobId : String) (diff : ModelSyncDiff) (committed refreshed : Store) : Prop where
  routes : ∀ id, committed.provider.providerModels.find? id =
    (refreshed.provider.providerModels.find? id).map fun route =>
      if route.connectionId = diff.connectionId ∧
          route.id ∉ diff.listedRoutes.map ModelRoute.id then
        { route with lastReconciledSyncJobId := some jobId }
      else route
  observations : ∀ id, committed.observations.find? id = refreshed.observations.find? id

section Effect

variable {diff : ModelSyncDiff} {jobId : String} {mark : ModelRoute → ModelRoute}
  {missing : List String}

/-- An observation of a checked listing is one by the provider. -/
theorem Listing.providerApi (hl : Listing X diff)
    (hX : X.validateProviderApiSnapshotObservation = validateProviderApiSnapshotObservation S uuid)
    (hobservation : observation ∈ diff.capabilityObservations) :
    observation.source = .providerApi := by
  have hval := (hl.observations observation hobservation).2
  rw [hX, validateProviderApiSnapshotObservation] at hval
  obtain ⟨_, _, _, hval⟩ := rest₃ hval
  exact (guard_ok.mp hval).1.1

theorem find?_deleteProviderObservations {id : String} :
    (deleteProviderObservations listedIds store).observations.find? id =
      (store.observations.find? id).filter fun observation =>
        !(decide (observation.modelRouteId ∈ listedIds) && observation.source == .providerApi) :=
  Table.find?_deleteWhere

/-- What is left before the observations are written is not by the provider, or not of a listed
    route. -/
theorem find?_left {id : String} :
    (deleteProviderObservations listedIds store).observations.find? id = some observation ↔
      store.observations.find? id = some observation ∧
        ¬ (observation.source = .providerApi ∧ observation.modelRouteId ∈ listedIds) := by
  rw [find?_deleteProviderObservations, Option.filter_eq_some_iff]
  refine and_congr_right fun _ => ?_
  rw [Bool.not_eq_true', Bool.and_eq_false_iff, decide_eq_false_iff_not, beq_eq_false_iff_ne,
    ← not_and_or, and_comm]

section

variable {routes : List ModelRoute}
  (h : Writes mark diff.connectionId routes missing (diff.listedRoutes.map ModelRoute.id)
    diff.capabilityObservations store store')
include h

theorem Writes.observed (hl : Listing X diff) (hsrc : observation.source = .providerApi)
    (hlisted : observation.modelRouteId ∈ diff.listedRoutes.map ModelRoute.id) :
    store'.observations.find? observation.id = some observation ↔
      observation ∈ diff.capabilityObservations := by
  constructor
  · intro hfind
    by_cases hmem : observation.id ∈ diff.capabilityObservations.map CapabilityObservation.id
    · obtain ⟨written, hwritten, hid⟩ := mem_map.mp hmem
      have hafter := (h.observations.lookup_of_mem hl.observationsNodup hwritten).2
      rw [hid, hfind] at hafter
      rw [some.inj hafter]
      exact hwritten
    · rw [h.observations.lookup_of_not_mem hmem, find?_left] at hfind
      exact absurd ⟨hsrc, hlisted⟩ hfind.2
  · intro hmem
    exact (h.observations.lookup_of_mem hl.observationsNodup hmem).2

theorem Writes.otherObservation (hl : Listing X diff)
    (hX : X.validateProviderApiSnapshotObservation = validateProviderApiSnapshotObservation S uuid)
    (hoth : ¬ (observation.source = .providerApi ∧
      observation.modelRouteId ∈ diff.listedRoutes.map ModelRoute.id)) :
    store'.observations.find? observation.id = some observation ↔
      store.observations.find? observation.id = some observation := by
  constructor
  · intro hfind
    by_cases hmem : observation.id ∈ diff.capabilityObservations.map CapabilityObservation.id
    · obtain ⟨written, hwritten, hid⟩ := mem_map.mp hmem
      have hafter := (h.observations.lookup_of_mem hl.observationsNodup hwritten).2
      rw [hid, hfind] at hafter
      rw [some.inj hafter] at hoth
      exact absurd ⟨hl.providerApi hX hwritten, (hl.observations written hwritten).1⟩ hoth
    · rw [h.observations.lookup_of_not_mem hmem, find?_left] at hfind
      exact hfind.1
  · intro hstored
    have hleft := find?_left.mpr ⟨hstored, hoth⟩
    have hmem : observation.id ∉ diff.capabilityObservations.map CapabilityObservation.id := by
      intro hmem
      obtain ⟨written, hwritten, hid⟩ := mem_map.mp hmem
      -- a row that is written over has the route and the source of the new one
      have hkeeps := h.observations.required hl.observationsNodup hwritten
      rw [hid] at hkeeps
      obtain ⟨hrt, _, hsrc⟩ := hkeeps observation hleft
      refine hoth ⟨hsrc.trans (hl.providerApi hX hwritten), ?_⟩
      rw [hrt]
      exact (hl.observations written hwritten).1
    rw [h.observations.lookup_of_not_mem hmem]
    exact hleft

end

/-! ### Presets and the connection -/

/-- The route of an initial preset is new to the store. -/
theorem Writes.newRoute
    (h : Writes mark diff.connectionId diff.listedRoutes missing
      (diff.listedRoutes.map ModelRoute.id) diff.capabilityObservations store store')
    (hl : Listing X diff) (hexps : Expects diff store) (hpre : preset ∈ diff.initialPresets) :
    store.provider.providerModels.find? preset.modelRouteId = none := by
  obtain ⟨hmem, hnew⟩ := hl.presets preset hpre
  obtain ⟨route, hrt, hid⟩ := mem_map.mp hmem
  obtain ⟨listed, hlisted, _⟩ := h.routes
  have hkeeps := hlisted.required hl.listedNodup hrt
  cases hold : store.provider.providerModels.find? preset.modelRouteId with
  | none => rfl
  | some old =>
    -- a stored route would belong to the connection, and be expected
    rw [hid] at hkeeps
    have hconn : old.connectionId = route.connectionId :=
      congrArg ProviderStore.RouteIdentity.connectionId (hkeeps old hold)
    obtain ⟨hrow, hname⟩ := Table.find?_eq_some.mp hold
    have hexp : old ∈ diff.expectedModelRoutes :=
      hexps.mem_iff.mpr ⟨hrow, hconn.trans (hl.listed route hrt).1⟩
    rw [← hname] at hnew
    exact absurd (mem_map_of_mem hexp) hnew

/-- A preset of a stored route is not written over. -/
theorem preset_stays (hl : Listing X diff)
    (hnew : ∀ preset ∈ diff.initialPresets,
      store.provider.providerModels.find? preset.modelRouteId = none)
    (h : Batch GenerationPreset.id writePreset KeepsOwner diff.initialPresets
      store.provider.generationPresets.find? store'.provider.generationPresets.find?)
    (hstored : store.provider.generationPresets.find? preset.id = some preset)
    (hrt : store.provider.hasRoute preset.modelRouteId = true) :
    store'.provider.generationPresets.find? preset.id = some preset := by
  have hmem : preset.id ∉ diff.initialPresets.map GenerationPreset.id := by
    intro hmem
    obtain ⟨initial, hinitial, hid⟩ := mem_map.mp hmem
    have hkeeps := h.required hl.presetsNodup hinitial
    rw [hid] at hkeeps
    have howner := hkeeps preset hstored
    rw [ProviderStore.Store.hasRoute, howner, hnew initial hinitial] at hrt
    cases hrt
  rw [h.lookup_of_not_mem hmem]
  exact hstored

theorem initialPreset_added (hl : Listing X diff)
    (h : Batch GenerationPreset.id writePreset KeepsOwner diff.initialPresets
      store.provider.generationPresets.find? store'.provider.generationPresets.find?) (hpre : preset ∈ diff.initialPresets)
    (hfree : store.provider.generationPresets.find? preset.id = none) :
    store'.provider.generationPresets.find? preset.id = some preset := by
  rw [(h.lookup_of_mem hl.presetsNodup hpre).2, hfree]
  rfl

/-- The connection keeps everything but its status and its time. -/
theorem connection_committed (hcur : loadProviderConnection uuid connectionId store = .ok current)
    (hwritten : store'.provider.providerConnections =
      (store.provider.putConnection (committedConnection current observedAt)).providerConnections) :
    (store'.provider.activeConnection connectionId).map ConnectionRow.connection =
        some (committedConnection current observedAt) ∧
      ∀ id, id ≠ connectionId → store'.provider.providerConnections.find? id =
          store.provider.providerConnections.find? id := by
  obtain ⟨row, hrow, rfl⟩ := last_step hcur
  obtain ⟨hfind, hactv⟩ := Option.filter_eq_some_iff.mp (okOr_ok.mp hrow)
  have hid : row.id = connectionId := (Table.find?_eq_some.mp hfind).2
  have hkey : (committedConnection row.connection observedAt).id = connectionId := hid
  have hlookup : ∀ id, store'.provider.providerConnections.find? id =
      if (committedConnection row.connection observedAt).id = id then
        some ((store.provider.providerConnections.find? id).elim
          ⟨committedConnection row.connection observedAt, none⟩
          (committedConnection row.connection observedAt).over)
      else store.provider.providerConnections.find? id := by
    intro id
    rw [hwritten]
    exact Table.find?_upsert
  constructor
  · rw [ProviderStore.Store.activeConnection, hlookup, if_pos hkey, hfind, Option.elim_some,
      Option.filter_some]
    have hstill : ((committedConnection row.connection observedAt).over row).isActive = true :=
      hactv
    rw [if_pos hstill]
    rfl
  · intro id hne
    rw [hlookup, if_neg]
    rw [hkey]
    exact hne.symm

end Effect

/-! ### Every commit -/

section Commits

variable {S : SnapshotExternals} {jobId : String} {review : ModelSyncReview}

theorem applies_of_applyReview
    (hX : X.validateProviderApiSnapshotObservation = validateProviderApiSnapshotObservation S uuid)
    (hl : Listing X review.diff) (hexps : Expects review.diff store)
    (hcur : loadProviderConnection uuid review.diff.connectionId store =
      .ok review.diff.expectedConnection)
    (h : applyReview X uuid jobId review.diff.connectionId review.diff.expectedConnection review
      store = .ok store') : Applies jobId review.diff store store' := by
  obtain ⟨hwrites, hpres, hconns, hrest⟩ := applyReview_ok h
  obtain ⟨hconn, hothers⟩ := connection_committed hcur hconns
  have hmissing : ∀ route ∈ review.diff.listedRoutes, route.id ∉ missingIds review.diff := by
    intro route hrt hmem
    exact (mem_missingIds.mp hmem).2 (mem_map_of_mem hrt)
  have hlisted : ∀ route ∈ review.diff.listedRoutes,
      store'.provider.providerModels.find? route.id = some route := by
    intro route hrt
    refine hwrites.written hl.listedNodup hrt (hmissing route hrt) ?_
    intro old hold hident
    exact hl.firstSeen hexps hrt hold hident
  exact
    { listed := fun route hrt => ⟨hlisted route hrt, (hl.listed route hrt).2.1⟩
      expected := fun route => hexps.mem_iff
      missing := fun route hrt hunl =>
        hwrites.marked nodup_missingIds hunl
          (mem_missingIds.mpr ⟨mem_map_of_mem hrt, hunl⟩) (hl.expected route hrt)
          (hexps.stored hrt)
      otherRoutes := fun name hunl hunexpected =>
        hwrites.other hunl fun hmem => hunexpected (mem_missingIds.mp hmem).1
      observed := fun observation hsrc hlisted => hwrites.observed hl hsrc hlisted
      otherObservations := fun observation hoth => hwrites.otherObservation hl hX hoth
      presets := fun preset hstored hrt =>
        preset_stays hl (fun preset hpre => hwrites.newRoute hl hexps hpre) hpres hstored hrt
      initialPresets := fun preset hpre hfree => initialPreset_added hl hpres hpre hfree
      noOtherPresets := fun name hname => hpres.lookup_of_not_mem hname
      connection := hconn
      otherConnections := hothers
      rest := hrest }

/-- What a refresh for the same listing leaves. -/
theorem agrees_of_applyReview (hl : Listing X review.diff) (hexps : Expects review.diff store)
    (h : applyReview X uuid jobId review.diff.connectionId review.diff.expectedConnection review
      store = .ok store')
    (hrefresh : commitModelRefresh X uuid review.diff.expectedConnection refreshed
      review.diff.listedRoutes presets review.diff.capabilityObservations review.diff.observedAt
      store = .ok refreshedStore) : Agrees jobId review.diff store' refreshedStore := by
  obtain ⟨hwrites, _⟩ := applyReview_ok h
  obtain ⟨hid, hrefreshes⟩ := commitModelRefresh_ok hrefresh
  rw [← hid, ← hl.connection] at hrefreshes
  -- both write the same rows
  have hseen : review.diff.listedRoutes.map
      (seenRoute (routesOf store review.diff.connectionId) review.diff.observedAt) =
      review.diff.listedRoutes :=
    (map_congr_left fun route hrt => hl.seenRoute_eq hexps hrt).trans (List.map_id _)
  rw [hseen] at hrefreshes
  generalize hunl : (((routesOf store review.diff.connectionId).map ModelRoute.id).filter
    fun id => decide (id ∉ review.diff.listedRoutes.map ModelRoute.id)) = unlisted at hrefreshes
  have hmemUnl : ∀ name, name ∈ unlisted ↔
      name ∈ review.diff.expectedModelRoutes.map ModelRoute.id ∧
        name ∉ review.diff.listedRoutes.map ModelRoute.id := by
    intro name
    rw [← hunl, mem_filter, decide_eq_true_eq, hexps,
      ((perm_sortByKey ModelRoute.id _).map ModelRoute.id).mem_iff]
  have hnodup : unlisted.Nodup := by
    rw [← hunl, hexps]
    exact (((perm_sortByKey ModelRoute.id _).map ModelRoute.id).nodup_iff.mpr
      hl.expectedNodup).filter _
  refine ⟨fun name => ?_, fun name => ?_⟩
  · by_cases hlisted : name ∈ review.diff.listedRoutes.map ModelRoute.id
    · obtain ⟨route, hrt, rfl⟩ := mem_map.mp hlisted
      have hfirst : ∀ old, store.provider.providerModels.find? route.id = some old →
          old.identity = route.identity → old.firstSeenAt = route.firstSeenAt :=
        fun old hold => hl.firstSeen hexps hrt hold
      rw [hwrites.written hl.listedNodup hrt (fun h => (mem_missingIds.mp h).2 hlisted) hfirst,
        hrefreshes.written hl.listedNodup hrt (fun h => ((hmemUnl _).mp h).2 hlisted)
          hfirst, map_some, if_neg fun h => h.2 hlisted]
    · by_cases hexp : name ∈ review.diff.expectedModelRoutes.map ModelRoute.id
      · obtain ⟨route, hrt, rfl⟩ := mem_map.mp hexp
        have hconn := hl.expected route hrt
        have hstored := hexps.stored hrt
        rw [hwrites.marked nodup_missingIds hlisted (mem_missingIds.mpr ⟨hexp, hlisted⟩)
            hconn hstored,
          hrefreshes.marked hnodup hlisted ((hmemUnl _).mpr ⟨hexp, hlisted⟩)
            hconn hstored, map_some]
        have hboth : (unlistedRoute route).connectionId = review.diff.connectionId ∧
            (unlistedRoute route).id ∉ review.diff.listedRoutes.map ModelRoute.id :=
          ⟨hconn, hlisted⟩
        rw [if_pos hboth]
        rfl
      · rw [hwrites.other hlisted fun h => hexp (mem_missingIds.mp h).1,
          hrefreshes.other hlisted fun h => hexp ((hmemUnl _).mp h).1]
        cases hfind : store.provider.providerModels.find? name with
        | none => rfl
        | some route =>
          obtain ⟨hrow, rfl⟩ := Table.find?_eq_some.mp hfind
          rw [Option.map_some, if_neg]
          -- a route of the connection would have been expected
          intro h
          exact hexp (mem_map_of_mem (hexps.mem_iff.mpr ⟨hrow, h.1⟩))
  · rw [hwrites.observations.lookup_eq hl.observationsNodup,
      hrefreshes.observations.lookup_eq hl.observationsNodup]

theorem loadProviderConnection_id
    (h : loadProviderConnection uuid connectionId store = .ok current) :
    current.id = connectionId := by
  obtain ⟨row, hrow, rfl⟩ := last_step h
  exact (Table.find?_eq_some.mp (Option.filter_eq_some_iff.mp (okOr_ok.mp hrow)).1).2

/-- What a commit reads, and the graph that it writes. -/
theorem commitTransaction_applyReview {revision : Nat}
    (h : commitTransaction X uuid jobId revision now store = .ok store') :
    ∃ stored review written, loadModelSyncJob X uuid jobId store = .ok stored ∧
      stored.job.review = some review ∧ Listing X review.diff ∧ Expects review.diff store ∧
      loadProviderConnection uuid review.diff.connectionId store =
        .ok review.diff.expectedConnection ∧
      applyReview X uuid jobId review.diff.connectionId review.diff.expectedConnection review
        store = .ok written ∧ SameGraph written store' := by
  obtain ⟨stored, hstored, _, h⟩ := step_guard h
  obtain ⟨review, hreview, _, _, _, hval, h⟩ := steps₃ h
  obtain ⟨_, current, hcur, h⟩ := guard_step h
  obtain ⟨⟨_, rfl⟩, h⟩ := guard_ok.mp h
  obtain ⟨_, _, h⟩ := rest₂ h
  obtain ⟨hrts, h⟩ := guard_ok.mp h
  obtain ⟨written, hwritten, next, hnext, h⟩ := steps₂ h
  obtain rfl := nextRevisionOf_ok hnext
  obtain ⟨⟨changed, updated⟩, hupdate, _, hchanged, happ⟩ := steps₂ h
  obtain ⟨⟨old, hold, hp⟩, rfl⟩ := exists_of_changed hupdate hchanged
  obtain ⟨rfl, hst, rfl⟩ := matchesJob_iff.mp hp
  obtain ⟨_, hsame⟩ := moves_of_update hold hp (fun row hrow => (matchesJob_iff.mp hrow).1)
    (.complete now hst) rfl happ
  have hl := listing_of_validate (mapError_ok.mp hval)
  have hconn : stored.job.connectionId = review.diff.connectionId := by
    rw [hl.connection]
    exact (loadProviderConnection_id hcur).symm
  rw [hconn] at hcur hrts hwritten
  exact ⟨stored, review, written, hstored, okOr_ok.mp hreview, hl, hrts, hcur, hwritten, hsame⟩

theorem Applies.of_sameGraph {written : Store}
    (h : Applies jobId diff store written) (hsame : SameGraph written store') :
    Applies jobId diff store store' := by
  obtain ⟨hprov, hobs⟩ := hsame
  exact
    { listed := hprov ▸ h.listed
      expected := h.expected
      missing := hprov ▸ h.missing
      otherRoutes := hprov ▸ h.otherRoutes
      observed := hobs ▸ h.observed
      otherObservations := hobs ▸ h.otherObservations
      presets := hprov ▸ h.presets
      initialPresets := hprov ▸ h.initialPresets
      noOtherPresets := hprov ▸ h.noOtherPresets
      connection := hprov ▸ h.connection
      otherConnections := hprov ▸ h.otherConnections
      rest := hprov ▸ h.rest }

/-- **Every commit that goes through** applies the review that its job holds, and leaves of the
    routes and the observations what a refresh for the same listing leaves, but for the job that
    the missing routes name. -/
theorem commitTransaction_applies {revision : Nat} {now : String}
    (hX : X.validateProviderApiSnapshotObservation = validateProviderApiSnapshotObservation S uuid)
    (h : commitTransaction X uuid jobId revision now store = .ok store') :
    ∃ stored review, loadModelSyncJob X uuid jobId store = .ok stored ∧
      stored.job.review = some review ∧ Applies jobId review.diff store store' ∧
      ∀ refreshed presets refreshedStore,
        commitModelRefresh X uuid review.diff.expectedConnection refreshed
          review.diff.listedRoutes presets review.diff.capabilityObservations
          review.diff.observedAt store = .ok refreshedStore →
        Agrees jobId review.diff store' refreshedStore := by
  obtain ⟨stored, review, written, hstored, hreview, hl, hexps, hcur, hwritten,
    hprov, hobs⟩ := commitTransaction_applyReview h
  have happlies := applies_of_applyReview hX hl hexps hcur hwritten
  refine ⟨stored, review, hstored, hreview, happlies.of_sameGraph ⟨hprov, hobs⟩, ?_⟩
  intro refreshed presets refreshedStore hrefresh
  have hagrees := agrees_of_applyReview hl hexps hwritten hrefresh
  exact ⟨hprov ▸ hagrees.routes, hobs ▸ hagrees.observations⟩

end Commits

/-! ### A sample -/

/-- A day later. -/
def sampleSnapshot : SnapshotExternals where
  freshUntil _ := some "2026-01-02T00:00:02+00:00"
  validateCapabilityStructuredValue _ := .ok ()

/-- A route that the listing does not have. -/
def missedRoute : ModelRoute :=
  { sampleRoute with
    id := "s"
    modelId := "old"
    lastReconciledSyncJobId := none
    metadataSyncJobId := none
    firstSeenAt := "2026-01-01T00:00:00+00:00"
    lastSeenAt := some "2026-01-01T00:00:00+00:00" }

def sampleObservation : CapabilityObservation where
  id := "o"
  modelRouteId := "r"
  key := .toolCalling
  value := .boolean true
  status := .verified
  source := .providerApi
  confidence := .high
  observedAt := "2026-01-01T00:00:02+00:00"
  expiresAt := some "2026-01-02T00:00:02+00:00"
  evidenceRef := none

/-- One route is new, with a preset and an observation, and one is missing. -/
def committedReview : ModelSyncReview :=
  { sampleReview with
    diff := { sampleReview.diff with
      expectedModelRoutes := [missedRoute]
      missingModelRouteIds := ["s"]
      capabilityObservations := [sampleObservation] } }

def committedExternals : Externals :=
  { sampleExternals with
    parseReview := fun _ => .ok committedReview
    validateProviderApiSnapshotObservation :=
      validateProviderApiSnapshotObservation sampleSnapshot "" }

def committingJob : JobRow where
  id := "j"
  connectionId := "c"
  state := .committing
  revision := 4
  nextEventSequence := 5
  expectedConnection := sampleConnection
  baseGraphSha256 := "1f9d3a7b5c0e48d6a2b4f7c9e1d3a5b7c9d1e3f5a7b9c1d3e5f7a9b1c3d5e7f9"
  reviewJson := some "\x7b\x7d"
  reviewSha256 := some committedReview.sha256
  approvedReviewSha256 := some committedReview.sha256
  approvedAt := some "2026-01-01T00:00:03+00:00"
  failure := none
  createdAt := "2026-01-01T00:00:00+00:00"
  updatedAt := "2026-01-01T00:00:03+00:00"

def committingStore : Store where
  provider := { sampleStore.provider with providerModels := ⟨[missedRoute], by decide⟩ }
  observations := .empty
  jobs := ⟨[committingJob], by decide⟩
  outbox := .empty

def commitSample : CoreResult Store :=
  commitTransaction committedExternals "" "j" 4 "2026-01-01T00:00:04+00:00" committingStore

def refreshSample : CoreResult Store :=
  commitModelRefresh committedExternals "" sampleConnection sampleConnection
    committedReview.diff.listedRoutes committedReview.diff.initialPresets
    committedReview.diff.capabilityObservations committedReview.diff.observedAt committingStore

set_option maxRecDepth 8000 in
/-- The commit writes the initial preset, and the job into the missing route. -/
theorem commitSample_eq : commitSample.toOption.map (fun store =>
    ((store.provider.generationPresets.find? "g").isSome,
      (store.provider.providerModels.find? "s").map ModelRoute.lastReconciledSyncJobId)) =
    some (true, some (some "j")) := by
  decide

set_option maxRecDepth 8000 in
/-- The refresh has no job to write. -/
theorem refreshSample_eq : refreshSample.toOption.map (fun store =>
    (store.provider.providerModels.find? "s").map ModelRoute.lastReconciledSyncJobId) =
    some (some none) := by
  decide

theorem commitTransaction_applies_commitSample : ∃ store' stored review,
    commitSample = .ok store' ∧
      loadModelSyncJob committedExternals "" "j" committingStore = .ok stored ∧
      stored.job.review = some review ∧ Applies "j" review.diff committingStore store' := by
  have hsample := commitSample_eq
  cases hcommit : commitSample with
  | error e =>
    rw [hcommit] at hsample
    cases hsample
  | ok store' =>
    have hX : committedExternals.validateProviderApiSnapshotObservation =
        validateProviderApiSnapshotObservation sampleSnapshot "" := rfl
    obtain ⟨stored, review, hstored, hreview, happlies, _⟩ := commitTransaction_applies hX hcommit
    exact ⟨store', stored, review, rfl, hstored, hreview, happlies⟩

/-- A commit adds presets, and differs from the refresh in a missing route. -/
theorem commitSample_differs : ∃ store' refreshed, commitSample = .ok store' ∧
    refreshSample = .ok refreshed ∧
    store'.provider.generationPresets ≠ committingStore.provider.generationPresets ∧
    store'.provider.providerModels.find? "s" ≠ refreshed.provider.providerModels.find? "s" := by
  have hsample := commitSample_eq
  have hoth := refreshSample_eq
  cases hcommit : commitSample with
  | error e =>
    rw [hcommit] at hsample
    cases hsample
  | ok store' =>
    cases hrefresh : refreshSample with
    | error e =>
      rw [hrefresh] at hoth
      cases hoth
    | ok refreshed =>
      rw [hcommit] at hsample
      rw [hrefresh] at hoth
      obtain ⟨hpre, hrt⟩ := Prod.mk.inj (some.inj hsample)
      have hrefreshed : (refreshed.provider.providerModels.find? "s").map
          ModelRoute.lastReconciledSyncJobId = some none := some.inj hoth
      refine ⟨store', refreshed, rfl, rfl, fun hsame => ?_, fun hsame => ?_⟩
      · rw [hsame] at hpre
        cases hpre
      · rw [← hsame, hrt] at hrefreshed
        cases hrefreshed

end LorePia.ModelSync
