import LorePia.Lib.Batch
import LorePia.ModelSync.Effects
import LorePia.ModelSync.Refresh
import LorePia.ProviderStore.Steps

namespace LorePia.ModelSync

open List

open Lib Lib.Stateful
open ProviderStore (ConnectionRow GenerationPreset ModelRoute ProviderConnection invalid)

/-!
# Model synchronization — what a commit writes

The commit of a job and the refresh are loops over the same tables.  Each loop is a batch of writes
to one table, so what they leave is read off the listing: no loop depends on the order of its rows.

* `upsertListedRoutes_batch`, `upsertSeenRoutes_batch`, … — the loops;
* `Listing` — what the check of a review guarantees of a listing;
* `Applies` — what a commit leaves of the provider graph;
* `commitTransaction_applies` — it does, and the refresh leaves the same.
-/

variable {observations : List CapabilityObservation} {presets : List GenerationPreset}
  {connectionId : String} {jobId : String}

variable {X : Externals}

/-! ### Single rows -/

/-- What an upsert makes of a stored route. -/
def writeRoute (route : ModelRoute) (old : Option ModelRoute) : Option ModelRoute :=
  some (old.elim route route.over)

/-- A stored route has the identity of the one that is written over it. -/
def KeepsIdentity (route : ModelRoute) (old : Option ModelRoute) : Prop :=
  ∀ row, old = some row → row.identity = route.identity

theorem upsertModelRouteRow_ok
    (h : ProviderStore.upsertModelRouteRow X.toExternals uuid route provider = .ok provider') :
    KeepsIdentity route (provider.providerModels.find? route.id) ∧
      provider' = provider.putRoute route := by
  obtain ⟨_, _, h⟩ := rest₂ h
  obtain ⟨hident, h⟩ := guard_ok.mp h
  refine ⟨?_, (ProviderStore.execute_enforce_ok h).1⟩
  intro old hold
  rw [hold, Option.all_some, beq_iff_eq] at hident
  exact hident

/-- What an upsert makes of a stored preset. -/
def writePreset (preset : GenerationPreset) (old : Option GenerationPreset) :
    Option GenerationPreset :=
  some (old.elim preset preset.over)

/-- A stored preset has the route of the one that is written over it. -/
def KeepsOwner (preset : GenerationPreset) (old : Option GenerationPreset) : Prop :=
  ∀ row, old = some row → row.modelRouteId = preset.modelRouteId

theorem upsertGenerationPresetRow_ok
    (h : ProviderStore.upsertGenerationPresetRow X.toExternals uuid preset provider
      = .ok provider') :
    KeepsOwner preset (provider.generationPresets.find? preset.id) ∧
      provider' = provider.putPreset preset := by
  obtain ⟨_, _, h⟩ := rest₂ h
  obtain ⟨howner, h⟩ := guard_ok.mp h
  refine ⟨?_, (ProviderStore.execute_enforce_ok h).1⟩
  intro old hold
  rw [ProviderStore.Store.presetRoute, hold, Option.map_some, Option.all_some, beq_iff_eq]
    at howner
  exact howner

/-- A stored observation has the route, the key and the source of the one written over it. -/
def KeepsSubject (observation : CapabilityObservation) (old : Option CapabilityObservation) :
    Prop :=
  ∀ row, old = some row → row.modelRouteId = observation.modelRouteId ∧
    row.key = observation.key ∧ row.source = observation.source

theorem upsertCapabilityObservationRow_ok
    (h : upsertCapabilityObservationRow X uuid observation store = .ok store') :
    KeepsSubject observation (store.observations.find? observation.id) ∧
      ∃ observations, store' = { store with observations } ∧ ∀ id, observations.find? id =
          if observation.id = id then some observation else store.observations.find? id := by
  obtain ⟨_, _, hsubj, h⟩ := step_guard h
  obtain ⟨_, h⟩ := guard_ok.mp h
  have hkeeps : KeepsSubject observation (store.observations.find? observation.id) := by
    intro old hold
    simpa [hold, and_assoc] using hsubj
  refine ⟨hkeeps, ?_⟩
  by_cases hsame : store.observations.find? observation.id = some observation
  · rw [if_pos hsame] at h
    obtain rfl := pure_inj h
    refine ⟨store.observations, rfl, fun id => ?_⟩
    by_cases hid : observation.id = id
    · rw [if_pos hid, ← hid, hsame]
    · rw [if_neg hid]
  · rw [if_neg hsame] at h
    obtain ⟨_, h⟩ := guard_ok.mp h
    obtain rfl := pure_inj h
    refine ⟨_, rfl, fun id => ?_⟩
    rw [Table.find?_upsert]
    by_cases hid : observation.id = id
    · subst hid
      rw [if_pos rfl, if_pos rfl]
      cases hold : store.observations.find? observation.id with
      | none => rfl
      | some old =>
        -- nothing of the row that is written over stays
        obtain ⟨hrt, hkey, hsrc⟩ := hkeeps old hold
        have hname : old.id = observation.id := (Table.find?_eq_some.mp hold).2
        show some (observation.over old) = some observation
        rw [CapabilityObservation.over, hrt, hkey, hsrc, hname]
    · rw [if_neg hid, if_neg hid]

/-! ### The loops of a commit -/

theorem upsertListedRoutes_batch
    (h : upsertListedRoutes X uuid connectionId seen routes store = .ok store') :
    ∃ models, store' =
        { store with provider := { store.provider with providerModels := models } } ∧
      Batch ModelRoute.id writeRoute KeepsIdentity routes store.provider.providerModels.find?
        models.find? := by
  induction routes generalizing seen store with
  | nil =>
    obtain rfl := pure_inj h
    exact ⟨store.provider.providerModels, rfl, .nil _⟩
  | cons route routes ih =>
    obtain ⟨_, _, _, h⟩ := rest₃ h
    obtain ⟨provider, hprov, h⟩ := bind_ok.mp h
    obtain ⟨hident, rfl⟩ := upsertModelRouteRow_ok hprov
    obtain ⟨models, rfl, hbatch⟩ := ih h
    exact ⟨models, rfl, .cons _ _ _ _ _ hident (fun id => Table.find?_upsert) hbatch⟩

/-- What marking makes of a stored route, where it belongs to the connection. -/
def markRoute (mark : ModelRoute → ModelRoute) (connectionId : String) (_ : String)
    (old : Option ModelRoute) : Option ModelRoute :=
  old.map fun route => if route.connectionId = connectionId then mark route else route

/-- Marking a route, as a write. -/
theorem find?_mark (hmark : ∀ route, (mark route).id = route.id)
    {models : Table String ModelRoute ModelRoute.id} {missingId id : String} :
    (models.updateWhere (fun route => route.id == missingId && route.connectionId == connectionId)
      mark hmark).find? id =
      if missingId = id then markRoute mark connectionId missingId (models.find? id)
      else models.find? id := by
  rw [Table.find?_updateWhere]
  cases hfind : models.find? id with
  | none =>
    split
    · rfl
    · rfl
  | some route =>
    have hid : route.id = id := (Table.find?_eq_some.mp hfind).2
    rw [Option.map_some, markRoute, Option.map_some]
    by_cases hsame : missingId = id
    · simp [hid, hsame]
    · have hne : route.id ≠ missingId := fun heq => hsame (heq.symm.trans hid)
      simp [hne, hsame]

theorem markAllMissing_batch {missingIds : List String}
    (h : markAllMissing X uuid jobId connectionId missingIds store = .ok store') :
    ∃ models, store' =
        { store with provider := { store.provider with providerModels := models } } ∧
      Batch id (markRoute (missRoute jobId) connectionId) (fun _ _ => True) missingIds
        store.provider.providerModels.find? models.find? := by
  induction missingIds generalizing store with
  | nil =>
    obtain rfl := pure_inj h
    exact ⟨store.provider.providerModels, rfl, .nil _⟩
  | cons missingId missingIds ih =>
    obtain ⟨marked, hmarked, h⟩ := bind_ok.mp h
    obtain ⟨provider, hprov, hmarked⟩ := bind_ok.mp hmarked
    obtain ⟨rfl, _⟩ := ProviderStore.execute_enforce_ok hprov
    obtain rfl := pure_inj hmarked
    obtain ⟨models, rfl, hbatch⟩ := ih h
    refine ⟨models, rfl, .cons _ _ _ _ _ trivial (fun id => ?_) hbatch⟩
    exact find?_mark (missRoute_id jobId)

theorem upsertInitialPresets_batch
    (h : upsertInitialPresets X uuid listedIds presets store = .ok store') :
    ∃ generationPresets, store' =
        { store with provider := { store.provider with generationPresets } } ∧
      Batch GenerationPreset.id writePreset KeepsOwner presets
        store.provider.generationPresets.find? generationPresets.find? := by
  induction presets generalizing store with
  | nil =>
    obtain rfl := pure_inj h
    exact ⟨store.provider.generationPresets, rfl, .nil _⟩
  | cons preset presets ih =>
    obtain ⟨_, provider, hprov, h⟩ := guard_step h
    obtain ⟨howner, rfl⟩ := upsertGenerationPresetRow_ok hprov
    obtain ⟨generationPresets, rfl, hbatch⟩ := ih h
    exact ⟨generationPresets, rfl, .cons _ _ _ _ _ howner (fun id => Table.find?_upsert) hbatch⟩

theorem upsertObservations_batch
    (h : upsertObservations X uuid listedIds observations store = .ok store') :
    ∃ written, store' = { store with observations := written } ∧
      Batch CapabilityObservation.id (fun observation _ => some observation) KeepsSubject
        observations store.observations.find? written.find? := by
  induction observations generalizing store with
  | nil =>
    obtain rfl := pure_inj h
    exact ⟨store.observations, rfl, .nil _⟩
  | cons observation observations ih =>
    obtain ⟨_, mid, hmid, h⟩ := guard_step h
    obtain ⟨hsubj, table, rfl, hwrite⟩ := upsertCapabilityObservationRow_ok hmid
    obtain ⟨written, rfl, hbatch⟩ := ih h
    exact ⟨written, rfl, .cons _ _ _ _ _ hsubj hwrite hbatch⟩

/-! ### The loops of a refresh -/

theorem upsertSeenRoutes_batch
    (h : upsertSeenRoutes X uuid connectionId existing observedAt seen routes store = .ok store') :
    ∃ models, store' =
        { store with provider := { store.provider with providerModels := models } } ∧
      Batch ModelRoute.id writeRoute KeepsIdentity (routes.map (seenRoute existing observedAt))
        store.provider.providerModels.find? models.find? := by
  induction routes generalizing seen store with
  | nil =>
    obtain rfl := pure_inj h
    exact ⟨store.provider.providerModels, rfl, .nil _⟩
  | cons route routes ih =>
    obtain ⟨_, _, h⟩ := rest₂ h
    obtain ⟨provider, hprov, h⟩ := bind_ok.mp h
    obtain ⟨hident, rfl⟩ := upsertModelRouteRow_ok hprov
    obtain ⟨models, rfl, hbatch⟩ := ih h
    exact ⟨models, rfl, .cons _ _ _ _ _ hident (fun id => Table.find?_upsert) hbatch⟩

theorem markUnlisted_batch
    (h : markUnlisted X uuid connectionId listedIds routes store = .ok store') :
    ∃ models, store' =
        { store with provider := { store.provider with providerModels := models } } ∧
      Batch id (markRoute unlistedRoute connectionId) (fun _ _ => True)
        ((routes.map ModelRoute.id).filter fun id => decide (id ∉ listedIds))
        store.provider.providerModels.find? models.find? := by
  induction routes generalizing store with
  | nil =>
    obtain rfl := pure_inj h
    exact ⟨store.provider.providerModels, rfl, .nil _⟩
  | cons route routes ih =>
    rw [markUnlisted] at h
    rw [map_cons]
    by_cases hlisted : route.id ∈ listedIds
    · rw [if_pos hlisted] at h
      rw [filter_cons_of_neg (by simpa using hlisted)]
      exact ih h
    · rw [if_neg hlisted] at h
      rw [filter_cons_of_pos (by simpa using hlisted)]
      obtain ⟨provider, hprov, h⟩ := bind_ok.mp h
      obtain ⟨rfl, _⟩ := ProviderStore.execute_enforce_ok hprov
      obtain ⟨models, rfl, hbatch⟩ := ih h
      refine ⟨models, rfl, .cons _ _ _ _ _ trivial (fun id => ?_) hbatch⟩
      exact find?_mark unlistedRoute_id

theorem upsertNewPresets_frame (h : upsertNewPresets X uuid presets store = .ok store') :
    ∃ generationPresets, store' =
      { store with provider := { store.provider with generationPresets } } := by
  induction presets generalizing store with
  | nil =>
    obtain rfl := pure_inj h
    exact ⟨store.provider.generationPresets, rfl⟩
  | cons preset presets ih =>
    obtain ⟨provider, hprov, h⟩ := bind_ok.mp h
    obtain ⟨_, rfl⟩ := upsertGenerationPresetRow_ok hprov
    obtain ⟨generationPresets, rfl⟩ := ih h
    exact ⟨generationPresets, rfl⟩

/-- The loop differs from that of a commit in the text of its error. -/
theorem upsertRefreshObservations_ok
    (h : upsertRefreshObservations X uuid listedIds observations store = .ok store') :
    upsertObservations X uuid listedIds observations store = .ok store' := by
  induction observations generalizing store with
  | nil => exact h
  | cons observation observations ih =>
    obtain ⟨hlisted, mid, hmid, h⟩ := guard_step h
    exact guarded hlisted (then_ok hmid (ih h))

/-! ### A listing that was checked -/

/-- What the check of a review guarantees of its listing. -/
structure Listing (X : Externals) (diff : ModelSyncDiff) : Prop where
  connection : diff.connectionId = diff.expectedConnection.id
  expected : ∀ route ∈ diff.expectedModelRoutes, route.connectionId = diff.connectionId
  expectedNodup : (diff.expectedModelRoutes.map ModelRoute.id).Nodup
  listed : ∀ route ∈ diff.listedRoutes, route.connectionId = diff.connectionId ∧
    route.missCount = 0 ∧ route.lastSeenAt = some diff.observedAt ∧
    route.firstSeenAt = ((diff.expectedModelRoutes.find? fun existing =>
      existing.id == route.id).map ModelRoute.firstSeenAt).getD diff.observedAt
  listedNodup : (diff.listedRoutes.map ModelRoute.id).Nodup
  presets : ∀ preset ∈ diff.initialPresets,
    preset.modelRouteId ∈ diff.listedRoutes.map ModelRoute.id ∧
      preset.modelRouteId ∉ diff.expectedModelRoutes.map ModelRoute.id
  presetsNodup : (diff.initialPresets.map GenerationPreset.id).Nodup
  observations : ∀ observation ∈ diff.capabilityObservations,
    observation.modelRouteId ∈ diff.listedRoutes.map ModelRoute.id ∧
      X.validateProviderApiSnapshotObservation observation diff.observedAt = .ok ()
  observationsNodup : (diff.capabilityObservations.map CapabilityObservation.id).Nodup

/-- Names that are new to a list of names, one after the other, are distinct. -/
theorem nodup_map_cons {α : Type} {name : α → String} {a : α} {l : List α}
    (hrest : ∀ b ∈ l, name b ∉ name a :: seen) (hnodup : (l.map name).Nodup) :
    ((a :: l).map name).Nodup := by
  rw [map_cons, nodup_cons]
  refine ⟨fun hmem => ?_, hnodup⟩
  obtain ⟨b, hb, heq⟩ := mem_map.mp hmem
  exact hrest b hb (heq ▸ mem_cons_self)

/-- One more row, whose key none of the rows behind it repeats. -/
theorem fresh_cons {α : Type} {key : α → String} {Good : α → Prop} {row : α} {rows : List α}
    (hrow : Good row ∧ key row ∉ seen)
    (h : (∀ other ∈ rows, Good other ∧ key other ∉ key row :: seen) ∧ (rows.map key).Nodup) :
    (∀ other ∈ row :: rows, Good other ∧ key other ∉ seen) ∧ ((row :: rows).map key).Nodup := by
  obtain ⟨hrest, hnodup⟩ := h
  refine ⟨forall_mem_cons.mpr ⟨hrow, fun other hoth => ?_⟩,
    nodup_map_cons (fun other hoth => (hrest other hoth).2) hnodup⟩
  obtain ⟨hgood, hnew⟩ := hrest other hoth
  exact ⟨hgood, fun hseen => hnew (mem_cons_of_mem _ hseen)⟩

theorem validateBaseRoutes_ok (h : validateBaseRoutes uuid connectionId seen routes = .ok ()) :
    (∀ route ∈ routes, route.connectionId = connectionId ∧ route.id ∉ seen) ∧
      (routes.map ModelRoute.id).Nodup := by
  induction routes generalizing seen with
  | nil => exact ⟨forall_mem_nil _, nodup_nil⟩
  | cons route routes ih =>
    obtain ⟨hrt, h⟩ := guard_ok.mp h
    exact fresh_cons hrt (ih h)

theorem validateListedRoutes_ok {diff : ModelSyncDiff}
    (h : validateListedRoutes X uuid jobId diff seen routes = .ok ()) :
    (∀ route ∈ routes, (route.connectionId = diff.connectionId ∧ route.missCount = 0 ∧
        route.lastSeenAt = some diff.observedAt ∧
        route.firstSeenAt = ((diff.expectedModelRoutes.find? fun existing =>
          existing.id == route.id).map ModelRoute.firstSeenAt).getD diff.observedAt) ∧
        route.id ∉ seen) ∧
      (routes.map ModelRoute.id).Nodup := by
  induction routes generalizing seen with
  | nil => exact ⟨forall_mem_nil _, nodup_nil⟩
  | cons route routes ih =>
    obtain ⟨⟨hconn, _, hnew, hmiss, _, _, hseen, _⟩, _, _, h⟩ := guard_step h
    have hfirst : route.firstSeenAt = ((diff.expectedModelRoutes.find? fun existing =>
        existing.id == route.id).map ModelRoute.firstSeenAt).getD diff.observedAt ∧
        validateListedRoutes X uuid jobId diff (route.id :: seen) routes = .ok () := by
      cases hfind : diff.expectedModelRoutes.find? fun existing => existing.id == route.id with
      | none =>
        rw [hfind] at h
        obtain ⟨hfirst, h⟩ := guard_ok.mp h
        exact ⟨hfirst, h⟩
      | some existing =>
        rw [hfind] at h
        obtain ⟨hsame, h⟩ := guard_ok.mp h
        exact ⟨hsame.2.2.2.2.2.symm, h⟩
    exact fresh_cons ⟨⟨hconn, hmiss, hseen, hfirst.1⟩, hnew⟩ (ih hfirst.2)

theorem validateInitialPresets_ok {calculatedNew configured : List String}
    (h : validateInitialPresets uuid calculatedNew configured ids presets = .ok ()) :
    (∀ preset ∈ presets, preset.modelRouteId ∈ calculatedNew ∧ preset.id ∉ ids) ∧
      (presets.map GenerationPreset.id).Nodup := by
  induction presets generalizing configured ids with
  | nil => exact ⟨forall_mem_nil _, nodup_nil⟩
  | cons preset presets ih =>
    obtain ⟨⟨hnew, _, hid⟩, h⟩ := guard_ok.mp h
    exact fresh_cons ⟨hnew, hid⟩ (ih h)

theorem validateObservations_ok
    (h : validateObservations X uuid listedIds observedAt ids observations = .ok ()) :
    (∀ observation ∈ observations, (observation.modelRouteId ∈ listedIds ∧
        X.validateProviderApiSnapshotObservation observation observedAt = .ok ()) ∧
        observation.id ∉ ids) ∧
      (observations.map CapabilityObservation.id).Nodup := by
  induction observations generalizing ids with
  | nil => exact ⟨forall_mem_nil _, nodup_nil⟩
  | cons observation observations ih =>
    obtain ⟨⟨hlisted, hid⟩, _, hval, h⟩ := guard_step h
    exact fresh_cons ⟨⟨hlisted, hval⟩, hid⟩ (ih h)

theorem listing_of_validate (h : validateModelSyncReview X uuid jobId review = .ok ()) :
    Listing X review.diff := by
  obtain ⟨⟨hconn, _⟩, h⟩ := guard_ok.mp h
  obtain ⟨_, hbase, _, hlisted, h⟩ := steps₂ h
  obtain ⟨_, _, h⟩ := rest₂ h
  obtain ⟨_, hpres, _, hobs⟩ := step_guard h
  obtain ⟨hbase, hbaseNodup⟩ := validateBaseRoutes_ok hbase
  obtain ⟨hlisted, hlistedNodup⟩ := validateListedRoutes_ok hlisted
  obtain ⟨hpres, hpresNodup⟩ := validateInitialPresets_ok hpres
  obtain ⟨hobs, hobsNodup⟩ := validateObservations_ok hobs
  exact
    { connection := hconn
      expected := fun route hrt => (hbase route hrt).1
      expectedNodup := hbaseNodup
      listed := fun route hrt => (hlisted route hrt).1
      listedNodup := hlistedNodup
      presets := fun preset hpre => by
        obtain ⟨hmem, hnew⟩ := mem_filter.mp (hpres preset hpre).1
        exact ⟨hmem, of_decide_eq_true hnew⟩
      presetsNodup := hpresNodup
      observations := fun observation hobservation => (hobs observation hobservation).1
      observationsNodup := hobsNodup }

end LorePia.ModelSync
