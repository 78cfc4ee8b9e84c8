import LorePia.ProviderStore.Selection

namespace LorePia.ProviderStore

open Lib Option ProviderStore Table
open DiscoveryStore (SqliteError)

/-!
# The provider store — what the operations do to a selection

* `Grows` — what saving rows leaves of a store: everything that was there, and what was active
  stays active;
* `Coherent` — the invariant of the store: the unique key of the routes, a connection for every
  legacy profile, and stored settings that are a selection;
* `Operation.KeepsSelection` — when an operation keeps the settings a selection;
* `Operation.run_coherent` — under that condition an operation keeps the invariant.
-/

variable {profile : ProviderProfile} {route : ModelRoute} {preset : GenerationPreset} {id : String}
  {now other routeId : String} {presetId : Option String} {settings : AppSettings}

variable {X : Externals} {uuid : String} {store store' : Store}

/-! ### Statements -/

theorem enforce_eq_ok : store.enforce = .ok store' ↔
    store.checks ∧ store.uniqueKeys ∧ store.foreignKeys ∧ store' = store := by
  constructor
  · intro h
    obtain ⟨hchecks, huniq, h⟩ := guards₂ h
    obtain ⟨hforeign, h⟩ := guard_ok.mp h
    exact ⟨hchecks, huniq, hforeign, (pure_inj h).symm⟩
  · rintro ⟨hchecks, huniq, hforeign, rfl⟩
    refine guarded hchecks (guarded huniq ?_)
    exact guarded hforeign rfl

/-- A statement that was executed leaves the edited store, with its unique keys. -/
theorem execute_enforce_ok (h : execute uuid X store.enforce = .ok store') :
    store' = store ∧ store'.Unique := by
  obtain ⟨_, huniq, _, rfl⟩ := enforce_eq_ok.mp (mapError_ok.mp h)
  refine ⟨rfl, ?_⟩
  show (store'.providerModels.rows.map ModelRoute.identity).Nodup
  exact of_decide_eq_true huniq

/-! ### Saving rows -/

/-- What saving rows leaves of a store. -/
structure Grows (store store' : Store) : Prop where
  unique : store'.Unique
  known : ∀ id, (store.providerConnections.find? id).isSome →
    (store'.providerConnections.find? id).isSome
  active : ∀ id, (store.activeConnection id).isSome → (store'.activeConnection id).isSome
  routes : ∀ id route, store.providerModels.find? id = some route →
    ∃ route', store'.providerModels.find? id = some route' ∧ route'.identity = route.identity
  presets : ∀ id owner, store.presetRoute id = some owner → store'.presetRoute id = some owner
  settings : store'.appSettings = store.appSettings

theorem Grows.trans (h : Grows store store') (h' : Grows store' store'') :
    Grows store store'' where
  unique := h'.unique
  known id hid := h'.known id (h.known id hid)
  active id hid := h'.active id (h.active id hid)
  routes id route hrt := by
    obtain ⟨route', hrt', hident⟩ := h.routes id route hrt
    obtain ⟨route'', hrt'', hident'⟩ := h'.routes id route' hrt'
    exact ⟨route'', hrt'', hident'.trans hident⟩
  presets id owner howner := h'.presets id owner (h.presets id owner howner)
  settings := h'.settings.trans h.settings

theorem Grows.activeRoute (h : Grows store store') (hrt : store.activeRoute id = some route) :
    ∃ route', store'.activeRoute id = some route' ∧ route'.identity = route.identity := by
  obtain ⟨hfind, hactv⟩ := Store.activeRoute_eq_some.mp hrt
  obtain ⟨route', hfind', hident⟩ := h.routes id route hfind
  have hconn : route'.connectionId = route.connectionId :=
    congrArg RouteIdentity.connectionId hident
  refine ⟨route', Store.activeRoute_eq_some.mpr ⟨hfind', ?_⟩, hident⟩
  rw [hconn]
  exact h.active _ hactv

/-- What saving a connection does to the connections. -/
structure Connects (store store' : Store) (id : String) : Prop extends Grows store store' where
  profiles : store'.providerProfiles = store.providerProfiles
  models : store'.providerModels = store.providerModels
  generationPresets : store'.generationPresets = store.generationPresets
  reusable : ∀ row, store.providerConnections.find? id = some row → row.isActive
  connected : (store'.activeConnection id).isSome
  others : ∀ other, other ≠ id → store'.activeConnection other = store.activeConnection other

theorem upsertProviderConnectionRow_connects
    (h : upsertProviderConnectionRow X uuid connection store = .ok store') :
    Connects store store' connection.id := by
  obtain ⟨_, _, h⟩ := rest₂ h
  obtain ⟨hreusable, h⟩ := guard_ok.mp h
  obtain ⟨_, _, h⟩ := rest₂ h
  obtain ⟨written, hwritten, _, _, h⟩ := steps₂ h
  cases pure_inj h
  obtain ⟨rfl, huniq⟩ := execute_enforce_ok hwritten
  have hoth : ∀ other, other ≠ connection.id →
      (store.putConnection connection).providerConnections.find? other =
        store.providerConnections.find? other := by
    intro other hne
    rw [Store.putConnection, find?_upsert]
    exact if_neg (Ne.symm hne)
  have hwrittenRow : (store.putConnection connection).providerConnections.find? connection.id =
      some ((store.providerConnections.find? connection.id).elim ⟨connection, none⟩
        connection.over) := by
    rw [Store.putConnection, find?_upsert]
    exact if_pos rfl
  have hothers : ∀ other, other ≠ connection.id →
      (store.putConnection connection).activeConnection other = store.activeConnection other := by
    intro other hne
    rw [Store.activeConnection, hoth other hne]
    rfl
  have hreuse : ∀ row, store.providerConnections.find? connection.id = some row → row.isActive := by
    intro row hrow
    rw [hrow] at hreusable
    exact hreusable
  have hconnected : ((store.putConnection connection).activeConnection connection.id).isSome := by
    rw [Store.activeConnection, hwrittenRow]
    cases hrow : store.providerConnections.find? connection.id with
    | none => rfl
    | some row =>
      have hactv : (connection.over row).isActive = true := hreuse row hrow
      simp [hactv]
  refine
    { unique := huniq
      known := ?_
      active := ?_
      routes := fun id route hrt => ⟨route, hrt, rfl⟩
      presets := fun id owner howner => howner
      settings := rfl
      profiles := rfl
      models := rfl
      generationPresets := rfl
      reusable := hreuse
      connected := hconnected
      others := hothers }
  · intro id hid
    by_cases hsame : id = connection.id
    · rw [hsame, hwrittenRow]
      rfl
    · rw [hoth id hsame]
      exact hid
  · intro id hid
    by_cases hsame : id = connection.id
    · rw [hsame]
      exact hconnected
    · rw [hothers id hsame]
      exact hid

theorem ModelRoute.over_identity (route old : ModelRoute) :
    (route.over old).identity = old.identity :=
  rfl

/-- What saving a route does: the route is there, with its identity. -/
structure Routes (store store' : Store) (route : ModelRoute) : Prop extends Grows store store' where
  profiles : store'.providerProfiles = store.providerProfiles
  connections : store'.providerConnections = store.providerConnections
  generationPresets : store'.generationPresets = store.generationPresets
  saved : ∃ row, store'.providerModels.find? route.id = some row ∧ row.identity = route.identity

theorem upsertModelRouteRow_routes
    (h : upsertModelRouteRow X uuid route store = .ok store') : Routes store store' route := by
  obtain ⟨_, _, h⟩ := rest₂ h
  obtain ⟨hident, h⟩ := guard_ok.mp h
  obtain ⟨rfl, huniq⟩ := execute_enforce_ok h
  have hfind : ∀ id, (store.putRoute route).providerModels.find? id =
      if route.id = id then some ((store.providerModels.find? id).elim route route.over)
      else store.providerModels.find? id := by
    intro id
    rw [Store.putRoute, find?_upsert]
  refine
    { unique := huniq
      known := fun id hid => hid
      active := fun id hid => hid
      routes := ?_
      presets := fun id owner howner => howner
      settings := rfl
      profiles := rfl
      connections := rfl
      generationPresets := rfl
      saved := ?_ }
  · intro id old hold
    by_cases hsame : route.id = id
    · refine ⟨route.over old, ?_, ModelRoute.over_identity route old⟩
      rw [hfind, if_pos hsame, hold]
      rfl
    · refine ⟨old, ?_, rfl⟩
      rw [hfind, if_neg hsame]
      exact hold
  · rw [hfind, if_pos rfl]
    cases hold : store.providerModels.find? route.id with
    | none => exact ⟨route, rfl, rfl⟩
    | some old =>
      rw [hold] at hident
      refine ⟨route.over old, rfl, ?_⟩
      exact beq_iff_eq.mp hident

/-- What saving a preset does: it belongs to its route, unless its identifier was that of a
    preset of another. -/
structure Presets (store store' : Store) (preset : GenerationPreset) : Prop
    extends Grows store store' where
  profiles : store'.providerProfiles = store.providerProfiles
  connections : store'.providerConnections = store.providerConnections
  models : store'.providerModels = store.providerModels
  saved : (∀ owner ∈ store.presetRoute preset.id, owner = preset.modelRouteId) →
    store'.presetRoute preset.id = some preset.modelRouteId

theorem upsertGenerationPresetRow_presets
    (h : upsertGenerationPresetRow X uuid preset store = .ok store') :
    Presets store store' preset := by
  obtain ⟨_, _, _, h⟩ := rest₃ h
  obtain ⟨rfl, huniq⟩ := execute_enforce_ok h
  have hrt : ∀ id, (store.putPreset preset).presetRoute id =
      if preset.id = id then some ((store.presetRoute id).getD preset.modelRouteId)
      else store.presetRoute id := by
    intro id
    rw [Store.presetRoute, Store.putPreset, find?_upsert]
    by_cases hsame : preset.id = id
    · rw [if_pos hsame, if_pos hsame, Store.presetRoute]
      cases store.generationPresets.find? id <;> rfl
    · rw [if_neg hsame, if_neg hsame, Store.presetRoute]
  refine
    { unique := huniq
      known := fun id hid => hid
      active := fun id hid => hid
      routes := fun id route hrt => ⟨route, hrt, rfl⟩
      presets := ?_
      settings := rfl
      profiles := rfl
      connections := rfl
      models := rfl
      saved := ?_ }
  · intro id owner hold
    rw [hrt, hold]
    by_cases hsame : preset.id = id <;> simp [hsame]
  · intro hfree
    rw [hrt, if_pos rfl]
    cases hold : store.presetRoute preset.id with
    | none => rfl
    | some owner => rw [getD_some, hfree owner hold]

theorem ensurePreset_presets (huniq : store.Unique)
    (h : ensurePreset X uuid preset store = .ok store') : Presets store store' preset := by
  rw [ensurePreset] at h
  split at h
  case isTrue hpre =>
    cases pure_inj h
    refine
      { unique := huniq
        known := fun id hid => hid
        active := fun id hid => hid
        routes := fun id route hrt => ⟨route, hrt, rfl⟩
        presets := fun id owner howner => howner
        settings := rfl
        profiles := rfl
        connections := rfl
        models := rfl
        saved := fun hfree => ?_ }
    obtain ⟨row, hrow⟩ := isSome_iff_exists.mp hpre
    have howner : store.presetRoute preset.id = some row.modelRouteId := by
      rw [Store.presetRoute, hrow]
      rfl
    rw [howner, hfree row.modelRouteId howner]
  case isFalse => exact upsertGenerationPresetRow_presets h

/-- What saving a profile does: the profile is there, with its model. -/
structure Profiles (store store' : Store) (profile : ProviderProfile) : Prop
    extends Grows store store' where
  connections : store'.providerConnections = store.providerConnections
  models : store'.providerModels = store.providerModels
  generationPresets : store'.generationPresets = store.generationPresets
  saved : ∃ row, store'.providerProfiles.find? profile.id = some row ∧
    row.routeIdentity = profile.routeIdentity
  others : ∀ id, id ≠ profile.id →
    store'.providerProfiles.find? id = store.providerProfiles.find? id

theorem upsertProviderProfileRow_profiles
    (h : upsertProviderProfileRow X uuid profile store = .ok store') :
    Profiles store store' profile := by
  obtain ⟨_, _, h⟩ := rest₂ h
  obtain ⟨rfl, huniq⟩ := execute_enforce_ok h
  have hfind : ∀ id, (store.putProfile profile).providerProfiles.find? id =
      if profile.id = id then some ((store.providerProfiles.find? id).elim profile profile.over)
      else store.providerProfiles.find? id := by
    intro id
    rw [Store.putProfile, find?_upsert]
  refine
    { unique := huniq
      known := fun id hid => hid
      active := fun id hid => hid
      routes := fun id route hrt => ⟨route, hrt, rfl⟩
      presets := fun id owner howner => howner
      settings := rfl
      connections := rfl
      models := rfl
      generationPresets := rfl
      saved := ?_
      others := fun id hne => (hfind id).trans (if_neg (Ne.symm hne)) }
  rw [hfind, if_pos rfl]
  cases hold : store.providerProfiles.find? profile.id with
  | none => exact ⟨profile, rfl, rfl⟩
  | some old =>
    refine ⟨profile.over old, rfl, ?_⟩
    have hid : old.id = profile.id := (find?_eq_some.mp hold).2
    show RouteIdentity.mk old.id _ _ _ = RouteIdentity.mk profile.id _ _ _
    rw [hid]
    rfl

/-! ### The stored settings -/

/-- An update that leaves the default settings alone is seen in the loaded settings. -/
theorem updateStoredSettings_ok {f : AppSettings → AppSettings} (hf : f .default = .default)
    (h : updateStoredSettings store (fun settings => return f settings) = .ok store') :
    store' = { store with appSettings := store'.appSettings } ∧
      loadSettings store' = f (loadSettings store) := by
  rw [updateStoredSettings] at h
  cases hsets : store.appSettings with
  | none =>
    rw [hsets] at h
    cases h
    refine ⟨rfl, ?_⟩
    rw [loadSettings, hsets]
    exact hf.symm
  | some settings =>
    rw [hsets] at h
    cases h
    rw [loadSettings, loadSettings, hsets]
    exact ⟨rfl, rfl⟩

/-- The settings do not matter for what is a selection. -/
theorem Selection.of_settings {routeId : Option String}
    (h : Selection store profileId routeId presetId) (huniq : store.Unique) :
    Selection { store with appSettings } profileId routeId presetId :=
  h.keep huniq huniq (fun _ _ profile hprof => ⟨profile, hprof, rfl⟩)
    (fun _ _ route hrt => ⟨route, hrt, rfl⟩) (fun _ _ _ howner => howner)
    fun _ _ _ _ hactv => hactv

/-! ### The invariant -/

/-- The invariant of the provider store. -/
structure Coherent (store : Store) : Prop where
  unique : store.Unique
  profileConnection : ∀ id, store.hasProfile id = true → (store.providerConnections.find? id).isSome
  selects : Selects store (loadSettings store)

theorem Coherent.empty : Coherent .empty where
  unique := List.nodup_nil
  profileConnection _ h := nomatch h
  selects := .clear

/-- The stored settings can be loaded and saved again, which changes nothing. -/
def SavesUnchanged (uuid : String) (store : Store) : Prop :=
  normalizeSettingsForWrite uuid store (loadSettings store) = .ok (loadSettings store) ∧
    ∃ store', saveSettings uuid store (loadSettings store) = .ok store' ∧
      loadSettings store' = loadSettings store ∧
      (store.appSettings.isSome → store' = store)

theorem Coherent.savesUnchanged (h : Coherent store) : SavesUnchanged uuid store := by
  have hnormalize : normalizeSettingsForWrite uuid store (loadSettings store) =
      .ok (loadSettings store) := h.selects.normalize
  refine ⟨hnormalize, { store with appSettings := some (loadSettings store) }, ?_, rfl, ?_⟩
  · rw [saveSettings, hnormalize]
    rfl
  · intro hsome
    obtain ⟨settings, hsets⟩ := isSome_iff_exists.mp hsome
    rw [loadSettings, hsets, getD_some, ← hsets]

/-! ### The condition -/

/-- The route under which a legacy profile will be saved. -/
def Store.savedRouteId (X : Externals) (store : Store) (profile : ProviderProfile) (now : String) :
    String :=
  legacyModelRouteId X store (legacyRoute profile now)

/-- When an operation keeps the settings a selection:
    * saved settings do not name a legacy profile by a route and preset it has left;
    * a profile that is saved does not take the identifier of a selected route and preset, and
      if it is the selected one, no preset of another route is in the way of its own;
    * a preset is not deleted while it is selected for a legacy profile;
    * a restored route is active, and is the current one of the legacy profile it names. -/
def Operation.KeepsSelection (X : Externals) (store : Store) : Operation → Prop
  | .saveSettings settings => settings.selectedProviderProfileId = none →
      settings.selectedModelRouteId = settings.selectedGenerationPresetId →
      ∀ id ∈ settings.selectedModelRouteId, (store.activeProfile id).isSome →
        store.KeepsDefaultRoute id
  | .saveProviderProfile profile now =>
      ((loadSettings store).selectedProviderProfileId = none →
        ¬ ((loadSettings store).selectedModelRouteId = some profile.id ∧
          (loadSettings store).selectedGenerationPresetId = some profile.id)) ∧
      ((loadSettings store).selectedProviderProfileId = some profile.id →
        ∀ owner ∈ store.presetRoute (store.savedRouteId X profile now),
          owner = store.savedRouteId X profile now)
  | .deleteGenerationPreset id =>
      (loadSettings store).selectedProviderProfileId.isSome →
        (loadSettings store).selectedGenerationPresetId ≠ some id
  | .restoreSelection (.routeAndPreset routeId presetId) =>
      (loadSettings store).selectionIsClear → (store.activeRoute routeId).isSome ∧
        (routeId = presetId → store.hasProfile routeId → store.KeepsDefaultRoute routeId)
  | _ => True

/-! ### Saving -/

theorem saveSettings_coherent (hs : Coherent store)
    (hkeeps : Operation.KeepsSelection X store (.saveSettings settings))
    (h : saveSettings uuid store settings = .ok store') : Coherent store' := by
  obtain ⟨normalized, hnormalize, rfl⟩ := last_step h
  exact
    { unique := hs.unique
      profileConnection := hs.profileConnection
      selects := (Selects.of_normalize hnormalize hkeeps).of_settings hs.unique }

/-- Saving rows keeps a selection, if no legacy profile appears behind a selected target. -/
theorem Grows.selection (hg : Grows store store') (huniq : store.Unique)
    {routeId : Option String} (h : Selection store profileId routeId presetId)
    (hprofs : ∀ id ∈ profileId, store'.providerProfiles.find? id = store.providerProfiles.find? id)
    (hleg : profileId = none → ∀ id ∈ routeId, id ∈ presetId →
      (store'.activeProfile id).isSome → (store.activeProfile id).isSome) :
    Selection store' profileId routeId presetId := by
  refine h.keep huniq hg.unique (fun id hid profile hprof => ⟨profile, ?_, rfl⟩)
    (fun id _ route hrt => hg.activeRoute hrt)
    (fun id _ owner howner => hg.presets id owner howner) hleg
  obtain ⟨hfind, hactv⟩ := Store.activeProfile_eq_some.mp hprof
  exact Store.activeProfile_eq_some.mpr ⟨(hprofs id hid).trans hfind, hg.active id hactv⟩

theorem Grows.loadSettings (hg : Grows store store') :
    loadSettings store' = loadSettings store := by
  rw [ProviderStore.loadSettings, ProviderStore.loadSettings, hg.settings]

/-- Saving rows keeps the invariant, if the profiles stay and no connection of an existing
    profile becomes active. -/
theorem Grows.coherent (hg : Grows store store') (hs : Coherent store)
    (hprofs : store'.providerProfiles = store.providerProfiles)
    (hactv : ∀ id, store.hasProfile id = true → (store'.activeConnection id).isSome →
      (store.activeConnection id).isSome) :
    Coherent store' where
  unique := hg.unique
  profileConnection id hid := by
    rw [Store.hasProfile, hprofs] at hid
    exact hg.known id (hs.profileConnection id hid)
  selects := by
    rw [Selects, hg.loadSettings]
    refine hg.selection hs.unique hs.selects (fun id _ => by rw [hprofs]) ?_
    intro _ id _ _ hsome
    obtain ⟨profile, hprof⟩ := isSome_iff_exists.mp hsome
    obtain ⟨hfind, hconn⟩ := Store.activeProfile_eq_some.mp hprof
    rw [hprofs] at hfind
    have hknown : store.hasProfile id = true := by
      rw [Store.hasProfile, hfind]
      rfl
    rw [Store.activeProfile_eq_some.mpr ⟨hfind, hactv id hknown hconn⟩]
    rfl

/-- A connection that can be reused and is that of a profile is active already. -/
theorem Connects.wasActive (hc : Connects store store' connectionId) (hs : Coherent store)
    (hprof : store.hasProfile id = true) (hactv : (store'.activeConnection id).isSome) :
    (store.activeConnection id).isSome := by
  by_cases hsame : id = connectionId
  · obtain ⟨row, hrow⟩ := Option.isSome_iff_exists.mp (hs.profileConnection id hprof)
    rw [Store.activeConnection_eq_some.mpr ⟨hrow, hc.reusable row (hsame ▸ hrow)⟩]
    rfl
  · rw [← hc.others id hsame]
    exact hactv

theorem saveProviderConnection_coherent (hs : Coherent store)
    (h : saveProviderConnection X uuid connection store = .ok store') : Coherent store' := by
  obtain ⟨_, _, h⟩ := bind_ok.mp h
  have hc := upsertProviderConnectionRow_connects h
  exact hc.toGrows.coherent hs hc.profiles fun id hprof => hc.wasActive hs hprof

theorem saveModelRoute_coherent (hs : Coherent store)
    (h : saveModelRoute X uuid route store = .ok store') : Coherent store' := by
  obtain ⟨_, _, h⟩ := bind_ok.mp h
  have hr := upsertModelRouteRow_routes h
  refine hr.toGrows.coherent hs hr.profiles fun id _ hactv => ?_
  rwa [Store.activeConnection, hr.connections] at hactv

theorem saveGenerationPreset_coherent (hs : Coherent store)
    (h : saveGenerationPreset X uuid preset store = .ok store') : Coherent store' := by
  obtain ⟨_, _, h⟩ := bind_ok.mp h
  have hp := upsertGenerationPresetRow_presets h
  refine hp.toGrows.coherent hs hp.profiles fun id _ hactv => ?_
  rwa [Store.activeConnection, hp.connections] at hactv

/-! ### Saving a legacy profile -/

/-- What `save_provider_profile` writes: the profile, its active connection, a route with the
    profile's identity under `routeId`, and a preset of that name. -/
structure SavesProfile (store store' : Store) (profile : ProviderProfile) (routeId : String) :
    Prop extends Grows store store' where
  saved : ∃ row, store'.activeProfile profile.id = some row ∧
    row.routeIdentity = profile.routeIdentity
  others : ∀ id, id ≠ profile.id →
    store'.providerProfiles.find? id = store.providerProfiles.find? id
  otherConnections : ∀ id, id ≠ profile.id → store'.activeConnection id = store.activeConnection id
  route : ∃ route, store'.providerModels.find? routeId = some route ∧
    route.identity = profile.routeIdentity
  preset : (∀ owner ∈ store.presetRoute routeId, owner = routeId) →
    store'.presetRoute routeId = some routeId

theorem legacyModelRouteId_congr (h : store'.providerModels = store.providerModels) :
    legacyModelRouteId X store' route = legacyModelRouteId X store route := by
  rw [legacyModelRouteId, legacyModelRouteId, Store.exactRoute, Store.exactRoute, Store.hasRoute,
    Store.hasRoute, h]

theorem saveProviderProfile_cases (h : saveProviderProfile X uuid profile now store = .ok store') :
    ∃ middle, SavesProfile store middle profile (store.savedRouteId X profile now) ∧
      store' = { middle with appSettings := store'.appSettings } ∧
      loadSettings store' =
        (loadSettings store).follow profile.id (store.savedRouteId X profile now) := by
  obtain ⟨⟨connection, route, preset⟩, hgraph, _, _, store₁, hprof, h⟩ := steps₃ h
  obtain ⟨store₂, hconn, store₃, hrt, store₄, hpre, h⟩ := steps₃ h
  obtain ⟨store₅, hsets, _, _, h⟩ := steps₂ h
  cases pure_inj h
  -- the graph of the profile
  obtain ⟨_, _, apiOrigin, _, hgraph⟩ := steps₂ hgraph
  obtain ⟨apiBasePath, _, networkMode, _, hgraph⟩ := steps₂ hgraph
  cases pure_inj hgraph
  have hp := upsertProviderProfileRow_profiles hprof
  have hc := upsertProviderConnectionRow_connects hconn
  have hr := upsertModelRouteRow_routes hrt
  have hid : legacyModelRouteId X store₂ (legacyRoute profile now) =
      store.savedRouteId X profile now :=
    legacyModelRouteId_congr (hc.models.trans hp.models)
  rw [hid] at hr hpre hsets
  have he := ensurePreset_presets hr.unique hpre
  have hf := updateStoredSettings_ok (f := fun settings => settings.follow profile.id (store.savedRouteId X profile now)) rfl hsets
  have hg := ((hp.toGrows.trans hc.toGrows).trans hr.toGrows).trans he.toGrows
  have hconns : store₄.providerConnections = store₂.providerConnections :=
    he.connections.trans hr.connections
  have hactv : ∀ id, store₄.activeConnection id = store₂.activeConnection id := by
    intro id
    rw [Store.activeConnection, Store.activeConnection, hconns]
  have hprofs : store₄.providerProfiles = store₁.providerProfiles :=
    he.profiles.trans (hr.profiles.trans hc.profiles)
  have hpres : store₃.generationPresets = store.generationPresets :=
    hr.generationPresets.trans (hc.generationPresets.trans hp.generationPresets)
  refine ⟨store₄,
    { toGrows := hg
      saved := ?_
      others := ?_
      otherConnections := ?_
      route := ?_
      preset := ?_ }, hf.1, ?_⟩
  · obtain ⟨row, hrow, hident⟩ := hp.saved
    refine ⟨row, Store.activeProfile_eq_some.mpr ⟨hprofs ▸ hrow, ?_⟩, hident⟩
    rw [hactv]
    exact hc.connected
  · intro id hne
    rw [hprofs]
    exact hp.others id hne
  · intro id hne
    rw [hactv, hc.others id hne, Store.activeConnection, hp.connections]
    rfl
  · obtain ⟨row, hrow, hident⟩ := hr.saved
    exact ⟨row, by rw [he.models]; exact hrow, hident⟩
  · intro hfree
    refine he.saved fun owner howner => hfree owner ?_
    rw [Store.presetRoute, hpres] at howner
    exact howner
  · rw [hf.2, hg.loadSettings]

/-- The profile that was saved, with its route and preset. -/
theorem SavesProfile.selection (h : SavesProfile store store' profile routeId)
    (hfree : ∀ owner ∈ store.presetRoute routeId, owner = routeId) :
    Selection store' (some profile.id) (some routeId) (some routeId) := by
  obtain ⟨row, hrow, hprof⟩ := h.saved
  obtain ⟨route, hrt, hident⟩ := h.route
  have hid : route.id = routeId := (find?_eq_some.mp hrt).2
  have hconn : route.connectionId = profile.id := congrArg RouteIdentity.connectionId hident
  have hactv : store'.activeRoute routeId = some route := by
    refine Store.activeRoute_eq_some.mpr ⟨hrt, ?_⟩
    rw [hconn]
    exact (Store.activeProfile_eq_some.mp hrow).2
  rw [← hid]
  refine .legacy (h.unique.currentRoute_eq_some.mpr ⟨row, hrow, hid ▸ hrt, ?_⟩) ?_ ?_
  · exact hident.trans hprof.symm
  · rw [hid, hactv]
    rfl
  · rw [hid]
    exact h.preset hfree

/-- The selection of anything but the saved profile stays, unless the profile takes the
    identifier of the selected route and preset. -/
theorem SavesProfile.keeps (h : SavesProfile store store' profile routeId) (hs : Coherent store)
    (hselection : Selection store profileId routeId' presetId) (hoth : profileId ≠ some profile.id)
    (hfresh : profileId = none → ¬ (routeId' = some profile.id ∧ presetId = some profile.id)) :
    Selection store' profileId routeId' presetId := by
  refine h.toGrows.selection hs.unique hselection (fun id hid => h.others id ?_) ?_
  · rintro rfl
    exact hoth hid
  · intro hnone id hrt hpre hactv
    have hne : id ≠ profile.id := by
      rintro rfl
      exact hfresh hnone ⟨hrt, hpre⟩
    rw [Store.activeProfile, h.others id hne, h.otherConnections id hne] at hactv
    exact hactv

theorem saveProviderProfile_coherent (hs : Coherent store)
    (hkeeps : Operation.KeepsSelection X store (.saveProviderProfile profile now))
    (h : saveProviderProfile X uuid profile now store = .ok store') : Coherent store' := by
  obtain ⟨middle, hsaves, hstore, hsets⟩ := saveProviderProfile_cases h
  obtain ⟨hfresh, hfree⟩ := hkeeps
  have hselects : Selects middle (loadSettings store') := by
    rw [hsets, AppSettings.follow]
    split
    case isTrue hsel =>
      rw [beq_iff_eq] at hsel
      show Selection middle (loadSettings store).selectedProviderProfileId _ _
      rw [hsel]
      exact hsaves.selection (hfree hsel)
    case isFalse hsel =>
      rw [beq_iff_eq] at hsel
      exact hsaves.keeps hs hs.selects hsel hfresh
  have hmid : ∀ id, middle.hasProfile id = true → (middle.providerConnections.find? id).isSome := by
    intro id hid
    by_cases hsame : id = profile.id
    · obtain ⟨row, hrow, _⟩ := hsaves.saved
      obtain ⟨connection, hconn⟩ := isSome_iff_exists.mp (Store.activeProfile_eq_some.mp hrow).2
      rw [hsame, (Store.activeConnection_eq_some.mp hconn).1]
      rfl
    · rw [Store.hasProfile, hsaves.others id hsame] at hid
      exact hsaves.known id (hs.profileConnection id hid)
  rw [hstore]
  exact
    { unique := hsaves.unique
      profileConnection := hmid
      selects := by
        exact hselects.of_settings hsaves.unique }

/-! ### Archiving -/

theorem Selects.of_clear (settings : AppSettings) : Selects store settings.clearSelection := .clear

theorem activeConnection_archiveConnection (hne : other ≠ id) :
    (store.archiveConnection id archivedAt).activeConnection other =
      store.activeConnection other := by
  rw [Store.activeConnection, Store.archiveConnection, find?_updateWhere, Store.activeConnection]
  cases hrow : store.providerConnections.find? other with
  | none => rfl
  | some row =>
    have hid : row.id ≠ id := (find?_eq_some.mp hrow).2 ▸ hne
    simp [hid]

theorem activeConnection_of_archiveConnection (id archivedAt : String)
    (h : ((store.archiveConnection id archivedAt).activeConnection other).isSome) :
    (store.activeConnection other).isSome := by
  obtain ⟨row, hrow⟩ := isSome_iff_exists.mp h
  obtain ⟨hfind, hactv⟩ := Store.activeConnection_eq_some.mp hrow
  rw [Store.archiveConnection, find?_updateWhere, map_eq_some_iff] at hfind
  obtain ⟨old, hold, heq⟩ := hfind
  split at heq
  case isTrue =>
    -- an archived row is not active
    rw [← heq] at hactv
    cases hactv
  case isFalse =>
    rw [Store.activeConnection_eq_some.mpr ⟨hold, heq ▸ hactv⟩]
    rfl

theorem archiveProviderConnectionRow_coherent (hs : Coherent store)
    (h : archiveProviderConnectionRow X uuid id now store = .ok store') : Coherent store' := by
  obtain ⟨_, _, h⟩ := rest₂ h
  obtain ⟨cleared, hclear, h⟩ := bind_ok.mp h
  obtain ⟨rfl, huniq⟩ := execute_enforce_ok h
  obtain ⟨hstore, hsets⟩ := updateStoredSettings_ok (f := clearForConnection store id) rfl hclear
  have huniq' : (store.archiveConnection id now).Unique := by
    rw [hstore] at huniq
    exact huniq
  have hselects : Selects (store.archiveConnection id now) (loadSettings cleared) := by
    rw [hsets, clearForConnection]
    split
    case isTrue => exact .of_clear _
    case isFalse hoth =>
      rw [Bool.or_eq_true, beq_iff_eq, not_or] at hoth
      obtain ⟨hprofOth, hrtOth⟩ := hoth
      refine hs.selects.keep hs.unique huniq' ?_ ?_ (fun _ _ _ howner => howner) ?_
      · intro other hmem profile hprof
        obtain ⟨hfind, hactv⟩ := Store.activeProfile_eq_some.mp hprof
        have hne : other ≠ id := by
          rintro rfl
          exact hprofOth hmem
        refine ⟨profile, Store.activeProfile_eq_some.mpr ⟨hfind, ?_⟩, rfl⟩
        rw [activeConnection_archiveConnection hne]
        exact hactv
      · intro routeId hmem route hrt
        obtain ⟨hfind, hactv⟩ := Store.activeRoute_eq_some.mp hrt
        have hne : route.connectionId ≠ id := by
          intro heq
          refine hrtOth ?_
          rw [mem_def.mp hmem, any_some, hfind, any_some, heq]
          exact beq_self_eq_true id
        refine ⟨route, Store.activeRoute_eq_some.mpr ⟨hfind, ?_⟩, rfl⟩
        rw [activeConnection_archiveConnection hne]
        exact hactv
      · intro _ other _ _ hsome
        obtain ⟨profile, hprof⟩ := isSome_iff_exists.mp hsome
        obtain ⟨hfind, hactv⟩ := Store.activeProfile_eq_some.mp hprof
        have hold : store.activeProfile other = some profile := Store.activeProfile_eq_some.mpr
          ⟨hfind, activeConnection_of_archiveConnection id now hactv⟩
        rw [hold]
        rfl
  rw [hstore]
  refine
    { unique := huniq', profileConnection := ?_, selects := ?_ }
  · intro other hoth
    obtain ⟨row, hrow⟩ := isSome_iff_exists.mp (hs.profileConnection other hoth)
    show ((store.archiveConnection id now).providerConnections.find? other).isSome
    rw [Store.archiveConnection, find?_updateWhere, hrow]
    rfl
  · exact hselects.of_settings huniq'

theorem deleteProviderProfile_coherent (hs : Coherent store)
    (h : deleteProviderProfile X uuid id now store = .ok store') : Coherent store' := by
  obtain ⟨_, h⟩ := guard_ok.mp h
  obtain ⟨archived, harchived, _, _, h⟩ := steps₂ h
  cases pure_inj h
  exact archiveProviderConnectionRow_coherent hs harchived

theorem deleteProviderConnection_coherent (hs : Coherent store)
    (h : deleteProviderConnection X uuid id now store = .ok store') : Coherent store' := by
  obtain ⟨archived, harchived, _, _, h⟩ := steps₂ h
  cases pure_inj h
  exact archiveProviderConnectionRow_coherent hs harchived

/-! ### Deleting routes and presets -/

/-- A selected preset is one of the selected route. -/
theorem Selection.owner {presetId : String}
    (h : Selection store profileId (some routeId) (some presetId)) :
    store.presetRoute presetId = some routeId := by
  cases h with
  | target _ hpre => exact hpre
  | legacy _ _ hpre => exact hpre

/-- The profile selected with a route is that of the route's connection. -/
theorem Selection.profileConnection {profileId : String}
    (h : Selection store (some profileId) (some routeId) presetId) (huniq : store.Unique) (hrt : store.providerModels.find? routeId = some route) :
    route.connectionId = profileId := by
  cases h with
  | legacy hcur =>
    obtain ⟨profile, hprof, hfind, hident⟩ := huniq.currentRoute_eq_some.mp hcur
    cases hfind.symm.trans hrt
    rw [← Store.activeProfile_id hprof]
    exact congrArg RouteIdentity.connectionId hident

/-- A selection without its route is clear. -/
theorem Selection.clear_of_route
    (h : Selection store profileId none presetId) : profileId = none ∧ presetId = none := by
  cases h
  exact ⟨rfl, rfl⟩

theorem deleteModelRoute_coherent (hs : Coherent store)
    (h : deleteModelRoute X uuid id store = .ok store') : Coherent store' := by
  obtain ⟨route, hrt, _, h⟩ := step_guard h
  obtain ⟨cleared, hclear, withoutPresets, hpres, h⟩ := steps₂ h
  obtain ⟨deleted, hdeleted, _, _, h⟩ := steps₂ h
  cases pure_inj h
  rw [okOr_ok] at hrt
  obtain ⟨rfl, _⟩ := execute_enforce_ok hpres
  obtain ⟨rfl, huniq⟩ := execute_enforce_ok hdeleted
  obtain ⟨hstore, hsets⟩ :=
    updateStoredSettings_ok (f := clearForRoute id route.connectionId) rfl hclear
  let gone := (store.deletePresets fun preset => preset.modelRouteId == id).deleteRoute id
  have hgone : ((cleared.deletePresets fun preset => preset.modelRouteId == id).deleteRoute id) =
      { gone with appSettings := cleared.appSettings } := by
    rw [hstore]
    rfl
  have huniq' : gone.Unique := by
    rw [hgone] at huniq
    exact huniq
  have hselects : Selects gone (loadSettings cleared) := by
    rw [hsets, clearForRoute]
    split
    case isTrue hsel =>
      rw [beq_iff_eq] at hsel
      have hprof : (if (loadSettings store).selectedProviderProfileId ==
          some route.connectionId then none
          else (loadSettings store).selectedProviderProfileId) = none := by
        cases hprof : (loadSettings store).selectedProviderProfileId with
        | none => rfl
        | some profileId =>
          have hselection := hs.selects
          rw [Selects, hprof, hsel] at hselection
          rw [hselection.profileConnection hs.unique hrt, beq_self_eq_true]
          rfl
      show Selection gone (if _ then none else _) none none
      rw [hprof]
      exact .clear
    case isFalse hoth =>
      rw [beq_iff_eq] at hoth
      refine hs.selects.keep hs.unique huniq'
        (fun _ _ profile hprof => ⟨profile, hprof, rfl⟩) ?_ ?_ fun _ _ _ _ hactv => hactv
      · intro routeId hmem other hactv
        obtain ⟨hfind, hconn⟩ := Store.activeRoute_eq_some.mp hactv
        have hne : other.id ≠ id := by
          rw [(find?_eq_some.mp hfind).2]
          rintro rfl
          exact hoth hmem
        refine ⟨other, Store.activeRoute_eq_some.mpr ⟨?_, hconn⟩, rfl⟩
        show (store.providerModels.deleteWhere _).find? routeId = some other
        rw [find?_deleteWhere, hfind]
        simp [hne]
      · intro presetId hmem owner howner
        have hne : owner ≠ id := by
          rintro rfl
          cases hrtId : (loadSettings store).selectedModelRouteId with
          | none =>
            have hselection := hs.selects
            rw [Selects, hrtId] at hselection
            rw [hselection.clear_of_route.2] at hmem
            cases hmem
          | some routeId =>
            have hselection := hs.selects
            rw [Selects, hrtId, mem_def.mp hmem] at hselection
            rw [hselection.owner] at howner
            exact hoth (howner ▸ hrtId)
        obtain ⟨preset, hpre, rfl⟩ := map_eq_some_iff.mp howner
        show ((store.generationPresets.deleteWhere _).find? presetId).map _ = _
        rw [find?_deleteWhere, hpre]
        simp [hne]
  rw [hgone]
  exact
    { unique := huniq'
      profileConnection := hs.profileConnection
      selects := hselects.of_settings huniq' }

theorem deleteGenerationPreset_coherent (hs : Coherent store)
    (hkeeps : Operation.KeepsSelection X store (.deleteGenerationPreset id))
    (h : deleteGenerationPreset X uuid id store = .ok store') : Coherent store' := by
  obtain ⟨routeId, hrtId, _, h⟩ := step_guard h
  obtain ⟨cleared, hclear, h⟩ := bind_ok.mp h
  obtain ⟨rfl, huniq⟩ := execute_enforce_ok h
  obtain ⟨hstore, hsets⟩ := updateStoredSettings_ok (f := clearForPreset id routeId) rfl hclear
  let gone := store.deletePresets fun preset => preset.id == id
  have hselects : Selects gone (loadSettings cleared) := by
    rw [hsets, clearForPreset]
    split
    case isTrue hsel =>
      rw [beq_iff_eq] at hsel
      have hnone : (loadSettings store).selectedProviderProfileId = none := by
        rw [← not_isSome_iff_eq_none]
        exact fun hsome => hkeeps hsome hsel
      show Selection gone (if _ then none else _) none none
      rw [hnone]
      exact .clear
    case isFalse hoth =>
      rw [beq_iff_eq] at hoth
      refine hs.selects.keep hs.unique hs.unique (fun _ _ profile hprof => ⟨profile, hprof, rfl⟩)
        (fun _ _ route hrt => ⟨route, hrt, rfl⟩) ?_ fun _ _ _ _ hactv => hactv
      intro presetId hmem owner howner
      obtain ⟨preset, hpre, rfl⟩ := map_eq_some_iff.mp howner
      have hne : preset.id ≠ id := by
        rw [(find?_eq_some.mp hpre).2]
        rintro rfl
        exact hoth hmem
      show ((store.generationPresets.deleteWhere _).find? presetId).map _ = _
      rw [find?_deleteWhere, hpre]
      simp [hne]
  have hgone : (cleared.deletePresets fun preset => preset.id == id) =
      { gone with appSettings := cleared.appSettings } := by
    rw [hstore]
    rfl
  rw [hgone]
  exact
    { unique := hs.unique
      profileConnection := hs.profileConnection
      selects := hselects.of_settings hs.unique }

/-! ### Restoring a selection -/

theorem restoreRouteAndPreset_selects {presetId : String}
    (hs : Selects store settings)
    (hkeeps : settings.selectionIsClear → (store.activeRoute routeId).isSome ∧
      (routeId = presetId → store.hasProfile routeId → store.KeepsDefaultRoute routeId))
    (h : restoreRouteAndPreset uuid store routeId presetId settings = .ok restored) :
    Selects store restored := by
  obtain ⟨_, howner, h⟩ := guards₂ h
  cases pure_inj h
  split
  case isFalse => exact hs
  case isTrue hclear =>
    obtain ⟨hactv, hdflt⟩ := hkeeps hclear
    show Selection store (if _ then some routeId else none) (some routeId) (some presetId)
    split
    case isTrue hleg =>
      rw [Bool.and_eq_true, beq_iff_eq] at hleg
      obtain ⟨rfl, hprof⟩ := hleg
      obtain ⟨route, hcur, rfl⟩ := hdflt rfl hprof
      exact .legacy hcur hactv howner
    case isFalse hleg =>
      refine .target hactv howner (legacyProfileOf_eq_none.mpr fun hsame => ?_)
      rw [Bool.and_eq_true, beq_iff_eq, not_and, Bool.not_eq_true] at hleg
      have hnone : store.providerProfiles.find? routeId = none :=
        isSome_eq_false_iff.mp (hleg hsame) |> isNone_iff_eq_none.mp
      rw [Store.activeProfile, hnone]
      rfl

theorem restoreDiscoveryProviderSelection_coherent {previous : DiscoveryPreviousSelection}
    (hs : Coherent store) (hkeeps : Operation.KeepsSelection X store (.restoreSelection previous))
    (h : restoreDiscoveryProviderSelection uuid store previous = .ok store') : Coherent store' := by
  cases previous with
  | none =>
    obtain ⟨hstore, hsets⟩ := updateStoredSettings_ok (f := id) rfl h
    rw [hstore]
    have hselects := hs.selects
    rw [← id_eq (loadSettings store), ← hsets] at hselects
    exact
      { unique := hs.unique
        profileConnection := hs.profileConnection
        selects := hselects.of_settings hs.unique }
  | routeAndPreset routeId presetId =>
    obtain ⟨hsome, h⟩ := guard_ok.mp h
    obtain ⟨settings, hsets⟩ := Option.isSome_iff_exists.mp hsome
    have hload : loadSettings store = settings := by rw [loadSettings, hsets, Option.getD_some]
    rw [updateStoredSettings, hsets] at h
    obtain ⟨restored, hrestored, rfl⟩ := last_step h
    have hselects := hs.selects
    rw [hload] at hselects
    refine
      { unique := hs.unique
        profileConnection := hs.profileConnection
        selects := Selection.of_settings ?_ hs.unique }
    refine restoreRouteAndPreset_selects hselects ?_ hrestored
    rw [← hload]
    exact hkeeps

/-! ### Runs -/

theorem Operation.run_coherent (operation : Operation) (hs : Coherent store)
    (hkeeps : operation.KeepsSelection X store) : Coherent (operation.run X uuid store) := by
  rw [Operation.run]
  split
  case h_1 store' h =>
    cases operation with
    | saveSettings => exact saveSettings_coherent hs hkeeps h
    | saveProviderProfile => exact saveProviderProfile_coherent hs hkeeps h
    | deleteProviderProfile => exact deleteProviderProfile_coherent hs h
    | deleteProviderConnection => exact deleteProviderConnection_coherent hs h
    | deleteModelRoute => exact deleteModelRoute_coherent hs h
    | deleteGenerationPreset => exact deleteGenerationPreset_coherent hs hkeeps h
    | restoreSelection => exact restoreDiscoveryProviderSelection_coherent hs hkeeps h
    | saveProviderConnection => exact saveProviderConnection_coherent hs h
    | saveModelRoute => exact saveModelRoute_coherent hs h
    | saveGenerationPreset => exact saveGenerationPreset_coherent hs h
  case h_2 => exact hs

end LorePia.ProviderStore
