import LorePia.ProviderStore.Operations

namespace LorePia.ProviderStore

open Lib List Option Store Table

/-!
# The provider store — consistent selections

`Selection` says which profile, route and preset may be selected together, in terms of the
rows.

* `normalize_eq_self_iff` — a write of the settings accepts them and changes nothing iff what
    they select is a selection;
* `Selection.keep` — a store that keeps the selected rows keeps the selection.
-/

variable {route : ModelRoute} {id : String} {profile : ProviderProfile} {profileId routeId : String}

variable {store : Store} {settings : AppSettings}

/-! ### Rows -/

theorem Store.activeConnection_eq_some {row : ConnectionRow} :
    store.activeConnection id = some row ↔
      store.providerConnections.find? id = some row ∧ row.isActive := by
  rw [activeConnection, filter_eq_some_iff]

theorem Store.activeProfile_eq_some :
    store.activeProfile id = some profile ↔
      store.providerProfiles.find? id = some profile ∧ (store.activeConnection id).isSome := by
  rw [activeProfile, filter_eq_some_iff]

theorem Store.activeRoute_eq_some :
    store.activeRoute id = some route ↔ store.providerModels.find? id = some route ∧
      (store.activeConnection route.connectionId).isSome := by
  rw [activeRoute, filter_eq_some_iff]

theorem Store.activeProfile_id (h : store.activeProfile id = some profile) : profile.id = id :=
  (find?_eq_some.mp (activeProfile_eq_some.mp h).1).2

theorem earliest_eq_none_iff : earliest routes = none ↔ routes = [] := by
  cases routes with
  | nil => exact ⟨fun _ => rfl, fun _ => rfl⟩
  | cons route routes =>
    refine ⟨fun h => ?_, fun h => (nomatch h)⟩
    rw [earliest] at h
    split at h
    · cases h
    · split at h <;> cases h

theorem mem_of_earliest (h : earliest routes = some route) : route ∈ routes := by
  induction routes generalizing route with
  | nil => cases h
  | cons head routes ih =>
    rw [earliest] at h
    split at h
    case h_1 =>
      cases h
      exact mem_cons_self
    case h_2 other hoth =>
      split at h
      · cases h
        exact mem_cons_of_mem head (ih hoth)
      · cases h
        exact mem_cons_self

/-- No two routes share an identity. -/
def Store.Unique (store : Store) : Prop := (store.providerModels.rows.map ModelRoute.identity).Nodup

/-- Under the unique key the earliest route with an identity is the one that has it. -/
theorem Store.Unique.exactRoute_eq_some (huniq : store.Unique) {identity : RouteIdentity} : store.exactRoute identity = some route ↔
      store.providerModels.find? route.id = some route ∧ route.identity = identity := by
  constructor
  · intro h
    have hmem := mem_of_earliest h
    rw [mem_filter, beq_iff_eq] at hmem
    exact ⟨find?_eq_some.mpr ⟨hmem.1, rfl⟩, hmem.2⟩
  · rintro ⟨hfind, hident⟩
    have hmem : route ∈ store.providerModels.rows.filter fun r => r.identity == identity := by
      rw [mem_filter, beq_iff_eq]
      exact ⟨(find?_eq_some.mp hfind).1, hident⟩
    rw [exactRoute]
    cases hearliest : earliest (store.providerModels.rows.filter fun r => r.identity == identity) with
    | none =>
      rw [earliest_eq_none_iff.mp hearliest] at hmem
      cases hmem
    | some other =>
      have hoth := mem_of_earliest hearliest
      rw [mem_filter, beq_iff_eq] at hoth
      have heq : other = route := inj_on_of_nodup_map huniq hoth.1
        (find?_eq_some.mp hfind).1 (hoth.2.trans hident.symm)
      rw [heq]

/-! ### Selections -/

/-- The current route of a legacy profile whose connection is active. -/
def Store.currentRoute (store : Store) (profileId : String) : Option ModelRoute :=
  (store.activeProfile profileId).bind fun profile => store.exactRoute profile.routeIdentity

theorem legacyProfileCurrentRouteId_ok :
    legacyProfileCurrentRouteId uuid store profileId = .ok routeId ↔
      ∃ route, store.currentRoute profileId = some route ∧ route.id = routeId := by
  rw [legacyProfileCurrentRouteId, okOr_ok, map_eq_some_iff]
  exact Iff.rfl

/-- A profile, a route and a preset that may be selected together. -/
inductive Selection (store : Store) : Option String → Option String → Option String → Prop
  | clear : Selection store none none none
  /-- A route and one of its presets, which do not stand for a legacy profile. -/
  | target {routeId presetId : String} (hrt : (store.activeRoute routeId).isSome)
      (hpre : store.presetRoute presetId = some routeId)
      (hleg : legacyProfileOf store routeId presetId = none) :
      Selection store none (some routeId) (some presetId)
  /-- A legacy profile, with its current route and the preset of that name. -/
  | legacy {profileId : String} {route : ModelRoute}
      (hcur : store.currentRoute profileId = some route)
      (hrt : (store.activeRoute route.id).isSome)
      (hpre : store.presetRoute route.id = some route.id) :
      Selection store (some profileId) (some route.id) (some route.id)

/-- What the settings select may be selected together. -/
def Selects (store : Store) (settings : AppSettings) : Prop :=
  Selection store settings.selectedProviderProfileId settings.selectedModelRouteId
    settings.selectedGenerationPresetId

theorem legacyProfileOf_eq_none :
    legacyProfileOf store routeId presetId = none ↔
      (routeId = presetId → store.activeProfile routeId = none) := by
  rw [legacyProfileOf]
  split
  case isTrue h =>
    rw [Bool.and_eq_true, beq_iff_eq] at h
    simp only [reduceCtorEq, false_iff, Classical.not_imp]
    exact ⟨h.1, isSome_iff_ne_none.mp h.2⟩
  case isFalse h =>
    rw [Bool.and_eq_true, beq_iff_eq, not_and, Bool.not_eq_true, isSome_eq_false_iff,
      isNone_iff_eq_none] at h
    exact ⟨fun _ => h, fun _ => rfl⟩

/-! ### Normalization -/

theorem Store.activeProfile_of_currentRoute
    (h : store.currentRoute profileId = some route) : (store.activeProfile profileId).isSome := by
  obtain ⟨profile, hprof, _⟩ := bind_eq_some_iff.mp h
  rw [hprof]
  rfl

theorem selectCurrentRoute_ok :
    selectCurrentRoute uuid store settings = .ok normalized ↔
      settings.selectedProviderProfileId = none ∧ normalized = settings ∨
      ∃ profileId route, settings.selectedProviderProfileId = some profileId ∧
        store.currentRoute profileId = some route ∧
        settings.selectedModelRouteId.all (· == route.id) ∧
        settings.selectedGenerationPresetId.all (· == route.id) ∧
        normalized = { settings with
          selectedModelRouteId := some route.id
          selectedGenerationPresetId := some route.id } := by
  rw [selectCurrentRoute]
  cases hprof : settings.selectedProviderProfileId with
  | none =>
    simp only [pure_ok, Except.ok.injEq, reduceCtorEq, false_and, exists_false, or_false, true_and]
    exact eq_comm
  | some profileId =>
    simp only [reduceCtorEq, false_and, false_or]
    constructor
    · intro h
      obtain ⟨_, current, hcur, h⟩ := guard_step h
      obtain ⟨route, hrt, rfl⟩ := legacyProfileCurrentRouteId_ok.mp hcur
      obtain ⟨hrtId, hpreId, h⟩ := guards₂ h
      exact ⟨profileId, route, rfl, hrt, hrtId, hpreId, (pure_inj h).symm⟩
    · rintro ⟨_, route, ⟨⟩, hrt, hrtId, hpreId, rfl⟩
      refine guarded (activeProfile_of_currentRoute hrt) ?_
      refine then_ok (legacyProfileCurrentRouteId_ok.mpr ⟨route, hrt, rfl⟩) ?_
      exact guarded hrtId (guarded hpreId rfl)

theorem checkRouteAndPreset_ok :
    checkRouteAndPreset uuid store settings = .ok normalized ↔
      settings.selectedModelRouteId = none ∧ settings.selectedGenerationPresetId = none ∧
        normalized = settings ∨
      ∃ routeId presetId, settings.selectedModelRouteId = some routeId ∧
        settings.selectedGenerationPresetId = some presetId ∧
        (store.activeRoute routeId).isSome ∧ store.presetRoute presetId = some routeId ∧
        normalized = { settings with
          selectedProviderProfileId := settings.selectedProviderProfileId.or
            (legacyProfileOf store routeId presetId) } := by
  rw [checkRouteAndPreset]
  cases hrt : settings.selectedModelRouteId with
  | none =>
    cases hpre : settings.selectedGenerationPresetId with
    | none =>
      simp only [pure_ok, Except.ok.injEq, reduceCtorEq, false_and, exists_false, or_false,
        true_and]
      exact eq_comm
    | some presetId => simp [throw_eq_error]
  | some routeId =>
    cases hpre : settings.selectedGenerationPresetId with
    | none => simp [throw_eq_error]
    | some presetId =>
      simp only [reduceCtorEq, false_and, false_or]
      constructor
      · intro h
        obtain ⟨hactv, owner, howner, h⟩ := guard_step h
        obtain ⟨rfl, h⟩ := guard_ok.mp h
        exact ⟨owner, presetId, rfl, rfl, hactv, okOr_ok.mp howner, (pure_inj h).symm⟩
      · rintro ⟨_, _, ⟨⟩, ⟨⟩, hactv, howner, rfl⟩
        refine guarded hactv ?_
        refine then_ok (okOr_ok.mpr howner) ?_
        exact guarded rfl rfl

/-- The profile and its route have one identifier: a profile that still has the model it was
    made with. -/
def Store.KeepsDefaultRoute (store : Store) (id : String) : Prop :=
  ∃ route, store.currentRoute id = some route ∧ route.id = id

/-- A selection is a fixed point of normalization. -/
theorem Selects.normalize (h : Selects store settings) :
    normalizeSettingsForWrite uuid store settings = .ok settings := by
  obtain ⟨preserve, profileId, routeId, presetId⟩ := settings
  refine bind_ok.mpr ⟨⟨preserve, profileId, routeId, presetId⟩, ?_, ?_⟩
  · refine selectCurrentRoute_ok.mpr ?_
    cases h with
    | clear => exact .inl ⟨rfl, rfl⟩
    | target => exact .inl ⟨rfl, rfl⟩
    | legacy hcur => exact .inr ⟨_, _, rfl, hcur, by simp, by simp, rfl⟩
  · refine checkRouteAndPreset_ok.mpr ?_
    cases h with
    | clear => exact .inl ⟨rfl, rfl, rfl⟩
    | target hrt hpre hleg => exact .inr ⟨_, _, rfl, rfl, hrt, hpre, by simp [hleg]⟩
    | legacy hcur hrt hpre => exact .inr ⟨_, _, rfl, rfl, hrt, hpre, by simp⟩

/-- What normalization accepts becomes a selection, unless it names a legacy profile by a route
    that is no longer the profile's. -/
theorem Selects.of_normalize (h : normalizeSettingsForWrite uuid store settings = .ok normalized)
    (hdflt : settings.selectedProviderProfileId = none →
      settings.selectedModelRouteId = settings.selectedGenerationPresetId →
      ∀ id ∈ settings.selectedModelRouteId, (store.activeProfile id).isSome →
        store.KeepsDefaultRoute id) :
    Selects store normalized := by
  obtain ⟨middle, hselect, hcheck⟩ := bind_ok.mp h
  rcases selectCurrentRoute_ok.mp hselect with ⟨hprof, rfl⟩ |
    ⟨profileId, route, hprof, hcur, _, _, rfl⟩
  · rcases checkRouteAndPreset_ok.mp hcheck with ⟨hrt, hpre, rfl⟩ |
      ⟨routeId, presetId, hrt, hpre, hactv, howner, rfl⟩
    · rw [Selects, hprof, hrt, hpre]
      exact .clear
    · rw [Selects]
      show Selection store _ middle.selectedModelRouteId middle.selectedGenerationPresetId
      rw [hprof, hrt, hpre, none_or]
      by_cases hsame : routeId = presetId ∧ (store.activeProfile routeId).isSome
      · obtain ⟨rfl, hsome⟩ := hsame
        have hleg : legacyProfileOf store routeId routeId = some routeId := by
          rw [legacyProfileOf, hsome]
          simp
        obtain ⟨route, hcur, rfl⟩ := hdflt hprof (hrt.trans hpre.symm) routeId hrt hsome
        rw [hleg]
        exact .legacy hcur hactv howner
      · have hleg : legacyProfileOf store routeId presetId = none := by
          rw [legacyProfileOf_eq_none]
          intro heq
          rw [← not_isSome_iff_eq_none]
          exact fun hsome => hsame ⟨heq, hsome⟩
        rw [hleg]
        exact .target hactv howner hleg
  · rcases checkRouteAndPreset_ok.mp hcheck with ⟨hrt, _⟩ |
      ⟨routeId, presetId, hrt, hpre, hactv, howner, rfl⟩
    · cases hrt
    · cases hrt
      cases hpre
      show Selection store (settings.selectedProviderProfileId.or _) _ _
      rw [hprof, some_or]
      exact .legacy hcur hactv howner

/-- **Fixed points.** A write of the settings accepts them and changes nothing iff what they
    select is a selection. -/
theorem normalize_eq_self_iff :
    normalizeSettingsForWrite uuid store settings = .ok settings ↔ Selects store settings := by
  refine ⟨fun h => ?_, Selects.normalize⟩
  refine .of_normalize h fun hprof hsame id hid hactv => ?_
  -- normalization would have selected the profile
  obtain ⟨middle, hselect, hcheck⟩ := bind_ok.mp h
  rcases selectCurrentRoute_ok.mp hselect with ⟨_, rfl⟩ | ⟨_, _, hsome, _⟩
  · rcases checkRouteAndPreset_ok.mp hcheck with ⟨hrt, _⟩ |
      ⟨routeId, presetId, hrt, hpre, _, _, heq⟩
    · rw [hrt] at hid
      cases hid
    · have hids : routeId = presetId := by
        rw [hrt, hpre] at hsame
        exact some.inj hsame
      have hrtId : routeId = id := some.inj (hrt.symm.trans hid)
      have hleg : legacyProfileOf store routeId presetId = none := by
        have := congrArg AppSettings.selectedProviderProfileId heq
        rw [hprof] at this
        exact this.symm
      rw [← hrtId, legacyProfileOf_eq_none.mp hleg hids] at hactv
      cases hactv
  · rw [hprof] at hsome
    cases hsome

/-! ### Keeping a selection -/

theorem Store.Unique.currentRoute_eq_some (huniq : store.Unique) : store.currentRoute profileId = some route ↔
      ∃ profile, store.activeProfile profileId = some profile ∧
        store.providerModels.find? route.id = some route ∧
        route.identity = profile.routeIdentity := by
  rw [currentRoute, bind_eq_some_iff]
  simp only [huniq.exactRoute_eq_some]

/-- **Frame.** A store that keeps the selected rows, and has no new legacy profile for a
    selected target, keeps the selection. -/
theorem Selection.keep {profileId routeId presetId : Option String}
    (h : Selection store profileId routeId presetId) (huniq : store.Unique) (huniq' : store'.Unique)
    (hprof : ∀ id ∈ profileId, ∀ profile, store.activeProfile id = some profile →
      ∃ profile', store'.activeProfile id = some profile' ∧
        profile'.routeIdentity = profile.routeIdentity)
    (hrt : ∀ id ∈ routeId, ∀ route, store.activeRoute id = some route →
      ∃ route', store'.activeRoute id = some route' ∧ route'.identity = route.identity)
    (hpre : ∀ id ∈ presetId, ∀ owner, store.presetRoute id = some owner →
      store'.presetRoute id = some owner)
    (hleg : profileId = none → ∀ id ∈ routeId, id ∈ presetId →
      (store'.activeProfile id).isSome → (store.activeProfile id).isSome) :
    Selection store' profileId routeId presetId := by
  cases h with
  | clear => exact .clear
  | @target routeId presetId hactv howner hnone =>
    obtain ⟨route, hfind⟩ := isSome_iff_exists.mp hactv
    obtain ⟨route', hfind', _⟩ := hrt routeId rfl route hfind
    refine .target (by rw [hfind']; rfl) (hpre presetId rfl routeId howner) ?_
    rw [legacyProfileOf_eq_none]
    rintro rfl
    rw [← not_isSome_iff_eq_none]
    intro hsome
    have hold := hleg rfl routeId rfl rfl hsome
    rw [legacyProfileOf_eq_none.mp hnone rfl] at hold
    cases hold
  | @legacy profileId route hcur hactv howner =>
    obtain ⟨profile, hprofOld, hfind, hident⟩ := huniq.currentRoute_eq_some.mp hcur
    obtain ⟨profile', hprofNew, hsame⟩ := hprof profileId rfl profile hprofOld
    obtain ⟨active, hactvOld⟩ := isSome_iff_exists.mp hactv
    obtain ⟨route', hactvNew, hident'⟩ := hrt route.id rfl active hactvOld
    have hactvRt : active = route := some.inj ((activeRoute_eq_some.mp hactvOld).1.symm.trans hfind)
    have hfind' := (activeRoute_eq_some.mp hactvNew).1
    have hid : route'.id = route.id := (find?_eq_some.mp hfind').2
    have hcur' : store'.currentRoute profileId = some route' := by
      refine huniq'.currentRoute_eq_some.mpr ⟨profile', hprofNew, hid ▸ hfind', ?_⟩
      rw [hident', hactvRt, hident, hsame]
    rw [← hid]
    refine .legacy hcur' (by rw [hid, hactvNew]; rfl) ?_
    rw [hid]
    exact hpre route.id rfl route.id howner

end LorePia.ProviderStore
