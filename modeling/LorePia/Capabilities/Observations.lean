import LorePia.Capabilities.Merge
import LorePia.ModelSync.Commit
import Mathlib.Data.Finset.Card

namespace LorePia.Capabilities

open Lib List SortedMap Table
open Lib.Stateful (exec)
open ModelSync (ObservationSource SnapshotExternals Store applies_of_applyReview
  commitModelSyncJob_takes commitTransaction_applyReview committedExternals committingStore
  loadProviderConnection respond_cases run_effect sampleObservation upsertCapabilityObservationRow
  upsertCapabilityObservationRow_ok validateProviderApiSnapshotObservation)
open ProviderStore (ModelRoute ProviderConnection invalid notFound)

/-!
# Capabilities — the writers of the observations

The overrides of the user, the metadata of the provider, the results of probes and the commits of
a model synchronization go to one table, and the effective capability is read from it.

* `Call.run` — a call of one of the writers; one that fails leaves the table as it was;
* `run_unsigned` — no writer stores an observation of the signed catalog;
* `effectiveCapability_resolves` — what is read after any calls: it is there as long as a route and
  a key have at most 256 identifiers, it is the first in the order, and a new override is undone
  by its deletion;
* `effectiveCapability_crowded` — nothing bounds the identifiers that are written.
-/

/-! ### Rows -/

/-- A row of `model_capability_observations`. -/
abbrev Row := ModelSync.CapabilityObservation

/-- What the texts of a row stand for. -/
structure Reading where
  time : String → Int
  json : String → Json

variable (R : Reading)

def Reading.value : ModelSync.CapabilityValue → CapabilityValue
  | .boolean value => .boolean value
  | .integer value => .integer value
  | .enumValues values => .enumValues values
  | .structured json => .structured (R.json json)

/-- `decode_capability_observation_row`. -/
def Reading.observation (row : Row) : CapabilityObservation where
  id := row.id
  modelRouteId := row.modelRouteId
  key := row.key
  value := R.value row.value
  status := row.status
  source := row.source
  confidence := row.confidence
  observedAt := R.time row.observedAt
  expiresAt := row.expiresAt.map R.time
  evidenceRef := row.evidenceRef

/-! ### The writers -/

/-- `validateWireMetadata` is the check of a structured value against the route and the template of
    its connection. -/
structure Externals extends toSync : ModelSync.Externals where
  validateWireMetadata : ModelRoute → ProviderConnection → Row → CoreResult Unit

variable (X : Externals) (uuid : String)

def getModelRoute (id : String) (store : Store) : CoreResult ModelRoute :=
  okOr (store.provider.providerModels.find? id) (notFound uuid "model route")

/-- `validate_capability_wire_metadata`, for the stored route of the observation. -/
def validateCapabilityWireMetadata (row : Row) (store : Store) : CoreResult Unit := do
  let route ← getModelRoute uuid row.modelRouteId store
  let connection ← loadProviderConnection uuid route.connectionId store
  X.validateWireMetadata route connection row

/-- The rows of one write, after the ones before them. -/
def upsertRows : List String → List Row → Store → CoreResult Store
  | _, [], store => return store
  | ids, row :: rows, store => do
    require (row.id ∉ ids) (invalid uuid
      "capability observation identifiers must be unique within one write")
    let store ← upsertCapabilityObservationRow X.toSync uuid row store
    upsertRows (row.id :: ids) rows store

/-- `Storage::upsert_capability_observations`. -/
def upsertCapabilityObservations (rows : List Row) (store : Store) : CoreResult Store := do
  require (rows.length ≤ 1024) (invalid uuid
    "at most 1024 capability observations may be stored at once")
  let store ← upsertRows X uuid [] rows store
  ProviderStore.validateProviderCatalogForeignKeys uuid store.provider
  return store

def upsertCapabilityObservation (row : Row) (store : Store) : CoreResult Store := do
  require (row.source ≠ .signedLorepiaCatalog) (invalid uuid
    ("signed catalog observations are derived from the active verified catalog " ++
      "and cannot be stored independently"))
  validateCapabilityWireMetadata X uuid row store
  upsertCapabilityObservations X uuid [row] store

def isStructured : ModelSync.CapabilityValue → Bool
  | .structured _ => true
  | _ => false

/-- What is stored of an override that is made at a time. -/
def overrideAt (now : String) (row : Row) : Row :=
  { row with confidence := .high, observedAt := now, evidenceRef := none }

def upsertUserCapabilityOverride (row : Row) (now : String) (store : Store) : CoreResult Store := do
  require (row.source = .userOverride) (invalid uuid
    "the user override API only accepts user_override observations")
  require (isStructured row.value = false) (invalid uuid
    "structured provider wire metadata cannot be authored as a user override")
  require (row.status ∈ [.verified, .unsupported, .unknown, .conditional]) (invalid uuid
    "user override status must be verified, unsupported, unknown, or conditional")
  require (row.expiresAt.all fun expiresAt => decide (now < expiresAt)) (invalid uuid
    "a user capability override expiry must be in the future")
  upsertCapabilityObservation X uuid (overrideAt now row) store

def deleteCapabilityObservation (id : String) (store : Store) : CoreResult Store := do
  require (store.observations.find? id).isSome (notFound uuid "capability observation")
  return { store with observations := store.observations.deleteWhere fun row => row.id == id }

def deleteUserCapabilityOverride (modelRouteId id : String) (store : Store) : CoreResult Store := do
  let _ ← getModelRoute uuid modelRouteId store
  let row ← okOr ((store.observations.find? id).filter fun row => row.modelRouteId == modelRouteId)
    (.new uuid .notFound "capability observation was not found" false)
  require (row.source = .userOverride) (invalid uuid
    "only user_override observations can be deleted through this API")
  deleteCapabilityObservation uuid id store

/-- `record_capability_observations_from_source`. -/
def recordCapabilityObservationsFromSource (source : ObservationSource) (rows : List Row)
    (store : Store) : CoreResult Store := do
  forEach (fun row => do
    require (row.source = source) (invalid uuid
      "capability observation source does not match the ingestion path")
    validateCapabilityWireMetadata X uuid row store) rows
  upsertCapabilityObservations X uuid rows store

/-- `effective_capability_at`, for a stored route and the observations of the catalog. -/
def effectiveCapability (catalog : List CapabilityObservation) (modelRouteId : String)
    (key : CapabilityKey) (now : Int) (store : Store) : CoreResult (Option EffectiveCapability) := do
  let _ ← getModelRoute uuid modelRouteId store
  effectiveCapabilityAt uuid (store.observations.rows.map R.observation) catalog
    modelRouteId key now

/-! ### Runs -/

inductive Call
  | upsertOverride (row : Row) (now : String)
  | deleteOverride (modelRouteId id : String)
  | recordProviderApi (rows : List Row)
  | recordProbe (rows : List Row)
  | modelSync (operation : ModelSync.Operation)

/-- The store after a call. -/
def Call.run (store : Store) : Call → Store
  | .upsertOverride row now =>
    (upsertUserCapabilityOverride X uuid row now store).toOption.getD store
  | .deleteOverride modelRouteId id =>
    (deleteUserCapabilityOverride uuid modelRouteId id store).toOption.getD store
  | .recordProviderApi rows =>
    (recordCapabilityObservationsFromSource X uuid .providerApi rows store).toOption.getD store
  | .recordProbe rows =>
    (recordCapabilityObservationsFromSource X uuid .capabilityProbe rows store).toOption.getD store
  | .modelSync operation => (exec (operation.run X.toSync uuid) store).2

def run (calls : List Call) (store : Store) : Store := calls.foldl (Call.run X uuid) store

/-! ### No signed observation is stored -/

variable {X uuid} {store store' : Store} {row : Row} {rows : List Row}
  {S : SnapshotExternals}

/-- The observations of the signed catalog are never stored. -/
def Unsigned (store : Store) : Prop :=
  ∀ row ∈ store.observations.rows, row.source ≠ .signedLorepiaCatalog

theorem upsertRows_unsigned (hrows : ∀ row ∈ rows, row.source ≠ .signedLorepiaCatalog)
    (hs : Unsigned store) (h : upsertRows X uuid ids rows store = .ok store') : Unsigned store' := by
  induction rows generalizing ids store with
  | nil => exact of_pure_ok h hs
  | cons row rows ih =>
    obtain ⟨_, middle, hmiddle, h⟩ := guard_step h
    refine ih (fun row hrow => hrows row (mem_cons_of_mem _ hrow)) (fun old hold => ?_) h
    obtain ⟨-, observations, rfl, hfind⟩ := upsertCapabilityObservationRow_ok hmiddle
    have hlook := hfind old.id
    rw [find?_eq_some.mpr ⟨hold, rfl⟩] at hlook
    by_cases hid : row.id = old.id
    · rw [if_pos hid] at hlook
      rw [Option.some.inj hlook]
      exact hrows row (mem_cons_self ..)
    · rw [if_neg hid] at hlook
      exact hs old (find?_eq_some.mp hlook.symm).1

theorem upsertCapabilityObservations_ok
    (h : upsertCapabilityObservations X uuid rows store = .ok store') :
    upsertRows X uuid [] rows store = .ok store' := by
  obtain ⟨_, written, hwritten, h⟩ := guard_step h
  obtain ⟨_, h⟩ := unit_bind_ok.mp h
  rw [hwritten, pure_inj h]

/-- What an override that goes through has passed. -/
theorem upsertUserCapabilityOverride_ok
    (h : upsertUserCapabilityOverride X uuid row now store = .ok store') :
    row.source = .userOverride ∧ (∃ route, getModelRoute uuid row.modelRouteId store = .ok route) ∧
      upsertRows X uuid [] [overrideAt now row] store = .ok store' := by
  obtain ⟨hsrc, h⟩ := guard_ok.mp h
  obtain ⟨_, _, _, h⟩ := rest₃ h
  obtain ⟨_, h⟩ := guard_ok.mp h
  obtain ⟨hcheck, h⟩ := unit_bind_ok.mp h
  obtain ⟨route, hrt, _⟩ := bind_ok.mp hcheck
  exact ⟨hsrc, ⟨route, hrt⟩, upsertCapabilityObservations_ok h⟩

theorem recordCapabilityObservationsFromSource_unsigned (hsrc : source ≠ .signedLorepiaCatalog)
    (hs : Unsigned store)
    (h : recordCapabilityObservationsFromSource X uuid source rows store = .ok store') :
    Unsigned store' := by
  obtain ⟨hchecks, h⟩ := unit_bind_ok.mp h
  refine upsertRows_unsigned (fun row hrow => ?_) hs (upsertCapabilityObservations_ok h)
  rw [(guard_ok.mp (forEach_ok.mp hchecks row hrow)).1]
  exact hsrc

/-- Only a commit of a synchronization writes observations, and those are by the provider. -/
theorem modelSync_unsigned {operation : ModelSync.Operation}
    (hX : X.validateProviderApiSnapshotObservation =
      validateProviderApiSnapshotObservation S uuid)
    (hs : Unsigned store) (h : exec (operation.run X.toSync uuid) store = (outcome, store')) :
    Unsigned store' := by
  rcases (run_effect h).graph with hsame | ⟨row, hcompls⟩
  · rw [Unsigned, hsame.2]
    exact hs
  · obtain ⟨now, rfl, -⟩ := hcompls.call
    obtain ⟨r, hmethod, -⟩ := respond_cases h
    rcases commitModelSyncJob_takes hmethod with rfl | ⟨hwritten, -⟩
    · exact hs
    · obtain ⟨_, _, _, _, _, hl, hexps, hcur, happly, hsame⟩ :=
        commitTransaction_applyReview hwritten
      have happlies := (applies_of_applyReview hX hl hexps hcur happly).of_sameGraph hsame
      intro old hold hsrc
      have hbef := (happlies.otherObservations old (by simp [hsrc])).mp
        (find?_eq_some.mpr ⟨hold, rfl⟩)
      exact hs old (find?_eq_some.mp hbef).1 hsrc

theorem run_unsigned
    (hX : X.validateProviderApiSnapshotObservation =
      validateProviderApiSnapshotObservation S uuid)
    (calls : List Call) (hs : Unsigned store) : Unsigned (run X uuid calls store) := by
  induction calls generalizing store with
  | nil => exact hs
  | cons call calls ih =>
    refine ih ?_
    have hgetD : ∀ {written : CoreResult Store}, (∀ store', written = .ok store' →
        Unsigned store') → Unsigned (written.toOption.getD store) := by
      intro written hwritten
      cases written with
      | error e => exact hs
      | ok store' => exact hwritten store' rfl
    cases call with
    | upsertOverride row now =>
      refine hgetD fun store' h => ?_
      obtain ⟨hsrc, -, hrows⟩ := upsertUserCapabilityOverride_ok h
      refine upsertRows_unsigned (forall_mem_singleton.mpr ?_) hs hrows
      rw [overrideAt, hsrc]
      decide
    | deleteOverride modelRouteId id =>
      refine hgetD fun store' h => ?_
      obtain ⟨_, _, _, h⟩ := rest₃ h
      obtain ⟨_, h⟩ := guard_ok.mp h
      refine of_pure_ok h fun row hrow => hs row (mem_deleteWhere.mp hrow).1
    | recordProviderApi rows =>
      exact hgetD fun _ => recordCapabilityObservationsFromSource_unsigned (by decide) hs
    | recordProbe rows =>
      exact hgetD fun _ => recordCapabilityObservationsFromSource_unsigned (by decide) hs
    | modelSync operation => exact modelSync_unsigned hX hs rfl

/-! ### What is read -/

variable {R} {catalog : List CapabilityObservation} {modelRouteId : String}
  {key : CapabilityKey} {now : Int} {observations : List CapabilityObservation}

/-- The observations of a route and a key: the stored ones, and after them those of the catalog. -/
def observationsOf (R : Reading) (catalog : List CapabilityObservation)
    (modelRouteId : String) (key : CapabilityKey) (store : Store) : List CapabilityObservation :=
  (store.observations.rows.map R.observation ++ catalog).filter fun observation =>
    observation.modelRouteId = modelRouteId ∧ observation.key = key

/-- The observations that count: the last one of each identifier. -/
def current (observations : List CapabilityObservation) : List CapabilityObservation :=
  (SortedMap.index CapabilityObservation.id observations).values

/-- What is read of the observations: nothing if there are none, else the first in the order, and
    whether a fresh one says something else. -/
inductive Resolves (observations : List CapabilityObservation) (now : Int) :
    Option EffectiveCapability → Prop
  | unknown (h : observations = []) : Resolves observations now none
  | known {effective : EffectiveCapability} (hselected : effective.selected ∈ current observations)
      (hfirst : ∀ other ∈ current observations, Precedes now effective.selected other)
      (hconflict : effective.hasConflict = true ↔ ∃ other ∈ current observations,
        other.isFreshAt now = true ∧
        (other.status ≠ effective.selected.status ∨ other.value ≠ effective.selected.value)) :
      Resolves observations now (some effective)

/-- The observations that count differ in their identifiers. -/
theorem nodup_current : ((current observations).map CapabilityObservation.id).Nodup :=
  pairwise_map.mpr
    ((values_pairwise fun _ _ => key_of_get?_index).imp ne_of_lt)

/-- There is one for each identifier. -/
theorem length_current : (current observations).length =
    (observations.map CapabilityObservation.id).toFinset.card := by
  rw [← length_map CapabilityObservation.id, ← toFinset_card_of_nodup nodup_current]
  congr 1
  ext id
  simp only [mem_toFinset, mem_map]
  exact SortedMap.exists_mem_values_index

theorem checkMergeInput_of_same (uuid : String)
    (hnodup : (observations.map CapabilityObservation.id).Nodup)
    (hids : ∀ id ∈ ids, id ∉ observations.map CapabilityObservation.id)
    (hsame : ∀ observation ∈ observations,
      observation.modelRouteId = first.modelRouteId ∧ observation.key = first.key) :
    checkMergeInput uuid first ids observations = .ok () := by
  induction observations generalizing ids with
  | nil => rfl
  | cons observation observations ih =>
    obtain ⟨hnew, hnodup⟩ := nodup_cons.mp hnodup
    obtain ⟨hfirst, hsame⟩ := forall_mem_cons.mp hsame
    refine guarded hfirst (guarded (fun hmem => ?_) (ih hnodup ?_ hsame))
    · exact hids _ hmem (mem_cons_self ..)
    · refine forall_mem_cons.mpr ⟨hnew, fun id hid hmem => ?_⟩
      exact hids id hid (mem_cons_of_mem _ hmem)

theorem mergeCapabilityObservations_isOk (uuid : String) (now : Int) (hne : observations ≠ [])
    (hnodup : (observations.map CapabilityObservation.id).Nodup)
    (hsame : ∀ observation ∈ observations,
      observation.modelRouteId = modelRouteId ∧ observation.key = key) :
    (∃ merged, mergeCapabilityObservations uuid observations now = .ok merged) ↔
      observations.length ≤ maxMergeObservations := by
  obtain ⟨first, others, rfl⟩ := exists_cons_of_ne_nil hne
  constructor
  · rintro ⟨merged, h⟩
    obtain ⟨_, _, h⟩ := bind_ok.mp h
    exact (guard_ok.mp h).1
  · intro hle
    obtain ⟨⟨rfl, rfl⟩, -⟩ := forall_mem_cons.mp hsame
    have hcheck := checkMergeInput_of_same uuid hnodup (forall_mem_nil _) hsame
    exact ⟨_, guarded hle (then_ok hcheck rfl)⟩

theorem merged_resolves
    (h : mergeCapabilityObservations uuid (current observations) now = .ok merged) :
    Resolves observations now (some
      { selected := merged.selected
        alternatives := merged.alternatives
        evaluatedAt := now
        selectedIsStale := merged.selectedIsStale
        hasConflict := merged.hasConflict }) := by
  obtain ⟨hperm, hfirst, -, hconflict⟩ := mergeCapabilityObservations_ok h
  refine .known (hperm.mem_iff.mp (mem_cons_self ..)) (fun other hoth => ?_) ?_
  · rcases mem_cons.mp (hperm.mem_iff.mpr hoth) with rfl | hmem
    · exact Precedes.total.elim id id
    · exact hfirst other hmem
  · -- the selected observation does not differ from itself
    simp [hconflict, contradicts, ← hperm.mem_iff]

theorem effectiveCapability_eq (hrt : store.provider.hasRoute modelRouteId = true) :
    effectiveCapability R uuid catalog modelRouteId key now store =
      effectiveCapabilityAt uuid (store.observations.rows.map R.observation) catalog
        modelRouteId key now := by
  obtain ⟨route, hfind⟩ := Option.isSome_iff_exists.mp hrt
  rw [effectiveCapability, getModelRoute, hfind]
  rfl

theorem currentObservations_of_unsigned (hs : Unsigned store) :
    (currentObservations (store.observations.rows.map R.observation) catalog modelRouteId
      key).values = current (observationsOf R catalog modelRouteId key store) := by
  rw [currentObservations, current, observationsOf, filter_append]
  congr 3
  refine filter_congr fun observation hmem => ?_
  obtain ⟨row, hrow, rfl⟩ := mem_map.mp hmem
  have hsrc : (R.observation row).source ≠ .signedLorepiaCatalog := hs row hrow
  simp [hsrc]

theorem effectiveCapability_of_unsigned (hs : Unsigned store)
    (hrt : store.provider.hasRoute modelRouteId = true) :
    ((∃ effective, effectiveCapability R uuid catalog modelRouteId key now store = .ok effective) ↔
        ((observationsOf R catalog modelRouteId key store).map
          CapabilityObservation.id).toFinset.card ≤ maxMergeObservations) ∧
      ∀ effective, effectiveCapability R uuid catalog modelRouteId key now store = .ok effective →
        Resolves (observationsOf R catalog modelRouteId key store) now effective := by
  rw [effectiveCapability_eq hrt, effectiveCapabilityAt, currentObservations_of_unsigned hs,
    ← length_current]
  by_cases hnone : current (observationsOf R catalog modelRouteId key store) = []
  · simp only [if_pos hnone, Except.ok.injEq]
    refine ⟨by simp [hnone], ?_⟩
    rintro _ rfl
    rw [← length_eq_zero_iff, length_current, Finset.card_eq_zero] at hnone
    exact .unknown (by simpa using hnone)
  · simp only [if_neg hnone]
    have hsame : ∀ observation ∈ current (observationsOf R catalog modelRouteId key store),
        observation.modelRouteId = modelRouteId ∧ observation.key = key := by
      intro observation hmem
      have hof := (lastWith_mem (mem_values_index.mp hmem)).1
      exact of_decide_eq_true (mem_filter.mp hof).2
    rw [← mergeCapabilityObservations_isOk uuid now hnone nodup_current hsame]
    refine ⟨⟨?_, ?_⟩, fun effective h => ?_⟩
    · rintro ⟨effective, h⟩
      obtain ⟨merged, hmerged, -⟩ := bind_ok.mp h
      exact ⟨merged, hmerged⟩
    · rintro ⟨merged, hmerged⟩
      exact ⟨_, then_ok hmerged rfl⟩
    · obtain ⟨merged, hmerged, h⟩ := bind_ok.mp h
      exact of_pure_ok h (merged_resolves hmerged)

/-- The rows in another order are read the same. -/
theorem effectiveCapability_of_perm (hprov : store'.provider = store.provider)
    (hperm : store'.observations.rows.Perm store.observations.rows) :
    effectiveCapability R uuid catalog modelRouteId key now store' =
      effectiveCapability R uuid catalog modelRouteId key now store := by
  have hnodup : ∀ (s : Store) p, (((s.observations.rows.map R.observation).filter p).map
      CapabilityObservation.id).Nodup := by
    intro s p
    refine Nodup.sublist (filter_sublist.map _) ?_
    rw [map_map]
    exact s.observations.unique
  have hcur : currentObservations (store'.observations.rows.map R.observation) catalog
      modelRouteId key = currentObservations (store.observations.rows.map R.observation)
        catalog modelRouteId key := by
    refine ext_get? fun id => ?_
    rw [get?_currentObservations, get?_currentObservations]
    congr 1
    refine Option.ext fun observation => ?_
    rw [lastWith_eq_some_of_nodup (hnodup store' _), lastWith_eq_some_of_nodup (hnodup store _),
      mem_filter, mem_filter, (hperm.map R.observation).mem_iff]
  rw [effectiveCapability, effectiveCapability, getModelRoute, getModelRoute, hprov,
    effectiveCapabilityAt, effectiveCapabilityAt, hcur]

/-- Rows under new identifiers are appended. -/
theorem upsertRows_of_new (ids : List String) (store : Store)
    (hnew : ∀ row ∈ rows, row.id ∉ ids ∧ store.observations.find? row.id = none)
    (hnodup : (rows.map ModelSync.CapabilityObservation.id).Nodup)
    (hval : ∀ row ∈ rows, X.validateCapabilityObservation store.provider row = .ok ()) :
    ∃ observations, upsertRows X uuid ids rows store = .ok { store with observations } ∧
      observations.rows = store.observations.rows ++ rows := by
  induction rows generalizing ids store with
  | nil => exact ⟨_, rfl, (append_nil _).symm⟩
  | cons row rows ih =>
    obtain ⟨hother, hnodup⟩ := nodup_cons.mp hnodup
    obtain ⟨⟨hids, hfree⟩, hnew⟩ := forall_mem_cons.mp hnew
    obtain ⟨hrow, hval⟩ := forall_mem_cons.mp hval
    have hwrite : upsertCapabilityObservationRow X.toSync uuid row store = .ok
        { store with observations := store.observations.upsert row row.over row.over_id } := by
      rw [upsertCapabilityObservationRow, hrow]
      simp only [hfree]
      rfl
    have hleft : ∀ next ∈ rows, next.id ∉ row.id :: ids ∧
        (store.observations.upsert row row.over row.over_id).find? next.id = none := by
      intro next hnext
      obtain ⟨hnotin, hnone⟩ := hnew next hnext
      have hne : row.id ≠ next.id := fun heq => hother (heq ▸ mem_map_of_mem hnext)
      refine ⟨not_mem_cons_of_ne_of_not_mem hne.symm hnotin, ?_⟩
      rw [find?_upsert, if_neg hne]
      exact hnone
    obtain ⟨observations, hrest, hrows⟩ := ih _ { store with observations := _ } hleft hnodup hval
    refine ⟨observations, guarded hids (then_ok hwrite hrest), hrows.trans ?_⟩
    show (store.observations.upsert row row.over row.over_id).rows ++ rows = _
    rw [rows_upsert_of_free hfree, append_assoc]
    rfl

/-- A new override that is deleted leaves nothing behind. -/
theorem deleteUserCapabilityOverride_of_upsert {at' : String}
    (hnew : store.observations.find? row.id = none)
    (h : upsertUserCapabilityOverride X uuid row at' store = .ok store') :
    deleteUserCapabilityOverride uuid row.modelRouteId row.id store' = .ok store := by
  obtain ⟨hsrc, ⟨route, hrt⟩, hwrite⟩ := upsertUserCapabilityOverride_ok h
  obtain ⟨hval, -⟩ := unit_bind_ok.mp (bind_ok.mp (guard_ok.mp hwrite).2).choose_spec.1
  have hfree : ∀ other ∈ [overrideAt at' row], other.id ∉ ([] : List String) ∧
      store.observations.find? other.id = none := forall_mem_singleton.mpr ⟨not_mem_nil, hnew⟩
  obtain ⟨observations, hwrite', hrows⟩ := upsertRows_of_new [] store hfree
    (nodup_singleton _) (forall_mem_singleton.mpr hval)
  obtain rfl := Except.ok.inj (hwrite.symm.trans hwrite')
  have hfind : observations.find? row.id = some (overrideAt at' row) := by
    rw [find?_eq_some, hrows]
    exact ⟨by simp, rfl⟩
  have hleft : observations.deleteWhere (fun other => other.id == row.id) =
      store.observations := by
    refine ext_rows ?_
    show observations.rows.filter (fun other => !(other.id == row.id)) = _
    rw [hrows, filter_append, filter_eq_self.mpr, filter_cons_of_neg, filter_nil, append_nil]
    · simp [overrideAt]
    · intro other hoth
      simpa using Table.find?_eq_none.mp hnew other hoth
  refine bind_ok.mpr ⟨route, hrt, ?_⟩
  rw [hfind]
  refine bind_ok.mpr ⟨overrideAt at' row, okOr_ok.mpr (by simp [overrideAt]), ?_⟩
  refine guarded hsrc (guarded (by rw [hfind]; rfl) ?_)
  rw [hleft]
  rfl

/-- A store that the calls of the writers lead to. -/
def Reachable (X : Externals) (uuid : String) (store : Store) : Prop :=
  ∃ start calls, Unsigned start ∧ run X uuid calls start = store

/-- **What is read in any reachable store**: an answer iff the observations of the route and the key
    have at most 256 identifiers; it is the first in the order, and conflicts if a fresh one
    differs; the order of the rows does not matter; and a new override is undone by its
    deletion. -/
theorem effectiveCapability_resolves (R : Reading) (catalog : List CapabilityObservation)
    (key : CapabilityKey) (now : Int)
    (hX : X.validateProviderApiSnapshotObservation =
      validateProviderApiSnapshotObservation S uuid)
    (h : Reachable X uuid store) (hrt : store.provider.hasRoute modelRouteId = true) :
    ((∃ effective, effectiveCapability R uuid catalog modelRouteId key now store = .ok effective) ↔
        ((observationsOf R catalog modelRouteId key store).map
          CapabilityObservation.id).toFinset.card ≤ maxMergeObservations) ∧
      (∀ effective, effectiveCapability R uuid catalog modelRouteId key now store = .ok effective →
        Resolves (observationsOf R catalog modelRouteId key store) now effective) ∧
      (∀ other : Store, other.provider = store.provider →
        other.observations.rows.Perm store.observations.rows →
        effectiveCapability R uuid catalog modelRouteId key now other =
          effectiveCapability R uuid catalog modelRouteId key now store) ∧
      ∀ row time store', store.observations.find? row.id = none →
        upsertUserCapabilityOverride X uuid row time store = .ok store' →
        deleteUserCapabilityOverride uuid row.modelRouteId row.id store' = .ok store := by
  obtain ⟨start, calls, hstart, rfl⟩ := h
  have hs := run_unsigned hX calls hstart
  obtain ⟨hok, hknown⟩ := effectiveCapability_of_unsigned hs hrt
  exact ⟨hok, hknown, fun _ hprov hperm => effectiveCapability_of_perm hprov hperm,
    fun _ _ _ hnew h => deleteUserCapabilityOverride_of_upsert hnew h⟩

/-! ### Observations without number -/

def sampleReading : Reading where
  time text := text.length
  json text := .string text

def sampleExternals : Externals where
  toSync := committedExternals
  validateWireMetadata _ _ _ := .ok ()

def sampleOverride : Row :=
  { sampleObservation with modelRouteId := "s", source := .userOverride }

def overriddenAt : String := "2026-01-01T00:00:05+00:00"

theorem effectiveCapability_resolves_override : ∃ store',
    upsertUserCapabilityOverride sampleExternals "" sampleOverride overriddenAt
        committingStore = .ok store' ∧
      deleteUserCapabilityOverride "" "s" "o" store' = .ok committingStore := by
  have hreach : Reachable sampleExternals "" committingStore :=
    ⟨committingStore, [], forall_mem_nil _, rfl⟩
  have hrt : committingStore.provider.hasRoute "s" = true := rfl
  obtain ⟨-, -, -, hundone⟩ :=
    effectiveCapability_resolves sampleReading [] .toolCalling 0 rfl hreach hrt
  exact ⟨_, rfl, hundone sampleOverride overriddenAt _ rfl rfl⟩

/-- What a provider says of one capability of a route, under many identifiers. -/
def manyRows : List Row :=
  (range 257).map fun n =>
    { sampleObservation with id := n.repr, modelRouteId := "s" }

theorem nodup_manyRows : (manyRows.map ModelSync.CapabilityObservation.id).Nodup := by
  have hinj : Function.Injective Nat.repr := by
    refine Function.LeftInverse.injective (g := fun text => Nat.ofDigitChars 10 text.toList 0) ?_
    intro n
    simp [Nat.repr]
  rw [manyRows, map_map]
  exact nodup_range.map hinj

theorem length_manyRows : manyRows.length = 257 := by
  rw [manyRows, length_map, length_range]

/-- One call stores them all, and no answer is left for the capability. -/
theorem effectiveCapability_crowded : ∃ store, Reachable sampleExternals "" store ∧
    store.provider.hasRoute "s" = true ∧ ∀ effective,
      effectiveCapability sampleReading "" [] "s" .toolCalling 0 store ≠ .ok effective := by
  have hstart : Unsigned committingStore := forall_mem_nil _
  obtain ⟨observations, hwrite, hrows⟩ := upsertRows_of_new (X := sampleExternals) []
    committingStore (fun _ _ => ⟨not_mem_nil, rfl⟩) nodup_manyRows fun _ _ => rfl
  have hall : ∀ row ∈ manyRows, row.source = .providerApi ∧ row.modelRouteId = "s" ∧
      row.key = .toolCalling := by
    rw [manyRows, forall_mem_map]
    exact fun _ _ => ⟨rfl, rfl, rfl⟩
  have hcall : recordCapabilityObservationsFromSource sampleExternals "" .providerApi manyRows
      committingStore = .ok { committingStore with observations } := by
    refine unit_bind_ok.mpr ⟨forEach_ok.mpr fun row hrow => ?_, guard_ok.mpr ⟨?_, ?_⟩⟩
    · obtain ⟨hsrc, hrt, -⟩ := hall row hrow
      refine guard_ok.mpr ⟨hsrc, ?_⟩
      rw [validateCapabilityWireMetadata, hrt]
      rfl
    · rw [length_manyRows]
      decide
    · exact bind_ok.mpr ⟨_, hwrite, unit_bind_ok.mpr ⟨rfl, rfl⟩⟩
  have hreach : Reachable sampleExternals "" { committingStore with observations } := by
    refine ⟨_, [.recordProviderApi manyRows], hstart, ?_⟩
    rw [run, foldl_cons, Call.run, hcall]
    rfl
  have hs : Unsigned { committingStore with observations } := by
    intro row hrow
    rw [hrows] at hrow
    rw [(hall row hrow).1]
    decide
  refine ⟨_, hreach, rfl, fun effective h => ?_⟩
  have hcard := (effectiveCapability_of_unsigned hs rfl).1.mp ⟨effective, h⟩
  have hids : (observationsOf sampleReading [] "s" .toolCalling
      { committingStore with observations }).map CapabilityObservation.id =
        manyRows.map ModelSync.CapabilityObservation.id := by
    rw [observationsOf, append_nil, filter_eq_self.mpr, hrows, map_map]
    · rfl
    · rw [hrows, forall_mem_map]
      exact fun row hrow => decide_eq_true (hall row hrow).2
  rw [hids, toFinset_card_of_nodup nodup_manyRows, length_map, length_manyRows]
    at hcard
  exact absurd hcard (by decide)

end LorePia.Capabilities
