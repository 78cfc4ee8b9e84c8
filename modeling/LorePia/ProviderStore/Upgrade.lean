import LorePia.ProviderStore.Migration
import LorePia.ProviderStore.Runs

namespace LorePia.ProviderStore

open Lib List AppSettings Except RouteIdentity Store Table
open Discovery (ProviderNetworkMode)
open DiscoveryStore (notBlank nullOr sqlChars sqlLength sqlTrim)

/-!
# The provider store — which profiles can be upgraded

The check of a legacy profile and the check of the connection that migration 4 makes of it read
one base URL by different rules.

* `Migratable` — the base URLs that both accept;
* `legacyGraph_accepted_iff` — the connection of a valid profile is accepted iff its URL is one;
* `applyMigrationFour_isOk_iff` — which databases of valid profiles are upgraded.
-/

variable {connection : ProviderConnection} {route : ModelRoute} {id : String} {baseUrl : String}
  {graph : ProviderConnection × ModelRoute × GenerationPreset} {preset : GenerationPreset}
  {settings : AppSettings}

variable {U : UrlCrate} {X : Externals} {uuid : String} {templates : Templates} {store : Store}
  {profile : ProviderProfile}

/-! ### Origins -/

/-- What the URL crate documents of a web URL: it has a host, and its origin begins with its scheme
    and is a URL with the same scheme and host and nothing else. -/
def SerializesOrigins (U : UrlCrate) : Prop :=
  ∀ value url, U.parse value = .ok url → url.scheme = "https" ∨ url.scheme = "http" →
    url.host.isSome ∧ (∃ rest, url.originAscii = url.scheme ++ rest) ∧
      U.parse url.originAscii = .ok { url with
        username := "", password := none, path := "/", query := none, fragment := none }

/-- A base URL that a profile may have, with its parts. -/
structure BaseUrl (U : UrlCrate) (baseUrl : String) (url : ParsedUrl) (host : String) : Prop where
  parsed : U.parse baseUrl = .ok url
  scheme : url.scheme = "https" ∨ url.scheme = "http"
  secure : url.scheme = "https" ∨ isLoopbackHost host = true
  host : url.host = some host
  origin : U.parse url.originAscii = .ok { url with
    username := "", password := none, path := "/", query := none, fragment := none }
  named : ∃ rest, url.originAscii = url.scheme ++ rest

theorem canonicalOriginForLegacyBaseUrl_ok (hU : SerializesOrigins U)
    (h : canonicalOriginForLegacyBaseUrl U uuid baseUrl = .ok origin) :
    ∃ url host, BaseUrl U baseUrl url host ∧ origin = ⟨url.originAscii⟩ := by
  obtain ⟨_, url, hparsed, h⟩ := guard_step h
  rw [mapError_ok] at hparsed
  obtain ⟨_, _, h⟩ := guards₂ h
  obtain ⟨hscheme, hsecure, h⟩ := guards₂ h
  obtain ⟨hhost, hnamed, horig⟩ := hU baseUrl url hparsed hscheme
  obtain ⟨host, hhost⟩ := Option.isSome_iff_exists.mp hhost
  rw [hhost, Option.any_some] at hsecure
  refine ⟨url, host, ⟨hparsed, hscheme, hsecure, hhost, horig, hnamed⟩, ?_⟩
  -- the origin that is parsed again has the same serialization
  rw [mapError_ok, CanonicalOrigin.parse, horig] at h
  obtain ⟨_, _, h⟩ := guards₂ h
  exact (pure_inj h).symm

/-- The network mode of a host. -/
def networkModeOf (host : String) : ProviderNetworkMode :=
  if isLoopbackHost host then .localLoopback else .public

theorem BaseUrl.networkMode {host : String} (h : BaseUrl U baseUrl url host) :
    legacyNetworkMode U uuid baseUrl = .ok (networkModeOf host) := by
  rw [legacyNetworkMode, h.parsed]
  show ok (if url.host.any isLoopbackHost = true then _ else _) = _
  rw [h.host, Option.any_some]
  rfl

/-- The base path of a URL, where it has one. -/
def basePathOf (url : ParsedUrl) : Option EndpointPath :=
  if url.path = "/" then none else some ⟨url.path⟩

theorem BaseUrl.apiBasePath {host : String}
    (h : BaseUrl U baseUrl url host) : legacyApiBasePath U uuid baseUrl = .ok path ↔
      (url.path = "/" ∨ isNormalizedPath url.path = true) ∧ path = basePathOf url := by
  rw [legacyApiBasePath, h.parsed]
  show (if url.path = "/" then _ else _) = ok path ↔ _
  rw [basePathOf]
  by_cases hpath : url.path = "/"
  · rw [if_pos hpath, if_pos hpath, pure_ok, ok.injEq, eq_comm, and_iff_right (.inl hpath)]
  · rw [if_neg hpath, if_neg hpath, or_iff_right hpath, bind_ok]
    simp only [mapError_ok, parseEndpointPath, guard_ok, pure_ok,
      Except.ok.injEq, and_assoc, exists_and_left, exists_eq_left', eq_comm (b := path)]

/-- A legacy connection has no approval, so its host is a loopback one, or is public. -/
theorem BaseUrl.networkContract {host : String} (h : BaseUrl U baseUrl url host)
    (hmode : config.networkMode = networkModeOf host) (hnone : config.localNetworkApproval = none) :
    validateProviderNetworkContract U uuid ⟨url.originAscii⟩ config = .ok () ↔
      isLoopbackHost host = true ∨ isPrivateHost host = false := by
  rw [validateProviderNetworkContract, h.origin]
  simp only [h.host, Except.mapError, okOr, ok_bind, hmode, hnone, networkModeOf]
  by_cases hloop : isLoopbackHost host = true
  · simp [hloop]
  · have hhttps : url.scheme = "https" := h.secure.resolve_right hloop
    simp [hloop, hhttps, guard_ok]

/-! ### The graph of a profile -/

/-- The connection of `legacy_provider_graph`. -/
def legacyConnection (profile : ProviderProfile) (origin : CanonicalOrigin)
    (path : Option EndpointPath) (mode : ProviderNetworkMode) (timestamp : String) :
    ProviderConnection where
  id := profile.id
  templateId := legacyProviderTemplateId
  templateVersion := legacyProviderTemplateVersion
  displayName := profile.displayName
  apiOrigin := origin
  config :=
    { apiBasePath := path
      networkMode := mode
      localNetworkApproval := none
      values := [⟨legacyBaseUrlConfigKey, .text profile.baseUrl⟩] }
  credentialRef := some ⟨profile.id⟩
  credentialScope := some
    { allowedOrigins := [origin], authBinding := .bearerHeader, redirectPolicy := .deny }
  timeoutSeconds := profile.timeoutSeconds
  status := .untested
  createdAt := timestamp
  updatedAt := timestamp

/-- The preset of `legacy_provider_graph`. -/
def legacyPreset (X : Externals) (profile : ProviderProfile) (timestamp : String) :
    GenerationPreset where
  id := profile.id
  modelRouteId := profile.id
  displayName := "Default"
  valuesJson := X.legacyPresetValuesJson
  createdAt := timestamp
  updatedAt := timestamp

theorem legacyProviderGraph_ok :
    legacyProviderGraph X uuid profile timestamp = .ok graph ↔
      validateLegacyProviderProfile X uuid profile = .ok () ∧
        ∃ origin path mode, X.canonicalOriginForLegacyBaseUrl profile.baseUrl = .ok origin ∧
          X.legacyApiBasePath profile.baseUrl = .ok path ∧
          X.legacyNetworkMode profile.baseUrl = .ok mode ∧
          graph = (legacyConnection profile origin path mode timestamp,
            legacyRoute profile timestamp, legacyPreset X profile timestamp) := by
  rw [legacyProviderGraph, unit_bind_ok]
  refine and_congr_right fun _ => ?_
  simp only [bind_ok, pure_ok, ok.injEq, exists_and_left, eq_comm (b := graph)]
  rfl

/-- What the check of a profile establishes. -/
structure ValidProfile (profile : ProviderProfile) : Prop where
  id : trim profile.id ≠ ""
  displayName : trim profile.displayName ≠ ""
  model : trim profile.model ≠ ""
  timeout : 1 ≤ profile.timeoutSeconds ∧ profile.timeoutSeconds ≤ 600

theorem validateLegacyProviderProfile_ok :
    validateLegacyProviderProfile X uuid profile = .ok () ↔ ValidProfile profile ∧
      ∃ origin, X.canonicalOriginForLegacyBaseUrl profile.baseUrl = .ok origin := by
  have hparts : ValidProfile profile ↔ trim profile.id ≠ "" ∧ trim profile.displayName ≠ "" ∧
      trim profile.model ≠ "" ∧ 1 ≤ profile.timeoutSeconds ∧ profile.timeoutSeconds ≤ 600 :=
    ⟨fun h => ⟨h.id, h.displayName, h.model, h.timeout⟩, fun h => ⟨h.1, h.2.1, h.2.2.1, h.2.2.2⟩⟩
  rw [hparts, validateLegacyProviderProfile]
  simp only [validateNonempty, require_ok, bind_ok, pure_ok, and_true, and_assoc, exists_const]

/-! ### The connection of a profile -/

/-- The template table holds the built-in template. -/
def HasLegacyTemplate (templates : Templates) : Prop :=
  templates.find? (legacyProviderTemplateId, legacyProviderTemplateVersion) =
    some legacyProviderTemplate

/-- A stored profile is the one a connection is made of. -/
def Store.Mirrors (store : Store) (profile : ProviderProfile) : Prop :=
  ∀ stored, store.providerProfiles.find? profile.id = some stored → stored = profile

section Connection

variable {origin : CanonicalOrigin}

theorem validateConnectionConfig_legacy : validateConnectionConfig uuid
    (legacyConnection profile origin path mode timestamp).config = .ok () := by
  have hkey : trim legacyBaseUrlConfigKey ≠ "" := by decide
  have hplain : isSensitiveConfigurationKey legacyBaseUrlConfigKey = false := by decide
  refine bind_ok.mpr ⟨(), ?_, rfl⟩
  refine guarded hkey ?_
  exact guarded not_mem_nil (require_ok.mpr hplain)

theorem validateCredentials_legacy (hid : trim profile.id ≠ "") : validateCredentials uuid
    (legacyConnection profile origin path mode timestamp) = .ok () := by
  refine guarded hid ?_
  refine guarded (cons_ne_nil _ _) ?_
  exact guarded (mem_singleton_self _) (require_ok.mpr (nodup_singleton _))

theorem validateConnectionAgainstTemplate_legacy : validateConnectionAgainstTemplate uuid
    (legacyConnection profile origin path mode timestamp) legacyProviderTemplate = .ok () := by
  rfl

theorem validateLegacyProviderConnection_legacy (hstored : store.Mirrors profile)
    (horig : canonicalOriginForLegacyBaseUrl U uuid profile.baseUrl = .ok origin)
    (hpath : legacyApiBasePath U uuid profile.baseUrl = .ok path)
    (hmode : legacyNetworkMode U uuid profile.baseUrl = .ok mode) :
    validateLegacyProviderConnection U uuid store
      (legacyConnection profile origin path mode timestamp) = .ok () := by
  refine then_ok rfl (then_ok horig ?_)
  refine guarded rfl (then_ok hpath ?_)
  refine guarded rfl (then_ok hmode ?_)
  refine guarded rfl (guarded (beq_self_eq_true _) ?_)
  refine require_ok.mpr ?_
  show (store.providerProfiles.find? profile.id).all _ = true
  cases hfind : store.providerProfiles.find? profile.id with
  | none => rfl
  | some stored =>
    obtain rfl := hstored stored hfind
    simp [legacyConnection]

end Connection

/-! ### Which base URLs are accepted -/

/-- The base URLs that the check of a connection accepts as well: the path is one that an endpoint
    may have, and the host is a loopback one or no private address. -/
def Migratable (U : UrlCrate) (baseUrl : String) : Prop :=
  ∃ url host, U.parse baseUrl = .ok url ∧ url.host = some host ∧
    (url.path = "/" ∨ isNormalizedPath url.path = true) ∧
    (isLoopbackHost host = true ∨ isPrivateHost host = false)

/-- The connection of a profile, with what its base URL determines. -/
def connectionOf (profile : ProviderProfile) (url : ParsedUrl) (host migratedAt : String) :
    ProviderConnection :=
  legacyConnection profile ⟨url.originAscii⟩ (basePathOf url) (networkModeOf host) migratedAt

theorem validateProviderConnection_legacy {host : String}
    (htmpl : HasLegacyTemplate templates) (hstored : store.Mirrors profile)
    (hval : ValidProfile profile) (hurl : BaseUrl U profile.baseUrl url host)
    (horig : canonicalOriginForLegacyBaseUrl U uuid profile.baseUrl = .ok ⟨url.originAscii⟩)
    (hnormal : url.path = "/" ∨ isNormalizedPath url.path = true) :
    validateProviderConnection U uuid templates store (connectionOf profile url host timestamp) =
      .ok () ↔ isLoopbackHost host = true ∨ isPrivateHost host = false := by
  let connection := connectionOf profile url host timestamp
  have hcontract : validateProviderNetworkContract U uuid connection.apiOrigin connection.config =
      .ok () ↔ isLoopbackHost host = true ∨ isPrivateHost host = false :=
    hurl.networkContract rfl rfl
  rw [← hcontract]
  constructor
  · intro h
    obtain ⟨_, _, h⟩ := rest₂ h
    obtain ⟨_, _, h⟩ := rest₂ h
    obtain ⟨_, hnetwork, _⟩ := bind_ok.mp h
    exact hnetwork
  · intro hnetwork
    have hpath : legacyApiBasePath U uuid profile.baseUrl = .ok (basePathOf url) :=
      hurl.apiBasePath.mpr ⟨hnormal, rfl⟩
    refine guarded hval.id ?_
    refine guarded hval.displayName ?_
    refine guarded Nat.one_ne_zero (guarded hval.timeout ?_)
    refine then_ok hnetwork ?_
    refine then_ok (okOr_ok.mpr htmpl) ?_
    refine then_ok validateConnectionConfig_legacy ?_
    refine then_ok (validateCredentials_legacy hval.id) ?_
    refine then_ok validateConnectionAgainstTemplate_legacy ?_
    exact validateLegacyProviderConnection_legacy hstored horig hpath hurl.networkMode

/-- The graph of a valid profile is determined by its base URL, whose path may prevent it. -/
theorem legacyGraph_ok {host : String}
    (hval : validateLegacyProviderProfile (X.withTemplates U uuid templates) uuid profile =
      .ok ()) (hurl : BaseUrl U profile.baseUrl url host)
    (horig : canonicalOriginForLegacyBaseUrl U uuid profile.baseUrl = .ok ⟨url.originAscii⟩) :
    legacyProviderGraph (X.withTemplates U uuid templates) uuid profile timestamp = .ok graph ↔
      (url.path = "/" ∨ isNormalizedPath url.path = true) ∧
        graph = (connectionOf profile url host timestamp, legacyRoute profile timestamp,
          legacyPreset X profile timestamp) := by
  rw [legacyProviderGraph_ok]
  constructor
  · rintro ⟨_, origin, path, mode, horig', hpath, hmode, rfl⟩
    obtain rfl := ok.inj (horig.symm.trans horig')
    obtain rfl := ok.inj (hurl.networkMode.symm.trans hmode)
    obtain ⟨hnormal, rfl⟩ := hurl.apiBasePath.mp hpath
    exact ⟨hnormal, rfl⟩
  · rintro ⟨hnormal, rfl⟩
    exact ⟨hval, _, _, _, horig, hurl.apiBasePath.mpr ⟨hnormal, rfl⟩, hurl.networkMode, rfl⟩

theorem BaseUrl.migratable_iff {host : String}
    (h : BaseUrl U baseUrl url host) : Migratable U baseUrl ↔
      (url.path = "/" ∨ isNormalizedPath url.path = true) ∧
        (isLoopbackHost host = true ∨ isPrivateHost host = false) := by
  constructor
  · rintro ⟨url', host', hparsed, hhost, hboth⟩
    obtain rfl := ok.inj (h.parsed.symm.trans hparsed)
    obtain rfl := Option.some.inj (h.host.symm.trans hhost)
    exact hboth
  · exact fun hboth => ⟨url, host, h.parsed, h.host, hboth⟩

/-- **The two checks of a profile.** The connection of a valid profile is accepted iff its base URL
    is one that both checks accept. -/
theorem legacyGraph_accepted_iff (hU : SerializesOrigins U)
    (htmpl : HasLegacyTemplate templates) (hstored : store.Mirrors profile)
    (hval : validateLegacyProviderProfile (X.withTemplates U uuid templates) uuid profile =
      .ok ()) :
    (∃ graph, legacyProviderGraph (X.withTemplates U uuid templates) uuid profile timestamp =
        .ok graph ∧ validateProviderConnection U uuid templates store graph.1 = .ok ()) ↔
      Migratable U profile.baseUrl := by
  obtain ⟨hprof, origin, horig⟩ := validateLegacyProviderProfile_ok.mp hval
  obtain ⟨url, host, hurl, rfl⟩ := canonicalOriginForLegacyBaseUrl_ok hU horig
  rw [hurl.migratable_iff]
  constructor
  · rintro ⟨_, hgraph, hacc⟩
    obtain ⟨hnormal, rfl⟩ := (legacyGraph_ok hval hurl horig).mp hgraph
    exact ⟨hnormal, (validateProviderConnection_legacy htmpl hstored hprof hurl horig
      hnormal).mp hacc⟩
  · rintro ⟨hnormal, hpublic⟩
    refine ⟨_, (legacyGraph_ok hval hurl horig).mpr ⟨hnormal, rfl⟩, ?_⟩
    exact (validateProviderConnection_legacy htmpl hstored hprof hurl horig hnormal).mpr hpublic

/-! ### Rows that are inserted -/

/-- The constraints of a store. -/
def Store.Enforced (store : Store) : Prop :=
  store.checks = true ∧ store.uniqueKeys = true ∧ store.foreignKeys = true

theorem enforce_ok_iff : store.enforce = .ok store' ↔ store.Enforced ∧ store' = store := by
  rw [enforce_eq_ok, Store.Enforced, and_assoc, and_assoc]

theorem enforced_putConnection (h : store.Enforced)
    (hfree : store.providerConnections.find? connection.id = none) :
    (store.putConnection connection).Enforced ↔
      (⟨connection, none⟩ : ConnectionRow).checks = true := by
  obtain ⟨hchecks, huniq, hforeign⟩ := h
  have hforeign' : (store.putConnection connection).foreignKeys = true := by
    simp only [Store.foreignKeys, Bool.and_eq_true, all_eq_true] at hforeign ⊢
    exact ⟨⟨fun row hrow => Table.isSome_find?_upsert_of_free hfree (hforeign.1.1 row hrow),
      hforeign.1.2⟩, hforeign.2⟩
  have hchecks' : (store.putConnection connection).checks = true ↔
      (⟨connection, none⟩ : ConnectionRow).checks = true := by
    have hall : (store.putConnection connection).providerConnections.rows.all
        ConnectionRow.checks = _ := all_rows_upsert_of_free hfree
    simp only [Store.checks, Bool.and_eq_true] at hchecks ⊢
    rw [hall, hchecks.1.1, Bool.true_and]
    exact ⟨fun hall => hall.1.1, fun hrow => ⟨⟨hrow, hchecks.1.2⟩, hchecks.2⟩⟩
  exact ⟨fun hall => hchecks'.mp hall.1, fun hrow => ⟨hchecks'.mpr hrow, huniq, hforeign'⟩⟩

theorem enforced_putRoute (h : store.Enforced) (hfree : store.providerModels.find? route.id = none)
    (hconn : (store.providerConnections.find? route.connectionId).isSome = true)
    (hnew : ∀ old ∈ store.providerModels.rows, old.identity ≠ route.identity) :
    (store.putRoute route).Enforced ↔ route.checks = true := by
  obtain ⟨hchecks, huniq, hforeign⟩ := h
  have hforeign' : (store.putRoute route).foreignKeys = true := by
    simp only [Store.foreignKeys, Bool.and_eq_true, all_eq_true] at hforeign ⊢
    refine ⟨⟨all_eq_true.mp ?_, fun row hrow => ?_⟩, fun row hrow => ⟨?_, (hforeign.2 row hrow).2⟩⟩
    · exact (Table.all_rows_upsert_of_free hfree).trans
        (Bool.and_eq_true_iff.mpr ⟨all_eq_true.mpr hforeign.1.1, hconn⟩)
    · exact isSome_find?_upsert_of_free hfree (hforeign.1.2 row hrow)
    · exact (Option.all_eq_true _ _).mpr fun id hid => isSome_find?_upsert_of_free hfree
        ((Option.all_eq_true _ _).mp (hforeign.2 row hrow).1 id hid)
  have huniq' : (store.putRoute route).uniqueKeys = true := by
    simp only [uniqueKeys, putRoute, decide_eq_true_eq, rows_upsert_of_free hfree] at huniq ⊢
    rw [map_append, map_singleton, nodup_append]
    refine ⟨huniq, nodup_singleton _, fun identity hident other hoth => ?_⟩
    obtain ⟨old, hold, rfl⟩ := mem_map.mp hident
    rw [mem_singleton.mp hoth]
    exact hnew old hold
  have hchecks' : (store.putRoute route).checks = true ↔ route.checks = true := by
    simp only [Store.checks, Store.putRoute, Bool.and_eq_true,
      all_rows_upsert_of_free hfree] at hchecks ⊢
    simp only [hchecks, true_and, and_true]
  exact ⟨fun hall => hchecks'.mp hall.1, fun hrow => ⟨hchecks'.mpr hrow, huniq', hforeign'⟩⟩

theorem enforced_putPreset (h : store.Enforced)
    (hfree : store.generationPresets.find? preset.id = none)
    (hrt : store.hasRoute preset.modelRouteId = true) :
    (store.putPreset preset).Enforced ↔ preset.checks = true := by
  obtain ⟨hchecks, huniq, hforeign⟩ := h
  have hforeign' : (store.putPreset preset).foreignKeys = true := by
    simp only [Store.foreignKeys, Bool.and_eq_true, all_eq_true] at hforeign ⊢
    refine ⟨⟨hforeign.1.1, all_eq_true.mp ?_⟩, fun row hrow => ⟨(hforeign.2 row hrow).1, ?_⟩⟩
    · exact (Table.all_rows_upsert_of_free hfree).trans
        (Bool.and_eq_true_iff.mpr ⟨all_eq_true.mpr hforeign.1.2, hrt⟩)
    · exact (Option.all_eq_true _ _).mpr fun id hid => isSome_find?_upsert_of_free hfree
        ((Option.all_eq_true _ _).mp (hforeign.2 row hrow).2 id hid)
  have hchecks' : (store.putPreset preset).checks = true ↔ preset.checks = true := by
    simp only [Store.checks, Store.putPreset, Bool.and_eq_true,
      all_rows_upsert_of_free hfree] at hchecks ⊢
    simp only [hchecks, true_and, and_true]
  exact ⟨fun hall => hchecks'.mp hall.1, fun hrow => ⟨hchecks'.mpr hrow, huniq, hforeign'⟩⟩

/-! ### Inserting the rows of a profile -/

/-- What an insertion under a free key leaves. -/
theorem execute_insert_ok {κ ρ : Type} [DecidableEq κ] {key : ρ → κ} {t : Table κ ρ key} {r : ρ}
    {f : ρ → ρ} {hf : ∀ x, key (f x) = key x} {put : Table κ ρ key → Store}
    (hfree : t.find? (key r) = none) :
    execute uuid X (do
        let t' ← okOr (t.insert? r) .uniqueConstraint
        enforce (put t')) = .ok store' ↔
      (put (t.upsert r f hf)).Enforced ∧ store' = put (t.upsert r f hf) := by
  have hinsert : t.insert? r = some (t.upsert r f hf) := by
    cases h : t.insert? r with
    | none => exact absurd h (insert?_ne_none hfree)
    | some t' => rw [upsert, h, Option.getD_some]
  rw [execute, mapError_ok, hinsert]
  exact enforce_ok_iff

theorem insertProviderConnection_ok (hfree : store.providerConnections.find? connection.id = none) :
    insertProviderConnectionDuringV4Migration U X uuid templates connection store = .ok store' ↔
      validateProviderConnection U uuid templates store connection = .ok () ∧
        connection.createdAt ≤ connection.updatedAt ∧ (store.putConnection connection).Enforced ∧
          store' = store.putConnection connection := by
  rw [insertProviderConnectionDuringV4Migration, unit_bind_ok, guard_ok]
  exact and_congr_right fun _ => and_congr_right fun _ => execute_insert_ok hfree

theorem insertModelRoute_ok (hfree : store.providerModels.find? route.id = none) :
    insertModelRouteDuringV4Migration X uuid templates route store = .ok store' ↔
      validateModelRouteForSchema uuid templates store route false = .ok () ∧
        (route.lastSeenAt.all fun lastSeenAt => decide (route.firstSeenAt ≤ lastSeenAt)) = true ∧
          (store.putRoute route).Enforced ∧ store' = store.putRoute route := by
  rw [insertModelRouteDuringV4Migration, unit_bind_ok, guard_ok]
  exact and_congr_right fun _ => and_congr_right fun _ => execute_insert_ok hfree

theorem insertGenerationPreset_ok {values : List ParameterValue}
    (hfree : store.generationPresets.find? preset.id = none) :
    insertGenerationPresetDuringV4Migration X uuid templates preset values store = .ok store' ↔
      validateGenerationPresetForSchema uuid templates store preset values false = .ok () ∧
        preset.createdAt ≤ preset.updatedAt ∧ (store.putPreset preset).Enforced ∧
          store' = store.putPreset preset := by
  rw [insertGenerationPresetDuringV4Migration, unit_bind_ok, guard_ok]
  exact and_congr_right fun _ => and_congr_right fun _ => execute_insert_ok hfree

/-! ### Texts that SQLite sees -/

/-- A text that begins with a character other than a space and NUL is not blank. -/
theorem notBlank_cons {text : String} (htext : text.toList = c :: cs) (hspace : c ≠ ' ')
    (hnul : c ≠ '\x00') : notBlank text = true := by
  have hdrop : text.toList.dropWhile (· = ' ') = c :: cs := by
    rw [htext, dropWhile_cons_of_neg (by simpa using hspace)]
  have htrim : ∃ rest, ((c :: cs).reverse.dropWhile (· = ' ')).reverse = c :: rest := by
    rw [reverse_cons]
    induction cs.reverse with
    | nil => exact ⟨[], by simp [hspace]⟩
    | cons d ds ih =>
      rw [cons_append, dropWhile_cons]
      split
      · exact ih
      · exact ⟨ds.reverse ++ [d], by simp⟩
  obtain ⟨rest, htrim⟩ := htrim
  rw [notBlank, sqlLength, sqlTrim, hdrop, htrim, sqlChars, String.toList_ofList,
    takeWhile_cons_of_pos (by simpa using hnul)]
  simp

theorem BaseUrl.notBlank_origin {host : String}
    (h : BaseUrl U baseUrl url host) : notBlank url.originAscii = true := by
  obtain ⟨rest, hrest⟩ := h.named
  rcases h.scheme with hscheme | hscheme
  · exact notBlank_cons (c := 'h') (by rw [hrest, hscheme, String.toList_append]; rfl)
      (by decide) (by decide)
  · exact notBlank_cons (c := 'h') (by rw [hrest, hscheme, String.toList_append]; rfl)
      (by decide) (by decide)

/-! ### One profile -/

/-- The profiles that are upgraded: the base URL passes both checks, and the database, which counts
    the characters of a text up to the first NUL, does not take a name for blank. -/
structure Upgradable (U : UrlCrate) (profile : ProviderProfile) : Prop where
  baseUrl : Migratable U profile.baseUrl
  id : notBlank profile.id = true
  displayName : notBlank profile.displayName = true
  model : notBlank profile.model = true

/-- The tables while the profiles are migrated one after the other. -/
structure Migrating (X : Externals) (migratedAt : String)
    (profiles : Table String ProviderProfile ProviderProfile.id) (appSettings : Option AppSettings)
    (done : List ProviderProfile) (store : Store) : Prop where
  profiles : store.providerProfiles = profiles
  settings : store.appSettings = appSettings
  enforced : store.Enforced
  connectionIds : store.providerConnections.rows.map ConnectionRow.id = done.map ProviderProfile.id
  connections : ∀ row ∈ store.providerConnections.rows,
    row.connection.isLegacy = true ∧ row.isActive = true
  routes : store.providerModels.rows = done.map fun profile => legacyRoute profile migratedAt
  presets : store.generationPresets.rows = done.map fun profile => legacyPreset X profile migratedAt

section Turn

variable {migratedAt : String} {profiles : Table String ProviderProfile ProviderProfile.id}
  {appSettings : Option AppSettings} {done : List ProviderProfile}

theorem Migrating.free (h : Migrating X migratedAt profiles appSettings done store)
    (hnew : profile.id ∉ done.map ProviderProfile.id) :
    store.providerConnections.find? profile.id = none ∧
      store.providerModels.find? profile.id = none ∧
        store.generationPresets.find? profile.id = none := by
  have hne : ∀ other ∈ done, other.id ≠ profile.id :=
    fun other hoth heq => hnew (heq ▸ mem_map_of_mem hoth)
  refine ⟨Table.find?_eq_none.mpr fun row hrow heq => hnew ?_, Table.find?_eq_none.mpr ?_,
    Table.find?_eq_none.mpr ?_⟩
  · rw [← h.connectionIds, ← heq]
    exact mem_map_of_mem hrow
  · intro row hrow
    rw [h.routes] at hrow
    obtain ⟨other, hoth, rfl⟩ := mem_map.mp hrow
    exact hne other hoth
  · intro row hrow
    rw [h.presets] at hrow
    obtain ⟨other, hoth, rfl⟩ := mem_map.mp hrow
    exact hne other hoth

/-- The rows of a profile. -/
def Store.putGraph (store : Store) (connection : ProviderConnection) (route : ModelRoute)
    (preset : GenerationPreset) : Store :=
  ((store.putConnection connection).putRoute route).putPreset preset

theorem connectionTemplate_put (htmpl :
      templates.find? (connection.templateId, connection.templateVersion) =
        some legacyProviderTemplate)
    (hfree : store.providerConnections.find? connection.id = none) :
    connectionTemplate templates (store.putConnection connection) false connection.id =
      some legacyProviderTemplate := by
  have hfind : (store.putConnection connection).providerConnections.find? connection.id =
      some ⟨connection, none⟩ := by
    rw [Store.putConnection, Table.find?_upsert]
    simp [ConnectionRow.id, hfree]
  show ((store.putConnection connection).providerConnections.find? connection.id).bind _ = _
  rw [hfind]
  exact htmpl

theorem validateModelRouteForSchema_legacy (hval : ValidProfile profile)
    (hstored : store.Mirrors profile)
    (htmpl : connectionTemplate templates store false profile.id = some legacyProviderTemplate) :
    validateModelRouteForSchema uuid templates store (legacyRoute profile migratedAt) false =
      .ok () := by
  refine guarded hval.id ?_
  refine guarded hval.id ?_
  refine guarded hval.model ?_
  refine guarded (by simpa [legacyRoute] using hval.model) ?_
  refine bind_ok.mpr ⟨(), rfl, bind_ok.mpr ⟨_, okOr_ok.mpr htmpl, ?_⟩⟩
  refine guarded ⟨rfl, rfl⟩ (require_ok.mpr ?_)
  rintro ⟨_, _, _, hmod⟩
  obtain ⟨stored, hfind, hne⟩ := (Option.any_eq_true _ _).mp hmod
  obtain rfl := hstored stored hfind
  simp [legacyRoute] at hne

theorem validateLegacyPresetValues : validateEach ParameterValue.parameterId
    (validatePresetValue uuid legacyProviderTemplate.defaultManifest.parameters) []
    legacyPresetValues = .ok () := by
  rfl

theorem validateGenerationPresetForSchema_legacy (hval : ValidProfile profile) (hrt : store.providerModels.find? profile.id = some route)
    (htmpl : connectionTemplate templates store false route.connectionId =
      some legacyProviderTemplate) :
    validateGenerationPresetForSchema uuid templates store (legacyPreset X profile migratedAt)
      legacyPresetValues false = .ok () := by
  have hname : trim "Default" ≠ "" := by decide
  refine guarded hval.id ?_
  refine guarded hname ?_
  refine bind_ok.mpr ⟨legacyProviderTemplate, okOr_ok.mpr ?_, validateLegacyPresetValues⟩
  show (store.providerModels.find? profile.id).bind _ = _
  rw [hrt]
  exact htmpl

section

variable (hnow : notBlank migratedAt = true)
include hnow

theorem checks_legacyConnection {host : String} (hval : ValidProfile profile)
    (hurl : BaseUrl U profile.baseUrl url host) :
    (⟨legacyConnection profile ⟨url.originAscii⟩ path mode migratedAt, none⟩ :
        ConnectionRow).checks = true ↔
      notBlank profile.id = true ∧ notBlank profile.displayName = true := by
  have htmpl : notBlank legacyProviderTemplateId = true := by decide
  simp only [ConnectionRow.checks, legacyConnection, htmpl, hurl.notBlank_origin, hnow,
    hval.timeout, legacyProviderTemplateVersion, Option.map_some, nullOr, Option.all_some,
    Option.all_none, Bool.and_eq_true, decide_eq_true_eq, and_true, zero_lt_one]
  exact ⟨fun h => ⟨h.1.1, h.1.2⟩, fun h => ⟨⟨h.1, h.2⟩, h.1⟩⟩

theorem checks_legacyRoute :
    (legacyRoute profile migratedAt).checks = true ↔
      notBlank profile.id = true ∧ notBlank profile.model = true := by
  simp [ModelRoute.checks, legacyRoute, hnow, nullOr]

theorem checks_legacyPreset :
    (legacyPreset X profile migratedAt).checks = true ↔ notBlank profile.id = true := by
  have hname : notBlank "Default" = true := by decide
  simp [GenerationPreset.checks, legacyPreset, hnow, hname]

end

/-- The tables with the rows of a profile. -/
def Store.putLegacy (store : Store) (X : Externals) (profile : ProviderProfile) (url : ParsedUrl)
    (host migratedAt : String) : Store :=
  store.putGraph (connectionOf profile url host migratedAt) (legacyRoute profile migratedAt)
    (legacyPreset X profile migratedAt)

section Rows

variable (h : Migrating X migratedAt profiles appSettings done store)
  (hnew : profile.id ∉ done.map ProviderProfile.id)

include h hnew

theorem Migrating.find?_connection :
    (store.putConnection (connectionOf profile url host migratedAt)).providerConnections.find?
      profile.id = some ⟨connectionOf profile url host migratedAt, none⟩ := by
  have hfree := (h.free hnew).1
  rw [Store.putConnection, Table.find?_upsert]
  simp [ConnectionRow.id, connectionOf, legacyConnection, hfree]

theorem Migrating.enforced_connection (hnow : notBlank migratedAt = true)
    (hval : ValidProfile profile) (hurl : BaseUrl U profile.baseUrl url host) :
    (store.putConnection (connectionOf profile url host migratedAt)).Enforced ↔
      notBlank profile.id = true ∧ notBlank profile.displayName = true :=
  (enforced_putConnection h.enforced (h.free hnew).1).trans (checks_legacyConnection hnow hval hurl)

theorem Migrating.enforced_route (hnow : notBlank migratedAt = true)
    (henf : (store.putConnection (connectionOf profile url host migratedAt)).Enforced) :
    ((store.putConnection (connectionOf profile url host migratedAt)).putRoute
        (legacyRoute profile migratedAt)).Enforced ↔
      notBlank profile.id = true ∧ notBlank profile.model = true := by
  have hfree : (store.putConnection (connectionOf profile url host migratedAt)).providerModels.find?
      (legacyRoute profile migratedAt).id = none := (h.free hnew).2.1
  refine (enforced_putRoute henf hfree ?_ ?_).trans (checks_legacyRoute hnow)
  · show ((store.putConnection _).providerConnections.find? profile.id).isSome = true
    rw [h.find?_connection hnew]
    rfl
  · intro old hold hident
    change old ∈ store.providerModels.rows at hold
    rw [h.routes] at hold
    obtain ⟨other, hoth, rfl⟩ := mem_map.mp hold
    have hid : other.id = profile.id := congrArg connectionId hident
    exact hnew (hid ▸ mem_map_of_mem hoth)

theorem Migrating.find?_route :
    ((store.putConnection connection).putRoute
      (legacyRoute profile migratedAt)).providerModels.find? profile.id =
      some (legacyRoute profile migratedAt) := by
  have hfree : (store.putConnection connection).providerModels.find? profile.id = none :=
    (h.free hnew).2.1
  rw [putRoute, find?_upsert]
  simp [legacyRoute, hfree]

theorem Migrating.enforced_preset (hnow : notBlank migratedAt = true)
    (henf : ((store.putConnection (connectionOf profile url host migratedAt)).putRoute
      (legacyRoute profile migratedAt)).Enforced) :
    (store.putLegacy X profile url host migratedAt).Enforced ↔ notBlank profile.id = true := by
  have hfree : ((store.putConnection (connectionOf profile url host migratedAt)).putRoute
      (legacyRoute profile migratedAt)).generationPresets.find?
        (legacyPreset X profile migratedAt).id = none := (h.free hnew).2.2
  refine (enforced_putPreset henf hfree ?_).trans (checks_legacyPreset hnow)
  rw [Store.hasRoute, legacyPreset, h.find?_route hnew]
  rfl

/-- **The rows of one profile.** The database takes them iff it takes none of its texts for
blank. -/
theorem Migrating.enforced_iff (hnow : notBlank migratedAt = true) (hval : ValidProfile profile)
    (hurl : BaseUrl U profile.baseUrl url host) :
    ((store.putConnection (connectionOf profile url host migratedAt)).Enforced ∧
      ((store.putConnection (connectionOf profile url host migratedAt)).putRoute
        (legacyRoute profile migratedAt)).Enforced ∧
      (store.putLegacy X profile url host migratedAt).Enforced) ↔
      notBlank profile.id = true ∧ notBlank profile.displayName = true ∧
        notBlank profile.model = true := by
  constructor
  · rintro ⟨hconn, hrt, _⟩
    obtain ⟨hid, hname⟩ := (h.enforced_connection hnew hnow hval hurl).mp hconn
    exact ⟨hid, hname, ((h.enforced_route hnew hnow hconn).mp hrt).2⟩
  · rintro ⟨hid, hname, hmod⟩
    have hconn := (h.enforced_connection hnew hnow hval hurl).mpr ⟨hid, hname⟩
    have hrt := (h.enforced_route hnew hnow hconn).mpr ⟨hid, hmod⟩
    exact ⟨hconn, hrt, (h.enforced_preset hnew hnow hrt).mpr hid⟩

end Rows

/-- A migrated profile leaves its rows. -/
theorem Migrating.snoc {host : String} (h : Migrating X migratedAt profiles appSettings done store)
    (hnew : profile.id ∉ done.map ProviderProfile.id)
    (henf : (store.putLegacy X profile url host migratedAt).Enforced) :
    Migrating X migratedAt profiles appSettings (done ++ [profile])
      (store.putLegacy X profile url host migratedAt) := by
  obtain ⟨hfreeConn, hfreeRt, hfreePre⟩ := h.free hnew
  have hconns : (store.putLegacy X profile url host migratedAt).providerConnections.rows =
      store.providerConnections.rows ++ [⟨connectionOf profile url host migratedAt, none⟩] :=
    rows_upsert_of_free hfreeConn
  have hrts : (store.putLegacy X profile url host migratedAt).providerModels.rows =
      store.providerModels.rows ++ [legacyRoute profile migratedAt] :=
    rows_upsert_of_free hfreeRt
  have hpres : (store.putLegacy X profile url host migratedAt).generationPresets.rows =
      store.generationPresets.rows ++ [legacyPreset X profile migratedAt] :=
    rows_upsert_of_free hfreePre
  refine ⟨h.profiles, h.settings, henf, ?_, ?_, ?_, ?_⟩
  · rw [hconns, map_append, h.connectionIds, map_append]
    rfl
  · intro row hrow
    rw [hconns, mem_append, mem_singleton] at hrow
    rcases hrow with hold | rfl
    · exact h.connections row hold
    · exact ⟨rfl, rfl⟩
  · rw [hrts, h.routes, map_append]
    rfl
  · rw [hpres, h.presets, map_append]
    rfl

/-- **One profile.** A turn of the loop succeeds iff the profile can be upgraded; it adds the three
    rows. -/
theorem migrateProfile_ok (hU : SerializesOrigins U) (hnow : notBlank migratedAt = true)
    (htmpl : HasLegacyTemplate templates)
    (h : Migrating X migratedAt profiles appSettings done store)
    (hstored : profiles.find? profile.id = some profile)
    (hnew : profile.id ∉ done.map ProviderProfile.id)
    (hval : validateLegacyProviderProfile (X.withTemplates U uuid templates) uuid profile =
      .ok ()) :
    migrateProfile U X uuid templates migratedAt profile store = .ok store' ↔
      Upgradable U profile ∧ ∃ url host, BaseUrl U profile.baseUrl url host ∧
        store' = store.putLegacy X profile url host migratedAt ∧
          (store.putLegacy X profile url host migratedAt).Enforced := by
  obtain ⟨hprof, origin, horig⟩ := validateLegacyProviderProfile_ok.mp hval
  obtain ⟨url, host, hurl, rfl⟩ := canonicalOriginForLegacyBaseUrl_ok hU horig
  obtain ⟨hfreeConn, hfreeRt, hfreePre⟩ := h.free hnew
  have hmirrors : store.Mirrors profile := by
    intro stored hfind
    rw [h.profiles, hstored] at hfind
    exact (Option.some.inj hfind).symm
  have hrows := h.enforced_iff hnew hnow hprof hurl
  constructor
  · intro hrun
    obtain ⟨_, graph, hgraph, hrun⟩ := guard_step hrun
    obtain ⟨hnormal, rfl⟩ := (legacyGraph_ok hval hurl horig).mp (mapError_ok.mp hgraph)
    obtain ⟨_, hconn, hrun⟩ := bind_ok.mp hrun
    obtain ⟨hacc, _, henf, rfl⟩ := (insertProviderConnection_ok hfreeConn).mp (mapError_ok.mp hconn)
    obtain ⟨_, hrt, hrun⟩ := bind_ok.mp hrun
    obtain ⟨_, _, henf', rfl⟩ := (insertModelRoute_ok hfreeRt).mp (mapError_ok.mp hrt)
    obtain ⟨_, _, henf'', rfl⟩ := (insertGenerationPreset_ok hfreePre).mp (mapError_ok.mp hrun)
    have hpublic := (validateProviderConnection_legacy htmpl hmirrors hprof hurl horig
      hnormal).mp hacc
    obtain ⟨hid, hname, hmod⟩ := hrows.mp ⟨henf, henf', henf''⟩
    exact ⟨⟨hurl.migratable_iff.mpr ⟨hnormal, hpublic⟩, hid, hname, hmod⟩, url, host, hurl, rfl,
      henf''⟩
  · rintro ⟨hupgr, url', host', hurl', rfl, _⟩
    obtain rfl := ok.inj (hurl.parsed.symm.trans hurl'.parsed)
    obtain rfl := Option.some.inj (hurl.host.symm.trans hurl'.host)
    obtain ⟨hnormal, hpublic⟩ := hurl.migratable_iff.mp hupgr.baseUrl
    obtain ⟨henf, henf', henf''⟩ := hrows.mpr ⟨hupgr.id, hupgr.displayName, hupgr.model⟩
    have htmpl' : connectionTemplate templates
        (store.putConnection (connectionOf profile url host migratedAt)) false profile.id =
          some legacyProviderTemplate :=
      connectionTemplate_put htmpl hfreeConn
    have hsmall : profile.timeoutSeconds ≤ 4294967295 := hprof.timeout.2.trans (by decide)
    refine guarded hsmall (then_ok (mapError_ok.mpr
      ((legacyGraph_ok hval hurl horig).mpr ⟨hnormal, rfl⟩)) ?_)
    refine then_ok (mapError_ok.mpr ((insertProviderConnection_ok
      hfreeConn).mpr ⟨?_, le_refl _, henf, rfl⟩)) ?_
    · exact (validateProviderConnection_legacy htmpl hmirrors hprof hurl horig hnormal).mpr hpublic
    refine then_ok (mapError_ok.mpr ((insertModelRoute_ok hfreeRt).mpr ⟨?_, rfl, henf', rfl⟩)) ?_
    · exact validateModelRouteForSchema_legacy hprof hmirrors htmpl'
    refine mapError_ok.mpr ((insertGenerationPreset_ok hfreePre).mpr ⟨?_, le_refl _, henf'', rfl⟩)
    exact validateGenerationPresetForSchema_legacy hprof (h.find?_route hnew) htmpl'

end Turn

/-! ### All profiles -/

section Loop

variable {migratedAt : String} {profiles : Table String ProviderProfile ProviderProfile.id}
  {appSettings : Option AppSettings} {done : List ProviderProfile}

theorem migrateProfile_isOk_iff (hU : SerializesOrigins U) (hnow : notBlank migratedAt = true)
    (htmpl : HasLegacyTemplate templates)
    (h : Migrating X migratedAt profiles appSettings done store)
    (hstored : profiles.find? profile.id = some profile)
    (hnew : profile.id ∉ done.map ProviderProfile.id)
    (hval : validateLegacyProviderProfile (X.withTemplates U uuid templates) uuid profile =
      .ok ()) :
    (∃ store', migrateProfile U X uuid templates migratedAt profile store = .ok store') ↔
      Upgradable U profile := by
  constructor
  · rintro ⟨store', hrun⟩
    exact ((migrateProfile_ok hU hnow htmpl h hstored hnew hval).mp hrun).1
  · intro hupgr
    obtain ⟨hprof, origin, horig⟩ := validateLegacyProviderProfile_ok.mp hval
    obtain ⟨url, host, hurl, _⟩ := canonicalOriginForLegacyBaseUrl_ok hU horig
    have henf := (h.enforced_iff hnew hnow hprof hurl).mpr
      ⟨hupgr.id, hupgr.displayName, hupgr.model⟩
    exact ⟨_, (migrateProfile_ok hU hnow htmpl h hstored hnew hval).mpr
      ⟨hupgr, url, host, hurl, rfl, henf.2.2⟩⟩

theorem migrateProfiles_isOk_iff {pending : List ProviderProfile} (hU : SerializesOrigins U)
    (hnow : notBlank migratedAt = true) (htmpl : HasLegacyTemplate templates)
    (h : Migrating X migratedAt profiles appSettings done store)
    (hstored : ∀ profile ∈ pending, profiles.find? profile.id = some profile)
    (hnodup : ((done ++ pending).map ProviderProfile.id).Nodup)
    (hval : ∀ profile ∈ pending,
      validateLegacyProviderProfile (X.withTemplates U uuid templates) uuid profile = .ok ()) :
    ((∃ store', migrateProfiles U X uuid templates migratedAt pending store = .ok store') ↔
        ∀ profile ∈ pending, Upgradable U profile) ∧
      ∀ store', migrateProfiles U X uuid templates migratedAt pending store = .ok store' →
        Migrating X migratedAt profiles appSettings (done ++ pending) store' := by
  induction pending generalizing done store with
  | nil =>
    refine ⟨⟨fun _ => forall_mem_nil _, fun _ => ⟨store, rfl⟩⟩, fun store' hrun => ?_⟩
    obtain rfl := pure_inj hrun
    rw [append_nil]
    exact h
  | cons profile pending ih =>
    rw [forall_mem_cons] at hstored hval
    have hnew : profile.id ∉ done.map ProviderProfile.id := by
      rw [map_append, nodup_append] at hnodup
      intro hmem
      exact hnodup.2.2 _ hmem _ (mem_map_of_mem mem_cons_self) rfl
    have hsplit : done ++ profile :: pending = done ++ [profile] ++ pending := by simp
    rw [hsplit] at hnodup ⊢
    -- the turn leaves the invariant for the profiles that follow
    have hnext : ∀ middle, migrateProfile U X uuid templates migratedAt profile store = .ok middle →
        Migrating X migratedAt profiles appSettings (done ++ [profile]) middle := by
      intro middle hmid
      obtain ⟨_, url, host, _, rfl, henf⟩ :=
        (migrateProfile_ok hU hnow htmpl h hstored.1 hnew hval.1).mp hmid
      exact h.snoc hnew henf
    have hok := migrateProfile_isOk_iff hU hnow htmpl h hstored.1 hnew hval.1
    refine ⟨⟨?_, fun hall => ?_⟩, ?_⟩
    · rintro ⟨store', hrun⟩
      obtain ⟨middle, hmid, hrun⟩ := bind_ok.mp hrun
      have hrest := (ih (hnext middle hmid) hstored.2 hnodup hval.2).1
      exact forall_mem_cons.mpr ⟨hok.mp ⟨middle, hmid⟩, hrest.mp ⟨store', hrun⟩⟩
    · obtain ⟨hfirst, hothers⟩ := forall_mem_cons.mp hall
      obtain ⟨middle, hmid⟩ := hok.mpr hfirst
      obtain ⟨store', hrun⟩ := (ih (hnext middle hmid) hstored.2 hnodup hval.2).1.mpr hothers
      exact ⟨store', then_ok hmid hrun⟩
    · intro store' hrun
      obtain ⟨middle, hmid, hrun⟩ := bind_ok.mp hrun
      exact (ih (hnext middle hmid) hstored.2 hnodup hval.2).2 store' hrun

/-! ### The selection -/

section

variable (h : Migrating X migratedAt profiles appSettings done store)
include h

theorem Migrating.hasConnection
    (hmem : profile ∈ done) : ∃ row, store.providerConnections.find? profile.id = some row ∧
      row.connection.isLegacy = true ∧ row.isActive = true := by
  have hid : profile.id ∈ store.providerConnections.rows.map ConnectionRow.id := by
    rw [h.connectionIds]
    exact mem_map_of_mem hmem
  obtain ⟨row, hrow, hid⟩ := mem_map.mp hid
  exact ⟨row, find?_eq_some.mpr ⟨hrow, hid⟩, h.connections row hrow⟩

theorem Migrating.find?_routes : store.providerModels.find? id = some route ↔
      ∃ profile ∈ done, legacyRoute profile migratedAt = route ∧ profile.id = id := by
  rw [Table.find?_eq_some, h.routes, mem_map]
  constructor
  · rintro ⟨⟨profile, hmem, rfl⟩, hid⟩
    exact ⟨profile, hmem, rfl, hid⟩
  · rintro ⟨profile, hmem, rfl, hid⟩
    exact ⟨⟨profile, hmem, rfl⟩, hid⟩

theorem Migrating.presetRoute_eq_some {owner : String} : store.presetRoute id = some owner ↔
      owner = id ∧ id ∈ done.map ProviderProfile.id := by
  rw [presetRoute, Option.map_eq_some_iff]
  simp only [Table.find?_eq_some, h.presets, mem_map]
  constructor
  · rintro ⟨_, ⟨⟨profile, hmem, rfl⟩, rfl⟩, rfl⟩
    exact ⟨rfl, profile, hmem, rfl⟩
  · rintro ⟨rfl, profile, hmem, rfl⟩
    exact ⟨_, ⟨⟨profile, hmem, rfl⟩, rfl⟩, rfl⟩

theorem Migrating.activeRoute_isSome : (store.activeRoute id).isSome = true ↔ id ∈ done.map ProviderProfile.id := by
  rw [Option.isSome_iff_exists, mem_map]
  simp only [Store.activeRoute_eq_some, h.find?_routes]
  constructor
  · rintro ⟨_, ⟨profile, hmem, rfl, hid⟩, _⟩
    exact ⟨profile, hmem, hid⟩
  · rintro ⟨profile, hmem, rfl⟩
    obtain ⟨row, hrow, _, hactv⟩ := h.hasConnection hmem
    refine ⟨_, ⟨profile, hmem, rfl, rfl⟩, Option.isSome_iff_exists.mpr ⟨row, ?_⟩⟩
    exact activeConnection_eq_some.mpr ⟨hrow, hactv⟩

theorem Migrating.currentRoute_eq_some
    (hdone : ∀ profile, profile ∈ done ↔ profile ∈ profiles.rows) : store.currentRoute id = some route ↔
      ∃ profile ∈ done, legacyRoute profile migratedAt = route ∧ profile.id = id := by
  have huniq : store.Unique := by
    show (store.providerModels.rows.map ModelRoute.identity).Nodup
    exact of_decide_eq_true h.enforced.2.1
  rw [huniq.currentRoute_eq_some]
  simp only [activeProfile_eq_some, h.find?_routes, h.profiles, find?_eq_some, ← hdone]
  constructor
  · rintro ⟨profile, ⟨⟨hmem, rfl⟩, _⟩, ⟨other, hoth, rfl, _⟩, hident⟩
    refine ⟨other, hoth, rfl, ?_⟩
    exact congrArg connectionId hident
  · rintro ⟨profile, hmem, rfl, rfl⟩
    obtain ⟨row, hrow, _, hactv⟩ := h.hasConnection hmem
    refine ⟨profile, ⟨⟨hmem, rfl⟩, Option.isSome_iff_exists.mpr ⟨row, ?_⟩⟩,
      ⟨profile, hmem, rfl, rfl⟩, rfl⟩
    exact activeConnection_eq_some.mpr ⟨hrow, hactv⟩

end

/-- A selection that the migration keeps: of one stored profile, with nothing else selected beside
    it, or of nothing. -/
def AppSettings.SelectsProfiles (settings : AppSettings) (ids : List String) : Prop :=
  (∀ id ∈ settings.selectedProviderProfileId, id ∈ ids ∧
      (∀ routeId ∈ settings.selectedModelRouteId, routeId = id) ∧
      ∀ presetId ∈ settings.selectedGenerationPresetId, presetId = id) ∧
    (settings.selectedProviderProfileId = none →
      settings.selectedModelRouteId = settings.selectedGenerationPresetId ∧
        ∀ id ∈ settings.selectedModelRouteId, id ∈ ids)

theorem normalize_isOk_iff (h : Migrating X migratedAt profiles appSettings done store)
    (hdone : ∀ profile, profile ∈ done ↔ profile ∈ profiles.rows) :
    (∃ normalized, normalizeSettingsForWrite uuid store settings = .ok normalized) ↔
      settings.SelectsProfiles (done.map ProviderProfile.id) := by
  constructor
  · rintro ⟨normalized, hnormalize⟩
    obtain ⟨middle, hselect, hcheck⟩ := bind_ok.mp hnormalize
    rcases selectCurrentRoute_ok.mp hselect with ⟨hprof, rfl⟩ |
      ⟨profileId, route, hprof, hcur, hrt, hpre, rfl⟩
    · refine ⟨fun id hid => (nomatch hprof.symm.trans hid), fun _ => ?_⟩
      rcases checkRouteAndPreset_ok.mp hcheck with ⟨hrt, hpre, _⟩ |
        ⟨routeId, presetId, hrt, hpre, hactv, howner, _⟩
      · rw [hrt, hpre]
        exact ⟨rfl, fun id hid => (nomatch hid)⟩
      · obtain ⟨rfl, hmem⟩ := h.presetRoute_eq_some.mp howner
        rw [hrt, hpre]
        refine ⟨rfl, fun id hid => ?_⟩
        rw [← Option.some.inj hid]
        exact hmem
    · obtain ⟨profile, hmem, rfl, rfl⟩ := (h.currentRoute_eq_some hdone).mp hcur
      refine ⟨fun id hid => ?_, fun hnone => (nomatch hprof.symm.trans hnone)⟩
      obtain rfl := Option.some.inj (hprof.symm.trans hid)
      refine ⟨mem_map_of_mem hmem, fun routeId hrtId => ?_, fun presetId hpreId => ?_⟩
      · exact beq_iff_eq.mp ((Option.all_eq_true _ _).mp hrt routeId hrtId)
      · exact beq_iff_eq.mp ((Option.all_eq_true _ _).mp hpre presetId hpreId)
  · rintro ⟨hsel, hnone⟩
    cases hprof : settings.selectedProviderProfileId with
    | none =>
      obtain ⟨hsame, hrt⟩ := hnone hprof
      have hselect : selectCurrentRoute uuid store settings = .ok settings :=
        selectCurrentRoute_ok.mpr (.inl ⟨hprof, rfl⟩)
      cases hrtId : settings.selectedModelRouteId with
      | none =>
        refine ⟨settings, then_ok hselect ?_⟩
        exact checkRouteAndPreset_ok.mpr (.inl ⟨hrtId, hsame.symm.trans hrtId, rfl⟩)
      | some routeId =>
        have hmem := hrt routeId hrtId
        have hcheck : ∃ normalized, checkRouteAndPreset uuid store settings = .ok normalized :=
          ⟨_, checkRouteAndPreset_ok.mpr (.inr ⟨routeId, routeId, hrtId,
            hsame.symm.trans hrtId, h.activeRoute_isSome.mpr hmem,
            h.presetRoute_eq_some.mpr ⟨rfl, hmem⟩, rfl⟩)⟩
        obtain ⟨normalized, hcheck⟩ := hcheck
        exact ⟨normalized, then_ok hselect hcheck⟩
    | some profileId =>
      obtain ⟨hmem, hrt, hpre⟩ := hsel profileId hprof
      obtain ⟨profile, hdoneMem, rfl⟩ := mem_map.mp hmem
      have hcur : store.currentRoute profile.id = some (legacyRoute profile migratedAt) :=
        (h.currentRoute_eq_some hdone).mpr ⟨profile, hdoneMem, rfl, rfl⟩
      have hrt : settings.selectedModelRouteId.all (· == profile.id) = true :=
        (Option.all_eq_true _ _).mpr fun routeId hid => beq_iff_eq.mpr (hrt routeId hid)
      have hpre : settings.selectedGenerationPresetId.all (· == profile.id) = true :=
        (Option.all_eq_true _ _).mpr fun presetId hid => beq_iff_eq.mpr (hpre presetId hid)
      let selected : AppSettings := { settings with
        selectedModelRouteId := some profile.id
        selectedGenerationPresetId := some profile.id }
      have hselect : selectCurrentRoute uuid store settings = .ok selected :=
        selectCurrentRoute_ok.mpr (.inr ⟨profile.id, _, hprof, hcur, hrt, hpre, rfl⟩)
      have hcheck : ∃ normalized, checkRouteAndPreset uuid store selected = .ok normalized :=
        ⟨_, checkRouteAndPreset_ok.mpr (.inr ⟨profile.id, profile.id, rfl, rfl,
          h.activeRoute_isSome.mpr hmem, h.presetRoute_eq_some.mpr ⟨rfl, hmem⟩, rfl⟩)⟩
      obtain ⟨normalized, hcheck⟩ := hcheck
      exact ⟨normalized, then_ok hselect hcheck⟩

/-! ### The whole migration -/

section

variable (h : Migrating X migratedAt profiles appSettings done store)
include h

/-- Nothing else of the migration depends on the settings. -/
theorem Migrating.withSettings
    (appSettings' : Option AppSettings) : Migrating X migratedAt profiles appSettings' done
      { store with appSettings := appSettings' } :=
  ⟨h.profiles, rfl, h.enforced, h.connectionIds, h.connections, h.routes, h.presets⟩

theorem Migrating.isLegacyConnection
    (hmem : profile ∈ done) : store.isLegacyConnection profile.id = true := by
  obtain ⟨row, hrow, hleg, _⟩ := h.hasConnection hmem
  rw [Store.isLegacyConnection, hrow, Option.any_some]
  exact hleg

/-- The check after the migration always passes. -/
theorem validateProviderCatalogMigration_ok
    (hdone : done.Perm profiles.rows) : validateProviderCatalogMigration uuid store = .ok () := by
  have hlen : store.providerProfiles.rows.length = done.length := by
    rw [h.profiles, hdone.length_eq]
  have hconns : (store.providerConnections.rows.countP fun row => row.connection.isLegacy) =
      done.length := by
    rw [countP_eq_length.mpr fun row hrow => (h.connections row hrow).1,
      ← length_map ConnectionRow.id, h.connectionIds, length_map]
  have hrts : (store.providerModels.rows.countP fun route =>
      store.isLegacyConnection route.connectionId) = done.length := by
    rw [h.routes, countP_map, countP_eq_length]
    exact fun profile hmem => h.isLegacyConnection hmem
  have hpres : (store.generationPresets.rows.countP fun preset =>
      (store.providerModels.find? preset.modelRouteId).any fun route =>
        store.isLegacyConnection route.connectionId) = done.length := by
    rw [h.presets, countP_map, countP_eq_length]
    intro profile hmem
    have hrt : store.providerModels.find? profile.id = some (legacyRoute profile migratedAt) :=
      h.find?_routes.mpr ⟨profile, hmem, rfl, rfl⟩
    show (store.providerModels.find? profile.id).any _ = true
    rw [hrt, Option.any_some]
    exact h.isLegacyConnection hmem
  refine guarded (by rw [hlen]; exact ⟨hconns, hrts, hpres⟩) ?_
  refine guarded ?_ (require_ok.mpr h.enforced.2.2)
  rw [h.profiles, all_eq_true]
  intro profile hmem
  have hmem := hdone.mem_iff.mpr hmem
  obtain ⟨row, hrow, _⟩ := h.hasConnection hmem
  have hrt : store.providerModels.find? profile.id = some (legacyRoute profile migratedAt) :=
    h.find?_routes.mpr ⟨profile, hmem, rfl, rfl⟩
  have hpre : store.presetRoute profile.id = some profile.id :=
    h.presetRoute_eq_some.mpr ⟨rfl, mem_map_of_mem hmem⟩
  simp [keepsIdentifiers, hrow, hrt, hpre, legacyRoute]

end

end Loop

/-- The template table of a new database. -/
def seededTemplates : Templates where
  rows := [legacyProviderTemplate]
  unique := nodup_singleton _

theorem saveProviderTemplateRow_legacy :
    saveProviderTemplateRow uuid X legacyProviderTemplate .empty = .ok seededTemplates := by
  rfl

section Whole

variable {migratedAt : String} {profiles : Table String ProviderProfile ProviderProfile.id}
  {appSettings : Option AppSettings}

/-- Only the members of the list count. -/
theorem AppSettings.selectsProfiles_congr (h : ∀ id, id ∈ ids ↔ id ∈ ids') :
    settings.SelectsProfiles ids ↔ settings.SelectsProfiles ids' := by
  simp only [SelectsProfiles, h]

theorem migrateSettings_isOk_iff (h : Migrating X migratedAt profiles appSettings done store)
    (hdone : ∀ profile, profile ∈ done ↔ profile ∈ profiles.rows) :
    ((∃ store', migrateSettings uuid store = .ok store') ↔
        ∀ settings ∈ appSettings, settings.SelectsProfiles (done.map ProviderProfile.id)) ∧
      ∀ store', migrateSettings uuid store = .ok store' →
        ∃ appSettings', Migrating X migratedAt profiles appSettings' done store' := by
  rw [migrateSettings, ← h.settings]
  cases hsets : store.appSettings with
  | none =>
    refine ⟨⟨fun _ settings hmem => (nomatch hmem), fun _ => ⟨store, rfl⟩⟩, fun store' hrun => ?_⟩
    obtain rfl := pure_inj hrun
    exact ⟨appSettings, h⟩
  | some settings =>
    have hnormal : (∃ normalized, normalizeSettingsForWrite uuid store settings = .ok normalized) ↔
        settings.SelectsProfiles (done.map ProviderProfile.id) := normalize_isOk_iff h hdone
    refine ⟨⟨?_, fun hall => ?_⟩, fun store' hrun => ?_⟩
    · rintro ⟨store', hrun⟩ other hoth
      obtain ⟨normalized, hnormalized, _⟩ := bind_ok.mp hrun
      rw [← Option.some.inj hoth]
      exact hnormal.mp ⟨normalized, mapError_ok.mp hnormalized⟩
    · obtain ⟨normalized, hnormalized⟩ := hnormal.mpr (hall settings rfl)
      exact ⟨_, then_ok (mapError_ok.mpr hnormalized) rfl⟩
    · obtain ⟨normalized, _, rfl⟩ := last_step hrun
      exact ⟨_, h.withSettings _⟩

theorem migrating_versionThree :
    Migrating X migratedAt profiles appSettings [] (versionThree profiles appSettings) where
  profiles := rfl
  settings := rfl
  enforced := ⟨rfl, rfl, rfl⟩
  connectionIds := rfl
  connections := forall_mem_nil _
  routes := rfl
  presets := rfl

/-- **Which databases are upgraded.** Of valid profiles, those that can be upgraded, with settings
    that select one of them or nothing. -/
theorem applyMigrationFour_isOk_iff (hU : SerializesOrigins U) (hnow : notBlank migratedAt = true)
    (hval : ∀ profile ∈ profiles.rows, validateLegacyProviderProfile
      (X.withTemplates U uuid seededTemplates) uuid profile = .ok ()) :
    (∃ result, applyMigrationFour U X uuid migratedAt .empty (versionThree profiles appSettings) =
        .ok result) ↔
      (∀ profile ∈ profiles.rows, Upgradable U profile) ∧ ∀ settings ∈ appSettings,
          settings.SelectsProfiles (profiles.rows.map ProviderProfile.id) := by
  let pending := sortByKey ProviderProfile.id profiles.rows
  have hperm : pending.Perm profiles.rows := perm_sortByKey _ _
  have hids : ∀ id, id ∈ pending.map ProviderProfile.id ↔
      id ∈ profiles.rows.map ProviderProfile.id := fun id => (hperm.map _).mem_iff
  have hstart : Migrating X migratedAt profiles appSettings []
      (versionThree profiles appSettings) := migrating_versionThree
  obtain ⟨hloop, hloopEnd⟩ := migrateProfiles_isOk_iff hU hnow
    (rfl : HasLegacyTemplate seededTemplates) hstart
    (fun profile hmem => find?_eq_some.mpr ⟨hperm.mem_iff.mp hmem, rfl⟩)
    ((hperm.map _).nodup_iff.mpr profiles.unique)
    fun profile hmem => hval profile (hperm.mem_iff.mp hmem)
  have hall : (∀ profile ∈ pending, Upgradable U profile) ↔
      ∀ profile ∈ profiles.rows, Upgradable U profile :=
    forall_congr' fun profile => imp_congr_left hperm.mem_iff
  constructor
  · rintro ⟨result, hrun⟩
    obtain ⟨⟨templates, final⟩, hmigr, hcheck⟩ := bind_ok.mp hrun
    obtain ⟨_, _, hmigr⟩ := rest₂ hmigr
    obtain ⟨_, _, hmigr⟩ := rest₂ hmigr
    obtain ⟨templates', htmpls, hmigr⟩ := bind_ok.mp hmigr
    obtain rfl := ok.inj (saveProviderTemplateRow_legacy.symm.trans htmpls)
    obtain ⟨middle, hmid, final', hfinal, _⟩ := steps₂ hmigr
    have hsets := (migrateSettings_isOk_iff (hloopEnd middle hmid)
      fun profile => hperm.mem_iff).1.mp ⟨final', hfinal⟩
    refine ⟨hall.mp (hloop.mp ⟨middle, hmid⟩), fun settings hmem => ?_⟩
    exact (selectsProfiles_congr hids).mp (hsets settings hmem)
  · rintro ⟨hupgr, hselects⟩
    obtain ⟨middle, hmid⟩ := hloop.mpr (hall.mpr hupgr)
    have hmigrates : (∃ store', migrateSettings uuid middle = .ok store') ↔
        ∀ settings ∈ appSettings, settings.SelectsProfiles (pending.map ProviderProfile.id) :=
      (migrateSettings_isOk_iff (hloopEnd middle hmid) fun profile => hperm.mem_iff).1
    obtain ⟨final, hfinal⟩ := hmigrates.mpr fun settings hmem =>
      (selectsProfiles_congr hids).mpr (hselects settings hmem)
    obtain ⟨_, hend⟩ := (migrateSettings_isOk_iff (hloopEnd middle hmid)
      fun profile => hperm.mem_iff).2 final hfinal
    refine ⟨(seededTemplates, final), bind_ok.mpr ⟨(seededTemplates, final), ?_, ?_⟩⟩
    · refine then_ok rfl (then_ok rfl (then_ok rfl ?_))
      refine then_ok rfl (then_ok saveProviderTemplateRow_legacy ?_)
      exact then_ok hmid (then_ok hfinal rfl)
    · exact then_ok (validateProviderCatalogMigration_ok hend hperm) rfl

/-- The connection that is made of a profile is accepted by the check of connections. -/
def GraphAccepted (U : UrlCrate) (X : Externals) (uuid : String) (store : Store)
    (migratedAt : String) (profile : ProviderProfile) : Prop :=
  ∃ connection route preset,
    legacyProviderGraph (X.withTemplates U uuid seededTemplates) uuid profile migratedAt =
        .ok (connection, route, preset) ∧
      validateProviderConnection U uuid seededTemplates store connection = .ok ()

/-- **The upgrade of valid data.** The graph of a valid profile is accepted iff its base URL passes
    both checks, and a database of valid profiles is upgraded iff each of them can be and the
    settings select one of them or nothing. -/
theorem legacyMigration_total_iff (hU : SerializesOrigins U) (hnow : notBlank migratedAt = true)
    (hval : ∀ profile ∈ profiles.rows, validateLegacyProviderProfile
      (X.withTemplates U uuid seededTemplates) uuid profile = .ok ()) :
    (∀ profile ∈ profiles.rows,
        GraphAccepted U X uuid (versionThree profiles appSettings) migratedAt profile ↔
          Migratable U profile.baseUrl) ∧
      ((∃ result, applyMigrationFour U X uuid migratedAt .empty
          (versionThree profiles appSettings) = .ok result) ↔
        (∀ profile ∈ profiles.rows, Upgradable U profile) ∧ ∀ settings ∈ appSettings,
            settings.SelectsProfiles (profiles.rows.map ProviderProfile.id)) := by
  refine ⟨fun profile hmem => ?_, applyMigrationFour_isOk_iff hU hnow hval⟩
  have hstored : (versionThree profiles appSettings).Mirrors profile := by
    intro stored hfind
    have hfind' : profiles.find? profile.id = some profile := find?_eq_some.mpr ⟨hmem, rfl⟩
    exact Option.some.inj (hfind.symm.trans hfind')
  rw [← legacyGraph_accepted_iff hU (rfl : HasLegacyTemplate seededTemplates) hstored
    (hval profile hmem)]
  constructor
  · rintro ⟨connection, route, preset, hgraph, hacc⟩
    exact ⟨(connection, route, preset), hgraph, hacc⟩
  · rintro ⟨⟨connection, route, preset⟩, hgraph, hacc⟩
    exact ⟨connection, route, preset, hgraph, hacc⟩

end Whole

/-! ### A profile in the local network -/

/-- The URLs of one host: its origin, and the path `/v1` below it. -/
def crateOf (host : String) : UrlCrate where
  parse value :=
    let origin := "https://" ++ host
    let url : String → ParsedUrl := fun path =>
      { scheme := "https"
        host := some host
        username := ""
        password := none
        path := path
        query := none
        fragment := none
        originAscii := origin }
    if value = origin then .ok (url "/")
    else if value = origin ++ "/v1" then .ok (url "/v1")
    else .error "relative URL without a base"

theorem serializesOrigins_crateOf (host : String) : SerializesOrigins (crateOf host) := by
  intro value url hparse _
  simp only [crateOf] at hparse ⊢
  split at hparse
  · obtain rfl := ok.inj hparse
    exact ⟨rfl, ⟨"://" ++ host, by rw [← String.append_assoc]; rfl⟩, if_pos rfl⟩
  · split at hparse
    · obtain rfl := ok.inj hparse
      exact ⟨rfl, ⟨"://" ++ host, by rw [← String.append_assoc]; rfl⟩, if_pos rfl⟩
    · cases hparse

def hostProfile (host : String) : ProviderProfile where
  id := "p"
  displayName := "P"
  baseUrl := "https://" ++ host ++ "/v1"
  model := "A"
  timeoutSeconds := 60

/-- The profiles of a database with one profile. -/
def oneProfile (profile : ProviderProfile) : Table String ProviderProfile ProviderProfile.id where
  rows := [profile]
  unique := nodup_singleton _

/-- A server in the local network: the profile is valid, and the upgrade of a database with it
    fails. -/
theorem localServer_not_upgraded :
    validateLegacyProviderProfile
        (acceptingExternals.withTemplates (crateOf "192.168.1.5") "" seededTemplates) ""
        (hostProfile "192.168.1.5") = .ok () ∧
      ¬ GraphAccepted (crateOf "192.168.1.5") acceptingExternals "" .empty
        "2026-01-01T00:00:00+00:00" (hostProfile "192.168.1.5") ∧
      ∀ result, applyMigrationFour (crateOf "192.168.1.5") acceptingExternals ""
        "2026-01-01T00:00:00+00:00" .empty
        (versionThree (oneProfile (hostProfile "192.168.1.5")) none) ≠ .ok result := by
  refine ⟨by decide, ?_, fun result hres => ?_⟩
  · rintro ⟨connection, route, preset, hgraph, hacc⟩
    have hrefused : (legacyProviderGraph (acceptingExternals.withTemplates (crateOf "192.168.1.5") ""
        seededTemplates) "" (hostProfile "192.168.1.5") "2026-01-01T00:00:00+00:00" >>=
        fun graph =>
          validateProviderConnection (crateOf "192.168.1.5") "" seededTemplates .empty graph.1) =
        .error (invalid "" "private IP origins require approved local-network mode") := by
      decide
    rw [hgraph, ok_bind, hacc] at hrefused
    cases hrefused
  · have hrefused : (applyMigrationFour (crateOf "192.168.1.5") acceptingExternals ""
        "2026-01-01T00:00:00+00:00" .empty
        (versionThree (oneProfile (hostProfile "192.168.1.5")) none)).isOk = false := by
      decide
    rw [hres] at hrefused
    cases hrefused

/-- A server on the Internet. -/
theorem legacyMigration_total_iff_publicServer :
    (∀ profile ∈ (oneProfile (hostProfile "a.b")).rows, GraphAccepted (crateOf "a.b")
        acceptingExternals "" (versionThree (oneProfile (hostProfile "a.b")) none)
          "2026-01-01T00:00:00+00:00" profile ↔ Migratable (crateOf "a.b") profile.baseUrl) ∧
      ((∃ result, applyMigrationFour (crateOf "a.b") acceptingExternals ""
          "2026-01-01T00:00:00+00:00" .empty
            (versionThree (oneProfile (hostProfile "a.b")) none) = .ok result) ↔
        (∀ profile ∈ (oneProfile (hostProfile "a.b")).rows, Upgradable (crateOf "a.b") profile) ∧
          ∀ settings ∈ (none : Option AppSettings), settings.SelectsProfiles
            ((oneProfile (hostProfile "a.b")).rows.map ProviderProfile.id)) := by
  refine legacyMigration_total_iff (serializesOrigins_crateOf "a.b") (by decide)
    fun profile hmem => ?_
  obtain rfl := mem_singleton.mp hmem
  decide

end LorePia.ProviderStore
