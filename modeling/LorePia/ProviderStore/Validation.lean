import LorePia.ProviderStore.Templates
import LorePia.Providers.UrlPolicy

namespace LorePia.ProviderStore

open Lib
open Discovery (ConnectionConfigEntry ConnectionConfigValue ProviderLocalNetworkApproval
  ProviderNetworkMode)
open Network (AddressSet parseIp)

/-!
# The provider store — checks of connections and routes

What a connection and a route have to be to be written: the network contract of a connection, its
configuration against its template, and for a connection of the legacy template the profile that
it mirrors.

* `validateProviderConnection`, `validateModelRouteForSchema` — the checks;
* `Externals.withTemplates` — the provider store with these checks.
-/

variable (U : UrlCrate) (uuid : String)

/-! ### Hosts -/

variable (host : String)

def trimBrackets : String :=
  let isBracket := fun c : Char => decide (c = '[' ∨ c = ']')
  String.ofList (((host.toList.dropWhile isBracket).reverse.dropWhile isBracket).reverse)

/-- `IpAddr::is_loopback`. -/
def isLoopbackAddress : IpAddr → Bool
  | .v4 a _ _ _ => a == 127
  | .v6 segments => segments.toList == [0, 0, 0, 0, 0, 0, 0, 1]

def isLoopbackHost : Bool :=
  host == "localhost" || strEndsWith host ".localhost" ||
    (parseIp (trimBrackets host)).any isLoopbackAddress

/-- `is_rfc1918_or_ula`. -/
def isRfc1918OrUla : IpAddr → Bool
  | .v4 a b _ _ => a == 10 || (a == 172 && 16 ≤ b && b ≤ 31) || (a == 192 && b == 168)
  | .v6 segments => (segments.toList.headD 0 >>> 8).toUInt8 &&& 0xfe == 0xfc

/-- `host.trim_matches(['[', ']']).parse::<IpAddr>().is_ok_and(is_rfc1918_or_ula)`. -/
def isPrivateHost : Bool := (parseIp (trimBrackets host)).any isRfc1918OrUla

/-! ### Endpoint paths -/

/-- The texts that `EndpointPath::parse` accepts. -/
def isNormalizedPath (value : String) : Bool :=
  let lower := toAsciiLowercase value
  strStartsWith value "/" && !strStartsWith value "//" && !strContains value "\\" &&
    !strContains value "?" && !strContains value "#" &&
    (splitAt ['/'] value).all (· != "..") && !strContains lower "%2e" &&
    !strContains lower "%2f" && !strContains lower "%5c"

/-- `EndpointPath::parse`. -/
def parseEndpointPath (value : String) : Except String EndpointPath := do
  require (isNormalizedPath value) "endpoint must be a normalized absolute path"
  return ⟨value⟩

/-! ### Legacy base URLs -/

variable (baseUrl : String)

def canonicalOriginForLegacyBaseUrl : CoreResult CanonicalOrigin := do
  require (trim baseUrl = baseUrl ∧ baseUrl ≠ "") (invalid uuid
    "provider base URL must be non-empty and contain no surrounding whitespace")
  let url ← (U.parse baseUrl).mapError fun error =>
    invalid uuid ("invalid provider base URL: " ++ error)
  require (url.username = "" ∧ url.password = none) (invalid uuid
    "provider base URL must not contain embedded credentials")
  require (url.query = none ∧ url.fragment = none) (invalid uuid
    "provider base URL must not contain a query or fragment")
  require (url.scheme = "https" ∨ url.scheme = "http") (invalid uuid
    "provider base URL must use HTTPS or loopback HTTP")
  require (url.scheme = "https" ∨ url.host.any isLoopbackHost) (invalid uuid
    "unencrypted HTTP is allowed only for loopback provider URLs")
  (CanonicalOrigin.parse U url.originAscii).mapError fun error =>
    invalid uuid ("invalid provider API origin: " ++ error)

def legacyApiBasePath : CoreResult (Option EndpointPath) := do
  let url ← (U.parse baseUrl).mapError fun error =>
    invalid uuid ("invalid provider base URL: " ++ error)
  if url.path = "/" then return none
  else
    let path ← (parseEndpointPath url.path).mapError fun error =>
      invalid uuid ("invalid provider API base path: " ++ error)
    return some path

def legacyNetworkMode : CoreResult ProviderNetworkMode := do
  let url ← (U.parse baseUrl).mapError fun error =>
    invalid uuid ("invalid provider base URL: " ++ error)
  return if url.host.any isLoopbackHost then .localLoopback else .public

/-! ### The network contract -/

/-- `normalize_approved_ip`. -/
def normalizeApprovedIp (address : IpAddr) : IpAddr := normalizeIp address

variable (apiOrigin : CanonicalOrigin)

def validateProviderLocalNetworkApproval
    (approval : ProviderLocalNetworkApproval) : CoreResult Unit := do
  require (approval.origin = apiOrigin) (invalid uuid
    "local-network approval origin must exactly match the provider API origin")
  require (approval.addresses ≠ [] ∧ approval.addresses.length ≤ 16) (invalid uuid
    "local-network approval requires from 1 to 16 exact IP addresses")
  require ((approval.addresses.map normalizeApprovedIp).all isRfc1918OrUla) (invalid uuid
    "local-network approval accepts only RFC1918 IPv4 or ULA IPv6 addresses")
  require ((AddressSet.ofAnswers approval.addresses).addresses = approval.addresses) (invalid uuid
    "local-network approval addresses must be normalized, sorted, and unique")
  let origin ← (U.parse apiOrigin.val).mapError fun error =>
    invalid uuid ("provider API origin is invalid: " ++ error)
  let literal := (origin.host.bind fun host => parseIp (trimBrackets host)).map normalizeApprovedIp
  require (literal.all fun address => approval.addresses == [address]) (invalid uuid
    "an IP-literal local-network origin must approve only that exact address")

def validateProviderNetworkContract (config : ConnectionConfig) :
    CoreResult Unit := do
  let origin ← (U.parse apiOrigin.val).mapError fun error =>
    invalid uuid ("provider API origin is invalid: " ++ error)
  let host ← okOr origin.host (invalid uuid "provider API origin requires a host")
  match config.networkMode, config.localNetworkApproval with
  | .public, none => do
    require (origin.scheme = "https") (invalid uuid
      "public provider connections require an https API origin")
    require (isLoopbackHost host = false) (invalid uuid
      "public provider connections cannot use a loopback API origin")
    require (isPrivateHost host = false) (invalid uuid
      "private IP origins require approved local-network mode")
  | .localLoopback, none =>
    require (isLoopbackHost host) (invalid uuid
      "loopback provider mode requires a loopback API origin")
  | .approvedLocalNetwork, some approval =>
    validateProviderLocalNetworkApproval U uuid apiOrigin approval
  | .approvedLocalNetwork, none => throw (invalid uuid
      "approved local-network mode requires an exact origin and address approval")
  | .public, some _ | .localLoopback, some _ => throw (invalid uuid
      "local-network approval is only valid in approved local-network mode")

/-! ### Configurations -/

/-- The entries of a configuration: keys are named, differ, and hold no credentials. -/
def validateConfigEntry (label repeated sensitive : String) (entry : ConnectionConfigEntry)
    (seen : List String) : CoreResult Unit := do
  validateNonempty uuid label entry.key
  require (entry.key ∉ seen) (invalid uuid repeated)
  require (isSensitiveConfigurationKey entry.key = false) (invalid uuid sensitive)

def validateConnectionConfig (config : ConnectionConfig) : CoreResult Unit :=
  validateEach ConnectionConfigEntry.key (validateConfigEntry uuid "connection configuration key"
      "connection configuration keys must be unique"
      "credentials must be referenced by credential_ref and never stored in configuration")
    [] config.values

def validateRouteConfig (config : ModelRouteConfig) : CoreResult Unit :=
  validateEach ConnectionConfigEntry.key (validateConfigEntry uuid "model route configuration key"
      "model route configuration keys must be unique"
      "credentials must never be stored in model route configuration")
    [] config.values

/-! ### Connections -/

/-- The types of values that a field takes. -/
def ConnectionFieldType.accepts : ConnectionFieldType → ConnectionConfigValue → Bool
  | .text, .text _ | .integer, .integer _ | .boolean, .boolean _ => true
  | _, _ => false

def validateDeclaredEntry (fields : List ConnectionFieldSpec) (entry : ConnectionConfigEntry) :
    CoreResult Unit := do
  let field ← okOr (fields.find? fun field => field.key == entry.key) (invalid uuid
    ("provider connection contains undeclared field " ++ entry.key))
  require (field.valueType.accepts entry.value) (invalid uuid
    ("provider connection field " ++ entry.key ++ " has the wrong value type"))

variable (connection : ProviderConnection)

def validateRequiredField (field : ConnectionFieldSpec) :
    CoreResult Unit :=
  let present :=
    if field.valueType = .credential then connection.credentialRef.isSome
    else connection.config.values.any fun entry => entry.key == field.key
  require (¬ (field.required = true ∧ present = false)) (invalid uuid
    ("provider connection is missing required field " ++ field.key))

def validateConnectionAgainstTemplate (template : ProviderTemplate) : CoreResult Unit := do
  forEach (validateDeclaredEntry uuid template.connectionFields) connection.config.values
  forEach (validateRequiredField uuid connection) template.connectionFields
  require (connection.credentialScope.all fun scope =>
      scope.authBinding == template.defaultManifest.auth)
    (invalid uuid "credential scope authentication does not match the provider template")
  require (¬ (template.defaultManifest.auth = .none ∧ connection.credentialRef.isSome = true))
    (invalid uuid "a no-auth provider template cannot persist a credential reference")

/-- The credentials of a connection. -/
def validateCredentials : CoreResult Unit :=
  match connection.credentialRef, connection.credentialScope with
  | none, none => return ()
  | some reference, some scope => do
    validateNonempty uuid "credential reference" reference.val
    require (scope.allowedOrigins ≠ []) (invalid uuid
      "credential scope requires at least one allowed origin")
    require (connection.apiOrigin ∈ scope.allowedOrigins) (invalid uuid
      "credential scope must include the provider API origin")
    require (scope.allowedOrigins.map CanonicalOrigin.val).Nodup (invalid uuid
      "credential scope origins must be unique")
  | _, _ => throw (invalid uuid
      "credential_ref and credential_scope must be set or cleared together")

/-- The base URL of a legacy connection. -/
def legacyBaseUrlOf : CoreResult String :=
  match connection.config.values.filter fun entry => entry.key == legacyBaseUrlConfigKey with
  | [⟨_, .text baseUrl⟩] => return baseUrl
  | [_] => throw (invalid uuid "legacy provider api_base_url must be text")
  | _ => throw (invalid uuid "legacy provider connection requires exactly one api_base_url value")

def validateLegacyProviderConnection (store : Store) (connection : ProviderConnection) :
    CoreResult Unit := do
  let baseUrl ← legacyBaseUrlOf uuid connection
  let origin ← canonicalOriginForLegacyBaseUrl U uuid baseUrl
  require (origin = connection.apiOrigin) (invalid uuid
    "legacy provider api_base_url origin does not match api_origin")
  let path ← legacyApiBasePath U uuid baseUrl
  require (path = connection.config.apiBasePath) (invalid uuid
    "legacy provider api_base_url path does not match api_base_path")
  let mode ← legacyNetworkMode U uuid baseUrl
  require (mode = connection.config.networkMode) (invalid uuid
    "legacy provider api_base_url does not match its network mode")
  require (connection.credentialRef.all fun reference => reference.val == connection.id)
    (invalid uuid "legacy provider credential_ref, when set, must equal the connection id")
  require ((store.providerProfiles.find? connection.id).all fun profile =>
      profile.displayName == connection.displayName && profile.baseUrl == baseUrl &&
        profile.timeoutSeconds == connection.timeoutSeconds)
    (invalid uuid "legacy provider connection fields must match its provider profile")

variable (templates : Templates)

def validateProviderConnection (store : Store)
    (connection : ProviderConnection) : CoreResult Unit := do
  validateNonempty uuid "provider connection id" connection.id
  validateNonempty uuid "provider connection display name" connection.displayName
  require (connection.templateVersion ≠ 0) (invalid uuid
    "provider connection template version must be positive")
  require (1 ≤ connection.timeoutSeconds ∧ connection.timeoutSeconds ≤ 600) (invalid uuid
    "provider timeout must be from 1 to 600 seconds")
  validateProviderNetworkContract U uuid connection.apiOrigin connection.config
  let template ← okOr (templates.find? (connection.templateId, connection.templateVersion))
    (notFound uuid "provider template")
  validateConnectionConfig uuid connection.config
  validateCredentials uuid connection
  validateConnectionAgainstTemplate uuid connection template
  if connection.templateId = legacyProviderTemplateId ∧
      connection.templateVersion = legacyProviderTemplateVersion then
    validateLegacyProviderConnection U uuid store connection
  else return ()

/-! ### Routes -/

/-- The template of a connection, active or, in an older schema, any. -/
def connectionTemplate (store : Store) (requireActive : Bool)
    (connectionId : String) : Option ProviderTemplate := do
  let row ← if requireActive then store.activeConnection connectionId
    else store.providerConnections.find? connectionId
  templates.find? (row.connection.templateId, row.connection.templateVersion)

def validateModelRouteForSchema (store : Store) (route : ModelRoute)
    (requireActiveConnection : Bool) : CoreResult Unit := do
  validateNonempty uuid "model route id" route.id
  validateNonempty uuid "provider connection id" route.connectionId
  validateNonempty uuid "model id" route.modelId
  require (route.displayName.all fun displayName => trim displayName != "") (invalid uuid
    "model route display name must not be empty")
  validateRouteConfig uuid route.routeConfig
  let template ← okOr (connectionTemplate templates store requireActiveConnection
    route.connectionId) (notFound uuid "provider connection")
  require (template.apiFamily = route.apiFamily ∧
      template.defaultManifest.apiFamily = route.apiFamily)
    (invalid uuid "model route API family does not match its provider template")
  require (¬ (template.id = legacyProviderTemplateId ∧
      template.manifestVersion = legacyProviderTemplateVersion ∧ route.id = route.connectionId ∧
      (store.providerProfiles.find? route.connectionId).any fun profile =>
        profile.model != route.modelId))
    (invalid uuid "legacy model route must match its provider profile model")

/-- `validate_model_route`. -/
def validateModelRoute (store : Store) (route : ModelRoute) :
    CoreResult Unit :=
  validateModelRouteForSchema uuid templates store route true

/-! ### The provider store with its checks -/

/-- The externals with these checks for the ones that they stand for. -/
def Externals.withTemplates (X : Externals) (templates : Templates) : Externals :=
  { X with
    ensureLegacyTemplateExists := fun _ => ProviderStore.ensureLegacyTemplateExists uuid templates
    validateProviderConnection := ProviderStore.validateProviderConnection U uuid templates
    validateModelRoute := ProviderStore.validateModelRoute uuid templates
    canonicalOriginForLegacyBaseUrl := ProviderStore.canonicalOriginForLegacyBaseUrl U uuid
    legacyApiBasePath := ProviderStore.legacyApiBasePath U uuid
    legacyNetworkMode := ProviderStore.legacyNetworkMode U uuid }

end LorePia.ProviderStore
