import LorePia.ProviderStore.Operations

namespace LorePia.ProviderStore

open Lib
open Discovery (AuthBinding ConnectionConfigValue)
open DiscoveryStore (SqliteError notBlank)

/-!
# The provider store — templates

The templates that connections are made from: the check of a template and of the parameter values
that its manifest declares, the table of templates, in which a version never changes, and the
built-in template of the legacy profiles.  Of a template the fields that some check reads are
here; the others are one encoded text, which only the comparison of two templates sees.
-/

variable (uuid : String)

/-! ### Numbers -/

/-- An `f64`. -/
inductive F64
  | finite (value : Rat)
  | infinite (negative : Bool)
  | nan
deriving DecidableEq

def F64.isFinite : F64 → Bool
  | .finite _ => true
  | _ => false

/-- `a < b`. -/
def F64.lt : F64 → F64 → Bool
  | .finite a, .finite b => decide (a < b)
  | .finite _, .infinite negative => !negative
  | .infinite negative, .finite _ => negative
  | .infinite negative, .infinite negative' => negative && !negative'
  | .nan, _ | _, .nan => false

/-- `value.to_string().parse::<f64>()`: the nearest number of 53 bits, in a tie the even one. -/
def F64.ofInteger (value : Int) : F64 :=
  let magnitude := value.natAbs
  if magnitude < 2 ^ 53 then .finite value
  else
    let unit := 2 ^ (magnitude.log2 - 52)
    let (quotient, remainder) := (magnitude / unit, magnitude % unit)
    let rounded :=
      if unit < 2 * remainder ∨ unit = 2 * remainder ∧ quotient % 2 = 1 then quotient + 1
      else quotient
    .finite (value.sign * (rounded * unit : Nat) : Int)

/-! ### Types -/

inductive ToolPolicy
  | none
  | auto
  | required
deriving DecidableEq

inductive ParameterType
  | boolean
  | integer
  | number
  | string
  | enum
  | stringList
  | jsonSchema
  | stopSequenceList
  | toolPolicy
deriving DecidableEq

inductive ParameterLiteral
  | boolean (value : Bool)
  | integer (value : Int)
  | number (value : F64)
  | string (value : String)
  | enum (value : String)
  | stringList (values : List String)
  | jsonSchema (schema : String)
  | stopSequenceList (values : List String)
  | toolPolicy (policy : ToolPolicy)
deriving DecidableEq

/-- The type of a literal. -/
def ParameterLiteral.type : ParameterLiteral → ParameterType
  | .boolean _ => .boolean
  | .integer _ => .integer
  | .number _ => .number
  | .string _ => .string
  | .enum _ => .enum
  | .stringList _ => .stringList
  | .jsonSchema _ => .jsonSchema
  | .stopSequenceList _ => .stopSequenceList
  | .toolPolicy _ => .toolPolicy

inductive ParameterValueState
  | inheritProviderDefault
  | explicit (literal : ParameterLiteral)
deriving DecidableEq

structure ParameterValue where
  parameterId : String
  state : ParameterValueState

structure ParameterChoice where
  value : ParameterLiteral
  labelKey : String
deriving DecidableEq

structure ParameterSpec where
  id : String
  labelKey : String
  valueType : ParameterType
  allowedValues : List ParameterChoice
  minimum : Option F64
  maximum : Option F64
  step : Option F64
  /-- `provider_mapping.field_name`. -/
  mappingFieldName : String
  othersJson : String
deriving DecidableEq

inductive TemplateSource
  | builtIn
  | signedCatalog
  | userDiscovered
deriving DecidableEq

inductive ConnectionFieldType
  | text
  | integer
  | boolean
  | credential
deriving DecidableEq

structure ConnectionFieldSpec where
  key : String
  labelKey : String
  descriptionKey : Option String
  valueType : ConnectionFieldType
  required : Bool
deriving DecidableEq

/-- `sources` are the recorded hashes of the sources. -/
structure ProviderManifest where
  schemaVersion : Nat
  apiFamily : ApiFamily
  sources : List (Option String)
  auth : AuthBinding
  parameters : List ParameterSpec
  othersJson : String
deriving DecidableEq

structure ProviderTemplate where
  id : String
  displayName : String
  manifestVersion : Nat
  source : TemplateSource
  apiFamily : ApiFamily
  connectionFields : List ConnectionFieldSpec
  defaultManifest : ProviderManifest
deriving DecidableEq

variable (template : ProviderTemplate)

/-- `PRIMARY KEY (id, version)`. -/
def ProviderTemplate.key : String × Nat :=
  (template.id, template.manifestVersion)

/-! ### Checks -/

/-- `is_sensitive_configuration_key`. -/
def isSensitiveConfigurationKey (key : String) : Bool :=
  let normalized := String.ofList ((key.toList.filter Char.isAlphanum).map Char.toLower)
  normalized == "authorization" || normalized == "apikey" || strEndsWith normalized "apikey" ||
    strContains normalized "password" || strContains normalized "secret" ||
    strEndsWith normalized "token" || strContains normalized "credential" ||
    normalized == "cookie"

/-- The number that a literal stands for, if it is one. -/
def numericValue : ParameterLiteral → CoreResult (Option F64)
  | .integer value => return some (F64.ofInteger value)
  | .number value => do
    require value.isFinite (invalid uuid "generation preset numeric values must be finite")
    return some value
  | _ => return none

def validateParameterValue (specification : ParameterSpec) :
    ParameterValueState → CoreResult Unit
  | .inheritProviderDefault => return ()
  | .explicit literal => do
    require (specification.valueType = literal.type) (invalid uuid
      ("generation preset parameter " ++ specification.id ++ " has the wrong value type"))
    let numeric ← numericValue uuid literal
    require (numeric.all fun value =>
      (specification.minimum.all fun minimum => !value.lt minimum) &&
        specification.maximum.all fun maximum => !maximum.lt value)
      (invalid uuid
        ("generation preset parameter " ++ specification.id ++ " is outside its allowed range"))
    require (specification.allowedValues = [] ∨
        literal ∈ specification.allowedValues.map ParameterChoice.value)
      (invalid uuid
        ("generation preset parameter " ++ specification.id ++ " is not an allowed value"))

def validateConnectionField (field : ConnectionFieldSpec) (seen : List String) :
    CoreResult Unit := do
  validateNonempty uuid "provider connection field key" field.key
  validateNonempty uuid "provider connection field label" field.labelKey
  require (field.key ∉ seen) (invalid uuid "provider connection field keys must be unique")
  require (¬ (isSensitiveConfigurationKey field.key = true ∧ field.valueType ≠ .credential))
    (invalid uuid "secret-like provider connection fields must use the credential field type")

/-- The bounds are finite and in order, and the step is positive. -/
def ParameterSpec.boundsAreValid (specification : ParameterSpec) : Bool :=
  specification.minimum.all F64.isFinite && specification.maximum.all F64.isFinite &&
    (specification.step.all fun step => step.isFinite && (F64.finite 0).lt step) &&
    specification.minimum.all fun minimum =>
      specification.maximum.all fun maximum => !maximum.lt minimum

def validateParameterChoices (specification : ParameterSpec) :
    List ParameterChoice → CoreResult Unit
  | [] => return ()
  | choice :: choices => do
    validateNonempty uuid "provider parameter choice label" choice.labelKey
    validateParameterValue uuid specification (.explicit choice.value)
    validateParameterChoices specification choices

def validateParameterSpec (specification : ParameterSpec) (seen : List String) :
    CoreResult Unit := do
  validateNonempty uuid "provider parameter id" specification.id
  validateNonempty uuid "provider parameter label" specification.labelKey
  validateNonempty uuid "provider parameter mapping field" specification.mappingFieldName
  require (specification.id ∉ seen) (invalid uuid
    "provider manifest parameter identifiers must be unique")
  require specification.boundsAreValid (invalid uuid
    "provider parameter numeric constraints are invalid")
  validateParameterChoices uuid specification specification.allowedValues

/-- A check of each item with the names of the items before it. -/
def validateEach {α : Type} (name : α → String) (check : α → List String → CoreResult Unit) :
    List String → List α → CoreResult Unit
  | _, [] => return ()
  | seen, item :: items => do
    check item seen
    validateEach name check (name item :: seen) items

/-- Lowercase SHA-256 hex. -/
def isLowercaseSha256 (hash : String) : Bool :=
  byteLen hash == 64 &&
    (asBytes hash).all fun byte => (48 ≤ byte && byte ≤ 57) || (97 ≤ byte && byte ≤ 102)

def validateProviderTemplate : CoreResult Unit := do
  validateNonempty uuid "provider template id" template.id
  validateNonempty uuid "provider template display name" template.displayName
  require (¬ (template.manifestVersion = 0 ∨ template.defaultManifest.schemaVersion = 0))
    (invalid uuid "provider template and manifest versions must be positive")
  require (template.apiFamily = template.defaultManifest.apiFamily) (invalid uuid
    "provider template API family must match its manifest")
  validateEach ConnectionFieldSpec.key (validateConnectionField uuid) [] template.connectionFields
  validateEach ParameterSpec.id (validateParameterSpec uuid) [] template.defaultManifest.parameters
  require (template.defaultManifest.sources.all fun hash => hash.all isLowercaseSha256) (invalid
    uuid "provider manifest source hash must be lowercase SHA-256 hex")

/-! ### The table -/

/-- `provider_templates`. -/
abbrev Templates := Table (String × Nat) ProviderTemplate ProviderTemplate.key

def ProviderTemplate.checks : Bool :=
  notBlank template.id && 0 < template.manifestVersion && notBlank template.displayName

/-- `save_provider_template_row`. -/
def saveProviderTemplateRow (X : Externals) (template : ProviderTemplate) (templates : Templates) :
    CoreResult Templates := do
  validateProviderTemplate uuid template
  match templates.find? template.key with
  | some existing =>
    require (existing = template) (invalid uuid
      "provider template versions are immutable; save changes under a new version")
    return templates
  | none =>
    execute uuid X do
      require template.checks .checkConstraint
      okOr (templates.insert? template) .uniqueConstraint

/-! ### The legacy template -/

def temperatureParameterId : String := "temperature"

def maxOutputTokensParameterId : String := "max_output_tokens"

/-- `legacy_provider_template`. -/
def legacyProviderTemplate : ProviderTemplate where
  id := legacyProviderTemplateId
  displayName := "Custom OpenAI-compatible Chat"
  manifestVersion := legacyProviderTemplateVersion
  source := .builtIn
  apiFamily := .openAiChatCompletions
  connectionFields :=
    [{ key := legacyBaseUrlConfigKey
       labelKey := "provider.connection.api_base_url"
       descriptionKey := some "provider.connection.api_base_url.description"
       valueType := .text
       required := true },
     { key := "api_key"
       labelKey := "provider.connection.api_key"
       descriptionKey := some "provider.connection.api_key.description"
       valueType := .credential
       required := false }]
  defaultManifest :=
    { schemaVersion := 1
      apiFamily := .openAiChatCompletions
      sources := []
      auth := .bearerHeader
      parameters :=
        [{ id := temperatureParameterId
           labelKey := "provider.parameter.temperature"
           valueType := .number
           allowedValues := []
           minimum := some (.finite 0)
           maximum := some (.finite 2)
           step := some (.finite ⟨3602879701896397, 36028797018963968, by decide, by decide⟩)
           mappingFieldName := temperatureParameterId
           othersJson := "" },
         { id := maxOutputTokensParameterId
           labelKey := "provider.parameter.max_output_tokens"
           valueType := .integer
           allowedValues := []
           minimum := some (.finite 1)
           maximum := some (.finite 4294967295)
           step := some (.finite 1)
           mappingFieldName := "max_tokens"
           othersJson := "" }]
      othersJson := "" }

/-- `ensure_legacy_template_exists`. -/
def ensureLegacyTemplateExists (templates : Templates) : CoreResult Unit := do
  let stored ← okOr (templates.find? legacyProviderTemplate.key) (storageCorrupted uuid
    "built-in legacy provider template is missing")
  require (stored = legacyProviderTemplate) (storageCorrupted uuid
    "built-in legacy provider template does not match the supported definition")

end LorePia.ProviderStore
