import LorePia.Discovery.Types
import LorePia.Domain.Machine

namespace LorePia.Discovery

open Lib Option ProviderDiscoverySession

/-!
# Provider discovery — the contract checks

Every `validate` of the discovery contract, in the source's order and with its error texts.
A check that fails names the field it read.

* `ProviderDiscoverySession.validate_ok_iff` — a session passes iff it is `WellFormed`,
    a record with one field per rule;
-/

/-- What the contract takes from outside: the URL crate and the `Debug` form of a string. -/
structure Externals where
  url : UrlCrate
  debugStr : String → String

variable (X : Externals)

/-! ### Leaf checks -/

variable (value : String)

/-- The alphabet and length of a lowercase hexadecimal SHA-256 digest. -/
def isSha256 : Bool :=
  byteLen value == 64 &&
    (asBytes value).all fun byte => (48 ≤ byte && byte ≤ 57) || (97 ≤ byte && byte ≤ 102)

variable (field : String)

def validateSha256 (value : String) : Except DiscoveryContractError Unit :=
  require (isSha256 value) ⟨field, "must be a lowercase hexadecimal SHA-256 digest"⟩

def validateBoundedText (value : String) (maxChars : Nat) (reason : String) :
    Except DiscoveryContractError Unit :=
  require (¬ (value = "" ∨ trim value ≠ value ∨ maxChars < charCount value ∨ hasControl value))
    ⟨field, reason⟩

def validateOpaqueReference (value : String) : Except DiscoveryContractError Unit :=
  require (¬ (value = "" ∨ 256 < byteLen value ∨ trim value ≠ value ∨ hasControl value))
    ⟨field, "must be a bounded opaque reference"⟩

def validateRedactedUrl (value : HttpUrl) :
    Except DiscoveryContractError Unit := do
  let parsed ← (X.url.parse value.val).mapError fun error => ⟨field, error⟩
  require (¬ (parsed.query.isSome ∨ parsed.fragment.isSome))
    ⟨field, "persisted discovery URLs must not contain a query or fragment"⟩

def canonicalOriginForHttpUrl (value : HttpUrl) :
    Except DiscoveryContractError CanonicalOrigin := do
  let parsed ← (X.url.parse value.val).mapError fun error => ⟨"site_url", error⟩
  (CanonicalOrigin.parse X.url parsed.originAscii).mapError fun error => ⟨"site_url", error⟩

def validateSuppliedEvidenceIds (evidenceIds : List EvidenceId) :
    Except DiscoveryContractError Unit := do
  require (¬ (evidenceIds = [] ∨ 4096 < evidenceIds.length))
    ⟨"evidence_ids", "must contain between 1 and 4096 evidence references"⟩
  require evidenceIds.Nodup ⟨"evidence_ids", "must not contain duplicate evidence references"⟩

def DiscoveryApprovalBinding.validate (binding : DiscoveryApprovalBinding) :
    Except DiscoveryContractError Unit :=
  validateSha256 "approval_binding.grant_sha256" binding.grantSha256

/-- A nonempty value of at most 128 ASCII letters, digits, dots, underscores and dashes. -/
def isStableIdentifier : Bool :=
  value ≠ "" && byteLen value ≤ 128 &&
    value.toList.all fun c => isAsciiAlphanumeric c || c == '.' || c == '_' || c == '-'

def DiscoveryFailure.validate (failure : DiscoveryFailure) :
    Except DiscoveryContractError Unit :=
  forEach (fun item => require (isStableIdentifier item.2)
      ⟨item.1, "must be a bounded stable identifier"⟩)
    [("failure.code", failure.code), ("failure.message_key", failure.messageKey)]

/-! ### The sanitized input -/

def isSensitiveConfigurationKey (key : String) : Bool :=
  let normalized := toAsciiLowercase (String.ofList (key.toList.filter isAsciiAlphanumeric))
  normalized == "authorization" || normalized == "apikey" ||
    strEndsWith normalized "apikey" || strContains normalized "password" ||
    strContains normalized "secret" || strEndsWith normalized "token" ||
    strContains normalized "credential" || normalized == "cookie"

/-- `SECRET_PREFIXES`. -/
def secretPrefixes : List String :=
  ["sk-proj-", "sk-ant-", "sk-or-", "sk-", "AIza", "xoxb-", "xoxp-", "ghp_", "github_pat_", "AKIA"]

def looksLikeCredentialMaterial : Bool :=
  let lower := toAsciiLowercase value
  strStartsWith lower "bearer " || strStartsWith lower "basic " ||
    strContains lower "api_key=" || strContains lower "apikey=" ||
    strContains lower "access_token=" || strContains lower "secret=" ||
    strContains lower "password=" || strContains lower "-----begin private key-----" ||
    strContains lower "-----begin rsa private key-----" ||
    secretPrefixes.any fun pre => strStartsWith value pre

/-- `MAX_PROVIDER_DISCOVERY_CONNECTION_VALUES`. -/
def maxConnectionValues : Nat := 256

/-- `MAX_PROVIDER_DISCOVERY_CONNECTION_TEXT_CHARS`. -/
def maxConnectionTextChars : Nat := 8 * 1024

def validateConnectionOptionEntry (entry : ConnectionConfigEntry) :
    Except DiscoveryContractError Unit := do
  validateBoundedText "connection_options.values.key" entry.key 128
    "must be a nonempty trimmed key of at most 128 characters"
  require (¬ isSensitiveConfigurationKey entry.key) ⟨"connection_options.values.key",
      "credential-like keys are forbidden; use credential_ref"⟩
  match entry.value with
  | .text value => do
    require (¬ (trim value ≠ value ∨ maxConnectionTextChars < charCount value ∨ hasControl value))
      ⟨"connection_options.values[" ++ entry.key ++ "]",
        "text must be trimmed, control-free, and at most 8192 characters"⟩
    require (¬ looksLikeCredentialMaterial value) ⟨"connection_options.values[" ++ entry.key ++ "]",
        "credential-like material is forbidden; use credential_ref"⟩
  | .integer _ | .boolean _ => return

/-- The loop over the option values; `keys` are the keys already seen. -/
def validateConnectionValues (keys : List String) :
    List ConnectionConfigEntry → Except DiscoveryContractError Unit
  | [] => .ok ()
  | entry :: entries => do
    validateConnectionOptionEntry entry
    require (entry.key ∉ keys)
      ⟨"connection_options.values", "contains duplicate key " ++ X.debugStr entry.key⟩
    validateConnectionValues (entry.key :: keys) entries

/-- The loop over the approved addresses; `seen` are the addresses already met. -/
def validateLocalAddresses (seen : List IpAddr) :
    List IpAddr → Except DiscoveryContractError Unit
  | [] => .ok ()
  | address :: addresses => do
    require (isPrivateNetworkAddress address)
      ⟨"connection_options.local_network_approval.addresses",
        address.display ++ " is not an RFC1918 IPv4 or ULA IPv6 address"⟩
    require (address ∉ seen) ⟨"connection_options.local_network_approval.addresses",
        "contains duplicate address " ++ address.display⟩
    validateLocalAddresses (address :: seen) addresses

def validateLocalNetworkApproval (approval : ProviderLocalNetworkApproval) :
    Except DiscoveryContractError Unit := do
  require (1 ≤ approval.addresses.length ∧ approval.addresses.length ≤ 16)
    ⟨"connection_options.local_network_approval.addresses",
      "must contain from 1 to 16 exact private IP addresses"⟩
  validateLocalAddresses [] approval.addresses

def ProviderDiscoveryConnectionOptions.validate (options : ProviderDiscoveryConnectionOptions) :
    Except DiscoveryContractError Unit := do
  require (1 ≤ options.timeoutSeconds ∧ options.timeoutSeconds ≤ 600)
    ⟨"connection_options.timeout_seconds", "must be from 1 to 600 seconds"⟩
  require (options.values.length ≤ maxConnectionValues)
    ⟨"connection_options.values", "exceeds the 256-entry limit"⟩
  validateConnectionValues X [] options.values
  match options.networkMode, options.localNetworkApproval with
  | .approvedLocalNetwork, some approval => validateLocalNetworkApproval approval
  | .approvedLocalNetwork, none =>
    .error ⟨"connection_options.local_network_approval",
      "is required for approved_local_network mode"⟩
  | .public, some _ | .localLoopback, some _ =>
    .error ⟨"connection_options.local_network_approval",
      "must be absent unless network_mode is approved_local_network"⟩
  | .public, none | .localLoopback, none => .ok ()

/-- The slot of the credential broker is named by the connection. -/
def validateCredentialRef (connectionId : ProviderConnectionId) (credentialRef : CredentialRef) :
    Except DiscoveryContractError Unit := do
  validateOpaqueReference "credential_ref" credentialRef.val
  require (credentialRef.val = connectionId.val)
    ⟨"credential_ref", "must use the selected connection identifier as its native slot"⟩

def SanitizedDiscoveryInput.validate (input : SanitizedDiscoveryInput) :
    Except DiscoveryContractError Unit := do
  validateBoundedText "connection_id" input.connectionId.val 128
    "must be a bounded trimmed opaque connection identifier"
  validateBoundedText "display_name" input.displayName 120
    "must be a nonempty trimmed display name of at most 120 characters"
  validateRedactedUrl X "site_url" input.siteUrl
  forSome (validateRedactedUrl X "docs_url") input.docsUrl
  forSome (validateCredentialRef input.connectionId) input.credentialRef
  input.connectionOptions.validate X
  require (input.suppliedEvidenceIds.length ≤ 4096)
    ⟨"supplied_evidence_ids", "exceeds the 4096 evidence-reference limit"⟩

/-! ### The session -/

/-- The two operations that spend the user's money, matched by name in the source. -/
def DiscoveryOperationKind.isBillable : DiscoveryOperationKind → Bool
  | .buildAssistantManifestDraft | .probeCapabilities => true
  | _ => false

/-- The two operations of the commit saga, matched by name in the source. -/
def DiscoveryOperationKind.isSaga : DiscoveryOperationKind → Bool
  | .atomicCommit | .compensation => true
  | _ => false

theorem isBillable_eq_false_of_isSaga {op : DiscoveryOperationKind} (h : op.isSaga = true) :
    op.isBillable = false := by
  cases op <;> first | rfl | cases h

variable (s : ProviderDiscoverySession)

/-- `approval_required`: an approved billable effect is active or checkpointed. -/
def ProviderDiscoverySession.approvalRequired : Bool :=
  match s.state with
  | .buildingAssistantManifestDraft | .probingCapabilities => true
  | .interrupted => s.recovery.any fun checkpoint => checkpoint.operation.isBillable
  | _ => false

/-- `approval_allowed`: as `approvalRequired`, or the outcome of one is unknown. -/
def ProviderDiscoverySession.approvalAllowed : Bool :=
  s.approvalRequired ||
    (s.state == .unknownOutcome && s.unknownOperation.any DiscoveryOperationKind.isBillable)

/-- The states in which a session may carry a failure. -/
def DiscoveryState.mayCarryFailure : DiscoveryState → Bool
  | .compensating | .failed | .cancelled => true
  | _ => false

def validateSessionFailure (state : DiscoveryState) (failure : DiscoveryFailure) :
    Except DiscoveryContractError Unit := do
  failure.validate
  require state.mayCarryFailure
    ⟨"failure", "is only valid for compensating, failed, or cancelled sessions"⟩

def validateRecovery : Except DiscoveryContractError Unit :=
  if s.state = .interrupted then do
    let checkpoint ← okOr s.recovery
      ⟨"recovery", "interrupted sessions require a recovery checkpoint"⟩
    require (checkpoint.interruptedState.operation = some checkpoint.operation)
      ⟨"recovery.operation", "must match the interrupted state"⟩
  else
    require (s.recovery = none) ⟨"recovery", "is only valid while interrupted"⟩

def validateUnknownOperation :
    Except DiscoveryContractError Unit :=
  if s.state = .unknownOutcome then
    require s.unknownOperation.isSome
      ⟨"unknown_operation", "unknown outcomes must identify the interrupted operation"⟩
  else
    require (s.unknownOperation = none) ⟨"unknown_operation", "is only valid for unknown outcomes"⟩

def ProviderDiscoverySession.validate :
    Except DiscoveryContractError Unit := do
  s.input.validate X
  require (s.nextEventSequence ≠ 0) ⟨"next_event_sequence", "must be positive"⟩
  forSome (validateSha256 "commit_plan_sha256") s.commitPlanSha256
  forSome (validateSha256 "manifest_sha256") s.manifestSha256
  forSome DiscoveryApprovalBinding.validate s.activeEffectApproval
  forSome (validateSessionFailure s.state) s.failure
  validateRecovery s
  validateUnknownOperation s
  require (¬ (s.approvalRequired ∧ s.activeEffectApproval = none ∨
      ¬ s.approvalAllowed ∧ s.activeEffectApproval.isSome))
    ⟨"active_effect_approval",
      "must exist exactly while an approved billable effect is active or recoverable"⟩
  require (¬ ((s.state = .committing ∨ s.state = .compensating) ∧
      (s.commitPlanSha256 = none ∨ s.commitAttemptId = none)))
    ⟨"commit", "commit and compensation states require a plan and attempt"⟩
  require (¬ (s.state = .ready ∧ s.committedConnectionId = none))
    ⟨"committed_connection_id", "ready sessions must identify the committed connection"⟩

def ProviderDiscoverySession.new (id : DiscoverySessionId) (input : SanitizedDiscoveryInput) :
    Except DiscoveryContractError ProviderDiscoverySession := do
  input.validate X
  return {
    id, input
    state := .draft
    revision := 0
    nextEventSequence := 1
    recovery := none
    unknownOperation := none
    manifestSha256 := none
    commitPlanSha256 := none
    commitAttemptId := none
    committedConnectionId := none
    cancellationPending := false
    activeEffectApproval := none
    failure := none }

/-! ### What a valid session satisfies -/

/-- The rules of `ProviderDiscoverySession.validate`, one field a rule. -/
structure ProviderDiscoverySession.WellFormed (s : ProviderDiscoverySession) : Prop where
  input : s.input.validate X = .ok ()
  sequence : s.nextEventSequence ≠ 0
  plan : ∀ hash, s.commitPlanSha256 = some hash → isSha256 hash = true
  manifest : ∀ hash, s.manifestSha256 = some hash → isSha256 hash = true
  approval : ∀ b, s.activeEffectApproval = some b → isSha256 b.grantSha256 = true
  failure : ∀ f, s.failure = some f → f.validate = .ok () ∧ s.state.mayCarryFailure = true
  recovery : if s.state = .interrupted then
      ∃ c, s.recovery = some c ∧ c.interruptedState.operation = some c.operation
    else s.recovery = none
  unknown : if s.state = .unknownOutcome then s.unknownOperation.isSome = true
    else s.unknownOperation = none
  approvalPresent : s.approvalRequired = true → s.activeEffectApproval.isSome = true
  approvalAbsent : s.approvalAllowed = false → s.activeEffectApproval = none
  saga : s.state = .committing ∨ s.state = .compensating →
    s.commitPlanSha256.isSome = true ∧ s.commitAttemptId.isSome = true
  committed : s.state = .ready → s.committedConnectionId.isSome = true

/-- **The session contract.** `validate` accepts exactly the well-formed sessions. -/
theorem ProviderDiscoverySession.validate_ok_iff {s : ProviderDiscoverySession} :
    s.validate X = .ok u ↔ s.WellFormed X := by
  have hwell : s.WellFormed X ↔ _ ∧ _ ∧ _ ∧ _ ∧ _ ∧ _ ∧ _ ∧ _ ∧ (_ ∧ _) ∧ _ ∧ _ :=
    ⟨fun w => ⟨w.input, w.sequence, w.plan, w.manifest, w.approval, w.failure, w.recovery,
      w.unknown, ⟨w.approvalPresent, w.approvalAbsent⟩, w.saga, w.committed⟩,
      fun ⟨h, h1, h2, h3, h4, h5, h6, h7, h8, h9, h10⟩ =>
        ⟨h, h1, h2, h3, h4, h5, h6, h7, h8.1, h8.2, h9, h10⟩⟩
  rw [hwell]
  simp only [validate, unit_bind_ok, require_ok, forSome_ok,
    validateRecovery, validateUnknownOperation, validateSha256, DiscoveryApprovalBinding.validate,
    validateSessionFailure]
  refine and_congr_right fun _ => and_congr_right fun _ => and_congr_right fun _ =>
    and_congr_right fun _ => and_congr_right fun _ => and_congr_right fun _ =>
      and_congr ?_ (and_congr ?_ (and_congr ?_ (and_congr ?_ ?_)))
  · split <;> simp [bind_ok]
  · split <;> simp
  · simp [not_or, isSome_iff_ne_none]
  · simp [not_or, isSome_iff_ne_none]
  · simp [isSome_iff_ne_none]

/-- A new session is a well-formed draft at revision zero. -/
theorem ProviderDiscoverySession.new_ok {id : DiscoverySessionId}
    {input : SanitizedDiscoveryInput} {s : ProviderDiscoverySession}
    (h : new X id input = .ok s) :
    s.WellFormed X ∧ s.state = .draft ∧ s.cancellationPending = false ∧ s.revision = 0 ∧
      s.nextEventSequence = 1 ∧ s.activeEffectApproval = none := by
  simp only [new, bind_ok, pure_ok, Except.ok.injEq] at h
  obtain ⟨_, hin, rfl⟩ := h
  refine ⟨⟨hin, ?_, ?_, ?_, ?_, ?_, ?_, ?_, ?_, ?_, ?_, ?_⟩, rfl, rfl, rfl, rfl, rfl⟩ <;>
    simp [approvalRequired]

end LorePia.Discovery
