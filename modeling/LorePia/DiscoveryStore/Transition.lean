import LorePia.DiscoveryStore.Tables
import Mathlib.Data.Finset.Range

namespace LorePia.DiscoveryStore

open Lib Discovery Avoids

/-!
# The discovery store — a durable transition and its checks

`DurableDiscoveryTransition` is what a caller asks the store to persist: already serialized,
redacted documents and the identifiers that bind them.  Two checks read nothing but the
request: `validateTransitionRedaction`, on the documents, and `validateTransitionShape`, on
the counters, the effect and the approval.  `validateApprovalGrantBinding` compares a grant
with the documents of the same request.

Parsing, printing and hashing are the crates' (`StoreExternals`).
-/

/-! ### The request -/

inductive DurableDiscoveryEffect
  | none
  | resolveKnownProvider
  | fetchDocuments
  | extractEvidence
  | buildDeterministicManifestDraft
  | buildAssistantManifestDraft
  | validateManifest
  | listModels
  | probeCapabilities
  | commitAtomically
  | runCompensation
  | requestCancellation
deriving DecidableEq

inductive DurableOperationOutcome
  | succeeded
  | failed
  | interrupted
  | outcomeUnknown
deriving DecidableEq

def DurableOperationOutcome.asStr : DurableOperationOutcome → String
  | .succeeded => "succeeded"
  | .failed => "failed"
  | .interrupted => "interrupted"
  | .outcomeUnknown => "outcome_unknown"

structure CompletedDiscoveryOperation where
  id : String
  outcome : DurableOperationOutcome
deriving DecidableEq

structure NewDiscoveryOperation where
  id : String
  operationKind : String
  sideEffectClass : String
  approvalId : Option String
  approvalGrantSha256 : Option String
deriving DecidableEq

structure NewDiscoveryApproval where
  id : String
  approvalKind : String
  candidateId : Option String
  decision : String
  grantJson : String
deriving DecidableEq

structure NewDiscoveryCompensationStep where
  id : String
  ordinal : Nat
  actionId : String
  stepKind : String
  stepJson : String
deriving DecidableEq

structure NewDiscoveryCommitAttempt where
  id : String
  attemptNumber : Nat
  planSha256 : String
  planJson : String
  reuseExisting : Bool
  compensationSteps : List NewDiscoveryCompensationStep
deriving DecidableEq

structure DurableDiscoveryTransition where
  sessionId : String
  expectedRevision : Nat
  resultingRevision : Nat
  eventSequence : Nat
  nextEventSequence : Nat
  state : String
  draftJson : Option String
  reviewDiffJson : Option String
  errorJson : Option String
  recoveryJson : Option String
  unknownOperation : Option String
  manifestSha256 : Option String
  commitPlanSha256 : Option String
  commitAttemptId : Option String
  committedConnectionId : Option String
  cancellationPending : Bool
  eventId : String
  eventVersion : Nat
  eventJson : String
  effect : DurableDiscoveryEffect
  actionId : String
  actionKind : String
  actionApprovalId : Option String
  requestSha256 : String
  responseJson : String
  receiptOutcome : String
  auditKind : String
  auditSummaryKey : String
  occurredAt : String
  operation : Option NewDiscoveryOperation
  completedOperation : Option CompletedDiscoveryOperation
  approval : Option NewDiscoveryApproval
  commit : Option NewDiscoveryCommitAttempt
deriving DecidableEq

inductive PersistDiscoveryTransition
  | applied (revision eventSequence : Nat)
  | replayed (revision eventSequence : Nat) (responseJson : String)
deriving DecidableEq

inductive DiscoveryStorageError
  | database (error : SqliteError)
  | sessionNotFound (id : String)
  | revisionConflict (expected actual : Nat)
  | idempotencyConflict (actionId : String)
  | invalidTransition (reason : String)
deriving DecidableEq

/-! ### What the store takes from outside -/

/-- `serde_json::from_str` and `serde_json::to_string` of one typed contract. -/
structure Codec (α : Type) where
  decode : String → Option α
  encode : α → Option String

/-- The crates behind the store. -/
structure StoreExternals where
  url : UrlCrate
  sqlite : SqliteJson
  digests : Digests
  parseValue : String → Option Json
  decodeFailure : String → Option DiscoveryFailure
  failureToValue : DiscoveryFailure → Option Json
  approvalBinding : Codec DiscoveryApprovalBinding
  approvalGrant : Codec DiscoveryApprovalGrant
  decodeReviewDiff : String → Option DiscoveryReviewDiff
  decodeCommitPlan : String → Option DiscoveryCommitPlan
  decodeCompensationStep : String → Option DiscoveryCompensationStep

variable (X : StoreExternals)

/-- `sha256_hex(text.as_bytes())`. -/
def StoreExternals.sha256Hex (text : String) : String := X.digests.sha256Hex (asBytes text)

/-! ### Redaction -/

/-- `MAX_PERSISTED_JSON_BYTES`. -/
def maxPersistedJsonBytes : Nat := 1048576

/-- `MAX_PERSISTED_JSON_DEPTH`. -/
def maxPersistedJsonDepth : Nat := 64

variable (key : String)

/-- The bytes of a key that are ASCII letters or digits, in lower case. -/
def normalizedKey : String :=
  toAsciiLowercase (String.ofList (key.toList.filter isAsciiAlphanumeric))

def forbiddenKeys : List String :=
  ["apikey", "authorization", "proxyauthorization", "cookie", "setcookie", "password", "secret",
   "accesstoken", "refreshtoken", "credentialvalue", "rawcredential", "requestheaders",
   "responseheaders", "documentbody", "rawdocument", "pastedcurl"]

/-- The checks on one entry of an object, before its value is visited. -/
def validateRedactedKey (child : Json) : Except DiscoveryStorageError Unit := do
  require (normalizedKey key ∉ forbiddenKeys)
    (.invalidTransition "persisted JSON contains a forbidden sensitive field")
  if normalizedKey key = "sourceurl" then
    forSome (fun sourceUrl => do
        let parsed ← (X.url.parse sourceUrl).mapError fun _ =>
          .invalidTransition "persisted source URL must be an absolute URL"
        require (¬ (parsed.query.isSome ∨ parsed.fragment.isSome))
          (.invalidTransition "persisted source URL must not contain a query or fragment"))
      child.asStr?
  else .ok ()

def validateRedactedDepth (depth : Nat) : Except DiscoveryStorageError Unit :=
  require (depth ≤ maxPersistedJsonDepth)
    (.invalidTransition "persisted redacted JSON is too deeply nested")

mutual
def validateRedactedValue (depth : Nat) : Json → Except DiscoveryStorageError Unit
  | .object fields => do
    validateRedactedDepth depth
    validateRedactedFields (depth + 1) fields
  | .array items => do
    validateRedactedDepth depth
    validateRedactedItems (depth + 1) items
  | .null | .bool _ | .number _ | .string _ => validateRedactedDepth depth

def validateRedactedFields (depth : Nat) : List (String × Json) →
    Except DiscoveryStorageError Unit
  | [] => .ok ()
  | (key, child) :: fields => do
    validateRedactedKey X key child
    validateRedactedValue depth child
    validateRedactedFields depth fields

def validateRedactedItems (depth : Nat) : List Json → Except DiscoveryStorageError Unit
  | [] => .ok ()
  | child :: items => do
    validateRedactedValue depth child
    validateRedactedItems depth items
end

variable (json : String)

def validateRedactedJsonObject : Except DiscoveryStorageError Json := do
  require (byteLen json ≤ maxPersistedJsonBytes)
    (.invalidTransition "redacted JSON exceeds the persistence limit")
  let value ← okOr (X.parseValue json) (.invalidTransition "persisted redacted JSON is invalid")
  require value.isObject (.invalidTransition "persisted redacted JSON must be an object")
  validateRedactedValue X 0 value
  return value

def parseDiscoveryFailure : Except DiscoveryStorageError DiscoveryFailure := do
  let failure ← okOr (X.decodeFailure json)
    (.invalidTransition "error JSON must be a typed redacted discovery failure")
  failure.validate.mapError fun _ =>
    .invalidTransition "error JSON must be a valid redacted discovery failure"
  return failure

/-! ### The commit recipe -/

/-- The accumulators of the loop over the compensation steps. -/
structure RecipeCounts where
  ordinals : Finset Nat
  credentialSteps : Nat
  graphSteps : Nat
  selectionSteps : Nat

def RecipeCounts.count (counts : RecipeCounts) (typed : DiscoveryCompensationStep) :
    RecipeCounts :=
  let counts := { counts with ordinals := insert typed.ordinal counts.ordinals }
  match typed.kind with
  | .removeCredentialSlot => { counts with credentialSteps := counts.credentialSteps + 1 }
  | .removeConnectionGraph => { counts with graphSteps := counts.graphSteps + 1 }
  | .restorePreviousSelection => { counts with selectionSteps := counts.selectionSteps + 1 }

def countCompensationSteps (plan : DiscoveryCommitPlan) (counts : RecipeCounts) :
    List NewDiscoveryCompensationStep → Except DiscoveryStorageError RecipeCounts
  | [] => .ok counts
  | step :: steps => do
    let _ ← validateRedactedJsonObject X step.stepJson
    let typed ← okOr (X.decodeCompensationStep step.stepJson)
      (.invalidTransition "compensation step must use the typed domain contract")
    (typed.validateAgainst plan).mapError fun _ =>
      .invalidTransition "compensation target does not match the approved commit plan"
    require (¬ (typed.actionId.val ≠ step.actionId ∨ typed.ordinal ≠ step.ordinal ∨
        typed.kind.name ≠ step.stepKind ∨ typed.status ≠ .pending ∨
        typed.ordinal ∈ counts.ordinals))
      (.invalidTransition "compensation columns must exactly match a unique pending typed step")
    countCompensationSteps plan (counts.count typed) steps

variable (t : DurableDiscoveryTransition)

def validateTypedCommitRecipe
    (commit : NewDiscoveryCommitAttempt) : Except DiscoveryStorageError Unit := do
  let plan ← okOr (X.decodeCommitPlan commit.planJson)
    (.invalidTransition "commit plan must use the typed domain contract")
  plan.validate.mapError fun _ =>
    .invalidTransition "commit plan violates its typed domain contract"
  require (¬ (plan.attemptId.val ≠ commit.id ∨ plan.sessionId.val ≠ t.sessionId ∨
      commit.reuseExisting = false ∧ plan.expectedRevision ≠ t.expectedRevision ∨
      commit.reuseExisting = true ∧ t.expectedRevision < plan.expectedRevision))
    (.invalidTransition "commit plan must bind its attempt, session, and revision")
  if commit.reuseExisting then .ok ()
  else do
    let counts ← countCompensationSteps X plan ⟨∅, 0, 0, 0⟩ commit.compensationSteps
    require (commit.compensationSteps.length ≤ u32Max)
      (.invalidTransition "compensation recipe exceeds the ordinal bound")
    require (counts.ordinals = Finset.range commit.compensationSteps.length ∧
        counts.credentialSteps = plan.credentialRef.isSome.toNat ∧
        counts.graphSteps = 1 ∧ counts.selectionSteps = 1)
      (.invalidTransition
        "commit requires one exact graph and selection reversal plus any credential reversal")

/-- The documents a request carries, in the order they are checked. -/
def DurableDiscoveryTransition.documents : List String :=
  [t.draftJson, t.reviewDiffJson, t.errorJson, t.recoveryJson, some t.eventJson,
    some t.responseJson].filterMap id

/-- The actions that have to carry a failure. -/
def isFailureAction (actionKind : String) : Bool :=
  ["fail", "commit_failed_before_apply", "compensation_failed"].contains actionKind

def validateCommitDocuments
    (commit : NewDiscoveryCommitAttempt) : Except DiscoveryStorageError Unit := do
  let _ ← validateRedactedJsonObject X commit.planJson
  require (X.sha256Hex commit.planJson = commit.planSha256)
    (.invalidTransition "commit plan hash does not match the redacted plan")
  validateTypedCommitRecipe X t commit

/-- The failure of the session and the failure inside its event are the same, or both absent. -/
def failuresAgree (failure : Option DiscoveryFailure) (eventFailure : Option Json) : Bool :=
  match failure, eventFailure with
  | some failure, some eventFailure => X.failureToValue failure == some eventFailure
  | none, none => true
  | _, _ => false

/-- The failure a session is persisted with. -/
def parseSessionFailure : Option String → Except DiscoveryStorageError (Option DiscoveryFailure)
  | none => .ok none
  | some json => do
    let failure ← parseDiscoveryFailure X json
    return some failure

/-- A document whose value is not needed further. -/
def validateDocument : Except DiscoveryStorageError Unit := do
  let _ ← validateRedactedJsonObject X json
  return

def validateTransitionRedaction :
    Except DiscoveryStorageError Unit := do
  forEach (validateDocument X) t.documents
  forSome (fun approval => validateDocument X approval.grantJson) t.approval
  let failure ← parseSessionFailure X t.errorJson
  require (¬ (isFailureAction t.actionKind ∧ failure = none))
    (.invalidTransition "failure action must persist its typed redacted failure")
  let event ← validateRedactedJsonObject X t.eventJson
  require (failuresAgree X failure ((event.get? "failure").filter fun value => !value.isNull))
    (.invalidTransition "event failure must exactly match the durable session failure")
  forSome (validateCommitDocuments X t) t.commit

/-! ### Shape -/

def requiredApprovalForAction : String → Option (String × String)
  | "select_template" => some ("template_selection", "approved")
  | "approve_assistant" => some ("assistant_consent", "approved")
  | "decline_assistant" => some ("assistant_consent", "rejected")
  | "approve_credential_origin" => some ("credential_origin", "approved")
  | "approve_probes" => some ("capability_probe", "approved")
  | "skip_probes" => some ("capability_probe", "rejected")
  | "approve_review" => some ("review", "approved")
  | "resolve_unknown_outcome" => some ("unknown_outcome_resolution", "approved")
  | _ => none

def operationKindForEffect : DurableDiscoveryEffect → Option String
  | .resolveKnownProvider => some "resolve_known_provider"
  | .fetchDocuments => some "fetch_documents"
  | .extractEvidence => some "extract_evidence"
  | .buildDeterministicManifestDraft => some "build_deterministic_manifest_draft"
  | .buildAssistantManifestDraft => some "build_assistant_manifest_draft"
  | .validateManifest => some "validate_manifest"
  | .listModels => some "list_models"
  | .probeCapabilities => some "probe_capabilities"
  | .commitAtomically => some "atomic_commit"
  | .runCompensation => some "compensation"
  | .none | .requestCancellation => none

/-- The approval an action needs, and the approval it carries. -/
def validateActionApproval : Except DiscoveryStorageError Unit :=
  match requiredApprovalForAction t.actionKind with
  | some (approvalKind, decision) => do
    let approval ← okOr t.approval
      (.invalidTransition "user-consent action must atomically persist its approval")
    require (approval.approvalKind = approvalKind ∧ approval.decision = decision)
      (.invalidTransition "approval kind or decision does not match the action")
    require (t.actionApprovalId = some approval.id)
      (.invalidTransition "action approval identifier does not match the persisted approval")
  | none => do
    require (t.approval = none) (.invalidTransition "action does not accept an approval record")
    require (t.actionApprovalId = none)
      (.invalidTransition "action does not accept an approval identifier")

def validateTransitionShape :
    Except DiscoveryStorageError Unit := do
  require (t.resultingRevision = saturatingAdd t.expectedRevision 1)
    (.invalidTransition "resulting revision must increment exactly once")
  require (t.nextEventSequence = saturatingAdd t.eventSequence 1)
    (.invalidTransition "next event sequence must increment exactly once")
  require (t.eventVersion ≠ 0) (.invalidTransition "event version must be positive")
  require (¬ (t.state = "interrupted" ∧ t.recoveryJson = none))
    (.invalidTransition "interrupted transition requires a recovery checkpoint")
  require (¬ (t.state = "unknown_outcome" ∧ t.unknownOperation = none))
    (.invalidTransition "unknown outcome transition requires an operation")
  require (¬ (t.effect = .commitAtomically ∧ t.commit = none))
    (.invalidTransition "committing transition must atomically prepare its commit attempt")
  require (¬ (t.commit.isSome ∧ t.effect ≠ .commitAtomically))
    (.invalidTransition "commit attempt is only valid for an atomic commit effect")
  require (¬ ((operationKindForEffect t.effect).isSome ∧ t.operation = none))
    (.invalidTransition "an external effect must atomically prepare its operation")
  require (t.operation.all fun operation =>
      operationKindForEffect t.effect == some operation.operationKind)
    (.invalidTransition "prepared operation does not match the transition effect")
  validateActionApproval t

/-! ### Grants -/

/-- The name serialization gives an operation kind. -/
def operationName : DiscoveryOperationKind → String
  | .resolveKnownProvider => "resolve_known_provider"
  | .fetchDocuments => "fetch_documents"
  | .extractEvidence => "extract_evidence"
  | .buildDeterministicManifestDraft => "build_deterministic_manifest_draft"
  | .buildAssistantManifestDraft => "build_assistant_manifest_draft"
  | .validateManifest => "validate_manifest"
  | .listModels => "list_models"
  | .probeCapabilities => "probe_capabilities"
  | .atomicCommit => "atomic_commit"
  | .compensation => "compensation"

/-- The states a resolution of an unknown outcome may lead to. -/
def resolutionMatches :
    DiscoveryUnknownOutcomeResolution → Bool
  | .confirmedNoEffect => t.state == "interrupted" || t.state == "cancelled"
  | .confirmedCommitCompleted connectionId =>
    (t.state == "ready" && t.committedConnectionId == some connectionId.val) ||
      t.state == "compensating"
  | .confirmedCompensated | .manuallyReconciledAsFailed =>
    t.state == "failed" || t.state == "cancelled"

/-- The review a grant names is the review persisted with it. -/
def validateReviewBinding (reviewSha256 graphSha256 : String) :
    Except DiscoveryStorageError Unit := do
  let json ← okOr t.reviewDiffJson
    (.invalidTransition "review approval requires the persisted review diff")
  let persistedReview ← okOr (X.decodeReviewDiff json)
    (.invalidTransition "persisted review diff must use the typed contract")
  (persistedReview.validate X.digests).mapError fun _ =>
    .invalidTransition "persisted review diff violates its typed bounds"
  require (persistedReview.sha256 = reviewSha256)
    (.invalidTransition "review approval must bind the persisted review diff")
  require (persistedReview.graphSha256 = graphSha256)
    (.invalidTransition "review approval must bind the persisted provider graph")

def validateGrantKind (approval : NewDiscoveryApproval) (previousUnknownOperation : Option String) :
    DiscoveryApprovalGrant → Except DiscoveryStorageError Unit
  | .templateSelection candidateId =>
    if approval.approvalKind = "template_selection" then
      require (approval.candidateId = some candidateId.val)
        (.invalidTransition "template approval must bind the selected candidate")
    else mismatch
  | .assistantConsent .. => if approval.approvalKind = "assistant_consent" then .ok () else mismatch
  | .capabilityProbe .. => if approval.approvalKind = "capability_probe" then .ok () else mismatch
  | .credentialOrigin _ _ manifestSha256 =>
    if approval.approvalKind = "credential_origin" then
      require (t.manifestSha256 = some manifestSha256)
        (.invalidTransition "credential-origin approval must bind the validated manifest")
    else mismatch
  | .review reviewSha256 graphSha256 =>
    if approval.approvalKind = "review" then validateReviewBinding X t reviewSha256 graphSha256
    else mismatch
  | .unknownOutcomeResolution operation resolution =>
    if approval.approvalKind = "unknown_outcome_resolution" then do
      require (some (operationName operation) = previousUnknownOperation)
        (.invalidTransition "unknown-outcome approval must bind the prior unknown operation")
      require (resolutionMatches t resolution)
        (.invalidTransition "unknown-outcome approval does not match the resulting transition")
    else mismatch
where
  mismatch : Except DiscoveryStorageError Unit :=
    .error (.invalidTransition "approval kind does not match its typed grant")

def validateApprovalGrantBinding
    (previousUnknownOperation : Option String) (approval : NewDiscoveryApproval) :
    Except DiscoveryStorageError Unit := do
  let _ ← validateRedactedJsonObject X approval.grantJson
  let grant ← okOr (X.approvalGrant.decode approval.grantJson)
    (.invalidTransition "approval grant must use the typed grant contract")
  grant.validate.mapError fun _ =>
    .invalidTransition "approval grant violates its typed bounds"
  let canonical ← okOr (X.approvalGrant.encode grant)
    (.invalidTransition "approval grant could not be canonicalized")
  require (canonical = approval.grantJson)
    (.invalidTransition "approval grant must use canonical JSON before hashing")
  validateGrantKind X t approval previousUnknownOperation grant

/-! ### Errors of the redaction check -/

/-- The program fails with `InvalidTransition` or not at all. -/
abbrev OnlyInvalid {α : Type} (x : Except DiscoveryStorageError α) : Prop :=
  Avoids (fun e => ∀ reason, e ≠ .invalidTransition reason) x

private theorem invalid_allowed :
    ¬ ∀ reason', DiscoveryStorageError.invalidTransition reason ≠ .invalidTransition reason' :=
  fun h => h reason rfl

section RedactionErrors

variable {X}

theorem onlyInvalid_key (child : Json) :
    OnlyInvalid (validateRedactedKey X key child) := by
  refine (avoids_require invalid_allowed).bind fun _ _ => ?_
  refine .ite (fun _ => ?_) (fun _ => avoids_pure)
  refine forSome fun _ => ?_
  exact (avoids_mapError fun _ => invalid_allowed).bind fun _ _ => avoids_require invalid_allowed

theorem onlyInvalid_depth (depth : Nat) : OnlyInvalid (validateRedactedDepth depth) :=
  avoids_require invalid_allowed

mutual
theorem onlyInvalid_value : ∀ (depth : Nat) (value : Json),
    OnlyInvalid (validateRedactedValue X depth value)
  | depth, .object fields => by
    rw [validateRedactedValue]
    exact (onlyInvalid_depth depth).bind fun _ _ => onlyInvalid_fields (depth + 1) fields
  | depth, .array items => by
    rw [validateRedactedValue]
    exact (onlyInvalid_depth depth).bind fun _ _ => onlyInvalid_items (depth + 1) items
  | depth, .null => by rw [validateRedactedValue]; exact onlyInvalid_depth depth
  | depth, .bool _ => by rw [validateRedactedValue]; exact onlyInvalid_depth depth
  | depth, .number _ => by rw [validateRedactedValue]; exact onlyInvalid_depth depth
  | depth, .string _ => by rw [validateRedactedValue]; exact onlyInvalid_depth depth

theorem onlyInvalid_fields : ∀ (depth : Nat) (fields : List (String × Json)),
    OnlyInvalid (validateRedactedFields X depth fields)
  | _, [] => by
    rw [validateRedactedFields]
    exact avoids_pure
  | depth, (key, child) :: fields => by
    rw [validateRedactedFields]
    refine (onlyInvalid_key key child).bind fun _ _ => ?_
    exact (onlyInvalid_value depth child).bind fun _ _ => onlyInvalid_fields depth fields

theorem onlyInvalid_items : ∀ (depth : Nat) (items : List Json),
    OnlyInvalid (validateRedactedItems X depth items)
  | _, [] => by
    rw [validateRedactedItems]
    exact avoids_pure
  | depth, child :: items => by
    rw [validateRedactedItems]
    exact (onlyInvalid_value depth child).bind fun _ _ => onlyInvalid_items depth items
end

theorem onlyInvalid_jsonObject :
    OnlyInvalid (validateRedactedJsonObject X json) := by
  refine (avoids_require invalid_allowed).bind fun _ _ => ?_
  refine (Avoids.okOr invalid_allowed).bind fun value _ => ?_
  refine (avoids_require invalid_allowed).bind fun _ _ => ?_
  exact (onlyInvalid_value 0 value).bind fun _ _ => avoids_pure

theorem onlyInvalid_document : OnlyInvalid (validateDocument X json) :=
  (onlyInvalid_jsonObject json).bind fun _ _ => avoids_pure

theorem onlyInvalid_sessionFailure (json : Option String) :
    OnlyInvalid (parseSessionFailure X json) := by
  cases json with
  | none => exact avoids_pure
  | some json =>
    refine .bind ?_ fun _ _ => avoids_pure
    refine (Avoids.okOr invalid_allowed).bind fun failure _ => ?_
    exact (avoids_mapError fun _ => invalid_allowed).bind fun _ _ => avoids_pure

theorem onlyInvalid_steps (plan : DiscoveryCommitPlan)
    (steps : List NewDiscoveryCompensationStep) (counts : RecipeCounts) :
    OnlyInvalid (countCompensationSteps X plan counts steps) := by
  induction steps generalizing counts with
  | nil => exact avoids_pure
  | cons step steps ih =>
    refine (onlyInvalid_jsonObject step.stepJson).bind fun _ _ => ?_
    refine (Avoids.okOr invalid_allowed).bind fun typed _ => ?_
    refine (avoids_mapError fun _ => invalid_allowed).bind fun _ _ => ?_
    exact (avoids_require invalid_allowed).bind fun _ _ => ih _

theorem onlyInvalid_recipe (commit : NewDiscoveryCommitAttempt) :
    OnlyInvalid (validateTypedCommitRecipe X t commit) := by
  refine (Avoids.okOr invalid_allowed).bind fun plan _ => ?_
  refine (avoids_mapError fun _ => invalid_allowed).bind fun _ _ => ?_
  refine (avoids_require invalid_allowed).bind fun _ _ => ?_
  refine .ite (fun _ => avoids_pure) (fun _ => ?_)
  refine (onlyInvalid_steps plan commit.compensationSteps _).bind fun _ _ => ?_
  exact (avoids_require invalid_allowed).bind fun _ _ => avoids_require invalid_allowed

theorem onlyInvalid_commit (commit : NewDiscoveryCommitAttempt) :
    OnlyInvalid (validateCommitDocuments X t commit) := by
  refine (onlyInvalid_jsonObject commit.planJson).bind fun _ _ => ?_
  exact (avoids_require invalid_allowed).bind fun _ _ => onlyInvalid_recipe t commit

/-- A request that fails the redaction check is an invalid transition. -/
theorem validateTransitionRedaction_error {t : DurableDiscoveryTransition}
    (h : validateTransitionRedaction X t = .error e) :
    ∃ reason, e = .invalidTransition reason := by
  have hall : OnlyInvalid (validateTransitionRedaction X t) := by
    refine (forEach onlyInvalid_document).bind fun _ _ => ?_
    refine (forSome fun approval => onlyInvalid_document _).bind fun _ _ => ?_
    refine (onlyInvalid_sessionFailure t.errorJson).bind fun failure _ => ?_
    refine (avoids_require invalid_allowed).bind fun _ _ => ?_
    refine (onlyInvalid_jsonObject t.eventJson).bind fun event _ => ?_
    refine (avoids_require invalid_allowed).bind fun _ _ => ?_
    exact forSome fun commit => onlyInvalid_commit t commit
  simpa using hall e h

end RedactionErrors

end LorePia.DiscoveryStore
