import LorePia.Domain.Reasoning
import LorePia.Providers.Stream

namespace LorePia.Providers.OpenRouter

open Lib Providers

/-!
# Providers — the reasoning of OpenRouter

The tracker that collects `reasoning` and `reasoning_details` over the chunks of a response.
Consecutive fragments of one text or summary are merged; at the end the details become one
topology, which the adapter sends as opaque state.  A tracker that fails is wiped, and its
failure ends the response.
-/

structure OpenRouterReasoningTracker where
  reasoning : Option String
  reasoningDetailsObserved : Bool
  details : List Json

def OpenRouterReasoningTracker.default : OpenRouterReasoningTracker := ⟨none, false, []⟩

section Tracking

variable (X : ProviderExternals)

/-- The type of a fragment. -/
def fragmentKind (detail : Json) : Option String := (detail.get? "type").bind Json.asStr?

/-- The field of a fragment that carries its text. -/
def fragmentPayload (kind : String) : String :=
  if kind = "reasoning.text" then "text"
  else if kind = "reasoning.summary" then "summary"
  else "data"

def validateOpenrouterReasoningFragment (detail : Json) : CoreResult Unit := do
  let malformed :=
    streamingError X.uuid "provider returned malformed OpenRouter reasoning details"
  require (detail.isObject = true) malformed
  let kind ← okOr (fragmentKind detail) malformed
  require (kind = "reasoning.text" ∨ kind = "reasoning.summary" ∨ kind = "reasoning.encrypted")
    (streamingError X.uuid "provider returned unsupported OpenRouter reasoning details")
  require (nullableString detail "id" ∧ nullableString detail "format")
    (streamingError X.uuid "provider returned malformed OpenRouter reasoning metadata")
  require (∀ index ∈ detail.get? "index", index.isNull = true ∨ index.asU64?.isSome = true)
    (streamingError X.uuid "provider returned malformed OpenRouter reasoning index")
  require (nullableString detail (fragmentPayload kind) ∧
      (kind = "reasoning.text" → nullableString detail "signature"))
    (streamingError X.uuid "provider returned malformed OpenRouter reasoning payload")

/-- A field that is present and not null. -/
def presentField (value : Json) (key : String) : Option Json :=
  (value.get? key).filter fun field => !field.isNull

/-- Two fragments contradict each other in a field that both have. -/
def fieldsConflict (previous incoming : Json) (key : String) : Bool :=
  match presentField previous key, presentField incoming key with
  | some left, some right => left ≠ right
  | _, _ => false

def indexesConflict (previous incoming : Json) : Bool :=
  match (previous.get? "index").bind Json.asU64?, (incoming.get? "index").bind Json.asU64? with
  | some left, some right => left ≠ right
  | _, _ => false

def canMergeOpenrouterFragments (previous incoming : Json) : CoreResult Bool :=
  if previous.get? "type" ≠ incoming.get? "type" then .ok false
  else do
    require ((indexesConflict previous incoming || fieldsConflict previous incoming "id" ||
        fieldsConflict previous incoming "format" ||
        fieldsConflict previous incoming "signature") = false)
      (streamingError X.uuid "provider returned conflicting OpenRouter reasoning metadata")
    return true

/-- The value under a key of an object. -/
def lookupField (fields : List (String × Json)) (key : String) : Option Json :=
  (Json.object fields).get? key

/-- The text of a fragment is appended to that of the previous one. -/
def mergePayload (incoming : Json) (payload : String) (fields : List (String × Json)) :
    CoreResult (List (String × Json)) :=
  match (incoming.get? payload).bind Json.asStr? with
  | none => .ok fields
  | some fragment =>
    match lookupField fields payload with
    | none => .ok (Json.insertEntry payload (.string fragment) fields)
    | some (.string value) => .ok (Json.insertEntry payload (.string (value ++ fragment)) fields)
    | some .null => .ok (Json.insertEntry payload (.string fragment) fields)
    | some _ =>
      .error (streamingError X.uuid "provider returned conflicting OpenRouter reasoning payload")

/-- The other fields of a fragment fill the gaps of the previous one. -/
def mergeMetadata :
    List (String × Json) → List (String × Json) → CoreResult (List (String × Json))
  | [], fields => .ok fields
  | (key, value) :: entries, fields =>
    if key = "type" ∨ key = "text" ∨ key = "summary" ∨ value.isNull = true then
      mergeMetadata entries fields
    else
      match (lookupField fields key).filter fun existing => !existing.isNull with
      | some existing => do
        require (existing = value)
          (streamingError X.uuid "provider returned conflicting OpenRouter reasoning metadata")
        mergeMetadata entries fields
      | none => mergeMetadata entries (Json.insertEntry key value fields)

def mergeOpenrouterFragment (previous incoming : Json) : CoreResult Json := do
  let payload := if fragmentKind incoming = some "reasoning.text" then "text" else "summary"
  let fields ← mergePayload X incoming payload (previous.asObject?.getD [])
  let fields ← mergeMetadata X (incoming.asObject?.getD []) fields
  return .object fields

namespace OpenRouterReasoningTracker

/-- The serialized size of the details on top of that of the text, if every one is in bounds. -/
def detailBytes : Nat → List Json → Option Nat
  | total, [] => some total
  | total, detail :: details => do
    let encoded ← X.printJson detail
    guard (byteLen encoded ≤ maxOpaqueReasoningItemBytes)
    let total ← checkedAdd total (byteLen encoded)
    detailBytes total details

def validateDetailBounds (t : OpenRouterReasoningTracker) : CoreResult Unit := do
  require (t.details.length ≤ maxOpaqueReasoningStateCount)
    (streamingError X.uuid "provider returned too many OpenRouter reasoning details")
  require (∃ total ∈ detailBytes X (t.reasoning.elim 0 byteLen) t.details,
      total ≤ maxOpaqueReasoningTotalBytes)
    (streamingError X.uuid "provider returned oversized OpenRouter reasoning details")

/-- The fragment is merged into the last detail, or becomes a detail of its own. -/
def placeDetail (detail : Json) (details : List Json) : CoreResult (List Json) :=
  let mergeable := fragmentKind detail = some "reasoning.text" ∨
    fragmentKind detail = some "reasoning.summary"
  match details.getLast? with
  | none => .ok (details ++ [detail])
  | some previous =>
    if mergeable then do
      if ← canMergeOpenrouterFragments X previous detail then
        let merged ← mergeOpenrouterFragment X previous detail
        return details.dropLast ++ [merged]
      else return details ++ [detail]
    else .ok (details ++ [detail])

def observeDetail (detail : Json) (t : OpenRouterReasoningTracker) :
    CoreResult OpenRouterReasoningTracker := do
  validateOpenrouterReasoningFragment X detail
  let details ← placeDetail X detail t.details
  let t := { t with details }
  t.validateDetailBounds X
  return t

def observeDetails : List Json → OpenRouterReasoningTracker →
    CoreResult OpenRouterReasoningTracker
  | [], t => .ok t
  | detail :: details, t => do
    let t ← t.observeDetail X detail
    observeDetails details t

def observeReasoning (reasoning : Option String) (t : OpenRouterReasoningTracker) :
    CoreResult OpenRouterReasoningTracker :=
  match reasoning with
  | none => .ok t
  | some reasoning => do
    let accumulated := t.reasoning.getD "" ++ reasoning
    require (byteLen accumulated ≤ maxOpaqueReasoningTotalBytes)
      (streamingError X.uuid "provider returned oversized OpenRouter reasoning")
    let t := { t with reasoning := some accumulated }
    t.validateDetailBounds X
    return t

def observe (reasoning : Option String) (reasoningDetails : Option Json) (enabled : Bool)
    (t : OpenRouterReasoningTracker) : CoreResult OpenRouterReasoningTracker :=
  if enabled = false then .ok t
  else do
    let t ← t.observeReasoning X reasoning
    match reasoningDetails with
    | none => return t
    | some value =>
      let details ← okOr value.asArray?
        (streamingError X.uuid "provider returned malformed OpenRouter reasoning details")
      require (details.length ≤ maxOpaqueReasoningStateCount)
        (streamingError X.uuid "provider returned too many OpenRouter reasoning fragments")
      observeDetails X details { t with reasoningDetailsObserved := true }

/-- The canonical texts of the details. -/
def typedDetails : List Json → CoreResult (List String)
  | [] => .ok []
  | detail :: details => do
    let text ← (openRouterReasoningDetailFromValue X.printJson detail).mapError fun _ =>
      streamingError X.uuid "provider returned incomplete OpenRouter reasoning details"
    let texts ← typedDetails details
    return text :: texts

def observed (t : OpenRouterReasoningTracker) : Bool :=
  t.reasoning.isSome || t.reasoningDetailsObserved

/-- `finish`: the events that the tracker leaves, and the tracker emptied. -/
def finish (hasToolCalls : Bool) (t : OpenRouterReasoningTracker) :
    CoreResult (List ProviderEvent × OpenRouterReasoningTracker) :=
  if t.observed = false then .ok ([], t)
  else do
    require (hasToolCalls = false) (streamingError X.uuid
        "provider returned reasoning continuity with unsupported tool topology")
    let details ← typedDetails X t.details
    let topology ← (openRouterReasoningTopologyNew (fun text => X.parseJson (asBytes text)) X.sizes
        t.reasoning (if t.reasoningDetailsObserved then some details else none)).mapError fun _ =>
      streamingError X.uuid "provider returned invalid OpenRouter reasoning topology"
    return ([.opaqueReasoningState (.openRouterReasoning topology)], .default)

end OpenRouterReasoningTracker

end Tracking

/-- The tracker sends opaque state and nothing else. -/
theorem finish_silent {X : ProviderExternals} {hasToolCalls : Bool} {t : OpenRouterReasoningTracker}
    (h : t.finish X hasToolCalls = .ok out) : ∀ event ∈ out.1, event.call? = none := by
  unfold OpenRouterReasoningTracker.finish at h
  split at h
  · cases h
    intro event hev
    cases hev
  · obtain ⟨_, _, h⟩ := rest₂ h
    obtain ⟨topology, _, h⟩ := bind_ok.mp h
    cases h
    intro event hev
    rw [List.mem_singleton.mp hev]
    rfl

end LorePia.Providers.OpenRouter
