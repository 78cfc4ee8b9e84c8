import LorePia.Lib.Override
import LorePia.ModelSync.Tables
import LorePia.Parameters.Plan
import Mathlib.Data.List.Sort
import Mathlib.Data.Prod.Lex

namespace LorePia.Capabilities

open Lib List
open ModelSync (Confidence ObservationSource SupportStatus)
open Parameters

/-!
# Capabilities — what is known of a model

Observations of one capability of one route are merged into the one that counts: the fresh ones
first, then by source, confidence and time.  A wire dialect is taken from the selected observation
if its value is structured and no fresh observation says anything else.

Times are nanoseconds.  Reading a dialect from JSON is a parameter.

* `mergeCapabilityObservations`, `effectiveCapabilityAt` — the selection;
* `effectiveDialect_of_contested` — a fresh observation with a plain value in the set leaves no
  dialect;
* `confirmingProbe_keeps_iff` — when a successful probe leaves the dialect as it was.
-/

inductive CapabilityValue
  | boolean (value : Bool)
  | integer (value : Nat)
  | enumValues (values : List String)
  | structured (value : Json)
deriving DecidableEq

structure CapabilityObservation where
  id : String
  modelRouteId : String
  key : CapabilityKey
  value : CapabilityValue
  status : SupportStatus
  source : ObservationSource
  confidence : Confidence
  observedAt : Int
  expiresAt : Option Int
  evidenceRef : Option String

/-- `is_fresh_at`. -/
def CapabilityObservation.isFreshAt (observation : CapabilityObservation) (now : Int) : Bool :=
  observation.expiresAt.all fun expiresAt => now < expiresAt

/-! ### Probes -/

inductive CapabilityProbeKind
  | streaming
  | reasoning
  | structuredOutput
  | toolCalling
  | promptCaching
deriving DecidableEq

/-- `CapabilityKey::from`. -/
def CapabilityProbeKind.key : CapabilityProbeKind → CapabilityKey
  | .streaming => .streaming
  | .reasoning => .reasoning
  | .structuredOutput => .structuredOutput
  | .toolCalling => .toolCalling
  | .promptCaching => .promptCaching

def nanosPerSecond : Int := 1000000000
def defaultObservationFreshnessSeconds : Int := 7 * 24 * 60 * 60
def cacheObservationFreshnessSeconds : Int := 24 * 60 * 60

/-- The last instant of `DateTime<Utc>`. -/
def maxDateTime : Int := 8210266876799 * nanosPerSecond + 999999999

/-- `checked_add_signed` of a whole number of seconds that is not negative. -/
def checkedAddSeconds (time seconds : Int) : Option Int :=
  if time + seconds * nanosPerSecond ≤ maxDateTime then some (time + seconds * nanosPerSecond)
  else none

def observationFromProbe (modelRouteId : String) (probe : CapabilityProbeKind) (consentId : String)
    (supported : Bool) (observedAt : Int) : CapabilityObservation where
  id := "observation:" ++ consentId
  modelRouteId
  key := probe.key
  value := .boolean supported
  status := if supported then .verified else .unsupported
  source := .capabilityProbe
  confidence := if supported then .high else .medium
  observedAt
  expiresAt := checkedAddSeconds observedAt
    (if probe = .promptCaching then cacheObservationFreshnessSeconds
      else defaultObservationFreshnessSeconds)
  evidenceRef := some ("probe:" ++ consentId)

/-! ### The merge -/

def maxMergeObservations : Nat := 256

/-- The keys whose value is a number of tokens. -/
def isTokenLimit (key : CapabilityKey) : Bool := key = .contextWindow || key = .maxOutputTokens

def sourcePriority (key : CapabilityKey) : ObservationSource → Nat
  | .userOverride => 6
  | .providerApi => if isTokenLimit key then 5 else 4
  | .capabilityProbe => if isTokenLimit key then 4 else 5
  | .officialDocumentation => 3
  | .signedLorepiaCatalog => 2
  | .llmInference => 1

def confidencePriority : Confidence → Nat
  | .low => 1
  | .medium => 2
  | .high => 3

/-- `observation_rank`, compared field by field. -/
def observationRank (observation : CapabilityObservation) (now : Int) :
    Bool ×ₗ Nat ×ₗ Nat ×ₗ Int :=
  toLex (observation.isFreshAt now, toLex (sourcePriority observation.key observation.source,
    toLex (confidencePriority observation.confidence, observation.observedAt)))

/-- The order of `sort_unstable_by`: the better rank first, then the smaller identifier. -/
def Precedes (now : Int) (left right : CapabilityObservation) : Prop :=
  observationRank right now < observationRank left now ∨
    observationRank left now = observationRank right now ∧ left.id ≤ right.id

instance (now : Int) (left right : CapabilityObservation) : Decidable (Precedes now left right) :=
  inferInstanceAs (Decidable (_ ∨ _ ∧ _))

/-- The observations of one merge are of one route and one key, and differ in their identifier. -/
def checkMergeInput (uuid : String) (first : CapabilityObservation) :
    List String → List CapabilityObservation → CoreResult Unit
  | _, [] => .ok ()
  | ids, observation :: observations => do
    require (observation.modelRouteId = first.modelRouteId ∧ observation.key = first.key)
      (.new uuid .invalidInput "capability merge requires one route and one capability key" false)
    require (observation.id ∉ ids)
      (.new uuid .invalidInput "capability merge received a duplicate observation ID" false)
    checkMergeInput uuid first (observation.id :: ids) observations

structure MergedCapabilityObservation where
  selected : CapabilityObservation
  alternatives : List CapabilityObservation
  selectedIsStale : Bool
  hasConflict : Bool

/-- Some fresh alternative says something else. -/
def contradicts (now : Int) (selected : CapabilityObservation)
    (alternatives : List CapabilityObservation) : Bool :=
  (alternatives.filter fun candidate => candidate.isFreshAt now).any fun candidate =>
    candidate.status ≠ selected.status || candidate.value ≠ selected.value

def mergeCapabilityObservations (uuid : String) (observations : List CapabilityObservation)
    (now : Int) : CoreResult MergedCapabilityObservation := do
  let first ← okOr observations.head?
    (.new uuid .invalidInput "cannot merge an empty capability observation set" false)
  require (observations.length ≤ maxMergeObservations)
    (.new uuid .invalidInput "capability merge exceeds 256 observations" false)
  checkMergeInput uuid first [] observations
  let ranked := observations.insertionSort (Precedes now)
  let selected := ranked.head?.getD first
  return { selected
           alternatives := ranked.tail
           selectedIsStale := !selected.isFreshAt now
           hasConflict := contradicts now selected ranked.tail }

/-! ### The effective capability -/

structure EffectiveCapability where
  selected : CapabilityObservation
  alternatives : List CapabilityObservation
  evaluatedAt : Int
  selectedIsStale : Bool
  hasConflict : Bool

/-- The observations that are merged, by identifier: the stored ones of other sources than the
    signed catalog, and over them those of the current catalog. -/
def currentObservations (stored catalogObservations : List CapabilityObservation)
    (modelRouteId : String) (key : CapabilityKey) : SortedMap String CapabilityObservation :=
  let kept := stored.filter fun observation =>
    observation.modelRouteId = modelRouteId ∧ observation.key = key ∧
      observation.source ≠ .signedLorepiaCatalog
  let current := catalogObservations.filter fun observation =>
    observation.modelRouteId = modelRouteId ∧ observation.key = key
  .index CapabilityObservation.id (kept ++ current)

def effectiveCapabilityAt (uuid : String) (stored catalogObservations : List CapabilityObservation)
    (modelRouteId : String) (key : CapabilityKey) (now : Int) :
    CoreResult (Option EffectiveCapability) :=
  let observations := (currentObservations stored catalogObservations modelRouteId key).values
  if observations = [] then .ok none
  else do
    let merged ← mergeCapabilityObservations uuid observations now
    return some { selected := merged.selected
                  alternatives := merged.alternatives
                  evaluatedAt := now
                  selectedIsStale := merged.selectedIsStale
                  hasConflict := merged.hasConflict }

def observationCanDriveWireMapping (effective : EffectiveCapability) : Bool :=
  !effective.selectedIsStale && !effective.hasConflict && effective.selected.confidence ≠ .low &&
    effective.selected.source ≠ .llmInference &&
    (effective.selected.status = .verified || effective.selected.status = .documented)

section Dialects

variable {δ : Type} [DecidableEq δ]

/-- The dialect of structured metadata; `unsupported` stands for none. -/
def effectiveDialect (parse : ApiFamily → Json → Except ParameterEngineError δ) (unsupported : δ)
    (family : ApiFamily) (effective : Option EffectiveCapability) : δ :=
  match effective.filter observationCanDriveWireMapping with
  | none => unsupported
  | some effective =>
    match effective.selected.value with
    | .structured value =>
      ((parse family value).toOption.filter fun dialect => dialect ≠ unsupported).getD unsupported
    | _ => unsupported

end Dialects

section Reading

/-- `serde_json::from_value` at the two types of dialects. -/
structure DialectDecoders where
  reasoning : Json → Option ReasoningWireDialect
  promptCache : Json → Option PromptCacheWireDialect

variable (D : DialectDecoders)

def parseReasoningWireDialectMetadata (family : ApiFamily) (value : Json) :
    Except ParameterEngineError ReasoningWireDialect := do
  let dialect ← okOr (D.reasoning value)
    (unsupportedReasoning "reasoning capability metadata has an invalid exact dialect schema")
  validateReasoningDialectFamily family dialect
  validateReasoningDialectMetadataShape dialect
  return dialect

def parsePromptCacheWireDialectMetadata (family : ApiFamily) (value : Json) :
    Except ParameterEngineError PromptCacheWireDialect := do
  let dialect ← okOr (D.promptCache value)
    (unsupportedCache "prompt-cache capability metadata has an invalid exact dialect schema")
  validateCacheDialectFamily family dialect
  return dialect

def effectiveReasoningDialect : ApiFamily → Option EffectiveCapability → ReasoningWireDialect :=
  effectiveDialect (parseReasoningWireDialectMetadata D) .unsupported

def effectivePromptCacheDialect :
    ApiFamily → Option EffectiveCapability → PromptCacheWireDialect :=
  effectiveDialect (parsePromptCacheWireDialectMetadata D) .unsupported

section At

variable (uuid : String) (family : ApiFamily)
  (stored catalogObservations : List CapabilityObservation) (modelRouteId : String) (now : Int)

/-- The dialect that a request to the route is mapped with. -/
def reasoningDialectAt : CoreResult ReasoningWireDialect := do
  let effective ← effectiveCapabilityAt uuid stored catalogObservations modelRouteId .reasoning now
  return effectiveReasoningDialect D family effective

def promptCacheDialectAt : CoreResult PromptCacheWireDialect := do
  let effective ← effectiveCapabilityAt uuid stored catalogObservations modelRouteId .promptCaching
    now
  return effectivePromptCacheDialect D family effective

end At

end Reading

/-- The stored observations once one more is put under its identifier. -/
def recordObservation (observation : CapabilityObservation) (stored : List CapabilityObservation) :
    List CapabilityObservation :=
  stored.filter (fun other => other.id ≠ observation.id) ++ [observation]

/-! ### The selected observation -/

section Order

variable {now : Int}

theorem Precedes.total : Precedes now a b ∨ Precedes now b a := by
  rcases lt_trichotomy (observationRank a now) (observationRank b now) with hlt | heq | hlt
  · exact .inr (.inl hlt)
  · rcases le_total a.id b.id with hid | hid
    · exact .inl (.inr ⟨heq, hid⟩)
    · exact .inr (.inr ⟨heq.symm, hid⟩)
  · exact .inl (.inl hlt)

theorem Precedes.trans (hab : Precedes now a b) (hbc : Precedes now b c) : Precedes now a c := by
  rcases hab with hab | ⟨hab, hidab⟩
  · rcases hbc with hbc | ⟨hbc, -⟩
    · exact .inl (hbc.trans hab)
    · exact .inl (hbc ▸ hab)
  · rcases hbc with hbc | ⟨hbc, hidbc⟩
    · exact .inl (hab ▸ hbc)
    · exact .inr ⟨hab.trans hbc, hidab.trans hidbc⟩

instance precedes_total (now : Int) : Std.Total (Precedes now) := ⟨fun _ _ => Precedes.total⟩

instance precedes_trans (now : Int) : IsTrans CapabilityObservation (Precedes now) :=
  ⟨fun _ _ _ => Precedes.trans⟩

end Order

variable {uuid : String} {now : Int}

/-- The selected observation is the first in the order, and the others are kept. -/
theorem mergeCapabilityObservations_ok
    (h : mergeCapabilityObservations uuid observations now = .ok merged) :
    (merged.selected :: merged.alternatives).Perm observations ∧
      (∀ other ∈ merged.alternatives, Precedes now merged.selected other) ∧
      merged.selectedIsStale = !merged.selected.isFreshAt now ∧
      merged.hasConflict = contradicts now merged.selected merged.alternatives := by
  obtain ⟨first, hfirst, h⟩ := bind_ok.mp h
  obtain ⟨_, _, h⟩ := rest₂ h
  have hperm := perm_insertionSort (Precedes now) observations
  have hsrt := pairwise_insertionSort (Precedes now) observations
  cases hranked : observations.insertionSort (Precedes now) with
  | nil =>
    rw [hranked, nil_perm] at hperm
    rw [hperm] at hfirst
    cases hfirst
  | cons selected alternatives =>
    rw [hranked] at h hperm hsrt
    cases h
    exact ⟨hperm, (pairwise_cons.mp hsrt).1, rfl, rfl⟩

/-- A fresh observation that differs from the selected one in its value is a conflict. -/
theorem hasConflict_of_value_ne (h : mergeCapabilityObservations uuid observations now = .ok merged)
    (hmem : observation ∈ observations) (hfresh : observation.isFreshAt now = true)
    (hvalue : observation.value ≠ merged.selected.value) : merged.hasConflict = true := by
  obtain ⟨hperm, -, -, hconflict⟩ := mergeCapabilityObservations_ok h
  have halternative : observation ∈ merged.alternatives := by
    rcases mem_cons.mp (hperm.mem_iff.mpr hmem) with heq | halternative
    · exact absurd (congrArg CapabilityObservation.value heq) hvalue
    · exact halternative
  rw [hconflict, contradicts, any_eq_true]
  refine ⟨observation, mem_filter.mpr ⟨halternative, hfresh⟩, ?_⟩
  simp [hvalue]

/-! ### Plain values leave no dialect -/

section Dialect

variable {δ : Type} [DecidableEq δ] {parse : ApiFamily → Json → Except ParameterEngineError δ}
  {unsupported : δ} {stored : List CapabilityObservation} {key : CapabilityKey}

theorem effectiveDialect_of_not_drives (h : observationCanDriveWireMapping e = false) :
    effectiveDialect parse unsupported family (some e) = unsupported := by
  have hfilter : (some e).filter observationCanDriveWireMapping = none := by simp [h]
  rw [effectiveDialect, hfilter]

theorem effectiveDialect_of_plain (h : ∀ value, e.selected.value ≠ .structured value) :
    effectiveDialect parse unsupported family (some e) = unsupported := by
  by_cases hdrives : observationCanDriveWireMapping e = true
  · have hfilter : (some e).filter observationCanDriveWireMapping = some e := by simp [hdrives]
    unfold effectiveDialect
    rw [hfilter]
    cases hvalue : e.selected.value with
    | structured value => exact absurd hvalue (h value)
    | _ => simp only [hvalue]
  · exact effectiveDialect_of_not_drives (by simpa using hdrives)

/-- Whichever observation is selected: one with a structured value is contradicted by the plain
    one, and one with a plain value names no dialect. -/
theorem effectiveDialect_of_contested
    (h : effectiveCapabilityAt uuid stored catalogObservations modelRouteId key now = .ok effective)
    (hmem : observation ∈ (currentObservations stored catalogObservations modelRouteId key).values)
    (hfresh : observation.isFreshAt now = true)
    (hplain : ∀ value, observation.value ≠ .structured value) :
    effectiveDialect parse unsupported family effective = unsupported := by
  have hne : (currentObservations stored catalogObservations modelRouteId key).values ≠ [] :=
    ne_nil_of_mem hmem
  simp only [effectiveCapabilityAt, hne, if_false] at h
  obtain ⟨merged, hmerged, h⟩ := bind_ok.mp h
  cases h
  by_cases hstructured : ∃ value, merged.selected.value = .structured value
  · obtain ⟨value, hvalue⟩ := hstructured
    have hconflict : merged.hasConflict = true :=
      hasConflict_of_value_ne hmerged hmem hfresh (by rw [hvalue]; exact hplain value)
    apply effectiveDialect_of_not_drives
    simp [observationCanDriveWireMapping, hconflict]
  · apply effectiveDialect_of_plain
    exact not_exists.mp hstructured

end Dialect

/-! ### Recording a probe -/

section Recording

variable {stored : List CapabilityObservation} {key : CapabilityKey}

/-- The observation of an identifier: the last of the catalog's, else the last stored one. -/
theorem get?_currentObservations {id : String} :
    (currentObservations stored catalogObservations modelRouteId key).get? id =
      (lastWith (fun other => decide (other.id = id)) (catalogObservations.filter fun other =>
        other.modelRouteId = modelRouteId ∧ other.key = key)).or
        (lastWith (fun other => decide (other.id = id)) (stored.filter fun other =>
          other.modelRouteId = modelRouteId ∧ other.key = key ∧
            other.source ≠ .signedLorepiaCatalog)) := by
  rw [currentObservations, SortedMap.get?_index, lastWith_append]

/-- An observation the signed catalog lists under the identifier stands in the place of a stored
    one. -/
theorem currentObservations_recordObservation_of_listed
    (h : ∃ other ∈ catalogObservations, other.modelRouteId = modelRouteId ∧ other.key = key ∧
      other.id = observation.id) :
    currentObservations (recordObservation observation stored) catalogObservations modelRouteId key =
      currentObservations stored catalogObservations modelRouteId key := by
  refine SortedMap.ext_get? fun id => ?_
  rw [get?_currentObservations, get?_currentObservations]
  by_cases hid : observation.id = id
  · obtain ⟨other, hoth, hrt, hkey, hsame⟩ := h
    have hmem : other ∈ catalogObservations.filter fun other =>
        other.modelRouteId = modelRouteId ∧ other.key = key :=
      mem_filter.mpr ⟨hoth, decide_eq_true ⟨hrt, hkey⟩⟩
    obtain ⟨listed, hlisted⟩ := exists_lastWith (p := fun other => decide (other.id = id)) hmem
      (decide_eq_true (hsame.trans hid))
    rw [hlisted, Option.some_or, Option.some_or]
  · congr 1
    rw [lastWith_filter, lastWith_filter, recordObservation, lastWith_concat, lastWith_filter]
    have hlast : (decide (observation.modelRouteId = modelRouteId ∧ observation.key = key ∧
        observation.source ≠ .signedLorepiaCatalog) && decide (observation.id = id)) = false := by
      simp [hid]
    rw [if_neg (by rw [hlast]; exact Bool.false_ne_true)]
    congr 1
    funext other
    by_cases hoth : other.id = id
    · simp [hoth, Ne.symm hid]
    · simp [hoth]

/-- Otherwise a recorded observation counts. -/
theorem mem_currentObservations_recordObservation
    (hrt : observation.modelRouteId = modelRouteId) (hkey : observation.key = key)
    (hsrc : observation.source ≠ .signedLorepiaCatalog)
    (h : ¬ ∃ other ∈ catalogObservations, other.modelRouteId = modelRouteId ∧ other.key = key ∧
      other.id = observation.id) :
    observation ∈ (currentObservations (recordObservation observation stored) catalogObservations
      modelRouteId key).values := by
  rw [SortedMap.mem_values]
  refine ⟨observation.id, ?_⟩
  have hunl : lastWith (fun other => decide (other.id = observation.id))
      (catalogObservations.filter fun other => other.modelRouteId = modelRouteId ∧
        other.key = key) = none := by
    rw [lastWith_eq_none_iff]
    intro other hoth
    obtain ⟨hmem, hoth⟩ := mem_filter.mp hoth
    obtain ⟨hothRt, hothKey⟩ := of_decide_eq_true hoth
    exact decide_eq_false fun hid => h ⟨other, hmem, hothRt, hothKey, hid⟩
  rw [get?_currentObservations, hunl, Option.none_or, lastWith_filter, recordObservation,
    lastWith_concat]
  simp [hrt, hkey, hsrc]

end Recording

/-! ### A probe that confirms the capability -/

section Confirming

variable {δ : Type} [DecidableEq δ] {parse : ApiFamily → Json → Except ParameterEngineError δ}
  {unsupported : δ} {stored : List CapabilityObservation} {key : CapabilityKey}

/-- A fresh observation with a plain value changes the dialect, unless the catalog overrides it. -/
theorem recordObservation_keeps_iff (hrt : observation.modelRouteId = modelRouteId)
    (hkey : observation.key = key) (hsrc : observation.source ≠ .signedLorepiaCatalog)
    (hfresh : observation.isFreshAt now = true)
    (hplain : ∀ value, observation.value ≠ .structured value)
    (hbef : (do
      let effective ← effectiveCapabilityAt uuid stored catalogObservations modelRouteId key now
      return effectiveDialect parse unsupported family effective) = Except.ok dialect)
    (hdial : dialect ≠ unsupported) :
    (do
      let effective ← effectiveCapabilityAt uuid (recordObservation observation stored)
        catalogObservations modelRouteId key now
      return effectiveDialect parse unsupported family effective) = Except.ok dialect ↔
      ∃ other ∈ catalogObservations, other.modelRouteId = modelRouteId ∧ other.key = key ∧
        other.id = observation.id := by
  constructor
  · intro hafter
    by_contra hunl
    obtain ⟨effective, heffective, hafter⟩ := bind_ok.mp hafter
    have hcontested : effectiveDialect parse unsupported family effective = unsupported :=
      effectiveDialect_of_contested heffective
        (mem_currentObservations_recordObservation hrt hkey hsrc hunl) hfresh hplain
    rw [hcontested] at hafter
    exact hdial (pure_inj hafter).symm
  · intro hlisted
    rw [← hbef]
    simp only [effectiveCapabilityAt, currentObservations_recordObservation_of_listed hlisted]

end Confirming

variable {D : DialectDecoders} {family : ApiFamily}
  {stored catalogObservations : List CapabilityObservation} {modelRouteId consentId : String}
  {observedAt : Int}

/-- **A successful probe of the capability takes the dialect away**: once its observation is
    recorded and fresh, the dialect is what it was only if the signed catalog lists an observation
    of the route and the capability under the very identifier of the probe's. -/
theorem confirmingProbe_keeps_iff :
    (∀ dialect, reasoningDialectAt D uuid family stored catalogObservations modelRouteId now =
        .ok dialect → dialect ≠ .unsupported →
      (observationFromProbe modelRouteId .reasoning consentId true observedAt).isFreshAt now = true →
      (reasoningDialectAt D uuid family
        (recordObservation (observationFromProbe modelRouteId .reasoning consentId true observedAt)
          stored) catalogObservations modelRouteId now = .ok dialect ↔
        ∃ other ∈ catalogObservations, other.modelRouteId = modelRouteId ∧ other.key = .reasoning ∧
          other.id = "observation:" ++ consentId)) ∧
    (∀ dialect, promptCacheDialectAt D uuid family stored catalogObservations modelRouteId now =
        .ok dialect → dialect ≠ .unsupported →
      (observationFromProbe modelRouteId .promptCaching consentId true observedAt).isFreshAt now =
        true →
      (promptCacheDialectAt D uuid family (recordObservation
          (observationFromProbe modelRouteId .promptCaching consentId true observedAt) stored)
        catalogObservations modelRouteId now = .ok dialect ↔
        ∃ other ∈ catalogObservations, other.modelRouteId = modelRouteId ∧
          other.key = .promptCaching ∧ other.id = "observation:" ++ consentId)) := by
  constructor
  · intro dialect hbef hdial hfresh
    exact recordObservation_keeps_iff rfl rfl nofun hfresh (fun _ => nofun) hbef hdial
  · intro dialect hbef hdial hfresh
    exact recordObservation_keeps_iff rfl rfl nofun hfresh (fun _ => nofun) hbef hdial

/-! A route with one structured observation of each capability, and a probe that confirms it. -/

def ollamaMetadata : Json := .object [("dialect", .string "ollama_boolean")]

def openAiCacheMetadata : Json :=
  .object [("dialect", .string "open_ai_automatic"), ("supports_24_hour_retention", .bool true)]

def sampleDecoders : DialectDecoders where
  reasoning value := if value == ollamaMetadata then some .ollamaBoolean else none
  promptCache value := if value == openAiCacheMetadata then some (.openAiAutomatic true) else none

def documented (key : CapabilityKey) (metadata : Json) : CapabilityObservation where
  id := "documentation"
  modelRouteId := "route"
  key
  value := .structured metadata
  status := .documented
  source := .officialDocumentation
  confidence := .high
  observedAt := 0
  expiresAt := none
  evidenceRef := none

theorem confirmingProbe_keeps_iff_documented :
    (reasoningDialectAt sampleDecoders "" .ollamaNative
      (recordObservation (observationFromProbe "route" .reasoning "consent" true 10)
        [documented .reasoning ollamaMetadata]) [] "route" 20 = .ok .ollamaBoolean ↔
      ∃ other ∈ ([] : List CapabilityObservation), other.modelRouteId = "route" ∧
        other.key = .reasoning ∧ other.id = "observation:" ++ "consent") ∧
    (promptCacheDialectAt sampleDecoders "" .openAiResponses
      (recordObservation (observationFromProbe "route" .promptCaching "consent" true 10)
        [documented .promptCaching openAiCacheMetadata]) [] "route" 20 =
          .ok (.openAiAutomatic true) ↔
      ∃ other ∈ ([] : List CapabilityObservation), other.modelRouteId = "route" ∧
        other.key = .promptCaching ∧ other.id = "observation:" ++ "consent") :=
  ⟨confirmingProbe_keeps_iff.1 _ (by decide) (by decide) (by decide),
    confirmingProbe_keeps_iff.2 _ (by decide) (by decide) (by decide)⟩

/-- The documentation and the probe agree, and the control is gone. -/
theorem confirmingProbe_removes :
    reasoningDialectAt sampleDecoders "" .ollamaNative [documented .reasoning ollamaMetadata] []
        "route" 20 = .ok .ollamaBoolean ∧
      (observationFromProbe "route" .reasoning "consent" true 10).isFreshAt 20 = true ∧
      reasoningDialectAt sampleDecoders "" .ollamaNative
        (recordObservation (observationFromProbe "route" .reasoning "consent" true 10)
          [documented .reasoning ollamaMetadata]) [] "route" 20 = .ok .unsupported := by
  decide

end LorePia.Capabilities
