import LorePia.ProviderStore.Templates
import LorePia.Lib.SortedMap

namespace LorePia.Parameters

open Lib List
open ProviderStore (F64 ToolPolicy ParameterLiteral)

/-!
# Parameters — schemas

The compiled form of a parameter: its schema, the condition under which it is visible, its
cross-parameter rules.  `validateLiteral` is the check of one value against one schema;
`Satisfies` says the same without the order of the checks, and `validateLiteral_ok_iff`
connects the two.

Two things are given from outside: whether a number lies on the grid of a `step`, which the
source decides in floating point, and the JSON parser.
-/

/-! ### Numbers -/

/-- `a == b`. -/
def F64.same : F64 → F64 → Bool
  | .finite a, .finite b => decide (a = b)
  | .infinite a, .infinite b => a == b
  | _, _ => false

/-- `(a - b).abs() <= f64::EPSILON`.  The difference is rounded to 53 bits, and half a unit above
the epsilon is rounded down to it. -/
def F64.near : F64 → F64 → Bool
  | .finite a, .finite b =>
    decide ((a - b) * (2 ^ 105 : Nat) ≤ (2 ^ 53 + 1 : Nat) ∧
      (b - a) * (2 ^ 105 : Nat) ≤ (2 ^ 53 + 1 : Nat))
  | _, _ => false

/-- Where a number stands on the grid of a step. -/
inductive StepFit
  | aligned
  | misaligned
  | unrepresentable
deriving DecidableEq

/-- `stepFit origin step value` is the floating-point test of `value` on the grid; `parseJson` is
`serde_json::from_str`. -/
structure LiteralTests where
  stepFit : F64 → F64 → F64 → StepFit
  parseJson : String → Option Json

/-! ### Literals -/

/-- `ParameterLiteral::eq`, in which numbers are compared as numbers. -/
def sameLiteral : ParameterLiteral → ParameterLiteral → Bool
  | .number a, .number b => F64.same a b
  | a, b => decide (a = b)

/-- `normalize_id`. -/
def normalizeId (id : String) : String := toAsciiLowercase id

/-! ### Schemas -/

structure IntegerChoice where
  value : Int
  labelKey : String
deriving DecidableEq

structure NumberChoice where
  value : F64
  labelKey : String
deriving DecidableEq

structure StringChoice where
  value : String
  labelKey : String
deriving DecidableEq

inductive ParameterSchema
  | boolean
  | integer (minimum maximum : Option Int) (step : Option Nat) (choices : List IntegerChoice)
  | number (minimum maximum step : Option F64) (choices : List NumberChoice)
  | string (minBytes maxBytes : Nat) (choices : List StringChoice)
  | enum (choices : List StringChoice)
  | stringList (minItems maxItems maxItemBytes : Nat) (uniqueItems : Bool)
  | jsonSchema (maxBytes : Nat)
  | stopSequenceList (maxItems maxItemBytes : Nat)
  | toolPolicy (allowed : List ToolPolicy)
deriving DecidableEq

inductive ParameterConditionExpr
  | equals (parameterId : String) (value : ParameterLiteral)
  | notEquals (parameterId : String) (value : ParameterLiteral)
  | all (conditions : List ParameterConditionExpr)
  | any (conditions : List ParameterConditionExpr)

inductive ParameterRule
  | mutuallyExclusive (parameterId : String) (messageKey : String)
  | requires (parameterId : String) (messageKey : String)

/-- The parameter that a rule points to. -/
def ParameterRule.related : ParameterRule → String
  | .mutuallyExclusive parameterId _ | .requires parameterId _ => parameterId

inductive ParameterDefaultMode
  | providerDefault
  | explicitRequired
deriving DecidableEq

inductive ProviderParameterTarget
  | requestBody
  | requestHeader
deriving DecidableEq

structure ProviderParameterMapping where
  target : ProviderParameterTarget
  fieldName : String

inductive UiParameterLevel
  | basic
  | advanced
  | expert
  | hiddenInternal
deriving DecidableEq

structure TypedParameterSpec where
  id : String
  labelKey : String
  descriptionKey : Option String
  schema : ParameterSchema
  defaultMode : ParameterDefaultMode
  visibility : Option ParameterConditionExpr
  rules : List ParameterRule
  providerMapping : ProviderParameterMapping
  level : UiParameterLevel

/-! ### Issues -/

inductive ParameterIssueCode
  | invalidDefinition
  | duplicateParameter
  | unknownParameter
  | duplicateValue
  | requiredValueMissing
  | typeMismatch
  | outOfBounds
  | invalidStep
  | invalidChoice
  | invalidJsonSchema
  | hiddenValue
  | mutuallyExclusive
  | missingRequirement
  | unsupportedMapping
  | conflictingRequestField
  | unsupportedReasoning
  | unsupportedPromptCache
  | invalidPromptCacheReference
deriving DecidableEq

structure ParameterIssue where
  code : ParameterIssueCode
  parameterId : Option String
  relatedParameterId : Option String
  message : String
deriving DecidableEq

/-- `ParameterEngineError`. -/
structure ParameterEngineError where
  issues : List ParameterIssue

/-! ### Checking a literal -/

/-- `validate_string_list`. -/
def validateStringList (values : List String) (minItems maxItems maxItemBytes : Nat)
    (uniqueItems requireNonEmpty : Bool) : Except String Unit := do
  require (minItems ≤ values.length ∧ values.length ≤ maxItems)
    "list item count is outside the allowed bounds"
  require (¬ values.any fun value =>
      decide (maxItemBytes < byteLen value) || requireNonEmpty && decide (value = ""))
    "list item is empty or exceeds its byte limit"
  require (uniqueItems = true → values.Nodup) "list items must be unique"

variable (tests : LiteralTests)

/-- The test of a number on the grid of a step. -/
def validateStep (origin step value : F64) : Except String Unit := do
  require (tests.stepFit origin step value ≠ .unrepresentable)
    "number value cannot be represented on the declared step grid"
  require (tests.stepFit origin step value ≠ .misaligned)
    "number value does not align to the declared step"

/-- `validate_literal`. -/
def validateLiteral : ParameterSchema → ParameterLiteral → Except String Unit
  | .boolean, .boolean _ => return ()
  | .integer minimum maximum step choices, .integer value => do
    require ((minimum.all fun minimum => decide (minimum ≤ value)) = true ∧
        (maximum.all fun maximum => decide (value ≤ maximum)) = true)
      "integer value is outside the allowed bounds"
    forSome (fun step => require ((value - minimum.getD 0).natAbs % step = 0)
      "integer value does not align to the declared step") step
    require (choices = [] ∨ (choices.any fun choice => decide (choice.value = value)) = true)
      "integer value is not an allowed choice"
  | .number minimum maximum step choices, .number value => do
    require (value.isFinite = true) "number value must be finite"
    require ((minimum.all fun minimum => !value.lt minimum) = true ∧
        (maximum.all fun maximum => !maximum.lt value) = true)
      "number value is outside the allowed bounds"
    forSome (fun step => validateStep tests (minimum.getD (.finite 0)) step value) step
    require (choices = [] ∨ (choices.any fun choice => F64.near choice.value value) = true)
      "number value is not an allowed choice"
  | .string minBytes maxBytes choices, .string value => do
    require (minBytes ≤ byteLen value ∧ byteLen value ≤ maxBytes)
      "string value is outside the allowed byte bounds"
    require (choices = [] ∨ (choices.any fun choice => decide (choice.value = value)) = true)
      "string value is not an allowed choice"
  | .enum choices, .enum value =>
    require ((choices.any fun choice => decide (choice.value = value)) = true)
      "enum value is not an allowed choice"
  | .stringList minItems maxItems maxItemBytes uniqueItems, .stringList values =>
    validateStringList values minItems maxItems maxItemBytes uniqueItems false
  | .jsonSchema maxBytes, .jsonSchema value => do
    require (byteLen value ≤ maxBytes) "JSON schema exceeds its byte limit"
    let parsed ← okOr (tests.parseJson value) "JSON schema is not valid JSON"
    require (parsed.isObject = true) "JSON schema must be a JSON object"
  | .stopSequenceList maxItems maxItemBytes, .stopSequenceList values =>
    validateStringList values 0 maxItems maxItemBytes true true
  | .toolPolicy allowed, .toolPolicy value =>
    require (value ∈ allowed) "tool policy is not allowed by this model route"
  | _, _ => throw "parameter value type does not match its schema"

/-- `classify_literal_error`. -/
def classifyLiteralError (message : String) : ParameterIssueCode :=
  if strContains message "type does not match" then .typeMismatch
  else if strContains message "step" then .invalidStep
  else if strContains message "choice" || strContains message "policy" then .invalidChoice
  else if strContains message "JSON schema" then .invalidJsonSchema
  else .outOfBounds

/-! ### What a schema admits -/

/-- The items of a list that a schema bounds. -/
structure BoundedItems (values : List String) (minItems maxItems maxItemBytes : Nat) : Prop where
  enough : minItems ≤ values.length
  notMore : values.length ≤ maxItems
  short : ∀ value ∈ values, byteLen value ≤ maxItemBytes

theorem validateStringList_ok_iff {values : List String} :
    validateStringList values minItems maxItems maxItemBytes uniqueItems requireNonEmpty = .ok u ↔
      BoundedItems values minItems maxItems maxItemBytes ∧
      (requireNonEmpty = true → ∀ value ∈ values, value ≠ "") ∧
      (uniqueItems = true → values.Nodup) := by
  have hitems : (¬ values.any (fun value =>
        decide (maxItemBytes < byteLen value) || requireNonEmpty && decide (value = "")) = true) ↔
      (∀ value ∈ values, byteLen value ≤ maxItemBytes) ∧
      (requireNonEmpty = true → ∀ value ∈ values, value ≠ "") := by
    rw [any_eq_true]
    cases requireNonEmpty with
    | true =>
      simp only [Bool.true_and, Bool.or_eq_true, decide_eq_true_eq, not_exists, not_and, not_or,
        Nat.not_lt, true_implies]
      exact forall₂_and
    | false => simp
  rw [validateStringList, guard_ok, guard_ok, require_ok, hitems]
  constructor
  · rintro ⟨⟨hmin, hmax⟩, ⟨hshort, hfull⟩, huniq⟩
    exact ⟨⟨hmin, hmax, hshort⟩, hfull, huniq⟩
  · rintro ⟨⟨hmin, hmax, hshort⟩, hfull, huniq⟩
    exact ⟨⟨hmin, hmax⟩, ⟨hshort, hfull⟩, huniq⟩

/-- The literals that a schema admits. -/
inductive Satisfies : ParameterSchema → ParameterLiteral → Prop
  | boolean (value : Bool) : Satisfies .boolean (.boolean value)
  | integer {minimum maximum : Option Int} {step : Option Nat} {choices : List IntegerChoice}
      {value : Int} (low : ∀ bound ∈ minimum, bound ≤ value)
      (high : ∀ bound ∈ maximum, value ≤ bound)
      (grid : ∀ unit ∈ step, (unit : Int) ∣ value - minimum.getD 0)
      (offered : choices = [] ∨ ∃ choice ∈ choices, choice.value = value) :
      Satisfies (.integer minimum maximum step choices) (.integer value)
  | number {minimum maximum step : Option F64} {choices : List NumberChoice} {value : F64}
      (finite : value.isFinite = true) (low : ∀ bound ∈ minimum, value.lt bound = false)
      (high : ∀ bound ∈ maximum, bound.lt value = false)
      (grid : ∀ unit ∈ step, tests.stepFit (minimum.getD (.finite 0)) unit value = .aligned)
      (offered : choices = [] ∨ ∃ choice ∈ choices, F64.near choice.value value = true) :
      Satisfies (.number minimum maximum step choices) (.number value)
  | string {minBytes maxBytes : Nat} {choices : List StringChoice} {value : String}
      (long : minBytes ≤ byteLen value) (short : byteLen value ≤ maxBytes)
      (offered : choices = [] ∨ ∃ choice ∈ choices, choice.value = value) :
      Satisfies (.string minBytes maxBytes choices) (.string value)
  | enum {choices : List StringChoice} {value : String}
      (offered : ∃ choice ∈ choices, choice.value = value) : Satisfies (.enum choices) (.enum value)
  | stringList {minItems maxItems maxItemBytes : Nat} {uniqueItems : Bool} {values : List String}
      (bounded : BoundedItems values minItems maxItems maxItemBytes)
      (unique : uniqueItems = true → values.Nodup) :
      Satisfies (.stringList minItems maxItems maxItemBytes uniqueItems) (.stringList values)
  | jsonSchema {maxBytes : Nat} {value : String} {parsed : Json} (short : byteLen value ≤ maxBytes)
      (parses : tests.parseJson value = some parsed) (object : parsed.isObject = true) :
      Satisfies (.jsonSchema maxBytes) (.jsonSchema value)
  | stopSequenceList {maxItems maxItemBytes : Nat} {values : List String}
      (bounded : BoundedItems values 0 maxItems maxItemBytes) (full : ∀ value ∈ values, value ≠ "")
      (unique : values.Nodup) :
      Satisfies (.stopSequenceList maxItems maxItemBytes) (.stopSequenceList values)
  | toolPolicy {allowed : List ToolPolicy} {value : ToolPolicy} (offered : value ∈ allowed) :
      Satisfies (.toolPolicy allowed) (.toolPolicy value)

variable {tests}

theorem validateStep_ok {origin step value : F64} :
    validateStep tests origin step value = .ok u ↔ tests.stepFit origin step value = .aligned := by
  rw [validateStep, guard_ok, require_ok]
  cases tests.stepFit origin step value <;> simp

theorem validateLiteral_ok_iff :
    validateLiteral tests schema literal = .ok () ↔ Satisfies tests schema literal := by
  unfold validateLiteral
  split
  · exact iff_of_true rfl (.boolean _)
  · rw [guard_ok, unit_bind_ok, forSome_ok, require_ok, any_eq_true,
      Option.all_eq_true _ _, Option.all_eq_true _ _]
    simp only [decide_eq_true_eq, require_ok, ← Nat.dvd_iff_mod_eq_zero, ← Int.ofNat_dvd_left]
    constructor
    · rintro ⟨⟨hlow, hhigh⟩, hgrid, hoffered⟩
      exact .integer hlow hhigh hgrid hoffered
    · intro h
      cases h with
      | integer hlow hhigh hgrid hoffered => exact ⟨⟨hlow, hhigh⟩, hgrid, hoffered⟩
  · rw [guard_ok, guard_ok, unit_bind_ok, forSome_ok, require_ok,
      any_eq_true, Option.all_eq_true _ _, Option.all_eq_true _ _]
    simp only [Bool.not_eq_true', validateStep_ok]
    constructor
    · rintro ⟨hfinite, ⟨hlow, hhigh⟩, hgrid, hoffered⟩
      exact .number hfinite hlow hhigh hgrid hoffered
    · intro h
      cases h with
      | number hfinite hlow hhigh hgrid hoffered => exact ⟨hfinite, ⟨hlow, hhigh⟩, hgrid, hoffered⟩
  · rw [guard_ok, require_ok, any_eq_true]
    simp only [decide_eq_true_eq]
    constructor
    · rintro ⟨⟨hlong, hshort⟩, hoffered⟩
      exact .string hlong hshort hoffered
    · intro h
      cases h with
      | string hlong hshort hoffered => exact ⟨⟨hlong, hshort⟩, hoffered⟩
  · rw [require_ok, any_eq_true]
    simp only [decide_eq_true_eq]
    refine ⟨.enum, fun h => ?_⟩
    cases h with
    | enum hoffered => exact hoffered
  · rw [validateStringList_ok_iff]
    constructor
    · rintro ⟨hbdd, -, huniq⟩
      exact .stringList hbdd huniq
    · intro h
      cases h with
      | stringList hbdd huniq => exact ⟨hbdd, fun h => (by cases h), huniq⟩
  · rw [guard_ok, bind_ok]
    simp only [okOr_ok, require_ok]
    constructor
    · rintro ⟨hshort, _, hparses, hobject⟩
      exact .jsonSchema hshort hparses hobject
    · intro h
      cases h with
      | jsonSchema hshort hparses hobject => exact ⟨hshort, _, hparses, hobject⟩
  · rw [validateStringList_ok_iff]
    constructor
    · rintro ⟨hbdd, hfull, huniq⟩
      exact .stopSequenceList hbdd (hfull rfl) (huniq rfl)
    · intro h
      cases h with
      | stopSequenceList hbdd hfull huniq => exact ⟨hbdd, fun _ => hfull, fun _ => huniq⟩
  · rw [require_ok]
    refine ⟨.toolPolicy, fun h => ?_⟩
    cases h with
    | toolPolicy hoffered => exact hoffered
  · refine iff_of_false (fun h => by cases h) fun h => ?_
    cases h <;> grind

end LorePia.Parameters
