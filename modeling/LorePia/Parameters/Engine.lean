import LorePia.Parameters.Schema

namespace LorePia.Parameters

open Lib List SortedMap
open ProviderStore (F64 ToolPolicy ParameterLiteral ParameterValueState ParameterValue)

/-!
# Parameters — the engine

`ParameterEngine::new` compiles a list of specifications or lists what is wrong with it, and
`ParameterEngine.evaluate` runs the preset values against the compiled list.  An engine carries
the proof that its specifications were accepted; what later modules need of it are three facts:
the ids are distinct (`ParameterEngine.nodup_ids`), the index knows exactly them
(`ParameterEngine.isSome_indices_iff`), and no rule points to its own parameter
(`ParameterEngine.related_ne`).
-/

variable {specs : List TypedParameterSpec} {id : String} {index : Nat}

def maxParameterCount : Nat := 128
def maxParameterIdBytes : Nat := 64
def maxLabelKeyBytes : Nat := 128
def maxFieldPathBytes : Nat := 128
def maxEnumChoices : Nat := 64
def maxStringBytes : Nat := 16 * 1024
def maxListItems : Nat := 64
def maxListItemBytes : Nat := 4 * 1024
def maxJsonSchemaBytes : Nat := 64 * 1024
def maxConditionDepth : Nat := 8

/-! ### The shape of a definition -/

/-- The issue of an invalid definition. -/
def invalidDefinition (id : String) (message : String) : ParameterIssue :=
  ⟨.invalidDefinition, some id, none, message⟩

/-- The message, where a check fails. -/
def issueUnless (c : Prop) [Decidable c] (issue : ParameterIssue) : List ParameterIssue :=
  if c then [] else [issue]

@[simp] theorem issueUnless_eq_nil {c : Prop} [Decidable c] :
    issueUnless c issue = [] ↔ c := by
  by_cases h : c <;> simp [issueUnless, h]

/-- `valid_field_name`. -/
def validFieldName (target : ProviderParameterTarget) (fieldName : String) : Bool :=
  if fieldName = "" ∨ maxFieldPathBytes < byteLen fieldName then false
  else
    match target with
    | .requestHeader =>
      fieldName.toList.all fun c => isAsciiAlphanumeric c || "!#$%&'*+-.^_`|~".toList.contains c
    | .requestBody =>
      (splitAt ['.'] fieldName).all fun segment =>
        !segment.toList.isEmpty && segment.toList.all fun c => isAsciiAlphanumeric c || c == '_'

/-- `valid_choice_label`. -/
def validChoiceLabel (labelKey : String) : Bool :=
  labelKey ≠ "" && byteLen labelKey ≤ maxLabelKeyBytes

/-- The choices of a schema, checked one by one: the label, then whether the value was there
before, then whether the schema admits it. -/
def choiceIssues {γ κ : Type} [DecidableEq κ] (id kind : String) (labelKey : γ → String)
    (value : γ → κ) (admitted : γ → Bool) : List κ → List γ → List ParameterIssue
  | _, [] => []
  | seen, choice :: choices =>
    issueUnless (validChoiceLabel (labelKey choice) = true)
        (invalidDefinition id (kind ++ " choice label key is empty or too long")) ++
      (if value choice ∈ seen then [invalidDefinition id (kind ++ " choices must be unique")]
      else issueUnless (admitted choice = true)
        (invalidDefinition id (kind ++ " choice violates its own schema"))) ++
      choiceIssues id kind labelKey value admitted (value choice :: seen) choices

/-- The choices of an enumeration. -/
def enumChoiceIssues (id : String) : List String → List StringChoice → List ParameterIssue
  | _, [] => []
  | seen, choice :: choices =>
    issueUnless (validChoiceLabel choice.labelKey = true ∧ choice.value ≠ "" ∧
        byteLen choice.value ≤ maxStringBytes ∧ choice.value ∉ seen)
      (invalidDefinition id "enum choices and labels must be non-empty, bounded, and unique") ++
      enumChoiceIssues id (choice.value :: seen) choices

variable (tests : LiteralTests)

/-- Whether a schema admits a literal. -/
def admits (schema : ParameterSchema) (literal : ParameterLiteral) : Bool :=
  (validateLiteral tests schema literal).isOk

/-- `validate_schema_shape`. -/
def validateSchemaShape (id : String) (schema : ParameterSchema) : List ParameterIssue :=
  match schema with
  | .boolean => []
  | .integer minimum maximum step choices =>
    issueUnless ((minimum.all fun low => maximum.all fun high => decide (low ≤ high)) = true)
        (invalidDefinition id "integer minimum may not exceed maximum") ++
      issueUnless (step ≠ some 0) (invalidDefinition id "integer step must be positive") ++
      issueUnless (choices.length ≤ maxEnumChoices)
        (invalidDefinition id "too many integer choices") ++
      choiceIssues id "integer" IntegerChoice.labelKey IntegerChoice.value
        (fun choice => admits tests schema (.integer choice.value)) [] choices
  | .number minimum maximum step choices =>
    issueUnless ((minimum.all F64.isFinite) = true ∧ (maximum.all F64.isFinite) = true ∧
        (step.all fun step => step.isFinite && F64.lt (.finite 0) step) = true)
      (invalidDefinition id "number bounds and step must be finite and step positive") ++
      issueUnless ((minimum.all fun low => maximum.all fun high => !high.lt low) = true)
        (invalidDefinition id "number minimum may not exceed maximum") ++
      issueUnless (choices.length ≤ maxEnumChoices)
        (invalidDefinition id "too many number choices") ++
      choiceIssues id "number" NumberChoice.labelKey NumberChoice.value
        (fun choice => admits tests schema (.number choice.value)) [] choices
  | .string minBytes maxBytes choices =>
    issueUnless (minBytes ≤ maxBytes ∧ maxBytes ≤ maxStringBytes)
        (invalidDefinition id "string byte bounds are invalid") ++
      issueUnless (choices.length ≤ maxEnumChoices)
        (invalidDefinition id "too many string choices") ++
      choiceIssues id "string" StringChoice.labelKey StringChoice.value
        (fun choice => admits tests schema (.string choice.value)) [] choices
  | .enum choices =>
    issueUnless (choices ≠ [] ∧ choices.length ≤ maxEnumChoices)
        (invalidDefinition id "enum must declare a bounded non-empty choice list") ++
      enumChoiceIssues id [] choices
  | .stringList minItems maxItems maxItemBytes _ =>
    issueUnless (minItems ≤ maxItems ∧ maxItems ≤ maxListItems ∧ maxItemBytes ≠ 0 ∧
        maxItemBytes ≤ maxListItemBytes)
      (invalidDefinition id "string list bounds are invalid")
  | .jsonSchema maxBytes =>
    issueUnless (maxBytes ≠ 0 ∧ maxBytes ≤ maxJsonSchemaBytes)
      (invalidDefinition id "JSON schema byte bound is invalid")
  | .stopSequenceList maxItems maxItemBytes =>
    issueUnless (maxItems ≠ 0 ∧ maxItems ≤ maxListItems ∧ maxItemBytes ≠ 0 ∧
        maxItemBytes ≤ maxListItemBytes)
      (invalidDefinition id "stop-sequence bounds are invalid")
  | .toolPolicy allowed =>
    issueUnless (allowed ≠ [] ∧ allowed.length ≤ 3 ∧ allowed.Nodup)
      (invalidDefinition id "tool policy choices must be non-empty and unique")

/-- `validate_definition_shape`. -/
def validateDefinitionShape (spec : TypedParameterSpec) : List ParameterIssue :=
  issueUnless (spec.id ≠ "" ∧ byteLen spec.id ≤ maxParameterIdBytes ∧
      (spec.id.toList.all fun c => isAsciiAlphanumeric c || c == '_' || c == '-' || c == '.') = true)
    (invalidDefinition spec.id "parameter id must be a bounded ASCII identifier") ++
  issueUnless (spec.labelKey ≠ "" ∧ byteLen spec.labelKey ≤ maxLabelKeyBytes)
    (invalidDefinition spec.id "parameter label key is empty or too long") ++
  issueUnless (validFieldName spec.providerMapping.target spec.providerMapping.fieldName = true)
    (invalidDefinition spec.id
      "provider mapping field is not a bounded header name or JSON field path") ++
  validateSchemaShape tests spec.id spec.schema

/-! ### The list of definitions -/

/-- The first pass over the definitions: each one's shape, and the index by normalized id. -/
def indexSpecs : Nat → SortedMap String Nat → List TypedParameterSpec →
    SortedMap String Nat × List ParameterIssue
  | _, indices, [] => (indices, [])
  | index, indices, spec :: specs =>
    let rest := indexSpecs (index + 1) (indices.insert (normalizeId spec.id) index) specs
    (rest.1, validateDefinitionShape tests spec ++
      issueUnless (indices.get? (normalizeId spec.id) = none)
        ⟨.duplicateParameter, some spec.id, none,
          "parameter ids must be unique ignoring ASCII case"⟩ ++ rest.2)

/-- The parameter of a condition: it is known, and its schema admits the value. -/
def referenceIssues (specs : List TypedParameterSpec) (indices : SortedMap String Nat)
    (owner parameterId : String) (value : ParameterLiteral) : List ParameterIssue :=
  match indices.get? (normalizeId parameterId) with
  | none =>
    [⟨.invalidDefinition, some owner, some parameterId,
      "parameter visibility references an unknown parameter"⟩]
  | some index =>
    issueUnless ((specs[index]?.all fun spec => admits tests spec.schema value) = true)
      ⟨.invalidDefinition, some owner, some parameterId,
        "parameter visibility literal does not match the referenced schema"⟩

/-- The issue of an expression that is nested too deeply. -/
def tooDeep (owner : String) : ParameterIssue :=
  invalidDefinition owner "parameter visibility expression is too deeply nested"

mutual
/-- `validate_condition_references`, of a condition that is there. -/
def conditionIssues (specs : List TypedParameterSpec) (indices : SortedMap String Nat)
    (owner : String) : Nat → ParameterConditionExpr → List ParameterIssue
  | depth, .equals parameterId value | depth, .notEquals parameterId value =>
    if maxConditionDepth ≤ depth then [tooDeep owner]
    else referenceIssues tests specs indices owner parameterId value
  | depth, .all conditions | depth, .any conditions =>
    if maxConditionDepth ≤ depth then [tooDeep owner]
    else
      issueUnless (conditions.isEmpty = false)
          (invalidDefinition owner "parameter visibility groups may not be empty") ++
        groupIssues specs indices owner (depth + 1) conditions

def groupIssues (specs : List TypedParameterSpec) (indices : SortedMap String Nat)
    (owner : String) : Nat → List ParameterConditionExpr → List ParameterIssue
  | _, [] => []
  | depth, condition :: conditions =>
    conditionIssues specs indices owner depth condition ++
      groupIssues specs indices owner depth conditions
end

/-- `validate_condition_references`. -/
def validateConditionReferences (condition : Option ParameterConditionExpr)
    (specs : List TypedParameterSpec) (indices : SortedMap String Nat) (owner : String) :
    List ParameterIssue :=
  match condition with
  | none => []
  | some condition => conditionIssues tests specs indices owner 0 condition

/-- The checks of a rule: it points to another parameter, which is known. -/
def validateRule (indices : SortedMap String Nat) (id : String) (rule : ParameterRule) :
    List ParameterIssue :=
  if normalizeId rule.related = normalizeId id then
    [⟨.invalidDefinition, some id, some rule.related, "a parameter rule may not reference itself"⟩]
  else
    issueUnless ((indices.get? (normalizeId rule.related)).isSome = true)
      ⟨.invalidDefinition, some id, some rule.related,
        "parameter rule references an unknown parameter"⟩

/-- The request field that a parameter writes, ignoring ASCII case. -/
def mappingKey (spec : TypedParameterSpec) : ProviderParameterTarget × String :=
  (spec.providerMapping.target, toAsciiLowercase spec.providerMapping.fieldName)

/-- The second pass over the definitions: mappings, conditions and rules. -/
def contractIssues (all : List TypedParameterSpec) (indices : SortedMap String Nat) :
    List (ProviderParameterTarget × String) → List TypedParameterSpec → List ParameterIssue
  | _, [] => []
  | mappings, spec :: specs =>
    issueUnless (mappingKey spec ∉ mappings)
        (invalidDefinition spec.id "two parameters may not map to the same request field") ++
      validateConditionReferences tests spec.visibility all indices spec.id ++
      spec.rules.flatMap (validateRule indices spec.id) ++
      contractIssues all indices (mappingKey spec :: mappings) specs

/-- Everything that `ParameterEngine::new` finds wrong. -/
def definitionIssues (specs : List TypedParameterSpec) : List ParameterIssue :=
  issueUnless (specs.length ≤ maxParameterCount)
      ⟨.invalidDefinition, none, none, "at most 128 parameters are allowed"⟩ ++
    (indexSpecs tests 0 .empty specs).2 ++
    contractIssues tests specs (indexSpecs tests 0 .empty specs).1 [] specs

/-- Compiled parameters; only accepted specifications can be compiled. -/
structure ParameterEngine where
  specs : List TypedParameterSpec
  accepted : definitionIssues tests specs = []

namespace ParameterEngine

/-- `ParameterEngine::new`. -/
def new (specs : List TypedParameterSpec) :
    Except ParameterEngineError (ParameterEngine tests) :=
  if h : definitionIssues tests specs = [] then .ok ⟨specs, h⟩
  else .error ⟨definitionIssues tests specs⟩

variable {tests}

/-- The index of the engine, by normalized id. -/
def indices (engine : ParameterEngine tests) : SortedMap String Nat :=
  (indexSpecs tests 0 .empty engine.specs).1

end ParameterEngine

variable {tests}

theorem isSome_indexSpecs {indices : SortedMap String Nat} :
    ((indexSpecs tests index indices specs).1.get? id).isSome = true ↔
      (indices.get? id).isSome = true ∨ ∃ spec ∈ specs, normalizeId spec.id = id := by
  induction specs generalizing index indices with
  | nil => simp [indexSpecs]
  | cons spec specs ih =>
    rw [indexSpecs, ih, get?_insert]
    by_cases h : id = normalizeId spec.id
    · simp [h]
    · simp [h, Ne.symm h]

/-- The first pass finds no id twice, neither in the list nor in what was indexed before. -/
theorem nodup_of_indexSpecs {indices : SortedMap String Nat} (h : (indexSpecs tests index indices specs).2 = []) :
    (specs.map fun spec => normalizeId spec.id).Nodup ∧
      ∀ spec ∈ specs, indices.get? (normalizeId spec.id) = none := by
  induction specs generalizing index indices with
  | nil => exact ⟨nodup_nil, forall_mem_nil _⟩
  | cons spec specs ih =>
    rw [indexSpecs, append_eq_nil_iff, append_eq_nil_iff, issueUnless_eq_nil] at h
    obtain ⟨⟨-, hfree⟩, hrest⟩ := h
    obtain ⟨hnodup, hfresh⟩ := ih hrest
    have hoth : ∀ other ∈ specs, normalizeId other.id ≠ normalizeId spec.id ∧
        indices.get? (normalizeId other.id) = none := by
      intro other hmem
      have hnone := hfresh other hmem
      rw [get?_insert] at hnone
      by_cases heq : normalizeId other.id = normalizeId spec.id
      · rw [if_pos heq] at hnone
        cases hnone
      · rw [if_neg heq] at hnone
        exact ⟨heq, hnone⟩
    refine ⟨?_, ?_⟩
    · rw [map_cons, nodup_cons]
      refine ⟨?_, hnodup⟩
      intro hmem
      obtain ⟨other, hoth', heq⟩ := mem_map.mp hmem
      exact (hoth other hoth').1 heq
    · rw [forall_mem_cons]
      exact ⟨hfree, fun other hmem => (hoth other hmem).2⟩

/-- Every rule of a list that passes the second pass passes its own check. -/
theorem validateRule_eq_nil {all : List TypedParameterSpec} {indices : SortedMap String Nat}
    (h : contractIssues tests all indices mappings specs = []) :
    ∀ spec ∈ specs, ∀ rule ∈ spec.rules, validateRule indices spec.id rule = [] := by
  induction specs generalizing mappings with
  | nil => exact forall_mem_nil _
  | cons spec specs ih =>
    rw [contractIssues, append_eq_nil_iff, append_eq_nil_iff, flatMap_eq_nil_iff] at h
    rw [forall_mem_cons]
    exact ⟨h.1.2, ih h.2⟩

namespace ParameterEngine

variable {engine : ParameterEngine tests}

/-- What the acceptance of an engine is made of. -/
theorem accepted_parts (engine : ParameterEngine tests) :
    engine.specs.length ≤ maxParameterCount ∧ (indexSpecs tests 0 .empty engine.specs).2 = [] ∧
      contractIssues tests engine.specs engine.indices [] engine.specs = [] := by
  have h := engine.accepted
  rw [definitionIssues, append_eq_nil_iff, append_eq_nil_iff, issueUnless_eq_nil] at h
  exact ⟨h.1.1, h.1.2, h.2⟩

theorem nodup_ids (engine : ParameterEngine tests) :
    (engine.specs.map fun spec => normalizeId spec.id).Nodup :=
  (nodup_of_indexSpecs engine.accepted_parts.2.1).1

/-- A parameter is found by its normalized id. -/
theorem eq_of_normalizeId {spec other : TypedParameterSpec} (h : spec ∈ engine.specs)
    (h' : other ∈ engine.specs) (heq : normalizeId spec.id = normalizeId other.id) : spec = other :=
  inj_on_of_nodup_map engine.nodup_ids h h' heq

/-- The index knows the parameters of the engine and no other id. -/
theorem isSome_indices_iff :
    (engine.indices.get? id).isSome = true ↔ ∃ spec ∈ engine.specs, normalizeId spec.id = id := by
  rw [indices, isSome_indexSpecs]
  simp [empty, get?]

/-- A rule points to another parameter. -/
theorem related_ne (h : spec ∈ engine.specs) (hrule : rule ∈ spec.rules) :
    normalizeId rule.related ≠ normalizeId spec.id := by
  have hnil := validateRule_eq_nil engine.accepted_parts.2.2 spec h rule hrule
  intro heq
  rw [validateRule, if_pos heq] at hnil
  cases hnil

end ParameterEngine

/-! ### Evaluating a preset -/

/-- A control of the parameter editor. -/
structure ParameterControl where
  id : String
  labelKey : String
  descriptionKey : Option String
  schema : ParameterSchema
  state : ParameterValueState
  visible : Bool
  enabled : Bool
  issues : List ParameterIssue
deriving DecidableEq

structure ParameterEditorModel where
  basic : List ParameterControl
  advanced : List ParameterControl
  expert : List ParameterControl

structure AppliedParameter where
  parameterId : String
  mapping : ProviderParameterMapping
  value : ParameterLiteral

structure ParameterEvaluation where
  editor : ParameterEditorModel
  applied : List AppliedParameter
  omittedProviderDefaults : List String
  issues : List ParameterIssue

structure ValidatedParameterSet where
  applied : List AppliedParameter
  omittedProviderDefaults : List String

/-- `explicit_literal`. -/
def explicitLiteral : ParameterValueState → Option ParameterLiteral
  | .explicit value => some value
  | .inheritProviderDefault => none

mutual
/-- `condition_is_true`, of a condition that is there. -/
def exprIsTrue (states : SortedMap String ParameterValueState) : ParameterConditionExpr → Bool
  | .equals parameterId value =>
    ((states.get? (normalizeId parameterId)).bind explicitLiteral).any fun actual =>
      sameLiteral actual value
  | .notEquals parameterId value =>
    ((states.get? (normalizeId parameterId)).bind explicitLiteral).any fun actual =>
      !sameLiteral actual value
  | .all conditions => allTrue states conditions
  | .any conditions => anyTrue states conditions

def allTrue (states : SortedMap String ParameterValueState) : List ParameterConditionExpr → Bool
  | [] => true
  | condition :: conditions => exprIsTrue states condition && allTrue states conditions

def anyTrue (states : SortedMap String ParameterValueState) : List ParameterConditionExpr → Bool
  | [] => false
  | condition :: conditions => exprIsTrue states condition || anyTrue states conditions
end

/-- `condition_is_true`. -/
def conditionIsTrue (condition : Option ParameterConditionExpr)
    (states : SortedMap String ParameterValueState) : Bool :=
  condition.all (exprIsTrue states)

/-- The ids that have an explicit value. -/
def explicitIds (states : SortedMap String ParameterValueState) : List String :=
  (states.entries.filter fun entry => (explicitLiteral entry.2).isSome).map Prod.fst

/-- The state of a parameter, which is the provider's default unless the preset has one. -/
def stateOf (states : SortedMap String ParameterValueState) (spec : TypedParameterSpec) :
    ParameterValueState :=
  (states.get? (normalizeId spec.id)).getD .inheritProviderDefault

/-- What a rule finds wrong when its own parameter is visible and explicit. -/
def ruleIssues (explicit : List String) (id : String) : ParameterRule → List ParameterIssue
  | .mutuallyExclusive parameterId messageKey =>
    issueUnless (normalizeId parameterId ∉ explicit)
      ⟨.mutuallyExclusive, some id, some parameterId, messageKey⟩
  | .requires parameterId messageKey =>
    issueUnless (normalizeId parameterId ∈ explicit)
      ⟨.missingRequirement, some id, some parameterId, messageKey⟩

variable (tests)

/-- The issue of a value that the schema refuses. -/
def literalIssues (spec : TypedParameterSpec) (value : ParameterLiteral) : List ParameterIssue :=
  match validateLiteral tests spec.schema value with
  | .ok () => []
  | .error message => [⟨classifyLiteralError message, some spec.id, none, message⟩]

/-- What the state of a parameter has wrong. -/
def stateIssues (spec : TypedParameterSpec) (visible : Bool) :
    ParameterValueState → List ParameterIssue
  | .inheritProviderDefault =>
    issueUnless (¬ (visible = true ∧ spec.defaultMode = .explicitRequired))
      ⟨.requiredValueMissing, some spec.id, none,
        "this visible parameter requires an explicit value"⟩
  | .explicit value =>
    issueUnless (visible = true) ⟨.hiddenValue, some spec.id, none,
          "a hidden parameter may not retain an explicit user value"⟩ ++
      literalIssues tests spec value

/-- The issues of one parameter: those of its state, then those of its rules. -/
def controlIssues (states : SortedMap String ParameterValueState) (spec : TypedParameterSpec) :
    List ParameterIssue :=
  stateIssues tests spec (conditionIsTrue spec.visibility states) (stateOf states spec) ++
    if conditionIsTrue spec.visibility states = true ∧ normalizeId spec.id ∈ explicitIds states then
      spec.rules.flatMap (ruleIssues (explicitIds states) spec.id)
    else []

/-- Whether an unset parameter has a mutually-exclusive rule towards an explicit one. -/
def disabledByConflict (explicit : List String) (spec : TypedParameterSpec) : Bool :=
  decide (normalizeId spec.id ∉ explicit) && spec.rules.any fun
    | .mutuallyExclusive parameterId _ => decide (normalizeId parameterId ∈ explicit)
    | .requires _ _ => false

/-- The control of a parameter. -/
def controlOf (states : SortedMap String ParameterValueState) (spec : TypedParameterSpec) :
    ParameterControl where
  id := spec.id
  labelKey := spec.labelKey
  descriptionKey := spec.descriptionKey
  schema := spec.schema
  state := stateOf states spec
  visible := conditionIsTrue spec.visibility states
  enabled := conditionIsTrue spec.visibility states && !disabledByConflict (explicitIds states) spec
  issues := controlIssues tests states spec

/-- The value that a parameter puts into the request. -/
def appliedOf (states : SortedMap String ParameterValueState) (spec : TypedParameterSpec) :
    Option AppliedParameter :=
  match stateOf states spec with
  | .inheritProviderDefault => none
  | .explicit value =>
    if admits tests spec.schema value = true ∧ conditionIsTrue spec.visibility states = true then
      some ⟨spec.id, spec.providerMapping, value⟩
    else none

/-- The visible controls of one level. -/
def controlsAt (level : UiParameterLevel) (controls : List (UiParameterLevel × ParameterControl)) :
    List ParameterControl :=
  (controls.filter fun entry => entry.2.visible && decide (entry.1 = level)).map Prod.snd

namespace ParameterEngine

variable {tests} (engine : ParameterEngine tests)

/-- `collect_states`, from the states collected so far. -/
def collectFrom : SortedMap String ParameterValueState → List ParameterValue →
    SortedMap String ParameterValueState × List ParameterIssue
  | states, [] => (states, [])
  | states, value :: values =>
    if (engine.indices.get? (normalizeId value.parameterId)).isSome = true then
      let rest := collectFrom (states.insert (normalizeId value.parameterId) value.state) values
      (rest.1, issueUnless (states.get? (normalizeId value.parameterId) = none)
        ⟨.duplicateValue, some value.parameterId, none,
          "preset contains more than one value for a parameter"⟩ ++ rest.2)
    else
      let rest := collectFrom states values
      (rest.1, ⟨.unknownParameter, some value.parameterId, none,
        "preset contains an unknown parameter"⟩ :: rest.2)

/-- `collect_states`. -/
def collectStates (values : List ParameterValue) :
    SortedMap String ParameterValueState × List ParameterIssue :=
  engine.collectFrom .empty values

/-- `ParameterEngine::evaluate`. -/
def evaluate (values : List ParameterValue) : ParameterEvaluation :=
  let (states, issues) := engine.collectStates values
  let controls := engine.specs.map fun spec => (spec.level, controlOf tests states spec)
  { editor :=
      { basic := controlsAt .basic controls
        advanced := controlsAt .advanced controls
        expert := controlsAt .expert controls }
    applied := engine.specs.filterMap (appliedOf tests states)
    omittedProviderDefaults :=
      (engine.specs.filter fun spec =>
        decide (stateOf states spec = .inheritProviderDefault)).map TypedParameterSpec.id
    issues := issues ++ engine.specs.flatMap (controlIssues tests states) }

/-- `ParameterEngine::validate_for_request`. -/
def validateForRequest (values : List ParameterValue) :
    Except ParameterEngineError ValidatedParameterSet :=
  let evaluation := engine.evaluate values
  if evaluation.issues = [] then
    .ok ⟨evaluation.applied, evaluation.omittedProviderDefaults⟩
  else .error ⟨evaluation.issues⟩

end ParameterEngine

end LorePia.Parameters
