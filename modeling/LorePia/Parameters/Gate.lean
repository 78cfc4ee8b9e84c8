import LorePia.Parameters.Engine
import Mathlib.Data.List.Perm.Basic

namespace LorePia.Parameters

open Lib List Option ParameterEngine
open ProviderStore (F64 ToolPolicy ParameterLiteral ParameterValueState ParameterValue)

/-!
# Parameters — the gate

The rules that a list of preset values has to keep, said about the list alone, and the gate in
front of a request, which lets exactly those lists through:

* `Sets` — the preset gives a parameter an explicit value;
* `Holds`, `Visible` — the meaning of a visibility expression on a preset;
* `Acceptable` — the rules.

`agrees_of_collectStates` is the bridge: the map that the engine collects answers for a
parameter what the list says.  Every check of the engine is then one of the rules.
-/

variable {spec : TypedParameterSpec} {literal : ParameterLiteral} {id : String}
  {set : ValidatedParameterSet} {state : ParameterValueState}

/-! ### The rules -/

/-- The preset gives the parameter an explicit value. -/
def Sets (values : List ParameterValue) (id : String) (literal : ParameterLiteral) : Prop :=
  ∃ value ∈ values, normalizeId value.parameterId = normalizeId id ∧ value.state = .explicit literal

/-- The preset gives the parameter some explicit value. -/
def IsExplicit (values : List ParameterValue) (id : String) : Prop :=
  ∃ literal, Sets values id literal

/-- A visibility expression is true of a preset. -/
inductive Holds (values : List ParameterValue) : ParameterConditionExpr → Prop
  | equals {id : String} {expected actual : ParameterLiteral} (set : Sets values id actual)
      (same : sameLiteral actual expected = true) : Holds values (.equals id expected)
  | notEquals {id : String} {expected actual : ParameterLiteral} (set : Sets values id actual)
      (differs : sameLiteral actual expected = false) : Holds values (.notEquals id expected)
  | all {conditions : List ParameterConditionExpr}
      (each : ∀ condition ∈ conditions, Holds values condition) : Holds values (.all conditions)
  | any {conditions : List ParameterConditionExpr} {condition : ParameterConditionExpr}
      (mem : condition ∈ conditions) (one : Holds values condition) :
      Holds values (.any conditions)

def Visible (values : List ParameterValue) (spec : TypedParameterSpec) : Prop :=
  ∀ condition ∈ spec.visibility, Holds values condition

variable {tests : LiteralTests}

/-- The rules for one parameter. -/
structure SpecAcceptable (tests : LiteralTests) (values : List ParameterValue)
    (spec : TypedParameterSpec) : Prop where
  visible : IsExplicit values spec.id → Visible values spec
  valid : ∀ literal, Sets values spec.id literal → Satisfies tests spec.schema literal
  exclusive : IsExplicit values spec.id → ∀ other message,
    .mutuallyExclusive other message ∈ spec.rules → ¬ IsExplicit values other
  requires : IsExplicit values spec.id → ∀ other message,
    .requires other message ∈ spec.rules → IsExplicit values other
  required : Visible values spec → spec.defaultMode = .explicitRequired → IsExplicit values spec.id

/-- The rules for a preset: its values name parameters of the engine, none of them twice, and
every parameter keeps its own rules. -/
structure Acceptable (engine : ParameterEngine tests) (values : List ParameterValue) : Prop where
  known : ∀ value ∈ values, ∃ spec ∈ engine.specs,
    normalizeId spec.id = normalizeId value.parameterId
  single : (values.map fun value => normalizeId value.parameterId).Nodup
  each : ∀ spec ∈ engine.specs, SpecAcceptable tests values spec

/-- The explicit value of a parameter. -/
def valueOf (values : List ParameterValue) (id : String) : Option ParameterLiteral :=
  values.findSome? fun value =>
    if normalizeId value.parameterId = normalizeId id then explicitLiteral value.state else none

/-- The explicit values in the order of the specifications, each with its mapping. -/
def explicitValues (engine : ParameterEngine tests) (values : List ParameterValue) :
    List AppliedParameter :=
  engine.specs.filterMap fun spec =>
    (valueOf values spec.id).map fun literal => ⟨spec.id, spec.providerMapping, literal⟩

/-- The parameters without an explicit value. -/
def remaining (engine : ParameterEngine tests) (values : List ParameterValue) : List String :=
  (engine.specs.filter fun spec => decide (valueOf values spec.id = none)).map TypedParameterSpec.id

/-! ### Reading a preset -/

theorem explicitLiteral_eq_some :
    explicitLiteral state = some literal ↔ state = .explicit literal := by
  cases state <;> simp [explicitLiteral]

/-- In a preset without doubles a parameter has one value. -/
theorem eq_of_single {values : List ParameterValue}
    (h : (values.map fun value => normalizeId value.parameterId).Nodup) (ha : a ∈ values)
    (hb : b ∈ values) (hid : normalizeId a.parameterId = normalizeId b.parameterId) : a = b :=
  inj_on_of_nodup_map h ha hb hid

theorem valueOf_eq_some {values : List ParameterValue}
    (h : (values.map fun value => normalizeId value.parameterId).Nodup) : valueOf values id = some literal ↔ Sets values id literal := by
  have hfound : ∀ {value : ParameterValue} {found : ParameterLiteral},
      (if normalizeId value.parameterId = normalizeId id then explicitLiteral value.state
        else none) = some found ↔
      normalizeId value.parameterId = normalizeId id ∧ value.state = .explicit found := by
    intro value found
    by_cases hid : normalizeId value.parameterId = normalizeId id
    · simp [hid, explicitLiteral_eq_some]
    · simp [hid]
  constructor
  · intro hsome
    obtain ⟨value, hmem, hvalue⟩ := exists_of_findSome?_eq_some hsome
    exact ⟨value, hmem, hfound.mp hvalue⟩
  · rintro ⟨value, hmem, hid, hst⟩
    cases hcase : valueOf values id with
    | none =>
      rw [valueOf, findSome?_eq_none_iff] at hcase
      have hnone := hcase value hmem
      rw [hfound.mpr ⟨hid, hst⟩] at hnone
      cases hnone
    | some found =>
      obtain ⟨other, hoth, hvalue⟩ := exists_of_findSome?_eq_some hcase
      obtain ⟨hid', hst'⟩ := hfound.mp hvalue
      have heq := eq_of_single h hmem hoth (hid.trans hid'.symm)
      rw [← heq, hst] at hst'
      cases hst'
      rfl

theorem valueOf_eq_none {values : List ParameterValue}
    (h : (values.map fun value => normalizeId value.parameterId).Nodup) :
    valueOf values id = none ↔ ¬ IsExplicit values id := by
  rw [eq_none_iff_forall_ne_some, IsExplicit, not_exists]
  exact forall_congr' fun literal => not_congr (valueOf_eq_some h)

theorem literalIssues_eq_nil {value : ParameterLiteral} :
    literalIssues tests spec value = [] ↔ Satisfies tests spec.schema value := by
  rw [← validateLiteral_ok_iff, literalIssues]
  cases validateLiteral tests spec.schema value <;> simp

/-! ### What the engine collects -/

/-- The collected states say of every parameter what the preset says. -/
def Agrees (states : SortedMap String ParameterValueState) (values : List ParameterValue) : Prop :=
  ∀ id literal, (states.get? (normalizeId id)).bind explicitLiteral = some literal ↔
    Sets values id literal

variable {engine : ParameterEngine tests}

/-- Nothing is wrong with the collected values iff they are known and new. -/
theorem collectFrom_eq_nil {values : List ParameterValue} :
    (engine.collectFrom states values).2 = [] ↔ (∀ value ∈ values, ∃ spec ∈ engine.specs,
        normalizeId spec.id = normalizeId value.parameterId) ∧
      (values.map fun value => normalizeId value.parameterId).Nodup ∧
      ∀ value ∈ values, states.get? (normalizeId value.parameterId) = none := by
  induction values generalizing states with
  | nil => simp [collectFrom]
  | cons value values ih =>
    rw [collectFrom, map_cons, nodup_cons, forall_mem_cons, forall_mem_cons]
    by_cases hknown : (engine.indices.get? (normalizeId value.parameterId)).isSome = true
    · rw [if_pos hknown, append_eq_nil_iff, issueUnless_eq_nil, ih]
      have hspec := isSome_indices_iff.mp hknown
      -- The rest of the list is new to the map that has the first value already.
      have hfresh : (∀ other ∈ values, (states.insert (normalizeId value.parameterId)
            value.state).get? (normalizeId other.parameterId) = none) ↔
          normalizeId value.parameterId ∉ values.map (fun value => normalizeId value.parameterId) ∧
          ∀ other ∈ values, states.get? (normalizeId other.parameterId) = none := by
        rw [List.mem_map, not_exists, ← forall_and]
        refine forall_congr' fun other => ?_
        rw [SortedMap.get?_insert]
        by_cases heq : normalizeId other.parameterId = normalizeId value.parameterId
        · simp only [heq, if_true, reduceCtorEq, imp_false, and_true]
          exact ⟨fun hmem => ⟨hmem, fun h => absurd h hmem⟩, fun h => h.1⟩
        · simp [heq]
      rw [hfresh]
      constructor
      · rintro ⟨hnone, hrest, hnodup, hnew, hothers⟩
        exact ⟨⟨hspec, hrest⟩, ⟨hnew, hnodup⟩, hnone, hothers⟩
      · rintro ⟨⟨-, hrest⟩, ⟨hnew, hnodup⟩, hnone, hothers⟩
        exact ⟨hnone, hrest, hnodup, hnew, hothers⟩
    · rw [if_neg hknown]
      constructor
      · intro h
        cases h
      · rintro ⟨⟨hspec, -⟩, -⟩
        exact absurd (isSome_indices_iff.mpr hspec) hknown

/-- What is collected without an issue: the states that were there, and those of the values. -/
theorem get?_collectFrom
    {values : List ParameterValue} (h : (engine.collectFrom states values).2 = []) :
    (engine.collectFrom states values).1.get? id = some state ↔ states.get? id = some state ∨
        ∃ value ∈ values, normalizeId value.parameterId = id ∧ value.state = state := by
  induction values generalizing states with
  | nil => simp [collectFrom]
  | cons value values ih =>
    rw [collectFrom] at h ⊢
    by_cases hknown : (engine.indices.get? (normalizeId value.parameterId)).isSome = true
    · rw [if_pos hknown, append_eq_nil_iff, issueUnless_eq_nil] at h
      rw [if_pos hknown, ih h.2, SortedMap.get?_insert]
      by_cases hid : id = normalizeId value.parameterId
      · subst hid
        simp [h.1]
      · simp [hid, Ne.symm hid]
    · rw [if_neg hknown] at h
      cases h

theorem agrees_of_collectStates {values : List ParameterValue}
    (h : (engine.collectStates values).2 = []) : Agrees (engine.collectStates values).1 values := by
  intro id literal
  rw [bind_eq_some_iff]
  constructor
  · rintro ⟨state, hget, hlit⟩
    rcases (get?_collectFrom h).mp hget with hempty | ⟨value, hmem, hid, rfl⟩
    · cases hempty
    · exact ⟨value, hmem, hid, explicitLiteral_eq_some.mp hlit⟩
  · rintro ⟨value, hmem, hid, hst⟩
    exact ⟨value.state, (get?_collectFrom h).mpr (.inr ⟨value, hmem, hid, rfl⟩),
      explicitLiteral_eq_some.mpr hst⟩

section Agreement

variable {values : List ParameterValue}

mutual
/-- The evaluation of a visibility expression is its meaning. -/
theorem exprIsTrue_iff (h : Agrees states values) :
    ∀ condition, exprIsTrue states condition = true ↔ Holds values condition
  | .equals id expected => by
    rw [exprIsTrue, any_eq_true _ _]
    constructor
    · rintro ⟨actual, hactual, hsame⟩
      exact .equals ((h id actual).mp hactual) hsame
    · intro hholds
      cases hholds with
      | equals hset hsame => exact ⟨_, (h id _).mpr hset, hsame⟩
  | .notEquals id expected => by
    rw [exprIsTrue, any_eq_true _ _]
    constructor
    · rintro ⟨actual, hactual, hdiff⟩
      exact .notEquals ((h id actual).mp hactual) (by simpa using hdiff)
    · intro hholds
      cases hholds with
      | notEquals hset hdiff => exact ⟨_, (h id _).mpr hset, by simpa using hdiff⟩
  | .all conditions => by
    rw [exprIsTrue, allTrue_iff h conditions]
    constructor
    · exact .all
    · intro hholds
      cases hholds with
      | all heach => exact heach
  | .any conditions => by
    rw [exprIsTrue, anyTrue_iff h conditions]
    constructor
    · rintro ⟨condition, hmem, hone⟩
      exact .any hmem hone
    · intro hholds
      cases hholds with
      | any hmem hone => exact ⟨_, hmem, hone⟩

theorem allTrue_iff (h : Agrees states values) : ∀ conditions,
    allTrue states conditions = true ↔ ∀ condition ∈ conditions, Holds values condition
  | [] => by simp [allTrue]
  | condition :: conditions => by
    rw [allTrue, Bool.and_eq_true, exprIsTrue_iff h condition, allTrue_iff h conditions,
      forall_mem_cons]

theorem anyTrue_iff (h : Agrees states values) : ∀ conditions,
    anyTrue states conditions = true ↔ ∃ condition ∈ conditions, Holds values condition
  | [] => by simp [anyTrue]
  | condition :: conditions => by
    rw [anyTrue, Bool.or_eq_true, exprIsTrue_iff h condition, anyTrue_iff h conditions]
    simp
end

variable (h : Agrees states values)

include h

theorem stateOf_eq_explicit :
    stateOf states spec = .explicit literal ↔ Sets values spec.id literal := by
  rw [← h, stateOf]
  cases states.get? (normalizeId spec.id) with
  | none => simp
  | some state => simp [explicitLiteral_eq_some]

theorem stateOf_eq_inherit :
    stateOf states spec = .inheritProviderDefault ↔ ¬ IsExplicit values spec.id := by
  rw [IsExplicit, not_exists]
  cases hst : stateOf states spec with
  | inheritProviderDefault =>
    refine iff_of_true rfl ?_
    intro literal hset
    rw [(stateOf_eq_explicit h).mpr hset] at hst
    cases hst
  | explicit literal =>
    refine iff_of_false nofun ?_
    intro hnone
    exact hnone literal ((stateOf_eq_explicit h).mp hst)

theorem mem_explicitIds :
    normalizeId id ∈ explicitIds states ↔ IsExplicit values id := by
  rw [explicitIds, List.mem_map]
  constructor
  · rintro ⟨⟨key, state⟩, hmem, hkey⟩
    obtain ⟨hent, hsome⟩ := mem_filter.mp hmem
    obtain ⟨literal, hlit⟩ := isSome_iff_exists.mp hsome
    refine ⟨literal, (h id literal).mp (bind_eq_some_iff.mpr ⟨state, ?_, hlit⟩)⟩
    rw [← hkey]
    exact SortedMap.get?_eq_some.mpr hent
  · rintro ⟨literal, hset⟩
    obtain ⟨state, hget, hlit⟩ := bind_eq_some_iff.mp ((h id literal).mpr hset)
    refine ⟨(normalizeId id, state), mem_filter.mpr ⟨SortedMap.get?_eq_some.mp hget, ?_⟩, rfl⟩
    exact isSome_iff_exists.mpr ⟨literal, hlit⟩

theorem conditionIsTrue_iff :
    conditionIsTrue spec.visibility states = true ↔ Visible values spec := by
  rw [conditionIsTrue, all_eq_true _ _]
  exact forall₂_congr fun condition _ => exprIsTrue_iff h condition

/-- The issues of the rules of an explicit, visible parameter. -/
theorem ruleIssues_eq_nil {rules : List ParameterRule} :
    rules.flatMap (ruleIssues (explicitIds states) id) = [] ↔
      (∀ other message, .mutuallyExclusive other message ∈ rules → ¬ IsExplicit values other) ∧
      ∀ other message, .requires other message ∈ rules → IsExplicit values other := by
  rw [flatMap_eq_nil_iff]
  constructor
  · intro hrules
    refine ⟨fun other message hmem => ?_, fun other message hmem => ?_⟩
    · have hrule := hrules _ hmem
      rwa [ruleIssues, issueUnless_eq_nil, mem_explicitIds h] at hrule
    · have hrule := hrules _ hmem
      rwa [ruleIssues, issueUnless_eq_nil, mem_explicitIds h] at hrule
  · rintro ⟨hexclusive, hrequires⟩ rule hmem
    cases rule with
    | mutuallyExclusive other message =>
      rw [ruleIssues, issueUnless_eq_nil, mem_explicitIds h]
      exact hexclusive other message hmem
    | requires other message =>
      rw [ruleIssues, issueUnless_eq_nil, mem_explicitIds h]
      exact hrequires other message hmem

/-- A parameter has no issue iff it keeps its rules. -/
theorem controlIssues_eq_nil :
    controlIssues tests states spec = [] ↔ SpecAcceptable tests values spec := by
  rw [controlIssues, append_eq_nil_iff]
  cases hst : stateOf states spec with
  | inheritProviderDefault =>
    have hunset := (stateOf_eq_inherit h).mp hst
    have hskip : ¬ (conditionIsTrue spec.visibility states = true ∧
        normalizeId spec.id ∈ explicitIds states) :=
      fun hboth => hunset ((mem_explicitIds h).mp hboth.2)
    rw [if_neg hskip, stateIssues, issueUnless_eq_nil, conditionIsTrue_iff h]
    constructor
    · rintro ⟨hmissing, -⟩
      exact
        { visible := fun hset => absurd hset hunset
          valid := fun literal hset => absurd ⟨literal, hset⟩ hunset
          exclusive := fun hset => absurd hset hunset
          requires := fun hset => absurd hset hunset
          required := fun hvisible hmode => absurd ⟨hvisible, hmode⟩ hmissing }
    · intro hspec
      exact ⟨fun hboth => hunset (hspec.required hboth.1 hboth.2), rfl⟩
  | explicit value =>
    have hset := (stateOf_eq_explicit h).mp hst
    have hexpl : IsExplicit values spec.id := ⟨value, hset⟩
    have honly : ∀ literal, Sets values spec.id literal → literal = value := by
      intro literal hlit
      rw [(stateOf_eq_explicit h).mpr hlit] at hst
      exact ParameterValueState.explicit.inj hst
    rw [stateIssues, append_eq_nil_iff, issueUnless_eq_nil, literalIssues_eq_nil]
    constructor
    · rintro ⟨⟨hvisible, hval⟩, hrules⟩
      rw [if_pos ⟨hvisible, (mem_explicitIds h).mpr hexpl⟩, ruleIssues_eq_nil h] at hrules
      exact
        { visible := fun _ => (conditionIsTrue_iff h).mp hvisible
          valid := fun literal hoth => honly literal hoth ▸ hval
          exclusive := fun _ => hrules.1
          requires := fun _ => hrules.2
          required := fun _ _ => hexpl }
    · intro hspec
      have hvisible := (conditionIsTrue_iff h).mpr (hspec.visible hexpl)
      refine ⟨⟨hvisible, hspec.valid value hset⟩, ?_⟩
      rw [if_pos ⟨hvisible, (mem_explicitIds h).mpr hexpl⟩, ruleIssues_eq_nil h]
      exact ⟨hspec.exclusive hexpl, hspec.requires hexpl⟩

section

variable (hsingle : (values.map fun value => normalizeId value.parameterId).Nodup)
include hsingle

/-- What a parameter that keeps its rules puts into the request. -/
theorem appliedOf_eq (hspec : SpecAcceptable tests values spec) :
    appliedOf tests states spec =
      (valueOf values spec.id).map fun literal => ⟨spec.id, spec.providerMapping, literal⟩ := by
  rw [appliedOf]
  cases hst : stateOf states spec with
  | inheritProviderDefault =>
    rw [(valueOf_eq_none hsingle).mpr ((stateOf_eq_inherit h).mp hst)]
    rfl
  | explicit value =>
    have hset := (stateOf_eq_explicit h).mp hst
    have hadmits : admits tests spec.schema value = true := by
      rw [admits, validateLiteral_ok_iff.mpr (hspec.valid value hset)]
      rfl
    have hvisible := (conditionIsTrue_iff h).mpr (hspec.visible ⟨value, hset⟩)
    rw [(valueOf_eq_some hsingle).mpr hset]
    exact if_pos ⟨hadmits, hvisible⟩

theorem remaining_eq (engine : ParameterEngine tests) :
    (engine.specs.filter fun spec =>
      decide (stateOf states spec = .inheritProviderDefault)).map TypedParameterSpec.id =
      remaining engine values := by
  congr 1
  refine filter_congr fun spec _ => ?_
  rw [decide_eq_decide, stateOf_eq_inherit h, valueOf_eq_none hsingle]

end

end Agreement

/-! ### The gate -/

theorem Acceptable.collected {values : List ParameterValue} (h : Acceptable engine values) :
    (engine.collectStates values).2 = [] :=
  collectFrom_eq_nil.mpr ⟨h.known, h.single, fun _ _ => rfl⟩

/-- Nothing is wrong with a preset iff it keeps the rules. -/
theorem evaluate_issues_eq_nil {values : List ParameterValue} :
    (engine.evaluate values).issues = [] ↔ Acceptable engine values := by
  show (engine.collectStates values).2 ++
    engine.specs.flatMap (controlIssues tests (engine.collectStates values).1) = [] ↔ _
  rw [append_eq_nil_iff, flatMap_eq_nil_iff]
  constructor
  · rintro ⟨hcoll, hspecs⟩
    have hagrees := agrees_of_collectStates hcoll
    obtain ⟨hknown, hsingle, -⟩ := collectFrom_eq_nil.mp hcoll
    exact ⟨hknown, hsingle, fun spec hmem => (controlIssues_eq_nil hagrees).mp (hspecs spec hmem)⟩
  · intro haccept
    have hagrees := agrees_of_collectStates haccept.collected
    exact ⟨haccept.collected, fun spec hmem => (controlIssues_eq_nil hagrees).mpr (haccept.each spec hmem)⟩

/-- What the gate lets through, and with which result. -/
theorem validateForRequest_ok {values : List ParameterValue} :
    engine.validateForRequest values = .ok set ↔
      Acceptable engine values ∧ set = ⟨explicitValues engine values, remaining engine values⟩ := by
  rw [← evaluate_issues_eq_nil, validateForRequest]
  by_cases hissues : (engine.evaluate values).issues = []
  · have haccept := evaluate_issues_eq_nil.mp hissues
    have hagrees := agrees_of_collectStates haccept.collected
    have happlied : (engine.evaluate values).applied = explicitValues engine values :=
      filterMap_congr fun spec hmem => appliedOf_eq hagrees haccept.single (haccept.each spec hmem)
    have homitted : (engine.evaluate values).omittedProviderDefaults = remaining engine values :=
      remaining_eq hagrees haccept.single engine
    simp only [hissues, if_true, true_and, Except.ok.injEq, happlied, homitted]
    exact eq_comm
  · simp [hissues]

theorem Holds.of_sets (hsets : Sets values' = Sets values) (h : Holds values condition) :
    Holds values' condition := by
  induction h with
  | equals hset hsame => exact .equals (hsets ▸ hset) hsame
  | notEquals hset hdiff => exact .notEquals (hsets ▸ hset) hdiff
  | all _ ih => exact .all ih
  | any hmem _ ih => exact .any hmem ih

theorem Acceptable.perm {values : List ParameterValue} (h : Acceptable engine values)
    (hperm : values.Perm values') : Acceptable engine values' := by
  have hsets : Sets values' = Sets values := by
    funext id literal
    exact propext (exists_congr fun value => and_congr_left fun _ => hperm.mem_iff.symm)
  have hexpl : IsExplicit values' = IsExplicit values := by
    funext id
    rw [IsExplicit, IsExplicit, hsets]
  have hholds : ∀ condition, Holds values' condition ↔ Holds values condition := by
    intro condition
    exact ⟨.of_sets hsets.symm, .of_sets hsets⟩
  have hvisible : ∀ spec, Visible values' spec ↔ Visible values spec :=
    fun spec => forall₂_congr fun condition _ => hholds condition
  refine ⟨fun value hmem => h.known value (hperm.mem_iff.mpr hmem),
    (hperm.map _).nodup_iff.mp h.single, fun spec hmem => ?_⟩
  have hspec := h.each spec hmem
  constructor
  · rw [hexpl, hvisible]
    exact hspec.visible
  · rw [hsets]
    exact hspec.valid
  · rw [hexpl]
    exact hspec.exclusive
  · rw [hexpl]
    exact hspec.requires
  · rw [hexpl, hvisible]
    exact hspec.required

/-- The explicit value of a parameter does not depend on where the preset has it. -/
theorem valueOf_perm {values : List ParameterValue}
    (hsingle : (values.map fun value => normalizeId value.parameterId).Nodup)
    (hperm : values.Perm values') (id : String) : valueOf values' id = valueOf values id := by
  have hsingle' : (values'.map fun value => normalizeId value.parameterId).Nodup :=
    (hperm.map _).nodup_iff.mp hsingle
  ext literal
  rw [valueOf_eq_some hsingle, valueOf_eq_some hsingle']
  exact exists_congr fun value => and_congr_left fun _ => hperm.mem_iff.symm

theorem validateForRequest_perm {values : List ParameterValue} (hperm : values.Perm values')
    (h : engine.validateForRequest values = .ok set) :
    engine.validateForRequest values' = .ok set := by
  obtain ⟨haccept, rfl⟩ := validateForRequest_ok.mp h
  have hvalue := valueOf_perm haccept.single hperm
  rw [validateForRequest_ok]
  refine ⟨haccept.perm hperm, ?_⟩
  simp only [explicitValues, remaining, hvalue]

/-- The explicit values name each parameter once. -/
theorem nodup_explicitValues (engine : ParameterEngine tests) (values : List ParameterValue) :
    ((explicitValues engine values).map fun applied => normalizeId applied.parameterId).Nodup := by
  refine engine.nodup_ids.sublist ?_
  rw [explicitValues]
  induction engine.specs with
  | nil => exact nil_sublist _
  | cons spec specs ih =>
    rw [filterMap_cons, map_cons]
    cases valueOf values spec.id with
    | none => exact ih.cons _
    | some literal => exact ih.cons_cons _

/-- The gate lets through exactly the presets that keep the rules, applies their explicit values
in the order of the specifications and each of them once, omits the other parameters, and does
not depend on the order of the preset. -/
theorem validateForRequest_exact (engine : ParameterEngine tests) (values : List ParameterValue) :
    (∀ set, engine.validateForRequest values = .ok set ↔ Acceptable engine values ∧
        set = ⟨explicitValues engine values, remaining engine values⟩) ∧
    ((explicitValues engine values).map fun applied => normalizeId applied.parameterId).Nodup ∧
    ∀ values', values.Perm values' → ∀ set,
      engine.validateForRequest values' = .ok set ↔ engine.validateForRequest values = .ok set :=
  ⟨fun _ => validateForRequest_ok, nodup_explicitValues engine values,
    fun _ hperm _ => ⟨validateForRequest_perm hperm.symm, validateForRequest_perm hperm⟩⟩

end LorePia.Parameters
