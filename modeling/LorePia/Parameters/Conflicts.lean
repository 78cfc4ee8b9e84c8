import LorePia.Parameters.Gate

namespace LorePia.Parameters

open Lib List
open ProviderStore (F64 ToolPolicy ParameterLiteral ParameterValueState ParameterValue)

/-!
# Parameters — conflicts

The editor disables an unset control whose parameter has a mutually-exclusive rule towards an
explicit one.  The issue of a conflict can come from either side of a pair, so an enabled control
can still be in conflict once it is set: `setting_conflicts_iff` says when.
-/

variable {values : List ParameterValue} {spec : TypedParameterSpec} {id other : String}
  {issue : ParameterIssue} {literal : ParameterLiteral}

variable {tests : LiteralTests} {engine : ParameterEngine tests}

/-! ### Setting a control -/

/-- The controls that the editor shows. -/
def ParameterEditorModel.controls (editor : ParameterEditorModel) : List ParameterControl :=
  editor.basic ++ editor.advanced ++ editor.expert

/-- The preset in which the parameter has the literal, whatever it had before. -/
def setExplicit (values : List ParameterValue) (id : String) (literal : ParameterLiteral) :
    List ParameterValue :=
  (values.filter fun value => decide (normalizeId value.parameterId ≠ normalizeId id)) ++
    [⟨id, .explicit literal⟩]

/-- A control that the editor offers for setting, in a preset without issues, and a literal that
its schema accepts. -/
structure Settable (engine : ParameterEngine tests) (values : List ParameterValue)
    (control : ParameterControl) (literal : ParameterLiteral) : Prop where
  valid : (engine.evaluate values).issues = []
  shown : control ∈ (engine.evaluate values).editor.controls
  visible : control.visible = true
  enabled : control.enabled = true
  unset : control.state = .inheritProviderDefault
  accepted : validateLiteral tests control.schema literal = .ok ()

/-- A control of the editor belongs to a specification. -/
theorem exists_of_mem_controls {control : ParameterControl}
    (h : control ∈ (engine.evaluate values).editor.controls) :
    ∃ spec ∈ engine.specs, control = controlOf tests (engine.collectStates values).1 spec := by
  have hlevel : ∀ level, control ∈ controlsAt level (engine.specs.map fun spec =>
      (spec.level, controlOf tests (engine.collectStates values).1 spec)) →
      ∃ spec ∈ engine.specs, control = controlOf tests (engine.collectStates values).1 spec := by
    intro level hmem
    obtain ⟨entry, hent, rfl⟩ := mem_map.mp hmem
    obtain ⟨spec, hspec, rfl⟩ := mem_map.mp (mem_filter.mp hent).1
    exact ⟨spec, hspec, rfl⟩
  rw [ParameterEditorModel.controls, mem_append, mem_append] at h
  rcases h with (h | h) | h
  · exact hlevel _ h
  · exact hlevel _ h
  · exact hlevel _ h

theorem sets_setExplicit :
    Sets (setExplicit values id literal) other found ↔
      normalizeId other = normalizeId id ∧ found = literal ∨
        normalizeId other ≠ normalizeId id ∧ Sets values other found := by
  constructor
  · rintro ⟨value, hmem, hid, hst⟩
    rcases mem_append.mp hmem with hold | hnew
    · obtain ⟨hvalue, hne⟩ := mem_filter.mp hold
      have hne := of_decide_eq_true hne
      rw [hid] at hne
      exact .inr ⟨hne, value, hvalue, hid, hst⟩
    · obtain rfl := mem_singleton.mp hnew
      exact .inl ⟨hid.symm, (ParameterValueState.explicit.inj hst).symm⟩
  · rintro (⟨hid, rfl⟩ | ⟨hne, value, hvalue, hid, hst⟩)
    · exact ⟨_, mem_concat_self, hid.symm, rfl⟩
    · refine ⟨value, mem_append_left _ (mem_filter.mpr ⟨hvalue, ?_⟩), hid, hst⟩
      rw [hid]
      exact decide_eq_true hne

theorem isExplicit_setExplicit :
    IsExplicit (setExplicit values id literal) other ↔ normalizeId other = normalizeId id ∨
        normalizeId other ≠ normalizeId id ∧ IsExplicit values other := by
  simp only [IsExplicit, sets_setExplicit, exists_or, exists_and_left, and_true, exists_eq]

/-- A preset keeps its form when a parameter of the engine is set. -/
theorem collectStates_setExplicit (h : Acceptable engine values) (hspec : spec ∈ engine.specs) :
    (engine.collectStates (setExplicit values spec.id literal)).2 = [] := by
  refine collectFrom_eq_nil.mpr ⟨?_, ?_, fun _ _ => rfl⟩
  · exact forall_mem_concat.mpr
      ⟨fun value hmem => h.known value (mem_filter.mp hmem).1, spec, hspec, rfl⟩
  · rw [setExplicit, map_append, nodup_append]
    refine ⟨h.single.sublist (filter_sublist.map _), nodup_singleton _, ?_⟩
    intro a ha b hb
    obtain ⟨value, hvalue, rfl⟩ := mem_map.mp ha
    obtain rfl := mem_singleton.mp hb
    exact of_decide_eq_true (mem_filter.mp hvalue).2

/-! ### Conflicts -/

theorem code_of_mem_issueUnless {c : Prop} [Decidable c] (h : issue' ∈ issueUnless c issue) :
    issue' = issue ∧ ¬ c := by
  rw [issueUnless] at h
  split at h
  · cases h
  · next hc => exact ⟨mem_singleton.mp h, hc⟩

theorem classifyLiteralError_ne (message : String) :
    classifyLiteralError message ≠ .mutuallyExclusive := by
  rw [classifyLiteralError]
  split
  · decide
  · split
    · decide
    · split
      · decide
      · split <;> decide

/-- The state of a parameter is no conflict. -/
theorem code_of_mem_stateIssues (h : issue ∈ stateIssues tests spec visible state) :
    issue.code ≠ .mutuallyExclusive := by
  cases state with
  | inheritProviderDefault =>
    rw [(code_of_mem_issueUnless h).1]
    nofun
  | explicit value =>
    rcases mem_append.mp h with hhidden | hlit
    · rw [(code_of_mem_issueUnless hhidden).1]
      nofun
    · rw [literalIssues] at hlit
      split at hlit
      · cases hlit
      · rw [mem_singleton.mp hlit]
        exact classifyLiteralError_ne _

/-- Two explicit parameters of which one, being visible, excludes the other. -/
def InConflict (engine : ParameterEngine tests) (values : List ParameterValue) : Prop :=
  ∃ spec ∈ engine.specs, IsExplicit values spec.id ∧ Visible values spec ∧
    ∃ other message, .mutuallyExclusive other message ∈ spec.rules ∧ IsExplicit values other

/-- The evaluation of a preset of known parameters reports a conflict iff there is one. -/
theorem exclusive_issue_iff (h : (engine.collectStates values).2 = []) :
    (∃ issue ∈ (engine.evaluate values).issues, issue.code = .mutuallyExclusive) ↔
      InConflict engine values := by
  have hagrees := agrees_of_collectStates h
  have hissues : (engine.evaluate values).issues =
      engine.specs.flatMap (controlIssues tests (engine.collectStates values).1) := by
    show (engine.collectStates values).2 ++
      engine.specs.flatMap (controlIssues tests (engine.collectStates values).1) = _
    rw [h, nil_append]
  rw [hissues]
  constructor
  · rintro ⟨issue, hmem, hcode⟩
    obtain ⟨spec, hspec, hctl⟩ := mem_flatMap.mp hmem
    rcases mem_append.mp hctl with hst | hrules
    · exact absurd hcode (code_of_mem_stateIssues hst)
    · split at hrules
      · next hboth =>
        obtain ⟨rule, hrule, hone⟩ := mem_flatMap.mp hrules
        cases rule with
        | requires other message =>
          rw [(code_of_mem_issueUnless hone).1] at hcode
          cases hcode
        | mutuallyExclusive other message =>
          have hoth := (mem_explicitIds hagrees).mp (not_not.mp (code_of_mem_issueUnless hone).2)
          exact ⟨spec, hspec, (mem_explicitIds hagrees).mp hboth.2,
            (conditionIsTrue_iff hagrees).mp hboth.1, other, message, hrule, hoth⟩
      · cases hrules
  · rintro ⟨spec, hspec, hexpl, hvisible, other, message, hrule, hoth⟩
    refine ⟨⟨.mutuallyExclusive, some spec.id, some other, message⟩,
      mem_flatMap.mpr ⟨spec, hspec, mem_append_right _ ?_⟩, rfl⟩
    rw [if_pos ⟨(conditionIsTrue_iff hagrees).mpr hvisible, (mem_explicitIds hagrees).mpr hexpl⟩]
    refine mem_flatMap.mpr ⟨_, hrule, ?_⟩
    rw [ruleIssues, issueUnless, if_neg (not_not.mpr ((mem_explicitIds hagrees).mpr hoth))]
    exact mem_singleton_self _

/-- An enabled control has no mutually-exclusive rule towards an explicit parameter. -/
theorem not_isExplicit_of_enabled (h : Agrees states values)
    (henabled : (controlOf tests states spec).enabled = true) (hunset : ¬ IsExplicit values spec.id)
    (hrule : .mutuallyExclusive other message ∈ spec.rules) :
    ¬ IsExplicit values other := by
  intro hoth
  have hdis : disabledByConflict (explicitIds states) spec = true := by
    rw [disabledByConflict, Bool.and_eq_true, decide_eq_true_eq, mem_explicitIds h, any_eq_true]
    exact ⟨hunset, _, hrule, decide_eq_true ((mem_explicitIds h).mpr hoth)⟩
  have hfalse : disabledByConflict (explicitIds states) spec = false := by
    have hboth := Bool.and_eq_true_iff.mp henabled
    simpa using hboth.2
  rw [hfalse] at hdis
  cases hdis

/-- An explicit parameter that is visible in a preset excludes the given one. -/
def ExcludedBy (engine : ParameterEngine tests) (explicit shown : List ParameterValue)
    (id : String) : Prop :=
  ∃ spec ∈ engine.specs, IsExplicit explicit spec.id ∧ Visible shown spec ∧
    ∃ other message, .mutuallyExclusive other message ∈ spec.rules ∧
      normalizeId other = normalizeId id

/-- In a preset without issues, setting an enabled control brings no conflict iff no explicit
parameter that stays visible excludes the control's own. -/
theorem setting_conflicts_iff {values : List ParameterValue} {control : ParameterControl}
    {literal : ParameterLiteral} (h : Settable engine values control literal) :
    (∀ issue ∈ (engine.evaluate (setExplicit values control.id literal)).issues,
        issue.code ≠ .mutuallyExclusive) ↔
      ¬ ExcludedBy engine values (setExplicit values control.id literal) control.id := by
  have haccept := evaluate_issues_eq_nil.mp h.valid
  have hagrees := agrees_of_collectStates haccept.collected
  obtain ⟨spec, hspec, rfl⟩ := exists_of_mem_controls h.shown
  have hunset : ¬ IsExplicit values spec.id := (stateOf_eq_inherit hagrees).mp h.unset
  have hcoll : (engine.collectStates (setExplicit values spec.id literal)).2 = [] :=
    collectStates_setExplicit haccept hspec
  have hconflict := exclusive_issue_iff hcoll
  show (∀ issue ∈ (engine.evaluate (setExplicit values spec.id literal)).issues, _) ↔
    ¬ ExcludedBy engine values (setExplicit values spec.id literal) spec.id
  rw [← not_iff_not, not_not]
  simp only [not_forall, not_not, exists_prop]
  rw [hconflict]
  constructor
  · rintro ⟨owner, howner, hexpl, hvisible, other, message, hrule, hoth⟩
    rw [isExplicit_setExplicit] at hexpl hoth
    rcases hexpl with hsame | ⟨-, hexpl⟩
    · -- The conflict would come from a rule of the control's own, towards another parameter.
      obtain rfl := ParameterEngine.eq_of_normalizeId howner hspec hsame
      rcases hoth with hself | ⟨-, hoth⟩
      · exact absurd hself (ParameterEngine.related_ne howner hrule)
      · exact absurd hoth (not_isExplicit_of_enabled hagrees h.enabled hunset hrule)
    · rcases hoth with hself | ⟨-, hoth⟩
      · exact ⟨owner, howner, hexpl, hvisible, other, message, hrule, hself⟩
      · exact absurd hoth ((haccept.each owner howner).exclusive hexpl other message hrule)
  · rintro ⟨owner, howner, hexpl, hvisible, other, message, hrule, hself⟩
    refine ⟨owner, howner, isExplicit_setExplicit.mpr ?_, hvisible, other, message, hrule,
      isExplicit_setExplicit.mpr (.inl hself)⟩
    by_cases hsame : normalizeId owner.id = normalizeId spec.id
    · exact .inl hsame
    · exact .inr ⟨hsame, hexpl⟩

/-! ### A rule on the other side -/

/-- A parameter of a sampling method, off unless the preset sets it. -/
def samplingSpec (id field : String) (rules : List ParameterRule) : TypedParameterSpec where
  id := id
  labelKey := id
  descriptionKey := none
  schema := .boolean
  defaultMode := .providerDefault
  visibility := none
  rules := rules
  providerMapping := ⟨.requestBody, field⟩
  level := .basic

/-- Tests for schemas without grids and JSON. -/
def plainTests : LiteralTests := ⟨fun _ _ _ => .aligned, fun _ => none⟩

/-- Two sampling methods, of which the second excludes the first. -/
def samplingSpecs : List TypedParameterSpec :=
  [samplingSpec "greedy" "greedy" [],
    samplingSpec "nucleus" "nucleus" [.mutuallyExclusive "greedy" "sampling.conflict"]]

theorem samplingSpecs_accepted : definitionIssues plainTests samplingSpecs = [] := by decide

def samplingEngine : ParameterEngine plainTests := ⟨samplingSpecs, samplingSpecs_accepted⟩

/-- The preset that sets the second method. -/
def nucleusValues : List ParameterValue := [⟨"nucleus", .explicit (.boolean true)⟩]

/-- The control of the first method. -/
def greedyControl (values : List ParameterValue) : ParameterControl :=
  controlOf plainTests (samplingEngine.collectStates values).1 (samplingSpec "greedy" "greedy" [])

theorem setting_conflicts_iff_greedy :
    (∀ issue ∈ (samplingEngine.evaluate
        (setExplicit [] (greedyControl []).id (.boolean true))).issues,
      issue.code ≠ .mutuallyExclusive) ↔
    ¬ ExcludedBy samplingEngine [] (setExplicit [] (greedyControl []).id (.boolean true))
      (greedyControl []).id :=
  setting_conflicts_iff ⟨by decide, by decide, by decide, by decide, by decide, by decide⟩

/-- With the second method set, the control of the first is enabled, and setting it brings a
conflict. -/
theorem enabled_control_conflicts :
    Settable samplingEngine nucleusValues (greedyControl nucleusValues) (.boolean true) ∧
      ∃ issue ∈ (samplingEngine.evaluate
          (setExplicit nucleusValues (greedyControl nucleusValues).id (.boolean true))).issues,
        issue.code = .mutuallyExclusive :=
  ⟨⟨by decide, by decide, by decide, by decide, by decide, by decide⟩, by decide⟩

end LorePia.Parameters
