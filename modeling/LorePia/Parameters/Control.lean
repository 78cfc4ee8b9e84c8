import LorePia.Parameters.Rules

namespace LorePia.Parameters

open Lib List

/-!
# Parameters — the reasoning control

What a user interface shows for the reasoning of a model, beside what the gate of a request
takes.  The control shows a dialect's values; the rule of a mode decides which of them it takes.
So the two agree where the fields that are shown list the rule's values, and every mode that is
offered has a value for what its rule requires (`controlAgrees_iff_rules`).

* `renderReasoningControl` — the control;
* `ControlAgrees` — what the two have in common, for settings that the gate takes.
-/

variable {shown : ReasoningSettings} {minimum maximum : Nat}

/-! ### The control -/

inductive UiControlState
  | hidden
  | ready
  | invalid

inductive UiFieldState
  | hidden
  | enabled
  | required

structure ReasoningControlModel where
  state : UiControlState
  settings : ReasoningSettings
  allowedModes : List ReasoningMode
  allowedEfforts : List ReasoningEffort
  allowedSummaries : List ReasoningSummaryMode
  budgetBounds : Option TokenBudgetBounds
  effortField : UiFieldState
  budgetField : UiFieldState
  summaryField : UiFieldState
  issues : List ParameterIssue

/-- `modes_with_optional_disabled`. -/
def modesWithOptionalDisabled (base : List ReasoningMode) (supportsDisabled : Bool) :
    List ReasoningMode :=
  if supportsDisabled then base ++ [.disabled] else base

/-- `summaries_with_provider_default`. -/
def summariesWithProviderDefault (summaries : List ReasoningSummaryMode) :
    List ReasoningSummaryMode :=
  summaries.foldl (fun values summary => if summary ∈ values then values else values ++ [summary])
    [.providerDefault]

/-- The values of a dialect that the control offers. -/
structure OfferedValues where
  modes : List ReasoningMode
  efforts : List ReasoningEffort
  summaries : List ReasoningSummaryMode
  bounds : Option TokenBudgetBounds

def offeredValues : ReasoningWireDialect → OfferedValues
  | .unsupported => ⟨[], [], [], none⟩
  | .openAiResponses efforts summaries supportsDisabled =>
    ⟨modesWithOptionalDisabled [.providerDefault, .enabled] supportsDisabled, efforts,
      summariesWithProviderDefault summaries, none⟩
  | .openAiChatCompletions efforts supportsDisabled =>
    ⟨modesWithOptionalDisabled
        (if efforts.isEmpty then [.providerDefault] else [.providerDefault, .enabled])
        supportsDisabled, efforts, [.providerDefault], none⟩
  | .openRouter style supportedEfforts _ _ _ mandatory =>
    ⟨[.providerDefault] ++
        (if openrouterSupportsEnabled style supportedEfforts then [.enabled] else []) ++
        (if openrouterSupportsDisabled style supportedEfforts mandatory then [.disabled] else []),
      openrouterReasoningEfforts supportedEfforts, [.providerDefault], none⟩
  | .anthropicAdaptive efforts summaries supportsDisabled =>
    ⟨modesWithOptionalDisabled [.providerDefault, .automatic] supportsDisabled, efforts,
      summariesWithProviderDefault summaries, none⟩
  | .anthropicExtended minimum maximum efforts summaries supportsDisabled =>
    ⟨modesWithOptionalDisabled [.providerDefault, .enabled] supportsDisabled, efforts,
      summariesWithProviderDefault summaries, some ⟨minimum, maximum⟩⟩
  | .geminiThinkingLevel efforts supportsAutomatic summaries =>
    ⟨if supportsAutomatic then [.providerDefault, .automatic] else [.providerDefault], efforts,
      summariesWithProviderDefault summaries, none⟩
  | .geminiThinkingBudget minimum maximum supportsZeroToDisable supportsAutomatic summaries =>
    ⟨[.providerDefault, .enabled] ++ (if supportsAutomatic then [.automatic] else []) ++
        (if supportsZeroToDisable then [.disabled] else []), [],
      summariesWithProviderDefault summaries, some ⟨minimum, maximum⟩⟩
  | .ollamaBoolean => ⟨[.providerDefault, .enabled, .disabled], [], [.providerDefault], none⟩
  | .ollamaLevel efforts supportsDisabled =>
    ⟨modesWithOptionalDisabled [.providerDefault, .enabled] supportsDisabled, efforts,
      [.providerDefault], none⟩

/-- The settings as they are shown: where a model has a default effort, it is filled in. -/
def withDefaultEffort (dialect : ReasoningWireDialect) (settings : ReasoningSettings) :
    ReasoningSettings :=
  match dialect with
  | .openRouter _ _ (some defaultEffort) _ _ _ =>
    if settings.mode = .enabled ∧ settings.effort = none then
      { settings with effort := openrouterEffortToReasoningEffort defaultEffort }
    else settings
  | _ => settings

/-- What the gate has against the settings. -/
def reasoningIssues (family : ApiFamily) (dialect : ReasoningWireDialect)
    (settings : ReasoningSettings) : List ParameterIssue :=
  let checked : Except ParameterEngineError Patches := do
    validateReasoningDialectFamily family dialect
    validateReasoningDialectMetadataShape dialect
    validateOpaqueReasoningPreservation family settings
    mapReasoning family settings dialect .empty
  match checked with
  | .ok _ => []
  | .error e => e.issues

/-- The modes that a dialect's efforts are shown in. -/
def showsEffort (dialect : ReasoningWireDialect) (mode : ReasoningMode) : Bool :=
  match dialect with
  | .openRouter .. | .ollamaLevel .. => mode == .enabled
  | .geminiThinkingLevel .. => mode == .automatic
  | _ => true

def effortEnabled (dialect : ReasoningWireDialect) (mode : ReasoningMode) : Bool :=
  dialect != .unsupported && mode != .disabled && !(offeredValues dialect).efforts.isEmpty &&
    showsEffort dialect mode

def budgetEnabled (dialect : ReasoningWireDialect) (mode : ReasoningMode) : Bool :=
  dialect != .unsupported && mode == .enabled && (offeredValues dialect).bounds.isSome

/-- The modes that a dialect's summaries are shown in. -/
def showsSummary (dialect : ReasoningWireDialect) (mode : ReasoningMode) : Bool :=
  match dialect with
  | .anthropicAdaptive .. | .anthropicExtended .. => mode != .providerDefault
  | _ => true

def summaryEnabled (dialect : ReasoningWireDialect) (mode : ReasoningMode) : Bool :=
  dialect != .unsupported && mode != .disabled && showsSummary dialect mode &&
    (offeredValues dialect).summaries.any (· != .providerDefault)

def isOpenRouter : ReasoningWireDialect → Bool
  | .openRouter .. => true
  | _ => false

/-- `render_reasoning_control`. -/
def renderReasoningControl (family : ApiFamily) (dialect : ReasoningWireDialect)
    (settings : ReasoningSettings) : ReasoningControlModel :=
  let offered := offeredValues dialect
  let rendered := withDefaultEffort dialect settings
  let issues := reasoningIssues family dialect rendered
  { state :=
      if dialect = .unsupported then .hidden
      else if issues.isEmpty then .ready
      else .invalid
    settings :=
      if family = .geminiGenerateContent then { rendered with preserveOpaqueState := false }
      else rendered
    allowedModes := offered.modes
    allowedEfforts := offered.efforts
    allowedSummaries := offered.summaries
    budgetBounds := offered.bounds
    effortField :=
      if effortEnabled dialect settings.mode && isOpenRouter dialect then .required
      else if effortEnabled dialect settings.mode then .enabled
      else .hidden
    budgetField := if budgetEnabled dialect settings.mode then .enabled else .hidden
    summaryField := if summaryEnabled dialect settings.mode then .enabled else .hidden
    issues }

/-! ### Agreement -/

/-- The settings hold values that the control offers. -/
structure Offered (control : ReasoningControlModel) (settings : ReasoningSettings) : Prop where
  effort : ∀ effort, settings.effort = some effort → effort ∈ control.allowedEfforts
  budget : ∀ budget, settings.budgetTokens = some budget → ∃ bounds,
    control.budgetBounds = some bounds ∧ bounds.minimum ≤ budget ∧ budget ≤ bounds.maximum
  summary : settings.summary = .providerDefault ∨ settings.summary ∈ control.allowedSummaries

/-- **The control and the gate agree** on settings: they are offered, every mode that is offered
    can be completed with offered values, and a field that is shown can be set to each of its
    values. -/
structure ControlAgrees (accepts : ReasoningSettings → Prop) (control : ReasoningControlModel)
    (settings : ReasoningSettings) : Prop where
  mode : settings.mode ∈ control.allowedModes
  offered : Offered control settings
  completes : ∀ mode ∈ control.allowedModes, ∃ settings' : ReasoningSettings,
    settings'.mode = mode ∧ settings'.preserveOpaqueState = settings.preserveOpaqueState ∧
      Offered control settings' ∧ accepts settings'
  setEffort : control.effortField ≠ .hidden → ∀ effort ∈ control.allowedEfforts,
    accepts { settings with effort := some effort }
  setBudget : control.budgetField ≠ .hidden → ∀ bounds, control.budgetBounds = some bounds →
    ∀ budget, bounds.minimum ≤ budget → budget ≤ bounds.maximum →
      accepts { settings with budgetTokens := some budget }
  setSummary : control.summaryField ≠ .hidden → ∀ summary ∈ control.allowedSummaries,
    accepts { settings with summary := summary }

/-- The modes in which Gemini takes every summary that it lists. -/
def GeminiSummariesAgree (summaries : List ReasoningSummaryMode) (mode : ReasoningMode) : Prop :=
  (mode = .providerDefault → ∀ summary ∈ summaries, summary = .providerDefault) ∧
    (mode = .enabled ∨ mode = .automatic → .concise ∉ summaries ∧ .detailed ∉ summaries)

/-- Where a dialect shows what its gate takes. -/
def ShowsWhatItTakes : ReasoningWireDialect → ReasoningMode → Prop
  | .openAiResponses efforts _ _, mode => efforts ≠ [] ∧ mode ≠ .providerDefault
  | .openAiChatCompletions efforts _, mode
  | .anthropicAdaptive efforts _ _, mode
  | .anthropicExtended _ _ efforts _ _, mode => mode = .providerDefault → efforts = []
  | .geminiThinkingLevel efforts supportsAutomatic summaries, mode =>
    (supportsAutomatic = true → efforts ≠ []) ∧ GeminiSummariesAgree summaries mode
  | .geminiThinkingBudget _ _ _ _ summaries, mode => GeminiSummariesAgree summaries mode
  | .unsupported, _ | .openRouter .., _ | .ollamaBoolean, _ | .ollamaLevel .., _ => True

/-! ### What is offered, and what is taken -/

variable {dialect : ReasoningWireDialect} {mode : ReasoningMode} {rule : ModeRule}
  {family : ApiFamily} {settings : ReasoningSettings} {accepts : ReasoningSettings → Prop}
  {summary : ReasoningSummaryMode} {summaries : List ReasoningSummaryMode}

@[simp] theorem mem_modesWithOptionalDisabled :
    mode ∈ modesWithOptionalDisabled base supportsDisabled ↔
      mode ∈ base ∨ supportsDisabled = true ∧ mode = .disabled := by
  cases supportsDisabled <;> simp [modesWithOptionalDisabled]

@[simp] theorem mem_summariesWithProviderDefault :
    summary ∈ summariesWithProviderDefault summaries ↔ TakesSummary summaries summary := by
  have hfold : ∀ values : List ReasoningSummaryMode,
      summary ∈ summaries.foldl (fun values summary =>
          if summary ∈ values then values else values ++ [summary]) values ↔
        summary ∈ values ∨ summary ∈ summaries := by
    induction summaries with
    | nil => simp
    | cons first summaries ih =>
      intro values
      rw [foldl_cons, ih]
      by_cases h : first ∈ values
      · rw [if_pos h, mem_cons]
        constructor
        · rintro (hmem | hmem)
          · exact .inl hmem
          · exact .inr (.inr hmem)
        · rintro (hmem | rfl | hmem)
          · exact .inl hmem
          · exact .inl h
          · exact .inr hmem
      · rw [if_neg h, mem_append, mem_singleton, mem_cons, or_assoc]
  rw [summariesWithProviderDefault, hfold, mem_singleton]
  exact Iff.rfl

/-- The values of a rule are among those of its dialect. -/
structure FromOffered (rule : ModeRule) (offered : OfferedValues) : Prop where
  efforts : ∀ effort ∈ rule.efforts, effort ∈ offered.efforts
  bounds : rule.bounds = none ∨ rule.bounds = offered.bounds
  summaries : ∀ summary ∈ rule.summaries, summary ∈ offered.summaries

/-- **The modes that are offered** are those that the dialect has. -/
theorem mem_modes_iff (hdial : dialect ≠ .unsupported) :
    mode ∈ (offeredValues dialect).modes ↔ (modeRule dialect mode).isSome = true := by
  cases dialect with
  | unsupported => exact absurd rfl hdial
  | openAiResponses _ _ supportsDisabled | anthropicAdaptive _ _ supportsDisabled
  | anthropicExtended _ _ _ _ supportsDisabled | ollamaLevel _ supportsDisabled =>
    cases mode <;> cases supportsDisabled <;> simp [offeredValues, modeRule]
  | openAiChatCompletions efforts supportsDisabled =>
    cases mode <;> cases efforts <;> cases supportsDisabled <;> simp [offeredValues, modeRule]
  | openRouter style supportedEfforts defaultEffort defaultEnabled maxTokens mandatory =>
    cases mode with
    | providerDefault => simp [offeredValues, modeRule]
    | automatic => simp [offeredValues, modeRule]
    | disabled =>
      cases h : openrouterSupportsDisabled style supportedEfforts mandatory <;>
        simp [offeredValues, modeRule, h]
    | enabled =>
      cases h : openrouterSupportsEnabled style supportedEfforts <;>
        simp [offeredValues, modeRule, h]
  | geminiThinkingLevel efforts supportsAutomatic summaries =>
    cases mode <;> cases supportsAutomatic <;> simp [offeredValues, modeRule]
  | geminiThinkingBudget minimum maximum supportsZeroToDisable supportsAutomatic summaries =>
    cases mode <;> cases supportsZeroToDisable <;> cases supportsAutomatic <;>
      simp [offeredValues, modeRule]
  | ollamaBoolean => cases mode <;> simp [offeredValues, modeRule]

theorem fromOffered_bare (offered : OfferedValues) : FromOffered .bare offered :=
  ⟨forall_mem_nil _, .inl rfl, forall_mem_nil _⟩

/-- A listed summary is offered. -/
theorem offered_of_mem (p : ReasoningSummaryMode → Bool) :
    ∀ summary ∈ summaries.filter p, summary ∈ summariesWithProviderDefault summaries := by
  intro summary hmem
  rw [mem_summariesWithProviderDefault]
  exact .inr (mem_of_mem_filter hmem)

theorem fromOffered (h : modeRule dialect mode = some rule) :
    FromOffered rule (offeredValues dialect) := by
  have hlisted : ∀ summaries : List ReasoningSummaryMode, ∀ summary ∈ summaries,
      summary ∈ summariesWithProviderDefault summaries :=
    fun summaries summary hmem => mem_summariesWithProviderDefault.mpr (.inr hmem)
  unfold modeRule at h
  split at h <;> first | cases h | split at h <;> cases h
  · exact fromOffered_bare _
  · exact ⟨fun _ hmem => hmem, .inl rfl, hlisted _⟩
  · exact ⟨forall_mem_nil _, .inl rfl, offered_of_mem _⟩
  · exact ⟨fun _ hmem => hmem, .inl rfl, forall_mem_nil _⟩
  · exact fromOffered_bare _
  · exact ⟨fun _ hmem => hmem, .inl rfl, forall_mem_nil _⟩
  · exact fromOffered_bare _
  · exact ⟨fun _ hmem => hmem, .inl rfl, hlisted _⟩
  · exact fromOffered_bare _
  · exact ⟨fun _ hmem => hmem, .inr rfl, hlisted _⟩
  · exact fromOffered_bare _
  · exact ⟨fun _ hmem => hmem, .inl rfl, offered_of_mem _⟩
  · exact ⟨forall_mem_nil _, .inr rfl, offered_of_mem _⟩
  · exact ⟨forall_mem_nil _, .inl rfl, offered_of_mem _⟩
  · exact ⟨forall_mem_nil _, .inl rfl, offered_of_mem _⟩
  · exact fromOffered_bare _
  · exact fromOffered_bare _
  · exact ⟨fun _ hmem => hmem, .inl rfl, forall_mem_nil _⟩
  · exact fromOffered_bare _

/-! ### The fields that are shown -/

/-- What a rule requires can be met. -/
def Completable (rule : ModeRule) : Prop :=
  (rule.effortRequired = true → rule.efforts ≠ []) ∧
    ∀ bounds, rule.bounds = some bounds → bounds.minimum ≤ bounds.maximum

/-- Settings of a mode that the rule admits. -/
theorem completable_iff :
    Completable rule ↔ ∃ effort budget, TakesEffort rule.efforts rule.effortRequired effort ∧
      TakesBudget rule.bounds budget := by
  obtain ⟨efforts, required, bounds, summaries⟩ := rule
  have heffort : (required = true → efforts ≠ []) ↔
      ∃ effort, TakesEffort efforts required effort := by
    constructor
    · intro h
      cases required with
      | false => exact ⟨none, rfl⟩
      | true =>
        obtain ⟨effort, hmem⟩ := exists_mem_of_ne_nil efforts (h rfl)
        exact ⟨some effort, hmem⟩
    · rintro ⟨effort, h⟩ rfl
      cases effort with
      | none => cases h
      | some effort => exact ne_nil_of_mem h
  have hbud : (∀ found, bounds = some found → found.minimum ≤ found.maximum) ↔
      ∃ budget, TakesBudget bounds budget := by
    constructor
    · intro h
      cases bounds with
      | none => exact ⟨none, trivial⟩
      | some bounds => exact ⟨some bounds.minimum, le_refl _, h bounds rfl⟩
    · rintro ⟨budget, h⟩ found rfl
      cases budget with
      | none => exact h.elim
      | some budget => exact h.1.trans h.2
  simp only [Completable, heffort, hbud, exists_and_left, exists_and_right]

/-- What the rule of a mode takes of the fields that are shown in it. -/
structure TakesShown (dialect : ReasoningWireDialect) (mode : ReasoningMode) (rule : ModeRule) :
    Prop where
  effort : effortEnabled dialect mode = true → ∀ effort ∈ (offeredValues dialect).efforts,
    effort ∈ rule.efforts
  summary : summaryEnabled dialect mode = true → ∀ summary ∈ (offeredValues dialect).summaries,
    TakesSummary rule.summaries summary

/-- Every mode of a dialect can be completed. -/
def ModesCompletable (dialect : ReasoningWireDialect) : Prop :=
  ∀ mode rule, modeRule dialect mode = some rule → Completable rule

theorem Offered.of_admits (hrule : modeRule dialect mode = some rule)
    (hadmits : rule.Admits settings) :
    Offered (renderReasoningControl family dialect shown) settings := by
  obtain ⟨hefforts, hbds, hsumm⟩ := fromOffered hrule
  obtain ⟨heffort, hbud, hsum⟩ := hadmits
  refine ⟨?_, ?_, hsum.imp id (hsumm _)⟩
  · intro effort heq
    rw [heq] at heffort
    exact hefforts effort heffort
  · intro budget heq
    rw [heq] at hbud
    cases hrules : rule.bounds with
    | none =>
      rw [hrules] at hbud
      exact hbud.elim
    | some bounds =>
      rw [hrules] at hbud hbds
      rcases hbds with hnone | hsome
      · cases hnone
      · exact ⟨bounds, hsome.symm, hbud⟩

theorem effortField_ne_hidden :
    (renderReasoningControl family dialect shown).effortField ≠ .hidden ↔
      effortEnabled dialect shown.mode = true := by
  cases h : effortEnabled dialect shown.mode with
  | false => simp [renderReasoningControl, h]
  | true => cases h' : isOpenRouter dialect <;> simp [renderReasoningControl, h, h']

theorem budgetField_ne_hidden :
    (renderReasoningControl family dialect shown).budgetField ≠ .hidden ↔
      budgetEnabled dialect shown.mode = true := by
  cases h : budgetEnabled dialect shown.mode <;> simp [renderReasoningControl, h]

theorem summaryField_ne_hidden :
    (renderReasoningControl family dialect shown).summaryField ≠ .hidden ↔
      summaryEnabled dialect shown.mode = true := by
  cases h : summaryEnabled dialect shown.mode <;> simp [renderReasoningControl, h]

/-- A budget field is shown for the bounds of the mode's rule. -/
theorem bounds_of_budgetEnabled (hrule : modeRule dialect mode = some rule)
    (h : budgetEnabled dialect mode = true) : rule.bounds = (offeredValues dialect).bounds := by
  rw [budgetEnabled, Bool.and_eq_true, Bool.and_eq_true, beq_iff_eq] at h
  obtain ⟨⟨_, rfl⟩, hbds⟩ := h
  cases dialect with
  | anthropicExtended =>
    cases hrule
    rfl
  | geminiThinkingBudget minimum maximum supportsZeroToDisable supportsAutomatic summaries =>
    cases modeRule_geminiBudget_enabled.symm.trans hrule
    rfl
  | _ => cases hbds

/-- **Agreement is a matter of the rules**: the rule of the mode takes what its fields show, and
    every mode can be completed. -/
theorem controlAgrees_iff_rules (hdial : dialect ≠ .unsupported)
    (haccs : ∀ settings' : ReasoningSettings,
      settings'.preserveOpaqueState = settings.preserveOpaqueState →
        (accepts settings' ↔ AdmitsMode dialect settings'))
    (hrule : modeRule dialect settings.mode = some rule) (hadmits : rule.Admits settings) :
    ControlAgrees accepts (renderReasoningControl family dialect settings) settings ↔
      ModesCompletable dialect ∧ TakesShown dialect settings.mode rule := by
  have hsame : ∀ settings' : ReasoningSettings,
      settings'.preserveOpaqueState = settings.preserveOpaqueState →
        settings'.mode = settings.mode → (accepts settings' ↔ rule.Admits settings') := by
    intro settings' hkeep hmode
    rw [haccs settings' hkeep]
    exact admitsMode_iff (hmode ▸ hrule)
  have heffort : ∀ effort, accepts { settings with effort := some effort } ↔
      effort ∈ rule.efforts := fun effort =>
    (hsame { settings with effort := some effort } rfl rfl).trans
      ⟨fun h => h.effort, fun h => ⟨h, hadmits.budget, hadmits.summary⟩⟩
  have hsum : ∀ summary, accepts { settings with summary } ↔
      TakesSummary rule.summaries summary := fun summary =>
    (hsame { settings with summary } rfl rfl).trans
      ⟨fun h => h.summary, fun h => ⟨hadmits.effort, hadmits.budget, h⟩⟩
  constructor
  · intro h
    refine ⟨?_, ?_, ?_⟩
    · intro mode rule' hrule'
      have hmem : mode ∈ (offeredValues dialect).modes :=
        (mem_modes_iff hdial).mpr (by rw [hrule']; rfl)
      obtain ⟨settings', rfl, hkeep, _, hacc⟩ := h.completes mode hmem
      have hadmits' := (admitsMode_iff hrule').mp ((haccs settings' hkeep).mp hacc)
      exact completable_iff.mpr ⟨_, _, hadmits'.effort, hadmits'.budget⟩
    · intro henabled effort hmem
      exact (heffort effort).mp (h.setEffort (effortField_ne_hidden.mpr henabled) effort hmem)
    · intro henabled summary hmem
      exact (hsum summary).mp (h.setSummary (summaryField_ne_hidden.mpr henabled) summary hmem)
  · rintro ⟨hcompletable, hshown⟩
    refine ⟨(mem_modes_iff hdial).mpr (by rw [hrule]; rfl), .of_admits hrule hadmits, ?_, ?_,
      ?_, ?_⟩
    · intro mode hmem
      obtain ⟨rule', hrule'⟩ := Option.isSome_iff_exists.mp ((mem_modes_iff hdial).mp hmem)
      obtain ⟨effort, budget, heffort, hbud⟩ := completable_iff.mp (hcompletable mode _ hrule')
      let settings' : ReasoningSettings :=
        ⟨mode, effort, budget, .providerDefault, settings.preserveOpaqueState⟩
      have hadmits' : rule'.Admits settings' := ⟨heffort, hbud, .inl rfl⟩
      exact ⟨settings', rfl, rfl, .of_admits hrule' hadmits',
        (haccs settings' rfl).mpr ⟨rule', hrule', hadmits'⟩⟩
    · intro hfield effort hmem
      exact (heffort effort).mpr (hshown.effort (effortField_ne_hidden.mp hfield) effort hmem)
    · intro hfield bounds hbds budget hminimum hmaximum
      have heq : rule.bounds = some bounds :=
        (bounds_of_budgetEnabled hrule (budgetField_ne_hidden.mp hfield)).trans hbds
      have hbud : TakesBudget rule.bounds (some budget) := by
        rw [heq]
        exact ⟨hminimum, hmaximum⟩
      exact (hsame { settings with budgetTokens := some budget } rfl rfl).mpr
        ⟨hadmits.effort, hbud, hadmits.summary⟩
    · intro hfield summary hmem
      exact (hsum summary).mpr (hshown.summary (summaryField_ne_hidden.mp hfield) summary hmem)

/-! ### Where the control agrees -/

theorem takesShown_iff :
    TakesShown dialect mode rule ↔
      (effortEnabled dialect mode = true → ∀ effort ∈ (offeredValues dialect).efforts,
        effort ∈ rule.efforts) ∧
      (summaryEnabled dialect mode = true → ∀ summary ∈ (offeredValues dialect).summaries,
        TakesSummary rule.summaries summary) :=
  ⟨fun h => ⟨h.effort, h.summary⟩, fun h => ⟨h.1, h.2⟩⟩

theorem completable_bare : Completable .bare := ⟨nofun, nofun⟩

/-- A mode that is off shows nothing. -/
theorem takesShown_disabled : TakesShown dialect .disabled rule := by
  constructor
  · intro h
    simp [effortEnabled] at h
  · intro h
    simp [summaryEnabled] at h

/-- A field that shows a value which is not taken has to be hidden. -/
theorem hidden_iff {values : List α} {p : α → Prop}
    (hnot : visible = true → ∃ value ∈ values, ¬ p value) :
    (visible = true → ∀ value ∈ values, p value) ↔ visible = false := by
  constructor
  · intro h
    by_contra hvisible
    rw [Bool.not_eq_false] at hvisible
    obtain ⟨value, hmem, hne⟩ := hnot hvisible
    exact hne (h hvisible value hmem)
  · rintro rfl ⟨⟩

/-- A rule that takes nothing goes with fields that are hidden: a field is shown only for a value
    to set. -/
theorem takesShown_bare_iff :
    TakesShown dialect mode .bare ↔
      effortEnabled dialect mode = false ∧ summaryEnabled dialect mode = false := by
  rw [takesShown_iff]
  refine and_congr (hidden_iff fun hshown => ?_) (hidden_iff fun hshown => ?_)
  · simp only [effortEnabled, Bool.and_eq_true, Bool.not_eq_true', isEmpty_eq_false_iff] at hshown
    obtain ⟨effort, hmem⟩ := exists_mem_of_ne_nil _ hshown.1.2
    exact ⟨effort, hmem, not_mem_nil⟩
  · simp only [summaryEnabled, Bool.and_eq_true] at hshown
    obtain ⟨summary, hmem, hne⟩ := any_eq_true.mp hshown.2
    exact ⟨summary, hmem, fun htaken => by simp [takesSummary_nil.mp htaken] at hne⟩

/-- Gemini takes a listed summary unless it is a level. -/
theorem takesToggles_iff :
    (∀ summary ∈ summariesWithProviderDefault summaries,
        TakesSummary (summaries.filter fun s => s = .disabled ∨ s = .automatic) summary) ↔
      .concise ∉ summaries ∧ .detailed ∉ summaries := by
  constructor
  · intro h
    constructor
    · intro hmem
      have htaken := h _ (mem_summariesWithProviderDefault.mpr (.inr hmem))
      simp [TakesSummary] at htaken
    · intro hmem
      have htaken := h _ (mem_summariesWithProviderDefault.mpr (.inr hmem))
      simp [TakesSummary] at htaken
  · rintro ⟨hconc, hdet⟩ summary hmem
    rw [takesSummary_toggles hconc hdet]
    exact mem_summariesWithProviderDefault.mp hmem

/-- A summary is offered beside the default. -/
theorem any_summariesWithProviderDefault :
    (summariesWithProviderDefault summaries).any (· != .providerDefault) = true ↔
      ∃ summary ∈ summaries, summary ≠ .providerDefault := by
  rw [any_eq_true]
  constructor
  · rintro ⟨summary, hmem, hne⟩
    rcases mem_summariesWithProviderDefault.mp hmem with rfl | hlisted
    · cases hne
    · exact ⟨summary, hlisted, by simpa using hne⟩
  · rintro ⟨summary, hmem, hne⟩
    exact ⟨summary, mem_summariesWithProviderDefault.mpr (.inr hmem), by simpa using hne⟩

/-- The efforts that a dialect's modes require are there to choose. -/
def EffortsListed : ReasoningWireDialect → Prop
  | .openAiResponses efforts _ _ => efforts ≠ []
  | .geminiThinkingLevel efforts supportsAutomatic _ => supportsAutomatic = true → efforts ≠ []
  | _ => True

/-- **The modes of checked metadata** can be completed where the required efforts are listed. -/
theorem modesCompletable_iff (hmeta : validateReasoningDialectMetadataShape dialect = .ok ()) :
    ModesCompletable dialect ↔ EffortsListed dialect := by
  constructor
  · intro h
    cases dialect with
    | openAiResponses => exact (h .enabled _ rfl).1 rfl
    | geminiThinkingLevel =>
      rintro rfl
      exact (h .automatic _ rfl).1 rfl
    | _ => trivial
  · intro hlisted mode rule hrule
    unfold modeRule at hrule
    split at hrule <;> first | cases hrule | split at hrule <;> cases hrule
    · exact completable_bare
    · exact ⟨fun _ => hlisted, nofun⟩
    · exact ⟨nofun, nofun⟩
    · exact ⟨fun _ => cons_ne_nil _ _, nofun⟩
    · exact completable_bare
    · exact ⟨fun hrequired => by simpa using hrequired, nofun⟩
    · exact completable_bare
    · exact ⟨nofun, nofun⟩
    · exact completable_bare
    · obtain ⟨_, _, hbds⟩ := bind_ok.mp (guard_ok.mp hmeta).2
      have hbds := require_ok.mp hbds
      exact ⟨nofun, fun bounds heq => Option.some.inj heq ▸ by dsimp only; omega⟩
    · exact completable_bare
    · exact ⟨fun _ => hlisted rfl, nofun⟩
    · have hbds := require_ok.mp (guard_ok.mp hmeta).2
      exact ⟨nofun, fun bounds heq => Option.some.inj heq ▸ by dsimp only; omega⟩
    · exact ⟨nofun, nofun⟩
    · exact ⟨nofun, nofun⟩
    · exact completable_bare
    · exact completable_bare
    · exact ⟨fun _ => (guard_ok.mp (guard_ok.mp hmeta).2).1, nofun⟩
    · exact completable_bare

/-- A rule takes what it shows where it lists what is offered. -/
theorem takesShown_of_offered (hefforts : (offeredValues dialect).efforts = rule.efforts)
    (hsumm : (offeredValues dialect).summaries =
      summariesWithProviderDefault rule.summaries) : TakesShown dialect mode rule := by
  refine ⟨fun _ effort hmem => hefforts ▸ hmem, fun _ summary hmem => ?_⟩
  rw [hsumm] at hmem
  exact mem_summariesWithProviderDefault.mp hmem

/-- In the provider's default mode, Gemini's effort is hidden and its summary is not. -/
theorem gemini_default_hidden (hdial : dialect ≠ .unsupported)
    (heffort : effortEnabled dialect .providerDefault = false)
    (hsum : showsSummary dialect .providerDefault = true)
    (hsumm : (offeredValues dialect).summaries = summariesWithProviderDefault summaries) :
    TakesShown dialect .providerDefault .bare ↔
      GeminiSummariesAgree summaries .providerDefault := by
  rw [takesShown_bare_iff, and_iff_right heffort]
  have hshown : summaryEnabled dialect .providerDefault = true ↔
      ∃ summary ∈ summaries, summary ≠ .providerDefault := by
    rw [← any_summariesWithProviderDefault, ← hsumm]
    simp [summaryEnabled, hdial, hsum]
  rw [← Bool.not_eq_true, hshown]
  simp [GeminiSummariesAgree]

/-- In its other modes, Gemini shows the summary if there is one to choose. -/
theorem gemini_takesShown_iff (hmode : mode = .enabled ∨ mode = .automatic)
    (hefforts : (offeredValues dialect).efforts = rule.efforts)
    (hshown : summaryEnabled dialect mode =
      (summariesWithProviderDefault summaries).any (· != .providerDefault))
    (hoffered : (offeredValues dialect).summaries = summariesWithProviderDefault summaries)
    (hsumm : rule.summaries = summaries.filter fun s => s = .disabled ∨ s = .automatic) :
    TakesShown dialect mode rule ↔ GeminiSummariesAgree summaries mode := by
  have hagree : GeminiSummariesAgree summaries mode ↔
      .concise ∉ summaries ∧ .detailed ∉ summaries := by
    rcases hmode with rfl | rfl <;> simp [GeminiSummariesAgree]
  rw [takesShown_iff, hefforts, and_iff_right (fun _ _ hmem => hmem), hoffered, hsumm, hshown,
    hagree]
  constructor
  · intro h
    by_cases hany : ∃ summary ∈ summaries, summary ≠ .providerDefault
    · exact takesToggles_iff.mp (h (any_summariesWithProviderDefault.mpr hany))
    · simp only [not_exists, not_and, not_not] at hany
      exact ⟨fun hmem => absurd (hany _ hmem) nofun, fun hmem => absurd (hany _ hmem) nofun⟩
  · intro h _
    exact takesToggles_iff.mpr h

/-- In the provider's default mode. -/
theorem showsWhatItTakes_default (hdial : dialect ≠ .unsupported) :
    EffortsListed dialect ∧ TakesShown dialect .providerDefault .bare ↔
      ShowsWhatItTakes dialect .providerDefault := by
  cases dialect with
  | unsupported => exact absurd rfl hdial
  | geminiThinkingLevel =>
    refine and_congr_right fun _ => ?_
    exact gemini_default_hidden nofun (by simp [effortEnabled, showsEffort]) rfl rfl
  | geminiThinkingBudget =>
    refine (and_iff_right trivial).trans ?_
    exact gemini_default_hidden nofun (by simp [effortEnabled, offeredValues]) rfl rfl
  | openAiResponses efforts =>
    refine and_congr_right fun hne => ?_
    have hne : efforts ≠ [] := hne
    rw [takesShown_bare_iff]
    simp [effortEnabled, showsEffort, offeredValues, hne]
  | _ =>
    rw [takesShown_bare_iff]
    simp [EffortsListed, effortEnabled, summaryEnabled, showsEffort, showsSummary, offeredValues,
      ShowsWhatItTakes]

/-- The rules of every dialect, of metadata that is checked. -/
theorem showsWhatItTakes_iff (hmeta : validateReasoningDialectMetadataShape dialect = .ok ())
    (hdial : dialect ≠ .unsupported) (hrule : modeRule dialect mode = some rule) :
    ModesCompletable dialect ∧ TakesShown dialect mode rule ↔ ShowsWhatItTakes dialect mode := by
  rw [modesCompletable_iff hmeta]
  unfold modeRule at hrule
  split at hrule <;> first | cases hrule | split at hrule <;> cases hrule
  · exact showsWhatItTakes_default hdial
  · exact and_congr_right fun _ => iff_of_true (takesShown_of_offered rfl rfl) nofun
  · exact and_congr_right fun _ => iff_of_true takesShown_disabled nofun
  · exact iff_of_true ⟨trivial, takesShown_of_offered rfl rfl⟩ nofun
  · exact iff_of_true ⟨trivial, takesShown_disabled⟩ nofun
  · exact iff_of_true ⟨trivial, takesShown_of_offered rfl rfl⟩ trivial
  · exact iff_of_true ⟨trivial, takesShown_disabled⟩ trivial
  · exact iff_of_true ⟨trivial, takesShown_of_offered rfl rfl⟩ nofun
  · exact iff_of_true ⟨trivial, takesShown_disabled⟩ nofun
  · exact iff_of_true ⟨trivial, takesShown_of_offered rfl rfl⟩ nofun
  · exact iff_of_true ⟨trivial, takesShown_disabled⟩ nofun
  · refine and_congr_right fun _ => gemini_takesShown_iff (.inr rfl) rfl ?_ rfl rfl
    simp [summaryEnabled, showsSummary, offeredValues]
  · refine (and_iff_right trivial).trans (gemini_takesShown_iff (.inl rfl) rfl ?_ rfl rfl)
    simp [summaryEnabled, showsSummary, offeredValues]
  · refine (and_iff_right trivial).trans (gemini_takesShown_iff (.inr rfl) rfl ?_ rfl rfl)
    simp [summaryEnabled, showsSummary, offeredValues]
  · exact iff_of_true ⟨trivial, takesShown_disabled⟩ ⟨nofun, by simp⟩
  · exact iff_of_true ⟨trivial, takesShown_of_offered rfl rfl⟩ trivial
  · exact iff_of_true ⟨trivial, takesShown_disabled⟩ trivial
  · exact iff_of_true ⟨trivial, takesShown_of_offered rfl rfl⟩ trivial
  · exact iff_of_true ⟨trivial, takesShown_disabled⟩ trivial

section Gate

variable {wire : WireFormat} {omitted : List String} {cache : PromptCacheSettings}
  {cacheDialect : PromptCacheWireDialect}

/-- **The control agrees with the gate** exactly where it shows what the dialect takes. -/
theorem reasoningControl_agrees_iff (hfam : validateReasoningDialectFamily family dialect = .ok ())
    (hmeta : validateReasoningDialectMetadataShape dialect = .ok ())
    (hdial : dialect ≠ .unsupported) (hkeep : settings.preserveOpaqueState = false)
    (hacc : Accepts wire family omitted settings dialect cache cacheDialect) :
    ControlAgrees
        (fun settings' => Accepts wire family omitted settings' dialect cache cacheDialect)
        (renderReasoningControl family dialect settings) settings ↔
      ShowsWhatItTakes dialect settings.mode := by
  obtain ⟨hcache, _, rule, hrule, hadmits⟩ := (accepts_iff hfam hmeta).mp hacc
  have haccs : ∀ settings' : ReasoningSettings,
      settings'.preserveOpaqueState = settings.preserveOpaqueState →
        (Accepts wire family omitted settings' dialect cache cacheDialect ↔
          AdmitsMode dialect settings') := by
    intro settings' hsame
    have hopaque : validateOpaqueReasoningPreservation family settings' = .ok () := by
      rw [validateOpaqueReasoningPreservation, require_ok, hsame, hkeep]
      simp
    rw [accepts_iff hfam hmeta, and_iff_right hcache, and_iff_right hopaque]
  rw [controlAgrees_iff_rules hdial haccs hrule hadmits]
  exact showsWhatItTakes_iff hmeta hdial hrule

/-- An effort that is chosen, of a model that has only that one. -/
theorem reasoningControl_agrees_iff_enabled :
    ControlAgrees
      (fun settings' => Accepts ⟨fun _ => .null, fun _ => none, fun _ => none⟩ .openAiResponses []
        settings' (.openAiResponses [.high] [.automatic] true) .default .unsupported)
      (renderReasoningControl .openAiResponses (.openAiResponses [.high] [.automatic] true)
        ⟨.enabled, some .high, none, .providerDefault, false⟩)
      ⟨.enabled, some .high, none, .providerDefault, false⟩ :=
  (reasoningControl_agrees_iff rfl rfl (by nofun) rfl ⟨_, rfl⟩).mpr (by exact ⟨nofun, nofun⟩)

/-- Nothing is chosen: the gate takes the settings, the control is ready and shows the effort, and
    the gate refuses the one that is offered. -/
theorem reasoningControl_shows_refused :
    Accepts ⟨fun _ => .null, fun _ => none, fun _ => none⟩ .openAiResponses [] .default
        (.openAiResponses [.high] [] false) .default .unsupported ∧
      (renderReasoningControl .openAiResponses (.openAiResponses [.high] [] false)
        .default).state = .ready ∧
      (renderReasoningControl .openAiResponses (.openAiResponses [.high] [] false)
        .default).effortField = .enabled ∧
      ¬ ControlAgrees
        (fun settings' => Accepts ⟨fun _ => .null, fun _ => none, fun _ => none⟩ .openAiResponses
          [] settings' (.openAiResponses [.high] [] false) .default .unsupported)
        (renderReasoningControl .openAiResponses (.openAiResponses [.high] [] false) .default)
        .default := by
  refine ⟨⟨_, rfl⟩, rfl, rfl, fun h => ?_⟩
  obtain ⟨plan, hplan⟩ := h.setEffort nofun .high (mem_singleton_self _)
  cases hplan

end Gate

end LorePia.Parameters
