import LorePia.Parameters.Patching

namespace LorePia.Parameters

open Lib List

/-!
# Parameters — the settings that a dialect takes

The mappings of the dialects check the settings on the way to the patches.  What they let through
is said here without them: a mode of a dialect has a rule, for the effort, the budget and the
summary apart (`modeRule`), or the dialect does not have the mode.

* `works_mapReasoning` — the mapping succeeds iff the rule of the mode admits the settings;
* `accepts_iff` — so does the gate, for a request without parameters.
-/

variable {minimum maximum : Nat} {style : OpenRouterReasoningWireStyle}
  {supportedEfforts : OpenRouterReasoningEffortSupport} {mandatory : Option Bool}

structure TokenBudgetBounds where
  minimum : Nat
  maximum : Nat

/-- The effort is one of those listed, or left out where it may be. -/
def TakesEffort (efforts : List ReasoningEffort) (required : Bool) :
    Option ReasoningEffort → Prop
  | none => required = false
  | some effort => effort ∈ efforts

/-- There is a budget where there are bounds, and only there. -/
def TakesBudget : Option TokenBudgetBounds → Option Nat → Prop
  | none, none => True
  | some bounds, some budget => bounds.minimum ≤ budget ∧ budget ≤ bounds.maximum
  | _, _ => False

def TakesSummary (summaries : List ReasoningSummaryMode) (summary : ReasoningSummaryMode) : Prop :=
  summary = .providerDefault ∨ summary ∈ summaries

theorem takesEffort_nil :
    TakesEffort [] false effort ↔ effort = none := by
  cases effort <;> simp [TakesEffort]

theorem takesBudget_none :
    TakesBudget none budgetTokens ↔ budgetTokens = none := by
  cases budgetTokens <;> simp [TakesBudget]

theorem takesSummary_nil :
    TakesSummary [] summary ↔ summary = .providerDefault := by
  simp [TakesSummary]

/-- What the settings may hold in a mode. -/
structure ModeRule where
  efforts : List ReasoningEffort
  effortRequired : Bool
  bounds : Option TokenBudgetBounds
  summaries : List ReasoningSummaryMode

namespace ModeRule

/-- Nothing beside the mode. -/
def bare : ModeRule := ⟨[], false, none, []⟩

/-- The rule admits settings of its mode. -/
structure Admits (rule : ModeRule) (settings : ReasoningSettings) : Prop where
  effort : TakesEffort rule.efforts rule.effortRequired settings.effort
  budget : TakesBudget rule.bounds settings.budgetTokens
  summary : TakesSummary rule.summaries settings.summary

theorem admits_iff {rule : ModeRule} :
    rule.Admits settings ↔ TakesEffort rule.efforts rule.effortRequired settings.effort ∧
      TakesBudget rule.bounds settings.budgetTokens ∧
        TakesSummary rule.summaries settings.summary :=
  ⟨fun h => ⟨h.effort, h.budget, h.summary⟩, fun h => ⟨h.1, h.2.1, h.2.2⟩⟩

theorem bare_admits_iff :
    bare.Admits settings ↔ settings.effort = none ∧ settings.budgetTokens = none ∧
      settings.summary = .providerDefault :=
  admits_iff.trans (and_congr takesEffort_nil (and_congr takesBudget_none takesSummary_nil))

end ModeRule

/-- The rule of a mode, unless the dialect does not have it. -/
def modeRule : ReasoningWireDialect → ReasoningMode → Option ModeRule
  | _, .providerDefault => some .bare
  | .openAiResponses efforts summaries _, .enabled => some ⟨efforts, true, none, summaries⟩
  | .openAiResponses _ summaries true, .disabled =>
    some ⟨[], false, none, summaries.filter (· = .disabled)⟩
  | .openAiChatCompletions (effort :: efforts) _, .enabled =>
    some ⟨effort :: efforts, true, none, []⟩
  | .openAiChatCompletions _ true, .disabled => some .bare
  | .openRouter style supportedEfforts .., .enabled =>
    let efforts := openrouterReasoningEfforts supportedEfforts
    if openrouterSupportsEnabled style supportedEfforts then
      some ⟨efforts, !efforts.isEmpty, none, []⟩
    else none
  | .openRouter style supportedEfforts _ _ _ mandatory, .disabled =>
    if openrouterSupportsDisabled style supportedEfforts mandatory then some .bare else none
  | .anthropicAdaptive efforts summaries _, .automatic => some ⟨efforts, false, none, summaries⟩
  | .anthropicAdaptive _ _ true, .disabled => some .bare
  | .anthropicExtended minimum maximum efforts summaries _, .enabled =>
    some ⟨efforts, false, some ⟨minimum, maximum⟩, summaries⟩
  | .anthropicExtended _ _ _ _ true, .disabled => some .bare
  | .geminiThinkingLevel efforts true summaries, .automatic =>
    some ⟨efforts, true, none, summaries.filter fun s => s = .disabled ∨ s = .automatic⟩
  | .geminiThinkingBudget minimum maximum _ _ summaries, .enabled =>
    some ⟨[], false, some ⟨minimum, maximum⟩,
      summaries.filter fun s => s = .disabled ∨ s = .automatic⟩
  | .geminiThinkingBudget _ _ _ true summaries, .automatic =>
    some ⟨[], false, none, summaries.filter fun s => s = .disabled ∨ s = .automatic⟩
  | .geminiThinkingBudget _ _ true _ summaries, .disabled =>
    some ⟨[], false, none, summaries.filter (· = .disabled)⟩
  | .ollamaBoolean, .enabled => some .bare
  | .ollamaBoolean, .disabled => some .bare
  | .ollamaLevel efforts _, .enabled => some ⟨efforts, true, none, []⟩
  | .ollamaLevel _ true, .disabled => some .bare
  | _, _ => none

/-! ### Sources that succeed -/

/-- The source of patches succeeds on its own. -/
def Works (f : Patches → Except ParameterEngineError Patches) : Prop :=
  ∃ patches, f .empty = .ok patches

variable {value : Json}

theorem works_ok : Works .ok := ⟨.empty, rfl⟩

theorem not_works_error : ¬ Works fun _ => .error e := by
  rintro ⟨patches, h⟩
  cases h

theorem works_insert : Works fun patches => insertNormalizedPatch patches path value :=
  ⟨_, insertNormalizedPatch_ok.mpr ⟨rfl, rfl⟩⟩

theorem works_require {c : Prop} [Decidable c] :
    (Works fun patches => require c e >>= fun _ => f patches) ↔ c ∧ Works f := by
  simp only [Works, guard_ok, exists_and_left]

theorem works_ite {c : Prop} [Decidable c] :
    (Works fun patches => if c then f patches else .error e) ↔ c ∧ Works f := by
  by_cases hc : c
  · simp only [if_pos hc]
    exact ⟨fun h => ⟨hc, h⟩, fun h => h.2⟩
  · simp only [if_neg hc]
    exact ⟨fun h => absurd h not_works_error, fun h => absurd h.1 hc⟩

/-- A source that succeeds on its own succeeds wherever its paths are free. -/
theorem Framed.works_iff (hf : Framed paths f) (hfree : ∀ path ∈ paths, patches.get? path = none) :
    (∃ patches', f patches = .ok patches') ↔ Works f := by
  cases hf with
  | fails hf =>
    constructor
    · rintro ⟨patches', h⟩
      exact absurd h (hf patches patches')
    · rintro ⟨patches', h⟩
      exact absurd h (hf .empty patches')
  | adds writes hpaths hf =>
    constructor
    · rintro ⟨patches', h⟩
      obtain ⟨alone, halone⟩ : ∃ alone, Adds writes .empty alone :=
        exists_adds ((hf patches patches').mp h).nodup fun _ _ => rfl
      exact ⟨alone, (hf .empty alone).mpr halone⟩
    · rintro ⟨alone, h⟩
      obtain ⟨patches', hadds⟩ : ∃ patches', Adds writes patches patches' :=
        exists_adds ((hf .empty alone).mp h).nodup fun write hmem => hfree write.1 (hpaths write hmem)
      exact ⟨patches', (hf patches patches').mpr hadds⟩

/-- What a source writes is all that is there afterwards. -/
theorem Framed.get?_eq_none (hf : Framed paths f) (h : f .empty = .ok patches)
    (hpath : path ∉ paths) : patches.get? path = none := by
  obtain ⟨writes, alone, _, halone, hperm, hpaths⟩ := hf.alone h
  rw [SortedMap.get?_eq_none]
  intro value hmem
  obtain rfl := Except.ok.inj (h.symm.trans halone)
  exact hpath (hpaths (path, value) (hperm.mem_iff.mp hmem))

/-- Two sources of different paths. -/
theorem works_bind (hf : Framed paths f) (hg : Framed paths' g)
    (hdisj : ∀ path ∈ paths', path ∉ paths) :
    (Works fun patches => f patches >>= g) ↔ Works f ∧ Works g := by
  have hsnd : ∀ {patches}, f .empty = .ok patches →
      ((∃ patches', g patches = .ok patches') ↔ Works g) := by
    intro patches h
    exact hg.works_iff fun path hmem => hf.get?_eq_none h (hdisj path hmem)
  constructor
  · rintro ⟨patches', h⟩
    obtain ⟨patches, hfirst, h⟩ := bind_ok.mp h
    exact ⟨⟨patches, hfirst⟩, (hsnd hfirst).mp ⟨patches', h⟩⟩
  · rintro ⟨⟨patches, hfirst⟩, hworks⟩
    obtain ⟨patches', h⟩ := (hsnd hfirst).mpr hworks
    exact ⟨patches', then_ok hfirst h⟩

/-! ### Levels -/

variable {efforts : List ReasoningEffort} {summary : ReasoningSummaryMode}
  {summaries : List ReasoningSummaryMode}

/-- An effort that is there is one of those allowed, required or not. -/
theorem works_requireEffort {next : Option String → Patches → Except ParameterEngineError Patches}
    (hnext : ∀ wire, Works (next (some wire))) :
    (Works fun patches => requireEffort (some effort) efforts required >>=
        fun wire => next wire patches) ↔ effort ∈ efforts := by
  simp only [requireEffort, bind_assoc, pure_bind]
  exact works_require.trans (and_iff_left (hnext _))

theorem works_insertOptionalEffort :
    (Works fun patches => insertOptionalEffort patches path effort efforts) ↔
      TakesEffort efforts false effort := by
  cases effort with
  | none => exact ⟨fun _ => rfl, fun _ => works_ok⟩
  | some effort => exact works_requireEffort fun _ => works_insert

theorem works_insertRequiredEffort :
    (Works fun patches => insertRequiredEffort patches path effort efforts) ↔
      TakesEffort efforts true effort := by
  cases effort with
  | none => exact ⟨fun h => absurd h not_works_error, nofun⟩
  | some effort => exact works_requireEffort fun _ => works_insert

theorem works_mapSummaryToggle {hidden shown : Json} :
    Works (mapSummaryToggle path hidden shown noLevels summary summaries) ↔
      TakesSummary (summaries.filter fun s => s = .disabled ∨ s = .automatic) summary := by
  unfold mapSummaryToggle requireSummary TakesSummary
  rw [works_require]
  cases summary with
  | providerDefault => simpa using works_ok
  | disabled => simpa using fun _ => works_insert
  | automatic => simpa using fun _ => works_insert
  | concise => simpa using fun _ => not_works_error
  | detailed => simpa using fun _ => not_works_error

theorem works_requireBudget {next : Nat → Patches → Except ParameterEngineError Patches}
    (hnext : ∀ budget, Works (next budget)) :
    (Works fun patches => requireBudget budgetTokens minimum maximum missing outside >>=
        fun budget => next budget patches) ↔
      TakesBudget (some ⟨minimum, maximum⟩) budgetTokens := by
  cases budgetTokens with
  | none => exact ⟨fun h => absurd h not_works_error, nofun⟩
  | some budget =>
    simp only [requireBudget, okOr, ok_bind, bind_assoc, pure_bind]
    refine works_require.trans ((and_iff_left (hnext budget)).trans ?_)
    rw [not_or, Nat.not_lt, Nat.not_lt]
    exact Iff.rfl

/-! ### The dialects -/

section Dialects

variable {settings : ReasoningSettings} {dialect : ReasoningWireDialect} {rule : ModeRule}
  {supportsDisabled : Bool}

/-- The dialect has the mode of the settings, and its rule admits them. -/
def AdmitsMode (dialect : ReasoningWireDialect) (settings : ReasoningSettings) : Prop :=
  ∃ rule, modeRule dialect settings.mode = some rule ∧ rule.Admits settings

theorem admitsMode_iff (h : modeRule dialect settings.mode = some rule) :
    AdmitsMode dialect settings ↔ rule.Admits settings := by
  simp only [AdmitsMode, h, Option.some.injEq, exists_eq_left']

theorem not_admitsMode (h : modeRule dialect settings.mode = none) :
    ¬ AdmitsMode dialect settings := by
  rintro ⟨rule, hrule, _⟩
  rw [h] at hrule
  cases hrule

/-- What the shape of the settings excludes: overrides of a default, and of a mode that is off. -/
structure Shaped (settings : ReasoningSettings) : Prop where
  disabled : settings.mode = .disabled → settings.effort = none ∧ settings.budgetTokens = none ∧
    (settings.summary = .providerDefault ∨ settings.summary = .disabled)
  default : settings.mode = .providerDefault → settings.effort = none ∧
    settings.budgetTokens = none ∧ settings.summary = .providerDefault

theorem validateReasoningShape_ok :
    validateReasoningShape settings = .ok () ↔ Shaped settings := by
  obtain ⟨mode, effort, budget, summary, keep⟩ := settings
  rw [validateReasoningShape, guard_ok, require_ok]
  constructor
  · rintro ⟨hdis, hdflt⟩
    constructor
    · rintro rfl
      simpa [or_iff_not_imp_left] using hdis
    · rintro rfl
      simpa using hdflt
  · rintro ⟨hdis, hdflt⟩
    constructor
    · rintro ⟨rfl, h⟩
      simp_all
    · rintro ⟨rfl, h⟩
      obtain ⟨rfl, rfl, rfl⟩ := hdflt rfl
      simp at h

/-- The summary of OpenAI's responses, checked and written. -/
def writeOpenAiSummary (summary : ReasoningSummaryMode) (summaries : List ReasoningSummaryMode)
    (patches : Patches) : Except ParameterEngineError Patches :=
  requireSummary summary summaries >>= fun _ => insertOpenAiSummary summary patches

theorem framed_writeOpenAiSummary :
    Framed ["reasoning.summary"] (writeOpenAiSummary summary summaries) := by
  refine Framed.lift fun _ _ => ?_
  unfold insertOpenAiSummary
  cases openAiSummaryWire summary with
  | none => exact framed_ok
  | some summary => exact framed_insert (mem_singleton_self _)

theorem works_writeOpenAiSummary :
    Works (writeOpenAiSummary summary summaries) ↔ TakesSummary summaries summary := by
  have hinsert : Works (insertOpenAiSummary summary) := by
    cases summary with
    | providerDefault => exact works_ok
    | disabled => exact works_ok
    | automatic => exact works_insert
    | concise => exact works_insert
    | detailed => exact works_insert
  unfold writeOpenAiSummary requireSummary
  rw [works_require, not_and_or, not_not, not_not]
  exact ⟨fun h => h.1, fun h => ⟨h, hinsert⟩⟩

theorem works_mapOpenAiMode (hmode : settings.mode ≠ .providerDefault) :
    Works (mapOpenAiMode path cannotDisable noAutomatic settings efforts supportsDisabled) ↔
      settings.mode = .disabled ∧ supportsDisabled = true ∨
        settings.mode = .enabled ∧ TakesEffort efforts true settings.effort := by
  unfold mapOpenAiMode
  cases h : settings.mode with
  | providerDefault => exact absurd h hmode
  | automatic => simpa using not_works_error
  | disabled =>
    rw [works_ite]
    simpa using fun _ => works_insert
  | enabled =>
    rw [works_insertRequiredEffort]
    simp

open ModeRule

theorem works_mapOpenaiResponsesReasoning (hshaped : Shaped settings)
    (hmode : settings.mode ≠ .providerDefault) :
    Works (mapOpenaiResponsesReasoning settings efforts summaries supportsDisabled) ↔
      AdmitsMode (.openAiResponses efforts summaries supportsDisabled) settings := by
  refine (works_require.trans (and_congr_right fun _ => (works_bind
    (framed_mapOpenAiMode (mem_singleton_self _)) framed_writeOpenAiSummary (by decide)).trans
      (and_congr (works_mapOpenAiMode hmode) works_writeOpenAiSummary))).trans ?_
  obtain ⟨mode, effort, budget, summary, keep⟩ := settings
  cases mode with
  | providerDefault => exact absurd rfl hmode
  | automatic =>
    refine iff_of_false (by simp) (not_admitsMode ?_)
    cases supportsDisabled <;> rfl
  | disabled =>
    obtain ⟨rfl, rfl, hsum⟩ := hshaped.disabled rfl
    cases supportsDisabled with
    | false => exact iff_of_false (by simp) (not_admitsMode rfl)
    | true =>
      rw [admitsMode_iff rfl, admits_iff, takesEffort_nil, takesBudget_none]
      rcases hsum with rfl | rfl <;> simp [TakesSummary]
  | enabled =>
    rw [admitsMode_iff rfl, admits_iff, takesBudget_none]
    simp only [reduceCtorEq, false_and, true_and, false_or]
    exact and_left_comm

theorem works_mapOpenaiChatReasoning (hshaped : Shaped settings)
    (hmode : settings.mode ≠ .providerDefault) :
    Works (mapOpenaiChatReasoning settings efforts supportsDisabled) ∧
        settings.summary = .providerDefault ↔
      AdmitsMode (.openAiChatCompletions efforts supportsDisabled) settings := by
  unfold mapOpenaiChatReasoning
  rw [works_require, works_mapOpenAiMode hmode]
  obtain ⟨mode, effort, budget, summary, keep⟩ := settings
  cases mode with
  | providerDefault => exact absurd rfl hmode
  | automatic =>
    refine iff_of_false (by simp) (not_admitsMode ?_)
    cases supportsDisabled <;> rfl
  | disabled =>
    obtain ⟨rfl, rfl, hsum⟩ := hshaped.disabled rfl
    cases supportsDisabled with
    | false => exact iff_of_false (by simp) (not_admitsMode rfl)
    | true =>
      rw [admitsMode_iff rfl, bare_admits_iff]
      simp
  | enabled =>
    cases efforts with
    | nil =>
      refine iff_of_false ?_ (not_admitsMode rfl)
      cases effort <;> simp [TakesEffort]
    | cons first efforts =>
      rw [admitsMode_iff rfl, admits_iff, takesBudget_none, takesSummary_nil]
      simp only [reduceCtorEq, false_and, true_and, false_or]
      exact and_assoc.trans and_left_comm

theorem works_insertOpenrouterBooleanPatch_false :
    Works fun patches => insertOpenrouterBooleanPatch style patches false := by
  cases style with
  | unified => exact works_insert
  | legacyReasoningEffort => exact works_insert

/-- Without an effort, OpenRouter is enabled as a whole; its older style has no word for that. -/
theorem works_mapOpenrouterEnabled :
    Works (mapOpenrouterEnabled settings style supportedEfforts) ↔
      openrouterSupportsEnabled style supportedEfforts = true ∧
        TakesEffort (openrouterReasoningEfforts supportedEfforts)
          (!(openrouterReasoningEfforts supportedEfforts).isEmpty) settings.effort := by
  refine works_require.trans (and_congr_right fun hsupports => ?_)
  cases heffort : settings.effort with
  | some effort => exact works_requireEffort fun _ => works_insert
  | none =>
    by_cases hempty : (openrouterReasoningEfforts supportedEfforts).isEmpty = true
    · have hunified : style = .unified := by
        cases style with
        | unified => rfl
        | legacyReasoningEffort =>
          -- a style without a boolean is supported only where an effort is exposed
          exfalso
          cases supportedEfforts with
          | notExposed => cases hsupports
          | allGateway => cases hempty
          | exact efforts =>
            obtain ⟨effort, hmem, hne⟩ := any_eq_true.mp hsupports
            obtain ⟨found, hfound⟩ : ∃ found, openrouterEffortToReasoningEffort effort =
                some found := by
              cases effort <;> simp_all [openrouterEffortToReasoningEffort]
            have hfilter := mem_filterMap.mpr ⟨effort, hmem, hfound⟩
            rw [List.isEmpty_iff] at hempty
            rw [openrouterReasoningEfforts] at hempty
            exact absurd hfilter (hempty ▸ not_mem_nil)
      subst hunified
      simp only [hempty, Bool.not_true]
      exact ⟨fun _ => rfl, fun _ => works_insert⟩
    · rw [Bool.not_eq_true] at hempty
      simp only [hempty, Bool.not_false]
      exact ⟨fun h => absurd h not_works_error, nofun⟩

theorem works_mapOpenrouterReasoning {defaultEffort : Option OpenRouterReasoningEffort}
    {defaultEnabled : Option Bool}
    (hstyle : validateOpenrouterReasoningStyle style supportedEfforts = .ok ())
    (hshaped : Shaped settings) (hmode : settings.mode ≠ .providerDefault) :
    Works (mapOpenrouterReasoning settings style supportedEfforts supportsMaxTokens mandatory) ↔
      AdmitsMode (.openRouter style supportedEfforts defaultEffort defaultEnabled
        supportsMaxTokens mandatory) settings := by
  unfold mapOpenrouterReasoning
  rw [hstyle]
  refine (works_require.trans (and_congr_right fun _ => works_require)).trans ?_
  unfold mapOpenrouterMode
  obtain ⟨mode, effort, budget, summary, keep⟩ := settings
  cases mode with
  | providerDefault => exact absurd rfl hmode
  | automatic => exact iff_of_false (fun h => not_works_error h.2.2) (not_admitsMode rfl)
  | disabled =>
    obtain ⟨rfl, rfl, _⟩ := hshaped.disabled rfl
    by_cases hdis : openrouterSupportsDisabled style supportedEfforts mandatory = true
    · have hrule : modeRule (.openRouter style supportedEfforts defaultEffort defaultEnabled
          supportsMaxTokens mandatory) .disabled = some .bare := if_pos hdis
      rw [admitsMode_iff hrule, bare_admits_iff]
      simp only [if_pos hdis, works_insertOpenrouterBooleanPatch_false, and_true, true_and]
    · have hrule : modeRule (.openRouter style supportedEfforts defaultEffort defaultEnabled
          supportsMaxTokens mandatory) .disabled = none := if_neg hdis
      simp only [if_neg hdis]
      exact iff_of_false (fun h => not_works_error h.2.2) (not_admitsMode hrule)
  | enabled =>
    by_cases henabled : openrouterSupportsEnabled style supportedEfforts = true
    · have hrule : modeRule (.openRouter style supportedEfforts defaultEffort defaultEnabled
          supportsMaxTokens mandatory) .enabled = some ⟨openrouterReasoningEfforts
            supportedEfforts, !(openrouterReasoningEfforts supportedEfforts).isEmpty, none, []⟩ :=
        if_pos henabled
      rw [admitsMode_iff hrule, admits_iff, takesBudget_none, takesSummary_nil]
      rw [works_mapOpenrouterEnabled]
      simp only [henabled, true_and]
      exact ⟨fun h => ⟨h.2.2, h.1, h.2.1⟩, fun h => ⟨h.2.1, h.2.2, h.1⟩⟩
    · have hrule : modeRule (.openRouter style supportedEfforts defaultEffort defaultEnabled
          supportsMaxTokens mandatory) .enabled = none := if_neg henabled
      refine iff_of_false (fun h => ?_) (not_admitsMode hrule)
      exact henabled (works_mapOpenrouterEnabled.mp h.2.2).1

/-! #### Anthropic -/

/-- Where there are no levels, a summary that is listed is a toggle. -/
theorem takesSummary_toggles (hconc : .concise ∉ summaries) (hdet : .detailed ∉ summaries) :
    TakesSummary (summaries.filter fun s => s = .disabled ∨ s = .automatic) summary ↔
      TakesSummary summaries summary := by
  cases summary <;> simp [TakesSummary, hconc, hdet]

theorem framed_levels :
    Framed ["output_config.effort", "thinking.display"]
      (mapAnthropicLevels settings efforts summaries) :=
  Framed.bind (framed_insertOptionalEffort (by decide)) (framed_mapSummaryToggle (by decide))

theorem works_mapAnthropicLevels (hconc : .concise ∉ summaries) (hdet : .detailed ∉ summaries) :
    Works (mapAnthropicLevels settings efforts summaries) ↔
      TakesEffort efforts false settings.effort ∧ TakesSummary summaries settings.summary := by
  rw [← takesSummary_toggles hconc hdet, ← works_insertOptionalEffort, ← works_mapSummaryToggle]
  exact works_bind (framed_insertOptionalEffort (mem_singleton_self _))
    (framed_mapSummaryToggle (mem_singleton_self _)) (by decide)

/-- What Anthropic refuses first, of settings that are well shaped. -/
theorem validateAnthropicSettings_ok (hmode : settings.mode ≠ .providerDefault) :
    validateAnthropicSettings settings = .ok () ↔
      (settings.mode = .disabled → settings.effort = none ∧ settings.summary = .providerDefault) := by
  rw [validateAnthropicSettings, guard_ok, require_ok]
  constructor
  · rintro ⟨_, h⟩ hdis
    simpa [hdis] using h
  · intro h
    refine ⟨fun hdflt => hmode hdflt.1, ?_⟩
    rintro ⟨hdis, hlevels⟩
    obtain ⟨heffort, hsum⟩ := h hdis
    simp [heffort, hsum] at hlevels

theorem works_lift {α : Type} {x : Except ParameterEngineError α} {a : α} (hx : x = .ok a)
    {F : α → Patches → Except ParameterEngineError Patches} :
    (Works fun patches => x >>= fun a => F a patches) ↔ Works (F a) := by
  rw [hx]
  exact Iff.rfl

theorem works_mapAnthropicDisabled :
    Works (mapAnthropicDisabled supportsDisabled) ↔ supportsDisabled = true := by
  unfold mapAnthropicDisabled
  rw [works_ite]
  exact ⟨fun h => h.1, fun h => ⟨h, works_insert⟩⟩

/-- Both dialects of Anthropic switch thinking off alike. -/
theorem works_anthropic_disabled {F : Patches → Except ParameterEngineError Patches}
    (hdis : settings.mode = .disabled) (hshaped : Shaped settings)
    (hF : Works F ↔ supportsDisabled = true) :
    (Works fun patches => validateAnthropicSettings settings >>= fun _ => F patches) ↔
      supportsDisabled = true ∧ ModeRule.bare.Admits settings := by
  have hmode : settings.mode ≠ .providerDefault := by
    rw [hdis]
    nofun
  obtain ⟨heffort, hbud, _⟩ := hshaped.disabled hdis
  rw [ModeRule.bare_admits_iff]
  by_cases hsum : settings.summary = .providerDefault
  · have hok := (validateAnthropicSettings_ok hmode).mpr fun _ => ⟨heffort, hsum⟩
    rw [works_lift hok, hF]
    simp [heffort, hbud, hsum]
  · refine iff_of_false ?_ fun h => hsum h.2.2.2
    rintro ⟨patches, h⟩
    obtain ⟨_, hok, _⟩ := bind_ok.mp h
    exact hsum ((validateAnthropicSettings_ok hmode).mp hok hdis).2

theorem works_mapAnthropicAdaptive (hconc : .concise ∉ summaries)
    (hdet : .detailed ∉ summaries) (hshaped : Shaped settings)
    (hmode : settings.mode ≠ .providerDefault) :
    Works (mapAnthropicAdaptive settings efforts summaries supportsDisabled) ↔
      AdmitsMode (.anthropicAdaptive efforts summaries supportsDisabled) settings := by
  unfold mapAnthropicAdaptive
  rw [works_require]
  obtain ⟨mode, effort, budget, summary, keep⟩ := settings
  cases mode with
  | providerDefault => exact absurd rfl hmode
  | disabled =>
    rw [works_anthropic_disabled rfl hshaped works_mapAnthropicDisabled]
    have hbud : budget = none := (hshaped.disabled rfl).2.1
    cases supportsDisabled with
    | false => exact iff_of_false (by simp) (not_admitsMode rfl)
    | true =>
      rw [admitsMode_iff rfl]
      simp [hbud]
  | automatic =>
    have hok := (validateAnthropicSettings_ok hmode).mpr (by simp)
    rw [admitsMode_iff rfl, admits_iff, takesBudget_none, works_lift hok]
    refine (and_congr_right fun _ => (works_bind (framed_insert (mem_singleton_self _))
      framed_levels (by decide)).trans
        (and_congr_right fun _ => works_mapAnthropicLevels hconc hdet)).trans ?_
    simp only [works_insert, true_and]
    exact and_left_comm
  | enabled => exact iff_of_false (fun h => not_works_error h.2) (not_admitsMode rfl)

theorem works_mapAnthropicEnabled :
    Works (mapAnthropicEnabled settings minimum maximum) ↔
      TakesBudget (some ⟨minimum, maximum⟩) settings.budgetTokens := by
  refine works_requireBudget fun budget => ?_
  exact (works_bind (framed_insert (mem_singleton_self _))
    (framed_insert (mem_singleton_self _)) (by decide)).mpr ⟨works_insert, works_insert⟩

theorem framed_mapAnthropicEnabled :
    Framed ["thinking.type", "thinking.budget_tokens"]
      (mapAnthropicEnabled settings minimum maximum) :=
  Framed.lift fun _ _ => Framed.bind (framed_insert (by decide)) (framed_insert (by decide))

theorem works_mapAnthropicExtended (hconc : .concise ∉ summaries)
    (hdet : .detailed ∉ summaries) (hshaped : Shaped settings)
    (hmode : settings.mode ≠ .providerDefault) :
    Works (mapAnthropicExtended settings minimum maximum efforts summaries supportsDisabled) ↔
      AdmitsMode (.anthropicExtended minimum maximum efforts summaries supportsDisabled)
        settings := by
  unfold mapAnthropicExtended
  obtain ⟨mode, effort, budget, summary, keep⟩ := settings
  cases mode with
  | providerDefault => exact absurd rfl hmode
  | disabled =>
    rw [works_anthropic_disabled rfl hshaped works_mapAnthropicDisabled]
    cases supportsDisabled with
    | false => exact iff_of_false (by simp) (not_admitsMode rfl)
    | true =>
      rw [admitsMode_iff rfl]
      simp
  | automatic => exact iff_of_false not_works_error (not_admitsMode rfl)
  | enabled =>
    have hok := (validateAnthropicSettings_ok hmode).mpr (by simp)
    rw [admitsMode_iff rfl, ModeRule.admits_iff, works_lift hok]
    refine ((works_bind framed_mapAnthropicEnabled framed_levels (by decide)).trans
      (and_congr works_mapAnthropicEnabled (works_mapAnthropicLevels hconc hdet))).trans ?_
    exact and_left_comm

/-! #### Gemini and Ollama -/

/-- The level of Gemini's thinking, in the one mode that has levels. -/
theorem works_mapGeminiLevelMode (hmode : settings.mode ≠ .providerDefault) :
    Works (mapGeminiLevelMode settings efforts supportsAutomatic) ↔
      settings.mode = .automatic ∧ supportsAutomatic = true ∧
        TakesEffort efforts true settings.effort := by
  unfold mapGeminiLevelMode
  cases h : settings.mode with
  | providerDefault => exact absurd h hmode
  | disabled => simpa using not_works_error
  | automatic =>
    rw [works_ite, works_insertRequiredEffort]
    simp
  | enabled => simpa using not_works_error

theorem framed_mapGeminiLevelMode :
    Framed ["generationConfig.thinkingConfig.thinkingLevel"]
      (mapGeminiLevelMode settings efforts supportsAutomatic) := by
  unfold mapGeminiLevelMode
  cases settings.mode with
  | providerDefault => exact Framed.lift fun _ _ => framed_ok
  | disabled | enabled => exact framed_error
  | automatic =>
    exact Framed.ite (fun _ => framed_insertRequiredEffort (mem_singleton_self _))
      fun _ => framed_error

theorem works_mapGeminiLevel (hmode : settings.mode ≠ .providerDefault) :
    Works (mapGeminiLevel settings efforts supportsAutomatic summaries) ↔
      AdmitsMode (.geminiThinkingLevel efforts supportsAutomatic summaries) settings := by
  refine (works_require.trans (and_congr_right fun _ => (works_bind framed_mapGeminiLevelMode
    (framed_mapSummaryToggle (mem_singleton_self _)) (by decide)).trans
      (and_congr (works_mapGeminiLevelMode hmode) works_mapSummaryToggle))).trans ?_
  obtain ⟨mode, effort, budget, summary, keep⟩ := settings
  cases mode with
  | providerDefault => exact absurd rfl hmode
  | disabled =>
    refine iff_of_false (by simp) (not_admitsMode ?_)
    cases supportsAutomatic <;> rfl
  | enabled =>
    refine iff_of_false (by simp) (not_admitsMode ?_)
    cases supportsAutomatic <;> rfl
  | automatic =>
    cases supportsAutomatic with
    | false => exact iff_of_false (by simp) (not_admitsMode rfl)
    | true =>
      rw [admitsMode_iff rfl, admits_iff, takesBudget_none]
      simp only [true_and]
      exact and_left_comm

/-- The budget of Gemini's thinking: none to switch it off or to leave it to the model. -/
theorem works_mapGeminiBudgetMode (hmode : settings.mode ≠ .providerDefault) :
    Works (mapGeminiBudgetMode settings minimum maximum supportsZeroToDisable supportsAutomatic) ↔
      settings.mode = .disabled ∧ supportsZeroToDisable = true ∨
      settings.mode = .automatic ∧ supportsAutomatic = true ∧ settings.budgetTokens = none ∨
      settings.mode = .enabled ∧ TakesBudget (some ⟨minimum, maximum⟩) settings.budgetTokens := by
  unfold mapGeminiBudgetMode
  cases h : settings.mode with
  | providerDefault => exact absurd h hmode
  | disabled =>
    rw [works_ite]
    simpa using fun _ => works_insert
  | automatic =>
    rw [works_ite, works_require]
    simpa using fun _ _ => works_insert
  | enabled =>
    rw [works_requireBudget fun _ => works_insert]
    simp

theorem framed_mapGeminiBudgetMode :
    Framed ["generationConfig.thinkingConfig.thinkingBudget"]
      (mapGeminiBudgetMode settings minimum maximum supportsZeroToDisable supportsAutomatic) := by
  unfold mapGeminiBudgetMode
  cases settings.mode with
  | providerDefault => exact framed_ok
  | disabled =>
    exact Framed.ite (fun _ => framed_insert (mem_singleton_self _)) fun _ => framed_error
  | automatic =>
    exact Framed.ite (fun _ => Framed.lift fun _ _ => framed_insert (mem_singleton_self _))
      fun _ => framed_error
  | enabled => exact Framed.lift fun budget _ => framed_insert (mem_singleton_self _)

theorem modeRule_geminiBudget_enabled :
    modeRule (.geminiThinkingBudget minimum maximum supportsZeroToDisable supportsAutomatic
        summaries) .enabled =
      some ⟨[], false, some ⟨minimum, maximum⟩,
        summaries.filter fun s => s = .disabled ∨ s = .automatic⟩ := by
  cases supportsZeroToDisable <;> cases supportsAutomatic <;> rfl

theorem works_mapGeminiBudget (hshaped : Shaped settings)
    (hmode : settings.mode ≠ .providerDefault) :
    Works (mapGeminiBudget settings minimum maximum supportsZeroToDisable supportsAutomatic
        summaries) ↔
      AdmitsMode (.geminiThinkingBudget minimum maximum supportsZeroToDisable supportsAutomatic
        summaries) settings := by
  refine (works_require.trans (and_congr_right fun _ => (works_bind framed_mapGeminiBudgetMode
    (framed_mapSummaryToggle (mem_singleton_self _)) (by decide)).trans
      (and_congr (works_mapGeminiBudgetMode hmode) works_mapSummaryToggle))).trans ?_
  obtain ⟨mode, effort, budget, summary, keep⟩ := settings
  cases mode with
  | providerDefault => exact absurd rfl hmode
  | disabled =>
    obtain ⟨rfl, rfl, hsum⟩ := hshaped.disabled rfl
    cases supportsZeroToDisable with
    | false =>
      refine iff_of_false (by simp) (not_admitsMode ?_)
      cases supportsAutomatic <;> rfl
    | true =>
      have hrule : modeRule (.geminiThinkingBudget minimum maximum true supportsAutomatic
          summaries) .disabled = some ⟨[], false, none, summaries.filter (· = .disabled)⟩ := by
        cases supportsAutomatic <;> rfl
      rw [admitsMode_iff hrule, admits_iff, takesEffort_nil, takesBudget_none]
      rcases hsum with rfl | rfl <;> simp [TakesSummary]
  | automatic =>
    cases supportsAutomatic with
    | false =>
      refine iff_of_false (by simp) (not_admitsMode ?_)
      cases supportsZeroToDisable <;> rfl
    | true =>
      have hrule : modeRule (.geminiThinkingBudget minimum maximum supportsZeroToDisable true
          summaries) .automatic = some ⟨[], false, none,
            summaries.filter fun s => s = .disabled ∨ s = .automatic⟩ := by
        cases supportsZeroToDisable <;> rfl
      rw [admitsMode_iff hrule, admits_iff, takesEffort_nil, takesBudget_none]
      simp
  | enabled =>
    rw [admitsMode_iff modeRule_geminiBudget_enabled, admits_iff, takesEffort_nil]
    simp

theorem works_mapOllamaBoolean (hmode : settings.mode ≠ .providerDefault) :
    Works (mapOllamaBoolean settings) ↔ AdmitsMode .ollamaBoolean settings := by
  unfold mapOllamaBoolean
  rw [works_require]
  obtain ⟨mode, effort, budget, summary, keep⟩ := settings
  cases mode with
  | providerDefault => exact absurd rfl hmode
  | automatic => exact iff_of_false (fun h => not_works_error h.2) (not_admitsMode rfl)
  | disabled | enabled =>
    rw [admitsMode_iff rfl, bare_admits_iff]
    exact and_iff_left works_insert

theorem works_mapOllamaLevel (hshaped : Shaped settings)
    (hmode : settings.mode ≠ .providerDefault) :
    Works (mapOllamaLevel settings efforts supportsDisabled) ↔
      AdmitsMode (.ollamaLevel efforts supportsDisabled) settings := by
  unfold mapOllamaLevel
  rw [works_require]
  obtain ⟨mode, effort, budget, summary, keep⟩ := settings
  cases mode with
  | providerDefault => exact absurd rfl hmode
  | disabled =>
    obtain ⟨rfl, rfl, hsum⟩ := hshaped.disabled rfl
    cases supportsDisabled with
    | false => exact iff_of_false (fun h => not_works_error h.2) (not_admitsMode rfl)
    | true =>
      rw [admitsMode_iff rfl, bare_admits_iff]
      simpa using fun _ => works_insert
  | automatic =>
    refine iff_of_false (fun h => not_works_error h.2) (not_admitsMode ?_)
    cases supportsDisabled <;> rfl
  | enabled =>
    rw [admitsMode_iff rfl, admits_iff, takesBudget_none, takesSummary_nil]
    simp only [works_insertRequiredEffort]
    exact and_comm

/-! ### The gate -/

/-- A mode that is off takes nothing beside it, but that a summary is off too. -/
theorem modeRule_disabled (h : modeRule dialect .disabled = some rule) :
    rule.efforts = [] ∧ rule.effortRequired = false ∧ rule.bounds = none ∧
      ∀ summary ∈ rule.summaries, summary = .disabled := by
  unfold modeRule at h
  split at h <;> simp_all [ModeRule.bare]
  all_goals
    first
      | (obtain rfl := h; simp)
      | (obtain ⟨_, rfl⟩ := h; simp)

theorem AdmitsMode.shaped (h : AdmitsMode dialect settings) : Shaped settings := by
  obtain ⟨rule, hrule, hadmits⟩ := h
  constructor
  · intro hdis
    rw [hdis] at hrule
    obtain ⟨hefforts, hrequired, hbds, hsumm⟩ := modeRule_disabled hrule
    obtain ⟨heffort, hbud, hsum⟩ := hadmits
    rw [hefforts, hrequired] at heffort
    rw [hbds] at hbud
    refine ⟨takesEffort_nil.mp heffort, takesBudget_none.mp hbud, ?_⟩
    exact hsum.imp id (hsumm _)
  · intro hdflt
    rw [hdflt] at hrule
    have hbare : modeRule dialect .providerDefault = some .bare := by cases dialect <;> rfl
    obtain rfl := Option.some.inj (hbare.symm.trans hrule)
    exact ModeRule.bare_admits_iff.mp hadmits

/-- The levels that Anthropic's metadata may list. -/
theorem anthropicLevels (h : validateAnthropicLevels efforts summaries = .ok ()) :
    .concise ∉ summaries ∧ .detailed ∉ summaries := by
  have h := require_ok.mp h
  exact ⟨fun hconc => h (.inr (.inl hconc)), fun hdet => h (.inr (.inr hdet))⟩

theorem summary_of_works_mapOpenrouterReasoning
    (h : Works (mapOpenrouterReasoning settings style supportedEfforts supportsMaxTokens
      mandatory)) : settings.summary = .providerDefault := by
  obtain ⟨patches, h⟩ := h
  obtain ⟨_, _, h⟩ := rest₂ h
  exact (guard_ok.mp h).1

/-- Two families aside, a summary is what the dialect's own mapping has decided on. -/
theorem works_mapDialect (hfam : validateReasoningDialectFamily family dialect = .ok ())
    (hmeta : validateReasoningDialectMetadataShape dialect = .ok ())
    (hshaped : Shaped settings) (hmode : settings.mode ≠ .providerDefault) :
    Works (mapDialect settings dialect) ∧
        ¬ (family = .openAiChatCompletions ∧ settings.summary ≠ .providerDefault) ↔
      AdmitsMode dialect settings := by
  unfold validateReasoningDialectFamily at hfam
  split at hfam
  · refine iff_of_false (fun h => not_works_error h.1) (not_admitsMode ?_)
    cases h : settings.mode with
    | providerDefault => exact absurd h hmode
    | disabled | automatic | enabled => rfl
  · rw [and_iff_left (by simp)]
    exact works_mapOpenaiResponsesReasoning hshaped hmode
  · rw [← works_mapOpenaiChatReasoning hshaped hmode]
    refine and_congr_right fun _ => ?_
    simp
  · obtain ⟨_, hstyle, _⟩ := bind_ok.mp hmeta
    refine Iff.trans ?_ (works_mapOpenrouterReasoning hstyle hshaped hmode)
    refine and_iff_left_of_imp fun hworks => ?_
    rw [not_and, not_not]
    exact fun _ => summary_of_works_mapOpenrouterReasoning hworks
  · obtain ⟨hconc, hdet⟩ := anthropicLevels (guard_ok.mp hmeta).2
    rw [and_iff_left (by simp)]
    exact works_mapAnthropicAdaptive hconc hdet hshaped hmode
  · obtain ⟨_, hlevels, _⟩ := bind_ok.mp (guard_ok.mp hmeta).2
    obtain ⟨hconc, hdet⟩ := anthropicLevels hlevels
    rw [and_iff_left (by simp)]
    exact works_mapAnthropicExtended hconc hdet hshaped hmode
  · rw [and_iff_left (by simp)]
    exact works_mapGeminiLevel hmode
  · rw [and_iff_left (by simp)]
    exact works_mapGeminiBudget hshaped hmode
  · rw [and_iff_left (by simp)]
    exact works_mapOllamaBoolean hmode
  · rw [and_iff_left (by simp)]
    exact works_mapOllamaLevel hshaped hmode
  · cases hfam

/-- **The mapping succeeds** iff the rule of the mode admits the settings. -/
theorem works_mapReasoning (hfam : validateReasoningDialectFamily family dialect = .ok ())
    (hmeta : validateReasoningDialectMetadataShape dialect = .ok ()) :
    Works (mapReasoning family settings dialect) ↔ AdmitsMode dialect settings := by
  by_cases hshaped : Shaped settings
  · have hok := validateReasoningShape_ok.mpr hshaped
    unfold mapReasoning
    rw [works_lift hok]
    by_cases hmode : settings.mode = .providerDefault
    · obtain ⟨heffort, hbud, hsum⟩ := hshaped.default hmode
      have hdflt : settings.isProviderDefault = true := by
        simp [ReasoningSettings.isProviderDefault, hmode, heffort, hbud, hsum]
      have hrule : modeRule dialect settings.mode = some .bare := by
        rw [hmode]
        cases dialect <;> rfl
      rw [admitsMode_iff hrule, bare_admits_iff]
      simp only [if_pos hdflt]
      exact ⟨fun _ => ⟨heffort, hbud, hsum⟩, fun _ => works_ok⟩
    · have hdflt : ¬ settings.isProviderDefault = true := by
        simp [ReasoningSettings.isProviderDefault, hmode]
      simp only [if_neg hdflt]
      rw [← works_mapDialect hfam hmeta hshaped hmode]
      constructor
      · rintro ⟨patches, h⟩
        obtain ⟨mapped, hmapped, h⟩ := bind_ok.mp h
        exact ⟨⟨mapped, hmapped⟩, (guard_ok.mp h).1⟩
      · rintro ⟨⟨mapped, hmapped⟩, hsum⟩
        exact ⟨mapped, then_ok hmapped (guarded hsum rfl)⟩
  · refine iff_of_false ?_ fun h => hshaped h.shaped
    rintro ⟨patches, h⟩
    obtain ⟨_, hok, _⟩ := bind_ok.mp h
    exact hshaped (validateReasoningShape_ok.mp hok)

end Dialects

section Gate

variable {wire : WireFormat} {family : ApiFamily} {omitted : List String}
  {settings : ReasoningSettings} {dialect : ReasoningWireDialect} {cache : PromptCacheSettings}
  {cacheDialect : PromptCacheWireDialect}

/-- The gate lets a request through that sets no parameter. -/
def Accepts (wire : WireFormat) (family : ApiFamily) (omitted : List String)
    (settings : ReasoningSettings) (dialect : ReasoningWireDialect) (cache : PromptCacheSettings)
    (cacheDialect : PromptCacheWireDialect) : Prop :=
  ∃ plan, buildProviderRequestPlan wire family ⟨[], omitted⟩ settings dialect cache cacheDialect =
    .ok plan

/-- The cache settings, which the reasoning has no part in. -/
def AcceptsCache (family : ApiFamily) (cache : PromptCacheSettings)
    (cacheDialect : PromptCacheWireDialect) : Prop :=
  validateCacheDialectFamily family cacheDialect = .ok () ∧
    ∃ mapped, mapPromptCache family cache cacheDialect .empty = .ok mapped

theorem Framed.mono
    (hf : Framed paths f) (hsubset : ∀ path ∈ paths, path ∈ paths') : Framed paths' f := by
  cases hf with
  | fails h => exact .fails h
  | adds writes hpaths h => exact .adds writes (fun write hmem => hsubset _ (hpaths write hmem)) h

/-- The fields that a combination is refused for are parameters. -/
def combinationFields : List String :=
  ["tool_choice", "temperature", "top_k", "top_p", "max_tokens",
    "generationConfig.responseJsonSchema"]

theorem combinationFields_apart (family : ApiFamily) :
    ∀ path ∈ combinationFields, path ∉ reasoningPaths family ++ cachePaths family := by
  cases family <;> decide

theorem cachePaths_apart (family : ApiFamily) :
    ∀ path ∈ cachePaths family, path ∉ reasoningPaths family := by
  cases family <;> decide

/-- Without those parameters, nothing is refused as a combination. -/
theorem validateCrossFeatureCombinations_ok
    (hfree : ∀ path ∈ combinationFields, patches.get? path = none) :
    validateCrossFeatureCombinations wire family settings dialect patches = .ok () := by
  simp only [combinationFields, forall_mem_cons] at hfree
  obtain ⟨htool, htemperature, htopK, htopP, hmax, hschema, _⟩ := hfree
  have hthinking : ∀ manual, validateThinking wire manual patches = .ok () := by
    intro manual
    simp [validateThinking, require, htool, htemperature, htopK, htopP]
  have hbud : validateThinkingBudget settings patches = .ok () := by
    simp [validateThinkingBudget, hmax]
  simp only [validateCrossFeatureCombinations, hthinking, hbud, hmax, hschema]
  simp [require]

/-- **The gate without parameters** looks at the cache settings, at the state to keep and at the
    rule of the mode. -/
theorem accepts_iff (hfam : validateReasoningDialectFamily family dialect = .ok ())
    (hmeta : validateReasoningDialectMetadataShape dialect = .ok ()) :
    Accepts wire family omitted settings dialect cache cacheDialect ↔
      AcceptsCache family cache cacheDialect ∧
        validateOpaqueReasoningPreservation family settings = .ok () ∧
          AdmitsMode dialect settings := by
  rw [← works_mapReasoning hfam hmeta]
  have hreas : Framed (reasoningPaths family) (mapReasoning family settings dialect) :=
    framed_mapReasoning hfam
  have hdirected : Directed (cachePaths family) (mapPromptCache family cache cacheDialect) :=
    directed_mapPromptCache
  constructor
  · rintro ⟨plan, h⟩
    obtain ⟨_, _, h⟩ := rest₂ h
    obtain ⟨_, hcacheFam, _, hopaque, _, ⟨⟩, h⟩ := steps₃ h
    obtain ⟨mapped, hmapped, ⟨directive, patches⟩, hcache, _⟩ := steps₂ h
    obtain ⟨_, alone, _, halone, _⟩ := hdirected.alone hcache
    exact ⟨⟨hcacheFam, _, halone⟩, hopaque, mapped, hmapped⟩
  · rintro ⟨⟨hcacheFam, alone, halone⟩, hopaque, mapped, hmapped⟩
    obtain ⟨directive, f, hf, heq⟩ := hdirected
    have hworks : Works f := by
      rw [heq] at halone
      obtain ⟨patches, hpatches, _⟩ := bind_ok.mp halone
      exact ⟨patches, hpatches⟩
    -- the reasoning has left the paths of the cache free
    have hfree : ∀ path ∈ cachePaths family, mapped.get? path = none :=
      fun path hmem => hreas.get?_eq_none hmapped (cachePaths_apart family path hmem)
    obtain ⟨patches, hpatches⟩ := (hf.works_iff hfree).mpr hworks
    have hboth : Framed (reasoningPaths family ++ cachePaths family)
        fun patches => mapReasoning family settings dialect patches >>= f :=
      (hreas.mono fun _ => mem_append_left _).bind (hf.mono fun _ => mem_append_right _)
    have hcross : validateCrossFeatureCombinations wire family settings dialect patches = .ok () :=
      validateCrossFeatureCombinations_ok fun path hmem => hboth.get?_eq_none
        (then_ok hmapped hpatches) (combinationFields_apart family path hmem)
    refine ⟨_, then_ok hfam (then_ok hmeta (then_ok hcacheFam (then_ok hopaque (then_ok rfl
      (then_ok hmapped (bind_ok.mpr ⟨(directive, patches), ?_, then_ok hcross rfl⟩))))))⟩
    rw [heq, hpatches]
    rfl

end Gate

end LorePia.Parameters
