import Mathlib.Data.List.Pairwise
import LorePia.Domain.JsonPath
import LorePia.Parameters.Plan

namespace LorePia.Parameters

open Lib List

/-!
# Parameters — patching a request body

A plan is a list of patches from three sources: the parameters, the reasoning settings and the
cache settings.  A source adds the same patches wherever it comes in, under paths that are its
own (`Framed`), and no path of a family begins with another (`apart_planPaths`).  So the order of
the patches does not matter, and what is in the body before decides whether they can be applied.
-/

variable {body body' : Json} {maximum minimum : Nat}

/-! ### Applying a plan -/

/-- `path.split('.')`. -/
def segments (path : String) : List String := splitAt ['.'] path

/-- `insert_json_path`. -/
def insertJsonPath (body : Json) (path : String) (value : Json) :
    Except ParameterEngineError Json :=
  (Json.place (segments path) value body).mapError fun
    | .crosses => .one ⟨.conflictingRequestField, none, none,
        "request path " ++ path ++ " crosses a non-object field"⟩
    | .occupied => .one ⟨.conflictingRequestField, none, none,
        "request path " ++ path ++ " would overwrite an adapter-owned field"⟩

/-- The patches, one after the other, on a copy of the body. -/
def insertPatches (patches : List RequestBodyPatch) (body : Json) :
    Except ParameterEngineError Json :=
  patches.foldlM (fun body patch => insertJsonPath body patch.path patch.value) body

/-- `ProviderRequestPlan::apply_to_body`: the body afterwards, and how it ended. -/
def ProviderRequestPlan.applyToBody (plan : ProviderRequestPlan) (body : Json) :
    Json × Except ParameterEngineError Unit :=
  match insertPatches plan.bodyPatches body with
  | .ok planned => (planned, .ok ())
  | .error e => (body, .error e)

/-! ### What a source adds -/

/-- The writes, one after the other, each to a path that is free. -/
inductive Adds : List (String × Json) → Patches → Patches → Prop
  | nil {patches : Patches} : Adds [] patches patches
  | cons {path : String} {value : Json} {writes : List (String × Json)}
      {patches patches' : Patches} (hfree : patches.get? path = none)
      (hrest : Adds writes (patches.insert path value) patches') :
      Adds ((path, value) :: writes) patches patches'

variable {writes : List (String × Json)} {patches patches' : Patches} {path : String}
  {paths : List String} {value : Json} {f : Patches → Except ParameterEngineError Patches}
  {e : ParameterEngineError}

theorem Adds.append (h : Adds writes patches patches') (h' : Adds writes' patches' patches'') :
    Adds (writes ++ writes') patches patches'' := by
  induction h with
  | nil => exact h'
  | cons hfree _ ih => exact .cons hfree (ih h')

theorem adds_append :
    Adds (writes ++ writes') patches patches'' ↔
      ∃ patches', Adds writes patches patches' ∧ Adds writes' patches' patches'' := by
  constructor
  · intro h
    induction writes generalizing patches with
    | nil => exact ⟨patches, .nil, h⟩
    | cons write writes ih =>
      cases h with
      | cons hfree hrest =>
        obtain ⟨patches', hfirst, hsnd⟩ := ih hrest
        exact ⟨patches', .cons hfree hfirst, hsnd⟩
  · rintro ⟨patches', h, h'⟩
    exact h.append h'

/-- Writes to free paths are the new entries. -/
theorem Adds.perm (h : Adds writes patches patches') :
    patches'.entries.Perm (writes ++ patches.entries) := by
  induction h with
  | nil => exact List.Perm.refl _
  | @cons path value writes patches patches' hfree _ ih =>
    have hnot : ∀ value, (path, value) ∉ patches.entries := SortedMap.get?_eq_none.mp hfree
    have hinsert : (patches.insert path value).entries.Perm ((path, value) :: patches.entries) := by
      refine (perm_ext_iff_of_nodup ?_ ?_).mpr ?_
      · exact (patches.insert path value).nodup_keys.of_map _
      · exact nodup_cons.mpr ⟨hnot value, patches.nodup_keys.of_map _⟩
      · rintro ⟨path', value'⟩
        rw [SortedMap.mem_insert, mem_cons, Prod.mk.injEq]
        constructor
        · rintro (heq | ⟨_, hmem⟩)
          · exact .inl heq
          · exact .inr hmem
        · rintro (heq | hmem)
          · exact .inl heq
          · refine .inr ⟨?_, hmem⟩
            rintro rfl
            exact hnot value' hmem
    exact ih.trans ((hinsert.append_left writes).trans perm_middle)

/-- The paths of all writes are different. -/
theorem Adds.nodup (h : Adds writes patches patches') : (writes.map Prod.fst).Nodup := by
  have hkeys : ((writes ++ patches.entries).map Prod.fst).Nodup :=
    (h.perm.map Prod.fst).nodup_iff.mp patches'.nodup_keys
  rw [map_append] at hkeys
  exact hkeys.of_append_left

/-- Writes to paths that are free, and different, can be made. -/
theorem exists_adds (hnodup : (writes.map Prod.fst).Nodup)
    (hfree : ∀ write ∈ writes, patches.get? write.1 = none) :
    ∃ patches', Adds writes patches patches' := by
  induction writes generalizing patches with
  | nil => exact ⟨patches, .nil⟩
  | cons write writes ih =>
    rw [map_cons, nodup_cons] at hnodup
    rw [forall_mem_cons] at hfree
    obtain ⟨path, value⟩ := write
    have hrest : ∀ write ∈ writes, (patches.insert path value).get? write.1 = none := by
      intro write hmem
      have hne : write.1 ≠ path := by
        rintro rfl
        exact hnodup.1 (mem_map.mpr ⟨write, hmem, rfl⟩)
      rw [SortedMap.get?_insert, if_neg hne]
      exact hfree.2 write hmem
    obtain ⟨patches', h⟩ := ih hnodup.2 hrest
    exact ⟨patches', .cons hfree.1 h⟩

/-- What a source of patches adds, all under `paths`, does not depend on the patches before it. -/
inductive Framed (paths : List String) (f : Patches → Except ParameterEngineError Patches) : Prop
  | fails (h : ∀ patches patches', f patches ≠ .ok patches')
  | adds (writes : List (String × Json)) (hpaths : ∀ write ∈ writes, write.1 ∈ paths)
      (h : ∀ patches patches', f patches = .ok patches' ↔ Adds writes patches patches')

theorem framed_ok : Framed paths .ok := by
  refine .adds [] (forall_mem_nil _) fun patches patches' => ?_
  constructor
  · rintro h
    rw [Except.ok.inj h]
    exact .nil
  · rintro ⟨⟩
    rfl

theorem framed_error : Framed paths fun _ => .error e := .fails nofun

theorem insertNormalizedPatch_ok :
    insertNormalizedPatch patches path value = .ok patches' ↔
      patches.get? path = none ∧ patches.insert path value = patches' := by
  rw [insertNormalizedPatch]
  cases patches.get? path with
  | some found => simp
  | none => simp

theorem framed_insert (hpath : path ∈ paths) :
    Framed paths fun patches => insertNormalizedPatch patches path value := by
  refine .adds [(path, value)] (by simpa using hpath) fun patches patches' => ?_
  rw [insertNormalizedPatch_ok]
  constructor
  · rintro ⟨hfree, rfl⟩
    exact .cons hfree .nil
  · intro h
    cases h with
    | cons hfree hrest =>
      cases hrest
      exact ⟨hfree, rfl⟩

theorem Framed.bind (hf : Framed paths f) (hg : Framed paths g) :
    Framed paths fun patches => f patches >>= g := by
  cases hf with
  | fails hf =>
    refine .fails fun patches patches'' h => ?_
    obtain ⟨patches', hfirst, _⟩ := bind_ok.mp h
    exact hf patches patches' hfirst
  | adds writes hpaths hf =>
    cases hg with
    | fails hg =>
      refine .fails fun patches patches'' h => ?_
      obtain ⟨patches', _, hsnd⟩ := bind_ok.mp h
      exact hg patches' patches'' hsnd
    | adds writes' hpaths' hg =>
      refine .adds (writes ++ writes') ?_ fun patches patches'' => ?_
      · rw [forall_mem_append]
        exact ⟨hpaths, hpaths'⟩
      · rw [bind_ok, adds_append]
        simp only [hf, hg]

/-- A computation in front that the patches have no part in. -/
theorem Framed.lift {α : Type} {x : Except ParameterEngineError α}
    {f : α → Patches → Except ParameterEngineError Patches}
    (hf : ∀ a, x = .ok a → Framed paths (f a)) :
    Framed paths fun patches => x >>= fun a => f a patches := by
  cases x with
  | error e => exact framed_error
  | ok a => exact hf a rfl

theorem Framed.ite {c : Prop} [Decidable c] (hf : c → Framed paths f) (hg : ¬ c → Framed paths g) :
    Framed paths fun patches => if c then f patches else g patches := by
  by_cases hc : c
  · simp only [if_pos hc]
    exact hf hc
  · simp only [if_neg hc]
    exact hg hc

/-- A source that comes in somewhere adds what it would add alone. -/
theorem Framed.alone (hf : Framed paths f) (h : f patches = .ok patches') :
    ∃ writes alone, Adds writes patches patches' ∧ f .empty = .ok alone ∧
      alone.entries.Perm writes ∧ ∀ write ∈ writes, write.1 ∈ paths := by
  cases hf with
  | fails hf => exact absurd h (hf patches patches')
  | adds writes hpaths hf =>
    have hadds := (hf patches patches').mp h
    obtain ⟨alone, halone⟩ : ∃ alone, Adds writes .empty alone :=
      exists_adds hadds.nodup fun _ _ => rfl
    have hperm := halone.perm
    rw [SortedMap.empty, append_nil] at hperm
    exact ⟨writes, alone, hadds, (hf .empty alone).mpr halone, hperm, hpaths⟩

/-! ### The dialects -/

section Dialects

theorem framed_insertOptionalEffort (hpath : path ∈ paths) :
    Framed paths fun patches => insertOptionalEffort patches path effort efforts := by
  refine Framed.lift fun wire _ => ?_
  cases wire with
  | none => exact framed_ok
  | some wire => exact framed_insert hpath

theorem framed_insertRequiredEffort (hpath : path ∈ paths) :
    Framed paths fun patches => insertRequiredEffort patches path effort efforts :=
  Framed.lift fun _ _ => framed_insert hpath

theorem framed_mapOpenAiMode (hpath : path ∈ paths) :
    Framed paths
      (mapOpenAiMode path cannotDisable noAutomatic settings efforts supportsDisabled) := by
  unfold mapOpenAiMode
  cases settings.mode with
  | providerDefault => exact framed_insertOptionalEffort hpath
  | disabled => exact Framed.ite (fun _ => framed_insert hpath) fun _ => framed_error
  | automatic => exact framed_error
  | enabled => exact framed_insertRequiredEffort hpath

/-- The paths that the reasoning of a family writes. -/
def reasoningPaths : ApiFamily → List String
  | .openAiResponses => ["reasoning.effort", "reasoning.summary"]
  | .openAiChatCompletions => ["reasoning_effort", "reasoning.effort", "reasoning.enabled"]
  | .anthropicMessages =>
    ["thinking.type", "thinking.budget_tokens", "thinking.display", "output_config.effort"]
  | .geminiGenerateContent =>
    ["generationConfig.thinkingConfig.thinkingLevel",
      "generationConfig.thinkingConfig.thinkingBudget",
      "generationConfig.thinkingConfig.includeThoughts"]
  | .ollamaNative => ["think"]

theorem framed_mapOpenaiResponsesReasoning :
    Framed (reasoningPaths .openAiResponses)
      (mapOpenaiResponsesReasoning settings efforts summaries supportsDisabled) := by
  refine Framed.lift fun _ _ => Framed.bind (framed_mapOpenAiMode (by decide)) ?_
  refine Framed.lift fun _ _ => ?_
  unfold insertOpenAiSummary
  cases openAiSummaryWire settings.summary with
  | none => exact framed_ok
  | some summary => exact framed_insert (by decide)

theorem framed_mapOpenaiChatReasoning :
    Framed (reasoningPaths .openAiChatCompletions)
      (mapOpenaiChatReasoning settings efforts supportsDisabled) :=
  Framed.lift fun _ _ => framed_mapOpenAiMode (by decide)

theorem framed_insertOpenrouterBooleanPatch :
    Framed (reasoningPaths .openAiChatCompletions)
      fun patches => insertOpenrouterBooleanPatch style patches enabled := by
  cases style with
  | unified => exact framed_insert (by decide)
  | legacyReasoningEffort =>
    cases enabled with
    | false => exact framed_insert (by decide)
    | true => exact framed_error

theorem framed_mapOpenrouterReasoning {supportedEfforts : OpenRouterReasoningEffortSupport} :
    Framed (reasoningPaths .openAiChatCompletions)
      (mapOpenrouterReasoning settings style supportedEfforts supportsMaxTokens mandatory) := by
  refine Framed.lift fun _ _ => Framed.lift fun _ _ => Framed.lift fun _ _ => ?_
  unfold mapOpenrouterMode
  cases settings.mode with
  | providerDefault => exact Framed.lift fun _ _ => framed_ok
  | disabled =>
    exact Framed.ite (fun _ => framed_insertOpenrouterBooleanPatch) fun _ => framed_error
  | automatic => exact framed_error
  | enabled =>
    refine Framed.lift fun _ _ => Framed.lift fun wire _ => ?_
    cases wire with
    | none => exact framed_insertOpenrouterBooleanPatch
    | some effort =>
      refine framed_insert ?_
      cases style <;> decide

theorem framed_mapSummaryToggle {hidden shown : Json} {noLevels : String} (hpath : path ∈ paths) :
    Framed paths (mapSummaryToggle path hidden shown noLevels summary summaries) := by
  refine Framed.lift fun _ _ => ?_
  cases summary with
  | providerDefault => exact framed_ok
  | disabled | automatic => exact framed_insert hpath
  | concise | detailed => exact framed_error

theorem framed_mapAnthropicLevels :
    Framed (reasoningPaths .anthropicMessages) (mapAnthropicLevels settings efforts summaries) :=
  Framed.bind (framed_insertOptionalEffort (by decide)) (framed_mapSummaryToggle (by decide))

theorem framed_mapAnthropicDisabled :
    Framed (reasoningPaths .anthropicMessages) (mapAnthropicDisabled supportsDisabled) :=
  Framed.ite (fun _ => framed_insert (by decide)) fun _ => framed_error

theorem framed_mapAnthropicAdaptive :
    Framed (reasoningPaths .anthropicMessages)
      (mapAnthropicAdaptive settings efforts summaries supportsDisabled) := by
  refine Framed.lift fun _ _ => Framed.lift fun _ _ => ?_
  cases settings.mode with
  | providerDefault => exact framed_mapAnthropicLevels
  | disabled => exact framed_mapAnthropicDisabled
  | automatic => exact Framed.bind (framed_insert (by decide)) framed_mapAnthropicLevels
  | enabled => exact framed_error

theorem framed_mapAnthropicExtended :
    Framed (reasoningPaths .anthropicMessages)
      (mapAnthropicExtended settings minimum maximum efforts summaries supportsDisabled) := by
  refine Framed.lift fun _ _ => ?_
  cases settings.mode with
  | providerDefault => exact Framed.lift fun _ _ => framed_mapAnthropicLevels
  | disabled => exact framed_mapAnthropicDisabled
  | automatic => exact framed_error
  | enabled =>
    refine Framed.bind (Framed.lift fun budget _ => ?_) framed_mapAnthropicLevels
    exact Framed.bind (framed_insert (by decide)) (framed_insert (by decide))

theorem framed_mapGeminiLevel :
    Framed (reasoningPaths .geminiGenerateContent)
      (mapGeminiLevel settings efforts supportsAutomatic summaries) := by
  refine Framed.lift fun _ _ => Framed.bind ?_ (framed_mapSummaryToggle (by decide))
  unfold mapGeminiLevelMode
  cases settings.mode with
  | providerDefault => exact Framed.lift fun _ _ => framed_ok
  | disabled | enabled => exact framed_error
  | automatic =>
    exact Framed.ite (fun _ => framed_insertRequiredEffort (by decide)) fun _ => framed_error

theorem framed_mapGeminiBudget {supportsZeroToDisable : Bool} :
    Framed (reasoningPaths .geminiGenerateContent)
      (mapGeminiBudget settings minimum maximum supportsZeroToDisable supportsAutomatic
        summaries) := by
  refine Framed.lift fun _ _ => Framed.bind ?_ (framed_mapSummaryToggle (by decide))
  unfold mapGeminiBudgetMode
  cases settings.mode with
  | providerDefault => exact framed_ok
  | disabled => exact Framed.ite (fun _ => framed_insert (by decide)) fun _ => framed_error
  | automatic =>
    exact Framed.ite (fun _ => Framed.lift fun _ _ => framed_insert (by decide))
      fun _ => framed_error
  | enabled => exact Framed.lift fun budget _ => framed_insert (by decide)

theorem framed_mapOllamaBoolean :
    Framed (reasoningPaths .ollamaNative) (mapOllamaBoolean settings) := by
  refine Framed.lift fun _ _ => ?_
  cases settings.mode with
  | providerDefault => exact framed_ok
  | disabled | enabled => exact framed_insert (by decide)
  | automatic => exact framed_error

theorem framed_mapOllamaLevel :
    Framed (reasoningPaths .ollamaNative) (mapOllamaLevel settings efforts supportsDisabled) := by
  refine Framed.lift fun _ _ => ?_
  cases settings.mode with
  | providerDefault => exact Framed.ite (fun _ => framed_ok) fun _ => framed_error
  | disabled => exact Framed.ite (fun _ => framed_insert (by decide)) fun _ => framed_error
  | automatic => exact framed_error
  | enabled => exact framed_insertRequiredEffort (by decide)

/-- **The dialects of a family** write its paths. -/
theorem framed_mapReasoning (h : validateReasoningDialectFamily family dialect = .ok ()) :
    Framed (reasoningPaths family) (mapReasoning family settings dialect) := by
  have hdial : Framed (reasoningPaths family) (mapDialect settings dialect) := by
    unfold validateReasoningDialectFamily at h
    split at h
    · exact framed_error
    · exact framed_mapOpenaiResponsesReasoning
    · exact framed_mapOpenaiChatReasoning
    · exact framed_mapOpenrouterReasoning
    · exact framed_mapAnthropicAdaptive
    · exact framed_mapAnthropicExtended
    · exact framed_mapGeminiLevel
    · exact framed_mapGeminiBudget
    · exact framed_mapOllamaBoolean
    · exact framed_mapOllamaLevel
    · cases h
  refine Framed.lift fun _ _ => Framed.ite (fun _ => framed_ok) fun _ => ?_
  exact Framed.bind hdial (Framed.lift fun _ _ => framed_ok)

end Dialects

/-! ### The prompt cache -/

section Cache

variable {F : Patches → Except ParameterEngineError (PromptCacheDirective × Patches)}

/-- The cache settings decide on a directive, and add patches as a source does. -/
def Directed (paths : List String)
    (F : Patches → Except ParameterEngineError (PromptCacheDirective × Patches)) : Prop :=
  ∃ directive f, Framed paths f ∧
    ∀ patches, F patches = f patches >>= fun patches => pure (directive, patches)

theorem directed_error : Directed paths fun _ => .error e :=
  ⟨.none, fun _ => .error e, framed_error, fun _ => rfl⟩

theorem directed_pure (directive : PromptCacheDirective) :
    Directed paths fun patches => pure (directive, patches) :=
  ⟨directive, .ok, framed_ok, fun _ => rfl⟩

theorem Framed.directed (hf : Framed paths f) (directive : PromptCacheDirective) :
    Directed paths fun patches => f patches >>= fun patches => pure (directive, patches) :=
  ⟨directive, f, hf, fun _ => rfl⟩

theorem Directed.lift {α : Type} {x : Except ParameterEngineError α}
    {F : α → Patches → Except ParameterEngineError (PromptCacheDirective × Patches)}
    (hF : ∀ a, x = .ok a → Directed paths (F a)) :
    Directed paths fun patches => x >>= fun a => F a patches := by
  cases x with
  | error e => exact directed_error
  | ok a => exact hF a rfl

/-- The paths that the cache of a family writes. -/
def cachePaths : ApiFamily → List String
  | .openAiResponses | .openAiChatCompletions => ["prompt_cache_retention"]
  | .anthropicMessages | .geminiGenerateContent | .ollamaNative => []

theorem framed_mapOpenAiCacheTtl (hpath : "prompt_cache_retention" ∈ paths) :
    Framed paths (mapOpenAiCacheTtl ttl supports24HourRetention) := by
  cases ttl with
  | providerDefault | short => exact framed_ok
  | long => exact Framed.ite (fun _ => framed_insert hpath) fun _ => framed_error
  | customSeconds => exact framed_error

theorem directed_mapOpenAiCache :
    Directed (cachePaths family) (mapOpenAiCache family settings supports24HourRetention) := by
  refine Directed.lift fun _ hfam => Directed.lift fun _ _ => ?_
  have hpath : "prompt_cache_retention" ∈ cachePaths family := by
    rcases require_ok.mp hfam with rfl | rfl
    · exact mem_singleton_self _
    · exact mem_singleton_self _
  exact (framed_mapOpenAiCacheTtl hpath).directed _

/-- **The cache of a family** writes its paths. -/
theorem directed_mapPromptCache {dialect : PromptCacheWireDialect} :
    Directed (cachePaths family) (mapPromptCache family settings dialect) := by
  refine Directed.lift fun _ _ => ?_
  by_cases hdflt : settings.mode = .providerDefault
  · simp only [if_pos hdflt]
    exact directed_pure _
  · simp only [if_neg hdflt]
    cases dialect with
    | unsupported => exact directed_error
    | openAiAutomatic => exact directed_mapOpenAiCache
    | anthropic | gemini => exact Directed.lift fun directive _ => directed_pure directive

end Cache

/-! ### The parameters -/

section Plan

variable {wire : WireFormat} {family : ApiFamily} {parameter : AppliedParameter}
  {write : String × Json}

theorem mapAppliedParameter_path (h : mapAppliedParameter wire family parameter = .ok write) :
    write.1 = parameter.mapping.fieldName ∧
      write.1 ∈ (allowedParameterFields family).map Prod.fst := by
  obtain ⟨expected, hexp, value, _, h⟩ := steps₂ h
  rw [← pure_inj h]
  refine ⟨rfl, ?_⟩
  obtain ⟨_, _, h⟩ := rest₂ hexp
  obtain ⟨row, hfind, _⟩ := Option.map_eq_some_iff.mp (okOr_ok.mp h)
  have hfield : row.1 = parameter.mapping.fieldName := by simpa using find?_some hfind
  exact mem_map.mpr ⟨row, mem_of_find?_eq_some hfind, hfield⟩

theorem insertUniquePatch_ok {id : String} :
    insertUniquePatch patches path value id = .ok patches' ↔
      patches.get? path = none ∧ patches.insert path value = patches' := by
  rw [insertUniquePatch]
  cases patches.get? path with
  | some found => simp
  | none => simp

/-- Every parameter writes one path, its field. -/
theorem mapParameters_adds (h : mapParameters wire family parameters patches = .ok patches') :
    ∃ writes, List.Forall₂ (fun parameter write =>
        mapAppliedParameter wire family parameter = .ok write) parameters writes ∧
      Adds writes patches patches' := by
  induction parameters generalizing patches with
  | nil =>
    cases h
    exact ⟨[], .nil, .nil⟩
  | cons parameter parameters ih =>
    obtain ⟨⟨path, value⟩, hwrite, next, hinsert, h⟩ := steps₂ h
    obtain ⟨hfree, rfl⟩ := insertUniquePatch_ok.mp hinsert
    obtain ⟨writes, hwrites, hadds⟩ := ih h
    exact ⟨(path, value) :: writes, .cons hwrite hwrites, .cons hfree hadds⟩

/-! ### The paths of a family -/

/-- Every path that a plan of a family may write. -/
def planPaths (family : ApiFamily) : List String :=
  (allowedParameterFields family).map Prod.fst ++ (reasoningPaths family ++ cachePaths family)

/-- The paths of a family, as the keys on the way. -/
def planSegments : ApiFamily → List (List String)
  | .openAiResponses =>
    [["temperature"], ["top_p"], ["max_output_tokens"], ["service_tier"], ["truncation"],
      ["parallel_tool_calls"], ["tool_choice"], ["reasoning", "effort"],
      ["reasoning", "summary"], ["prompt_cache_retention"]]
  | .openAiChatCompletions =>
    [["temperature"], ["top_p"], ["presence_penalty"], ["frequency_penalty"], ["max_tokens"],
      ["max_completion_tokens"], ["seed"], ["stop"], ["service_tier"],
      ["parallel_tool_calls"], ["logprobs"], ["tool_choice"], ["reasoning_effort"],
      ["reasoning", "effort"], ["reasoning", "enabled"], ["prompt_cache_retention"]]
  | .anthropicMessages =>
    [["temperature"], ["top_p"], ["max_tokens"], ["top_k"], ["stop_sequences"],
      ["tool_choice"], ["output_config", "format"], ["thinking", "type"],
      ["thinking", "budget_tokens"], ["thinking", "display"], ["output_config", "effort"]]
  | .geminiGenerateContent =>
    [["generationConfig", "temperature"], ["generationConfig", "topP"],
      ["generationConfig", "presencePenalty"], ["generationConfig", "frequencyPenalty"],
      ["generationConfig", "maxOutputTokens"], ["generationConfig", "topK"],
      ["generationConfig", "seed"], ["generationConfig", "stopSequences"],
      ["generationConfig", "responseMimeType"], ["generationConfig", "responseLogprobs"],
      ["generationConfig", "responseJsonSchema"],
      ["toolConfig", "functionCallingConfig", "mode"],
      ["generationConfig", "thinkingConfig", "thinkingLevel"],
      ["generationConfig", "thinkingConfig", "thinkingBudget"],
      ["generationConfig", "thinkingConfig", "includeThoughts"]]
  | .ollamaNative =>
    [["options", "temperature"], ["options", "top_p"], ["options", "min_p"],
      ["options", "num_predict"], ["options", "top_k"], ["options", "seed"],
      ["options", "stop"], ["keep_alive"], ["format"], ["think"]]

theorem segments_planPaths (family : ApiFamily) :
    (planPaths family).map segments = planSegments family := by
  cases family <;> rfl

/-- **No path of a family begins with another.** -/
theorem pairwise_planSegments (family : ApiFamily) :
    (planSegments family).Pairwise Json.Apart := by
  cases family <;> simp [planSegments, Json.Apart]

theorem apart_planPaths (h : path ∈ planPaths family) (h' : path' ∈ planPaths family)
    (hne : path ≠ path') :
    Json.Apart (segments path) (segments path') := by
  have hpairs := pairwise_planSegments family
  rw [← segments_planPaths, pairwise_map] at hpairs
  have : Std.Symm fun path path' : String => Json.Apart (segments path) (segments path') :=
    ⟨fun _ _ => Json.Apart.symm⟩
  exact hpairs.forall h h' hne

/-! ### What a plan is made of -/

variable {reasoning : ReasoningSettings} {dialect : ReasoningWireDialect}
  {cache : PromptCacheSettings} {cacheDialect : PromptCacheWireDialect}
  {set : ValidatedParameterSet} {plan : ProviderRequestPlan}

/-- The patch of a write. -/
def patchOf (write : String × Json) : RequestBodyPatch := ⟨write.1, write.2⟩

/-- **The settings of a plan**: every parameter, the reasoning and the cache write their own
    patches, each to its own path, and no path begins with another. -/
structure PlanWrites (wire : WireFormat) (family : ApiFamily) (set : ValidatedParameterSet)
    (reasoning : ReasoningSettings) (dialect : ReasoningWireDialect) (cache : PromptCacheSettings)
    (cacheDialect : PromptCacheWireDialect) (plan : ProviderRequestPlan) : Prop where
  settings : ∃ writes reasoningPatches directive cachePatches,
    List.Forall₂ (fun parameter write => mapAppliedParameter wire family parameter = .ok write)
        set.applied writes ∧
      mapReasoning family reasoning dialect .empty = .ok reasoningPatches ∧
      mapPromptCache family cache cacheDialect .empty = .ok (directive, cachePatches) ∧
      plan.bodyPatches.Perm
        ((writes ++ (reasoningPatches.entries ++ cachePatches.entries)).map patchOf)
  distinct : (plan.bodyPatches.map RequestBodyPatch.path).Nodup
  apart : plan.bodyPatches.Pairwise fun patch patch' =>
    Json.Apart (segments patch.path) (segments patch'.path)

theorem Directed.alone (hF : Directed paths F) (h : F patches = .ok (directive, patches')) :
    ∃ writes alone, Adds writes patches patches' ∧ F .empty = .ok (directive, alone) ∧
      alone.entries.Perm writes ∧ ∀ write ∈ writes, write.1 ∈ paths := by
  obtain ⟨found, f, hf, heq⟩ := hF
  rw [heq] at h
  obtain ⟨next, hnext, h⟩ := bind_ok.mp h
  cases pure_inj h
  obtain ⟨writes, alone, hadds, halone, hperm, hpaths⟩ := hf.alone hnext
  refine ⟨writes, alone, hadds, ?_, hperm, hpaths⟩
  rw [heq, halone]
  rfl

theorem exists_parameter_of_mem {applied : List AppliedParameter}
    (h : List.Forall₂ (fun parameter write => mapAppliedParameter wire family parameter = .ok write)
      applied writes) (hmem : write ∈ writes) :
    ∃ parameter, mapAppliedParameter wire family parameter = .ok write := by
  induction h with
  | nil => cases hmem
  | cons hwrite _ ih =>
    rcases mem_cons.mp hmem with rfl | hmem
    · exact ⟨_, hwrite⟩
    · exact ih hmem

theorem planWrites
    (h : buildProviderRequestPlan wire family set reasoning dialect cache cacheDialect = .ok plan) :
    PlanWrites wire family set reasoning dialect cache cacheDialect plan := by
  obtain ⟨_, hfam, h⟩ := bind_ok.mp h
  obtain ⟨_, _, _, h⟩ := rest₃ h
  obtain ⟨first, hparams, second, hreas, h⟩ := steps₂ h
  obtain ⟨⟨directive, patches⟩, hcache, _, _, h⟩ := steps₂ h
  have hplan : plan.bodyPatches = patches.entries.map patchOf := by
    rw [← pure_inj h]
    rfl
  obtain ⟨writes, hwrites, hadds⟩ := mapParameters_adds hparams
  obtain ⟨writes', alone', hadds', halone', hperm', hpaths'⟩ :=
    (framed_mapReasoning hfam).alone hreas
  obtain ⟨writes'', alone'', hadds'', halone'', hperm'', hpaths''⟩ :=
    directed_mapPromptCache.alone hcache
  have hall : Adds (writes ++ (writes' ++ writes'')) .empty patches :=
    hadds.append (hadds'.append hadds'')
  have hentries : patches.entries.Perm (writes ++ (writes' ++ writes'')) := by
    have hperm := hall.perm
    rw [SortedMap.empty, append_nil] at hperm
    exact hperm
  -- every path is one of the family's
  have hfields : ∀ write ∈ writes, write.1 ∈ (allowedParameterFields family).map Prod.fst := by
    intro write hmem
    obtain ⟨parameter, hwrite⟩ := exists_parameter_of_mem hwrites hmem
    exact (mapAppliedParameter_path hwrite).2
  have hpaths : ∀ entry ∈ patches.entries, entry.1 ∈ planPaths family := by
    intro entry hmem
    rw [planPaths, mem_append, mem_append]
    rcases mem_append.mp (hentries.mem_iff.mp hmem) with hmem | hmem
    · exact .inl (hfields entry hmem)
    · rcases mem_append.mp hmem with hmem | hmem
      · exact .inr (.inl (hpaths' entry hmem))
      · exact .inr (.inr (hpaths'' entry hmem))
  refine ⟨⟨writes, alone', directive, alone'', hwrites, halone', halone'', ?_⟩, ?_, ?_⟩
  · rw [hplan]
    refine (hentries.trans ?_).map _
    exact (hperm'.symm.append hperm''.symm).append_left writes
  · rw [hplan, map_map]
    exact patches.nodup_keys
  · rw [hplan, pairwise_map]
    refine patches.sorted.imp_of_mem fun hmem hmem' hlt => ?_
    exact apart_planPaths (hpaths _ hmem) (hpaths _ hmem') (ne_of_lt hlt)

/-! ### Applying a plan -/

/-- What is placed where. -/
def placement (patch : RequestBodyPatch) : List String × Json := (segments patch.path, patch.value)

theorem insertJsonPath_ok {patch : RequestBodyPatch} :
    insertJsonPath body patch.path patch.value = .ok body' ↔
      Json.place (segments patch.path) patch.value body = .ok body' := by
  exact mapError_ok

theorem insertPatches_ok {patches : List RequestBodyPatch} :
    insertPatches patches body = .ok body' ↔
      Json.placeAll (patches.map placement) body = .ok body' := by
  induction patches generalizing body with
  | nil =>
    constructor
    · intro h
      exact congrArg Except.ok (pure_inj h)
    · intro h
      exact congrArg Except.ok (Except.ok.inj h)
  | cons patch patches ih =>
    rw [insertPatches, foldlM_cons, map_cons, Json.placeAll_cons_ok, bind_ok]
    refine exists_congr fun between => and_congr insertJsonPath_ok ?_
    exact ih

theorem segments_ne_nil (path : String) : segments path ≠ [] := by
  rw [segments, splitAt, Ne, map_eq_nil_iff]
  exact splitOnP_ne_nil _ _

theorem applyToBody_ok :
    plan.applyToBody body = (body', .ok ()) ↔
      Json.placeAll (plan.bodyPatches.map placement) body = .ok body' := by
  rw [← insertPatches_ok, ProviderRequestPlan.applyToBody]
  cases insertPatches plan.bodyPatches body with
  | ok planned => simp
  | error e => simp

theorem applyToBody_error (h : plan.applyToBody body = (body', .error e)) : body' = body := by
  rw [ProviderRequestPlan.applyToBody] at h
  cases hpatches : insertPatches plan.bodyPatches body with
  | ok planned =>
    rw [hpatches] at h
    cases h
  | error e' =>
    rw [hpatches] at h
    exact (Prod.mk.inj h).1.symm

/-- The result of a plan decides between success and failure. -/
theorem applyToBody_cases (plan : ProviderRequestPlan) (body : Json) :
    (∃ body', plan.applyToBody body = (body', .ok ())) ∨
      ∃ e, plan.applyToBody body = (body, .error e) := by
  rw [ProviderRequestPlan.applyToBody]
  cases insertPatches plan.bodyPatches body with
  | ok planned => exact .inl ⟨planned, rfl⟩
  | error e => exact .inr ⟨e, rfl⟩

/-- **What a plan does to a body.** -/
structure PatchesExactly (plan : ProviderRequestPlan) (body : Json) : Prop where
  /-- It applies iff every path is free: absent, with nothing but objects on the way. -/
  succeeds : (∃ body', plan.applyToBody body = (body', .ok ())) ↔
    ∀ patch ∈ plan.bodyPatches, Json.Free (segments patch.path) body
  /-- Then every value is at its path, -/
  placed : ∀ body', plan.applyToBody body = (body', .ok ()) →
    ∀ patch ∈ plan.bodyPatches, body'.valueAt (segments patch.path) = some patch.value
  /-- what no patch touches is as before, -/
  kept : ∀ body', plan.applyToBody body = (body', .ok ()) → ∀ path,
    (∀ patch ∈ plan.bodyPatches, Json.Apart (segments patch.path) path) →
      body'.valueAt path = body.valueAt path
  /-- what is new is an object on the way to a patch, or of its value, -/
  added : ∀ body', plan.applyToBody body = (body', .ok ()) → ∀ path value,
    body.valueAt path = none → body'.valueAt path = some value → ∃ patch ∈ plan.bodyPatches, ∃ rest,
        rest ≠ [] ∧ segments patch.path = path ++ rest ∧ value.isObject = true ∨
          path = segments patch.path ++ rest ∧ patch.value.valueAt rest = some value
  /-- and any order of the patches does the same. -/
  order : ∀ patches, patches.Perm plan.bodyPatches →
    ({ plan with bodyPatches := patches }.applyToBody body).1 = (plan.applyToBody body).1 ∧
      ({ plan with bodyPatches := patches }.applyToBody body).2.isOk =
        (plan.applyToBody body).2.isOk
  /-- Otherwise the body stays. -/
  failed : ∀ body' e, plan.applyToBody body = (body', .error e) → body' = body

theorem PlanWrites.patchesExactly
    (h : PlanWrites wire family set reasoning dialect cache cacheDialect plan) (body : Json) :
    PatchesExactly plan body := by
  have hne : ∀ patch ∈ plan.bodyPatches.map placement, patch.1 ≠ [] := by
    rw [forall_mem_map]
    exact fun patch _ => segments_ne_nil patch.path
  have hapart : Json.ApartPaths (plan.bodyPatches.map placement) := pairwise_map.mpr h.apart
  have hmap : ∀ {patch}, patch ∈ plan.bodyPatches →
      placement patch ∈ plan.bodyPatches.map placement := fun hmem => mem_map_of_mem hmem
  refine ⟨?_, ?_, ?_, ?_, ?_, fun _ _ => applyToBody_error⟩
  · simp only [applyToBody_ok]
    rw [Json.placeAll_isOk_iff hne hapart, forall_mem_map]
    exact Iff.rfl
  · intro body' hok patch hmem
    have hbelow := Json.valueAt_placeAll_below hne hapart (applyToBody_ok.mp hok) (hmap hmem) []
    rw [append_nil] at hbelow
    exact hbelow
  · intro body' hok path hpath
    refine Json.valueAt_placeAll_beside ?_ (applyToBody_ok.mp hok)
    rw [forall_mem_map]
    exact hpath
  · intro body' hok path value hnone hsome
    rw [applyToBody_ok] at hok
    by_cases hbeside : ∀ patch ∈ plan.bodyPatches, Json.Apart (segments patch.path) path
    · rw [Json.valueAt_placeAll_beside (forall_mem_map.mpr hbeside) hok, hnone] at hsome
      cases hsome
    · simp only [not_forall] at hbeside
      obtain ⟨patch, hmem, hnot⟩ := hbeside
      refine ⟨patch, hmem, ?_⟩
      by_cases hbelow : segments patch.path <+: path
      · obtain ⟨rest, hpath⟩ := hbelow
        have hvalue := Json.valueAt_placeAll_below hne hapart hok (hmap hmem) rest
        refine ⟨rest, .inr ⟨hpath.symm, ?_⟩⟩
        rw [← hsome, ← hpath]
        exact hvalue.symm
      · have habove : path <+: segments patch.path := by
          by_contra hneither
          exact hnot ⟨hbelow, hneither⟩
        obtain ⟨rest, hpath⟩ := habove
        have hrest : rest ≠ [] := by
          rintro rfl
          rw [append_nil] at hpath
          exact hbelow (hpath ▸ prefix_rfl)
        obtain ⟨found, hfound, hobject⟩ :=
          Json.valueAt_placeAll_above hapart hok (hmap hmem) hpath.symm hrest
        rw [hsome] at hfound
        exact ⟨rest, .inl ⟨hrest, hpath.symm, Option.some.inj hfound ▸ hobject⟩⟩
  · intro patches hperm
    have hsame : ∀ {body'}, plan.applyToBody body = (body', .ok ()) ↔
        { plan with bodyPatches := patches }.applyToBody body = (body', .ok ()) := by
      intro body'
      rw [applyToBody_ok, applyToBody_ok]
      constructor
      · exact Json.placeAll_perm (hperm.symm.map placement) hapart
      · exact Json.placeAll_perm (hperm.map placement)
          (((hperm.map placement).pairwise_iff fun h => h.symm).mpr hapart)
    rcases applyToBody_cases plan body with ⟨body', hok⟩ | ⟨e, herr⟩
    · rw [hok, hsame.mp hok]
      exact ⟨rfl, rfl⟩
    · rcases applyToBody_cases { plan with bodyPatches := patches } body with
        ⟨body', hok⟩ | ⟨e', herr'⟩
      · rw [hsame.mpr hok] at herr
        cases herr
      · rw [herr, herr']
        exact ⟨rfl, rfl⟩

/-- **Patching is exact.** The settings of a plan write different paths, none of which begins with
    another, and the plan does to every object body what its patches say, or nothing. -/
theorem requestPatching_exact
    (h : buildProviderRequestPlan wire family set reasoning dialect cache cacheDialect = .ok plan) :
    PlanWrites wire family set reasoning dialect cache cacheDialect plan ∧
      ∀ fields : List (String × Json), PatchesExactly plan (.object fields) :=
  ⟨planWrites h, fun _ => (planWrites h).patchesExactly _⟩

/-- Thinking with a budget, next to a limit of the tokens. -/
theorem requestPatching_exact_thinking :
    PlanWrites ⟨fun _ => .null, fun _ => none, fun _ => none⟩ .anthropicMessages
        ⟨[⟨"max", ⟨.requestBody, "max_tokens"⟩, .integer 8192⟩], []⟩
        ⟨.enabled, none, some 2048, .providerDefault, false⟩
        (.anthropicExtended 1024 4096 [] [] false) .default .unsupported
        ⟨.anthropicMessages, [⟨"max_tokens", jsonInteger 8192⟩,
          ⟨"thinking.budget_tokens", jsonInteger 2048⟩, ⟨"thinking.type", .string "enabled"⟩],
          .none, false⟩ ∧
      ∀ fields : List (String × Json), PatchesExactly ⟨.anthropicMessages,
        [⟨"max_tokens", jsonInteger 8192⟩, ⟨"thinking.budget_tokens", jsonInteger 2048⟩,
          ⟨"thinking.type", .string "enabled"⟩], .none, false⟩ (.object fields) :=
  requestPatching_exact (by rfl)

end Plan

end LorePia.Parameters
