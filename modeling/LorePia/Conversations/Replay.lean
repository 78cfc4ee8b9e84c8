import LorePia.Conversations.Continuity

namespace LorePia.Conversations

open Lib List Except OpaqueReasoningContext Store
open Providers.OpenAiCompatible (Dialect)

/-!
# Reasoning continuity — what the adapters take

Two adapters replay reasoning state: OpenRouter and Anthropic, and Anthropic only topologies
without tool use.  Beyond that an adapter checks of a completed request what it checks of the
same request without continuity (`validateRequest_completed_iff`), and the limits it checks again
are those that loading has checked.
-/

variable {X : Externals} {uuid : String} {store : Store} {request : GenerationRequest}
  {family : ApiFamily} {target : GenerationTarget} {dialect : Dialect}
  {context : OpaqueReasoningContext} {history : List Message} {row : Message}

/-- The request that `configure_generation_protocol_request` completes. -/
def GenerationRequest.completed (request : GenerationRequest) (family : ApiFamily)
    (target : GenerationTarget) (preserve : Bool) (contexts : List OpaqueReasoningContext) :
    ProtocolRequest where
  toGenerationRequest := request
  providerProvenance := some
    { apiFamily := family
      modelRouteId := target.modelRouteId
      generationPresetId := target.generationPresetId }
  preserveOpaqueReasoningState := preserve
  opaqueReasoningContext := contexts

/-- The adapters that replay state. -/
def replaysState : ApiFamily → Dialect → Bool
  | .anthropicMessages, _ => true
  | .openAiChatCompletions, .openRouter => true
  | _, _ => false

/-! ### Requests without continuity -/

/-- With preservation off an adapter never looks at the provenance. -/
theorem validateRequest_completed_off :
    validateRequest X uuid (request.completed family target false []) family dialect =
      validateRequest X uuid request.withoutContinuity family dialect := by
  cases family with
  | openAiResponses => rfl
  | openAiChatCompletions => cases dialect <;> rfl
  | anthropicMessages => rfl
  | geminiGenerateContent => rfl
  | ollamaNative => rfl

/-! ### Requests with continuity -/

/-- Five checks before one more: all six pass iff the five do, whatever harmless check stands
    behind them, and the last one does. -/
theorem guarded_ok {c : Prop} [Decidable c] (ht : t = .ok ()) :
    (x >>= fun _ => y >>= fun _ => z >>= fun _ => require c e >>= fun _ => w >>= fun _ => s) =
        .ok () ↔
      (x >>= fun _ => y >>= fun _ => z >>= fun _ => require c e >>= fun _ => w >>= fun _ => t) =
        .ok () ∧ s = .ok () := by
  subst ht
  simp only [bind_ok]
  constructor
  · rintro ⟨a, hx, b, hy, d, hz, f, hc, g, hw, hs⟩
    exact ⟨⟨a, hx, b, hy, d, hz, f, hc, g, hw, trivial⟩, hs⟩
  · rintro ⟨⟨a, hx, b, hy, d, hz, f, hc, g, hw, _⟩, hs⟩
    exact ⟨a, hx, b, hy, d, hz, f, hc, g, hw, hs⟩

section Replaying

variable {contexts : List OpaqueReasoningContext}
  (hbd : ∀ context ∈ contexts, BoundTo family request.model target.modelRouteId
    request.messages context)
  (hlims : WithinReasoningLimits X.sizes (contexts.map state))

include hbd

/-- Each context passes the checks that both adapters make. -/
theorem validateContext_ok {provenance : GenerationProviderProvenance}
    (hrt : provenance.modelRouteId = target.modelRouteId) (hctx : context ∈ contexts) :
    validateContext uuid (request.completed family target true contexts) family label
      (matchesFamily family) provenance context = .ok () := by
  have h := hbd context hctx
  refine guarded ⟨h.apiFamily, h.model_eq, ?_⟩ (require_ok.mpr h.format)
  rw [h.route, hrt]

/-- State of the OpenRouter format has no tool use. -/
theorem hasToolUse_of_openRouter (hfam : family = .openAiChatCompletions) (hctx : context ∈ contexts) :
    hasToolUse context.state = false := by
  have hformat := (hbd context hctx).format
  subst hfam
  cases hst : context.state with
  | anthropicMessages contentBlocks =>
    rw [hst] at hformat
    cases hformat
  | openAiResponses item => rfl
  | geminiThoughtSignature partIndex signature => rfl
  | openRouterReasoning topology => rfl

include hlims

variable (uuid)

/-- The checks of OpenRouter on replayed state always pass. -/
theorem openRouterReplay_ok (hfam : family = .openAiChatCompletions) :
    (do
      let provenance ← requireProvenance uuid (request.completed family target true contexts)
        .openAiChatCompletions "OpenRouter"
      forEach (validateContext uuid (request.completed family target true contexts)
        .openAiChatCompletions "OpenRouter" (matchesFamily .openAiChatCompletions) provenance)
        contexts
      (validateOpaqueReasoningStates X.sizes
        (contexts.map state)).mapError (invalid uuid) :
      CoreResult Unit) = .ok () := by
  subst hfam
  refine bind_ok.mpr ⟨_, bind_ok.mpr ⟨_, rfl, guarded rfl rfl⟩, ?_⟩
  refine bind_ok.mpr ⟨(), forEach_ok.mpr fun context hctx => ?_, ?_⟩
  · exact validateContext_ok hbd rfl hctx
  · exact mapError_ok.mpr (validateOpaqueReasoningStates_ok.mpr hlims)

/-- Those of Anthropic pass iff no topology has tool use. -/
theorem validateOpaqueContext_ok (hfam : family = .anthropicMessages) :
    validateOpaqueContext X uuid (request.completed family target true contexts) = .ok () ↔
      ∀ context ∈ contexts, hasToolUse context.state = false := by
  subst hfam
  constructor
  · intro h
    obtain ⟨_, _, _, hall, _⟩ := steps₂ h
    intro context hctx
    obtain ⟨_, _, htool⟩ := bind_ok.mp (forEach_ok.mp hall context hctx)
    exact require_ok.mp htool
  · intro htool
    refine then_ok (then_ok rfl (guarded rfl rfl)) ?_
    refine bind_ok.mpr ⟨(), forEach_ok.mpr fun context hctx => ?_, ?_⟩
    · refine then_ok (validateContext_ok hbd rfl hctx) ?_
      exact require_ok.mpr (htool context hctx)
    · exact mapError_ok.mpr (validateOpaqueReasoningStates_ok.mpr hlims)

variable {uuid}

/-- **The adapter's own validation.** The completed request passes iff the plain one does, the
    adapter replays state at all, and no state has tool use. -/
theorem validateRequest_completed_iff :
    validateRequest X uuid (request.completed family target true contexts) family dialect = .ok () ↔
      validateRequest X uuid request.withoutContinuity family dialect = .ok () ∧
        replaysState family dialect = true ∧
          ∀ context ∈ contexts, hasToolUse context.state = false := by
  cases family with
  | openAiResponses =>
    -- the last check of this adapter, and of the two below, refuses any continuity
    simp [validateRequest, openAiResponsesValidateRequest, replaysState, bind_ok,
      GenerationRequest.completed]
  | geminiGenerateContent =>
    simp [validateRequest, geminiValidateRequest, replaysState, bind_ok,
      GenerationRequest.completed]
  | ollamaNative =>
    simp [validateRequest, ollamaValidateRequest, replaysState, bind_ok,
      GenerationRequest.completed]
  | openAiChatCompletions =>
    cases dialect with
    | standard =>
      simp [validateRequest, openAiCompatibleValidateRequest, replaysState, bind_ok,
        GenerationRequest.completed]
    | openRouter =>
      have hreplay : _ = ok () := openRouterReplay_ok uuid hbd hlims rfl
      have htool : ∀ context ∈ contexts, hasToolUse context.state = false :=
        fun context hctx => hasToolUse_of_openRouter hbd rfl hctx
      refine (guarded_ok (t := .ok ()) rfl).trans (and_congr Iff.rfl ?_)
      exact iff_of_true hreplay ⟨rfl, htool⟩
  | anthropicMessages =>
    have hopaque := validateOpaqueContext_ok uuid hbd hlims rfl
    refine (guarded_ok (t := .ok ()) rfl).trans (and_congr Iff.rfl ?_)
    exact hopaque.trans (and_iff_right rfl).symm

end Replaying

/-! ### Planned requests -/

/-- A request planned over a store for a new turn: from the history of a branch, or of the message
    an action forks at, and the new user message.  Without a temperature of its own it has none. -/
inductive PlannedOver (profileJson : String → String → Option String) (store : Store) :
    GenerationRequest → Prop
  | plan {uuid : String} {draws : PlannerDraws} {character : Character} {conversationId : String}
      {mode : ConversationMode} {history : List Message} {user : Message} {model : String}
      {temperature : UInt64} {maxOutputTokens : Option Nat} {planned request : GenerationRequest}
      (hhist : (∃ headMessageId, listRecentMessageLineageForPrompt uuid conversationId headMessageId
          (Chat.maxPromptMessages - 2) maxHistoryMessageBytes maxHistoryMessageChars store =
            .ok history) ∨
        ∃ branchId, listRecentBranchMessagesForPrompt uuid branchId (Chat.maxPromptMessages - 2)
          maxHistoryMessageBytes maxHistoryMessageChars store = .ok history)
      (huser : user.role = .user)
      (hplan : planWithMode uuid ⟨profileJson, clampTemperature⟩ draws character conversationId mode
        (history ++ [user]) model temperature maxOutputTokens = .ok planned)
      (hrequest : request = planned ∨ request = { planned with temperature := none }) :
      PlannedOver profileJson store request

/-- A lineage read for a prompt runs through stored messages. -/
theorem mem_of_mem_recentLineage {start : Option Message}
    (hstart : ∀ row ∈ start, row ∈ store.messages.rows) (hrow : row ∈ recentLineage store start maxMessages maxBytes maxChars) :
    row ∈ store.messages.rows := by
  have hmem := mem_of_mem_take (mem_reverse.mp hrow)
  refine forall_mem_ancestry hstart (fun a b _ hb => ?_) row (mem_filter.mp hmem).1
  exact (parentOf_eq_some.mp hb).2.1

theorem mem_of_listRecentMessageLineageForPrompt
    {headMessageId : Option String}
    (h : listRecentMessageLineageForPrompt uuid conversationId headMessageId maxMessages maxBytes
      maxChars store = .ok history) (hrow : row ∈ history) :
    row ∈ store.messages.rows := by
  unfold listRecentMessageLineageForPrompt at h
  split at h
  case isTrue =>
    rw [← Except.ok.inj h] at hrow
    exact (not_mem_nil hrow).elim
  case isFalse =>
    obtain ⟨_, _, rfl⟩ := last_step h
    refine mem_of_mem_recentLineage (fun start hstart => ?_) hrow
    obtain ⟨id, _, hin⟩ := Option.bind_eq_some_iff.mp hstart
    exact (messageIn_eq_some.mp hin).1

theorem mem_of_listRecentBranchMessagesForPrompt
    (h : listRecentBranchMessagesForPrompt uuid branchId maxMessages maxBytes maxChars store =
      .ok history) (hrow : row ∈ history) : row ∈ store.messages.rows := by
  unfold listRecentBranchMessagesForPrompt at h
  split at h
  case isTrue =>
    rw [← ok.inj h] at hrow
    exact (not_mem_nil hrow).elim
  case isFalse =>
    obtain ⟨_, _, rfl⟩ := last_step h
    refine mem_of_mem_recentLineage (fun start hstart => ?_) hrow
    obtain ⟨_, _, _, _, hmem, _⟩ := branchHead_eq_some.mp hstart
    exact hmem

/-- The replies in a planned request are stored: the other messages are the static prompt and the
    new user message. -/
theorem PlannedOver.storedReplies {profileJson : String → String → Option String}
    (h : PlannedOver profileJson store request) : StoredReplies store request.messages := by
  obtain ⟨hhist, huser, hplan, hrequest⟩ := h
  rename_i history user _ _ _ planned
  have hmsgs : request.messages = planned.messages := by
    rcases hrequest with rfl | rfl
    · rfl
    · rfl
  obtain ⟨_, system, profile, selected, hparts, hsystem, _, hprof, _, hlongest, _⟩ :=
    planWithMode_spec hplan
  rw [hmsgs, hparts]
  intro message hmsg hrole
  rcases mem_cons.mp hmsg with rfl | hmsg
  · rw [hsystem] at hrole
    cases hrole
  rcases mem_cons.mp hmsg with rfl | hmsg
  · rw [hprof] at hrole
    cases hrole
  have hin : message ∈ history ++ [user] :=
    (mem_filter.mp (hlongest.suffix.subset hmsg)).1
  rcases mem_append.mp hin with hold | hnew
  · rcases hhist with ⟨_, hread⟩ | ⟨_, hread⟩
    · exact mem_of_listRecentMessageLineageForPrompt hread hold
    · exact mem_of_listRecentBranchMessagesForPrompt hread hold
  · rw [mem_singleton.mp hnew, huser] at hrole
    cases hrole

/-! ### The whole way -/

section Whole

variable {profileJson : String → String → Option String}
  {hasCred : String → CoreResult Bool} {credential preserve : Bool}

/-- What a completed request is, for a target whose connection is there. -/
theorem configureGenerationProtocolRequest_ok (hcred : hasCred target.modelRouteId = .ok credential)
    {completed : ProtocolRequest} :
    configureGenerationProtocolRequest X uuid hasCred store request (some target) (some family)
        preserve = .ok completed ↔
      ∃ contexts, completed = request.completed family target (preserve && !credential) contexts ∧
        if (preserve && !credential) = true then
          loadOpaqueReasoningContext X uuid store family request.model target request.messages =
            .ok contexts
        else contexts = [] := by
  have hkeeps : keepsPreservation hasCred (some target) preserve =
      .ok (preserve && !credential) := by
    cases preserve with
    | false => rfl
    | true =>
      show (hasCred target.modelRouteId >>= fun credential => pure !credential) = _
      rw [hcred]
      rfl
  rw [configureGenerationProtocolRequest, hkeeps, ok_bind]
  constructor
  · intro h
    obtain ⟨contexts, hctxs, h⟩ := bind_ok.mp h
    refine ⟨contexts, (pure_inj h).symm, ?_⟩
    rw [preservedContext] at hctxs
    by_cases hon : (preserve && !credential) = true
    · rw [if_pos hon] at hctxs ⊢
      exact hctxs
    · rw [if_neg hon] at hctxs ⊢
      exact (ok.inj hctxs).symm
  · rintro ⟨contexts, rfl, hctxs⟩
    refine bind_ok.mpr ⟨contexts, ?_, rfl⟩
    rw [preservedContext]
    by_cases hon : (preserve && !credential) = true
    · rw [if_pos hon] at hctxs ⊢
      exact hctxs
    · rw [if_neg hon] at hctxs ⊢
      rw [hctxs]

/-- **Reasoning continuity.** Over every reachable store and for every request planned over it:

    * each generation's retained states were accepted on their own;
    * loading succeeds iff the states that the history carries over to the target are within the
      limits together, and then gives these states, each bound to its reply;
    * with preservation off, or for a connection with a credential, no state is read, completing
      succeeds, and the adapter checks what it checks of the plain request;
    * otherwise the adapter takes a completed request iff it takes the plain one, replays state at
      all, and no state has tool use. -/
theorem continuity_iff (hasCred : String → CoreResult Bool) (dialect : Dialect)
    (preserve : Bool) (h : Reachable (Conversations.step X) Store.empty store)
    (hplan : PlannedOver profileJson store request)
    (hcred : hasCred target.modelRouteId = .ok credential) :
    (∀ generation ∈ store.generations.rows, generation.opaqueReasoningState ≠ [] →
      validateOpaqueReasoningStates X.sizes generation.opaqueReasoningState = .ok ()) ∧
    ((∃ contexts, loadOpaqueReasoningContext X uuid store family request.model target
        request.messages = .ok contexts) ↔
      WithinReasoningLimits X.sizes
        (store.carriedStates family request.model target.modelRouteId request.messages)) ∧
    ((preserve && !credential) = false →
      configureGenerationProtocolRequest X uuid hasCred store request (some target)
          (some family) preserve = .ok (request.completed family target false []) ∧
        validateRequest X uuid (request.completed family target false []) family dialect =
          validateRequest X uuid request.withoutContinuity family dialect) ∧
    ((preserve && !credential) = true → ∀ completed,
      configureGenerationProtocolRequest X uuid hasCred store request (some target)
          (some family) preserve = .ok completed →
        completed.opaqueReasoningContext.map OpaqueReasoningContext.state =
            store.carriedStates family request.model target.modelRouteId request.messages ∧
          (∀ context ∈ completed.opaqueReasoningContext,
            BoundTo family request.model target.modelRouteId request.messages context) ∧
          (validateRequest X uuid completed family dialect = .ok () ↔
            validateRequest X uuid request.withoutContinuity family dialect = .ok () ∧
              replaysState family dialect = true ∧
                ∀ state ∈ store.carriedStates family request.model target.modelRouteId
                  request.messages, hasToolUse state = false)) := by
  have hr := retentive_of_reachable h
  have hstored := hplan.storedReplies
  refine ⟨fun generation hmem hne => (hr.retained generation hmem hne).limits,
    loadOpaqueReasoningContext_isOk_iff hr hstored, fun hoff => ⟨?_, validateRequest_completed_off⟩,
    fun hon completed hcompd => ?_⟩
  · refine (configureGenerationProtocolRequest_ok hcred).mpr ⟨[], by rw [hoff], ?_⟩
    rw [if_neg (by rw [hoff]; decide)]
  · obtain ⟨contexts, rfl, hload⟩ :=
      (configureGenerationProtocolRequest_ok hcred).mp hcompd
    rw [if_pos hon] at hload
    obtain ⟨hstates, hbd, hlims⟩ := loadOpaqueReasoningContext_spec hr hstored hload
    rw [hon]
    refine ⟨hstates, hbd, (validateRequest_completed_iff hbd hlims).trans ?_⟩
    rw [← hstates]
    simp

end Whole

/-! ### Two long replies -/

/-- A topology with 150 000 characters of reasoning. -/
def longTopology : OpenRouterReasoningTopology where
  reasoning := some (String.ofList (List.replicate 150000 'x'))
  reasoningDetails := none

/-- The sizes of this topology, 16 bytes around the text, and of lists of states with it, 60 bytes
    around each. -/
def longExternals : Externals :=
  { plainExternals with
    sizes :=
      { item := fun _ => 0
        topology := fun _ => 150016
        blocks := fun _ => 0
        states := fun states => some (max 2 (150061 * states.length + 1)) } }

/-- A catalog whose routes belong to OpenAI-compatible connections. -/
def routedCatalog : Catalog :=
  { plainCatalog with
    apiFamily := fun _ => some .openAiChatCompletions
    presetRoute := fun _ => some "r" }

def routedGeneration (id userId replyId : String) : GenerationRecord :=
  { plainGeneration id "b" userId replyId with
    modelRouteId := some "r"
    generationPresetId := some "p"
    providerFamily := some .openAiChatCompletions }

def finishedReply (id userId generationId : String) : Message :=
  { plainReply id userId generationId with content := "hello", status := .complete }

/-- Two turns, whose replies both retain the topology. -/
def twoLongReplies : List Operation :=
  [.saveConversation plainCatalog
     { id := "c", characterId := "x", title := "t", createdAt := "t", updatedAt := "t" } "b" "t",
   .appendGeneration routedCatalog "b" none (plainUser "u" none) (plainReply "a" "u" "g")
     (routedGeneration "g" "u" "a") "t",
   .finalizeGenerationWithProtocolState routedCatalog (finishedReply "a" "u" "g") none
     [.openRouterReasoning longTopology] none true "t",
   .appendGeneration routedCatalog "b" (some "a") (plainUser "v" (some "a"))
     (plainReply "d" "v" "h") (routedGeneration "h" "v" "d") "t",
   .finalizeGenerationWithProtocolState routedCatalog (finishedReply "d" "v" "h") none
     [.openRouterReasoning longTopology] none true "t"]

def longStore : Store := runAll longExternals Store.empty twoLongReplies

def longHistory : List Message :=
  [plainUser "u" none, finishedReply "a" "u" "g", plainUser "v" (some "a"),
    finishedReply "d" "v" "h"]

theorem reachable_longStore : Reachable (Conversations.step longExternals) empty longStore :=
  reachable_runAll ⟨[], .nil empty⟩

/-- The messages of the run are short: all of them fit behind the static prompt. -/
theorem fitsPrompt_longHistory (hbytes : staticBytes ≤ 1300) (hchars : staticChars ≤ 1300) :
    FitsPrompt staticBytes staticChars (longHistory ++ [plainUser "w" (some "d")]) := by
  have hempty : FitsPrompt staticBytes staticChars [] :=
    fitsPrompt_nil (hbytes.trans (by decide)) (hchars.trans (by decide))
  -- one message after another, from the newest back; each is at most five characters long
  have hcons : ∀ message messages, FitsPrompt staticBytes staticChars messages →
      messages.length ≤ 100 → byteLen message.content ≤ 5 → contentBytes messages ≤ 100 →
      contentChars messages ≤ 100 → FitsPrompt staticBytes staticChars (message :: messages) :=
    fun message messages hfits hlen htext hrestBytes hrestChars =>
      (fitsPrompt_cons hfits).mpr (fitsNext_short (by omega) (by omega) hlen htext)
  show FitsPrompt staticBytes staticChars [plainUser "u" none, finishedReply "a" "u" "g",
    plainUser "v" (some "a"), finishedReply "d" "v" "h", plainUser "w" (some "d")]
  refine hcons _ _ (hcons _ _ (hcons _ _ (hcons _ _ (hcons _ _ hempty ?_ ?_ ?_ ?_) ?_ ?_ ?_ ?_)
    ?_ ?_ ?_ ?_) ?_ ?_ ?_ ?_) ?_ ?_ ?_ ?_
  all_goals decide

/-- A request for a third turn carries both replies. -/
theorem exists_longRequest : ∃ request, PlannedOver plainPlanner.profileJson longStore request ∧
    request.model = "m" ∧ ∃ system profile, system.role = .system ∧ profile.role = .user ∧
      request.messages = system :: profile :: (longHistory ++ [plainUser "w" (some "d")]) := by
  obtain ⟨staticPrompt, hstatic, hbytes, hchars⟩ := exists_staticPrompt
  obtain ⟨selected, hsel⟩ := exists_selectHistory longHistory.reverse
    (fitsNext_short (hbytes.trans (by decide)) (hchars.trans (by decide)) (Nat.zero_le _)
      (show byteLen (plainUser "w" (some "d")).content ≤ 5 by decide))
  have hplan : ∃ planned, planWithMode "" ⟨plainPlanner.profileJson, clampTemperature⟩
      plainArgs.draws plainCharacter "c" .chat (longHistory ++ [plainUser "w" (some "d")]) "m"
      defaultTemperature (some 1024) = .ok planned ∧ planned.model = "m" ∧
      planned.messages = staticPrompt.systemMessage :: staticPrompt.profileMessage :: selected := by
    refine ⟨_, bind_ok.mpr ⟨(), by decide, bind_ok.mpr ⟨(), by decide,
      then_ok hstatic (then_ok hsel rfl)⟩⟩, rfl, rfl⟩
  obtain ⟨planned, hplan, hmod, hmsgs⟩ := hplan
  obtain ⟨_, system, profile, selected', hparts, hsystem, _, hprof, _, hlongest, _⟩ :=
    planWithMode_spec hplan
  have hread : listRecentBranchMessagesForPrompt "" "b" (Chat.maxPromptMessages - 2)
      maxHistoryMessageBytes maxHistoryMessageChars longStore = .ok longHistory := by decide
  refine ⟨planned, .plan (.inr ⟨"b", hread⟩) rfl hplan (.inl rfl), hmod, system, profile, hsystem,
    hprof, ?_⟩
  -- the whole history fits, so it is the longest suffix that does
  have hsame := hmsgs.symm.trans hparts
  obtain ⟨rfl, rfl, rfl⟩ : staticPrompt.systemMessage = system ∧
      staticPrompt.profileMessage = profile ∧ selected = selected' := by
    simpa using hsame
  obtain ⟨_, _, _, _, _, _, htotalBytes, htotalChars, _, _⟩ := buildStaticPrompt_ok hstatic
  have hwhole := hlongest.longest _ suffix_rfl (fitsPrompt_longHistory (by omega) (by omega))
  rw [hparts, hlongest.suffix.eq_of_length_le hwhole.length_le]
  rfl

/-- Each reply's state was accepted on its own, and together they are too long: the third turn
    cannot be sent. -/
theorem longReplies_not_loaded :
    Reachable (Conversations.step longExternals) Store.empty longStore ∧
    (∀ generation ∈ longStore.generations.rows, generation.opaqueReasoningState ≠ [] →
      validateOpaqueReasoningStates longExternals.sizes generation.opaqueReasoningState = .ok ()) ∧
    ∃ request, PlannedOver plainPlanner.profileJson longStore request ∧ ∀ contexts,
      loadOpaqueReasoningContext longExternals "" longStore .openAiChatCompletions request.model
        ⟨"r", "p"⟩ request.messages ≠ .ok contexts := by
  have hr := retentive_of_reachable reachable_longStore
  obtain ⟨request, hplan, hmod, system, profile, hsystem, hprof, hmsgs⟩ :=
    exists_longRequest
  refine ⟨reachable_longStore, fun generation hmem hne => (hr.retained generation hmem hne).limits,
    request, hplan, fun contexts hload => ?_⟩
  have hlims := (loadOpaqueReasoningContext_isOk_iff hr hplan.storedReplies).mp ⟨contexts, hload⟩
  have hcar : longStore.carriedStates .openAiChatCompletions request.model "r" request.messages =
      longStore.carriedStates .openAiChatCompletions "m" "r"
        (longHistory ++ [plainUser "w" (some "d")]) := by
    rw [hmod, hmsgs, carriedStates, flatMap_cons, flatMap_cons,
      statesOf, if_neg (by simp [hsystem]), statesOf, if_neg (by simp [hprof])]
    rfl
  have hsum : ((longStore.carriedStates .openAiChatCompletions "m" "r"
      (longHistory ++ [plainUser "w" (some "d")])).map
        (OpaqueReasoningState.payloadBytes longExternals.sizes)).sum = 300032 := by
    decide
  have hbytes := hlims.bytes
  rw [hcar, hsum] at hbytes
  exact absurd hbytes (by decide)

theorem continuity_iff_longReplies : ∃ request,
    PlannedOver plainPlanner.profileJson longStore request ∧
      ((∃ contexts, loadOpaqueReasoningContext longExternals "" longStore .openAiChatCompletions
          request.model ⟨"r", "p"⟩ request.messages = .ok contexts) ↔
        WithinReasoningLimits longExternals.sizes (longStore.carriedStates .openAiChatCompletions
          request.model "r" request.messages)) := by
  obtain ⟨request, hplan, _⟩ := exists_longRequest
  exact ⟨request, hplan,
    (continuity_iff (fun _ => .ok false) .openRouter true reachable_longStore hplan rfl).2.1⟩

end LorePia.Conversations
