import LorePia.Chat.Delivery

namespace LorePia.Chat

open Lib GenerationAccumulator List

/-!
# Chat — the credential does not leave

The user's credential goes to the provider and must not come back: not on a channel, however
it is cut into deltas, not in an identifier or a name, not inside the usage summary or the
retained reasoning state, and not in the text of an error.

Two things are compared by design as the guard compares them.  JSON is compared by its decoded
strings and keys, so a number or a bracket of the summary counts for nothing.  And the texts
of the core's own errors are fixed: a credential that is a word of such a text occurs in it.
-/

/-! ### What is retained -/

/-- The decoded texts of a retained reasoning state. -/
def blockTexts : AnthropicContentBlock → List String
  | .text text => [text]
  | .thinking thinking signature => [thinking, signature.val]
  | .redactedThinking data => [data.val]
  | .toolUse id name input => id.val :: name.val :: input.texts

def itemTexts (item : OpenAiResponsesReasoningItem) : List String :=
  [item.id.val] ++ item.summary ++ item.content.getD [] ++
    (item.encryptedContent.map OpaqueReasoningData.val).toList ++
    (item.status.map OpenAiResponsesReasoningStatus.asStr).toList

def topologyTexts (parseJson : String → Option Json) (topology : OpenRouterReasoningTopology) :
    List String :=
  topology.reasoning.toList ++ (topology.reasoningDetails.getD []).flatMap fun detail =>
      ((parseJson detail).map Json.texts).getD []

def stateTexts (parseJson : String → Option Json) : OpaqueReasoningState → List String
  | .openAiResponses item => itemTexts item
  | .geminiThoughtSignature _ signature => [signature.val]
  | .openRouterReasoning topology => topologyTexts parseJson topology
  | .anthropicMessages contentBlocks => contentBlocks.flatMap blockTexts

section Texts

theorem item_clean (h : item.containsExact credential = false) :
    ∀ text ∈ itemTexts item, strContains text credential = false := by
  simp only [OpenAiResponsesReasoningItem.containsExact, Bool.or_eq_false_iff] at h
  obtain ⟨⟨⟨⟨hid, hsum⟩, hcontent⟩, hencrypted⟩, hstat⟩ := h
  intro text htext
  simp only [itemTexts, mem_append, mem_singleton] at htext
  rcases htext with (((rfl | htext) | htext) | htext) | htext
  · exact hid
  · exact eq_false_of_ne_true (any_eq_false.mp hsum text htext)
  · cases hparts : item.content with
    | none => simp [hparts] at htext
    | some parts =>
      rw [hparts] at hcontent htext
      exact eq_false_of_ne_true (any_eq_false.mp hcontent text htext)
  · cases hdata : item.encryptedContent with
    | none => simp [hdata] at htext
    | some data =>
      rw [hdata] at hencrypted htext
      simp only [Option.map_some, Option.toList_some, mem_singleton] at htext
      rw [htext]
      exact hencrypted
  · cases hvalue : item.status with
    | none => simp [hvalue] at htext
    | some status =>
      rw [hvalue] at hstat htext
      simp only [Option.map_some, Option.toList_some, mem_singleton] at htext
      rw [htext]
      exact hstat

theorem topology_clean {parseJson : String → Option Json}
    (h : topology.containsExact parseJson credential = false) :
    ∀ text ∈ topologyTexts parseJson topology, strContains text credential = false := by
  simp only [OpenRouterReasoningTopology.containsExact, Bool.or_eq_false_iff] at h
  obtain ⟨hreas, hdetails⟩ := h
  intro text htext
  rcases mem_append.mp htext with htext | htext
  · cases hvalue : topology.reasoning with
    | none => simp [hvalue] at htext
    | some reasoning =>
      rw [hvalue] at hreas htext
      rw [Option.toList_some, mem_singleton] at htext
      rw [htext]
      exact hreas
  · obtain ⟨detail, hdetail, htext⟩ := mem_flatMap.mp htext
    cases hlist : topology.reasoningDetails with
    | none => simp [hlist] at hdetail
    | some details =>
      rw [hlist] at hdetails hdetail
      have hclean := eq_false_of_ne_true (any_eq_false.mp hdetails detail hdetail)
      cases hparse : parseJson detail with
      | none => simp [hparse] at htext
      | some value =>
        rw [hparse] at hclean htext
        exact (jsonValueContainsExact_eq_false credential value).mp hclean text htext

theorem block_clean (h : blockContainsExact credential block = false) :
    ∀ text ∈ blockTexts block, strContains text credential = false := by
  cases block with
  | text text => simpa [blockTexts, blockContainsExact] using h
  | thinking thinking signature => simpa [blockTexts, blockContainsExact] using h
  | redactedThinking data => simpa [blockTexts, blockContainsExact] using h
  | toolUse id name input =>
    simp only [blockContainsExact, Bool.or_eq_false_iff] at h
    intro text htext
    simp only [blockTexts, mem_cons] at htext
    rcases htext with rfl | rfl | htext
    · exact h.1.1
    · exact h.1.2
    · exact (jsonValueContainsExact_eq_false credential input).mp h.2 text htext

/-- The guard looks at every decoded text of a state. -/
theorem state_clean (h : opaqueStateContainsExact X state credential = false) :
    ∀ text ∈ stateTexts X.parseJson state, strContains text credential = false := by
  cases state with
  | openAiResponses item => exact item_clean h
  | geminiThoughtSignature index signature => simpa [stateTexts, opaqueStateContainsExact] using h
  | openRouterReasoning topology => exact topology_clean h
  | anthropicMessages blocks =>
    intro text htext
    obtain ⟨block, hblock, htext⟩ := mem_flatMap.mp htext
    exact block_clean (eq_false_of_ne_true (any_eq_false.mp h block hblock)) text htext

end Texts

/-! ### A run without a leak -/

/-- Nothing that a run shows or returns contains the credential. -/
structure NoLeak (X : ChatExternals) (credential : String) (run : GenerationRun) : Prop where
  text : strContains (emittedText run.emitted) credential = false
  reasoning : strContains (emittedReasoning run.emitted) credential = false
  arguments : ∀ id, strContains (emittedArguments id run.emitted) credential = false
  names : ∀ event ∈ run.emitted, ∀ name ∈ event.kind.names X.parseJson,
    strContains name credential = false
  ended : match run.ended with
    | .completed outcome =>
      strContains outcome.text credential = false ∧
      (∀ text ∈ summaryTexts X.parseJson outcome.usage, strContains text credential = false) ∧
      ∀ state ∈ outcome.opaqueReasoningState, ∀ text ∈ stateTexts X.parseJson state,
        strContains text credential = false
    | .failed report =>
      strContains report.partialText credential = false ∧
      (report.error.message ∈ ownMessages ∨ strContains report.error.message credential = false)
    | .panicked => False

/-- What went out, as far as it is accounted for, is clean. -/
structure CleanLog (X : ChatExternals) (credential : String) (acc : GenerationAccumulator) :
    Prop where
  text : strContains (emittedText acc.emitted) credential = false
  reasoning : strContains (emittedReasoning acc.emitted) credential = false
  arguments : ∀ id, strContains (emittedArguments id acc.emitted) credential = false
  names : ∀ event ∈ acc.emitted, ∀ name ∈ event.kind.names X.parseJson,
    strContains name credential = false
  shown : strContains acc.text credential = false

section Leaking

theorem Relays.cleanLog (hc : credential ≠ "") {all : Traffic} {channels : Channels}
    (h : acc.Relays X (some credential) all channels) : CleanLog X credential acc := by
  have hcont (text : String) : (CredentialReflectionGuard.new (some credential)).contains text =
        strContains text credential := guard_new_contains hc
  have htext := h.conveys.text.clean
  rw [hcont] at htext
  refine ⟨htext, ?_, fun id => ?_, ?_, ?_⟩
  · rw [← hcont]
    exact h.conveys.reasoning.clean
  · rw [← hcont]
    exact (h.conveys.calls id).clean
  · intro event hev name hname
    rw [← hcont]
    exact h.log.names event hev name hname
  · rw [h.shown]
    exact htext

theorem cleanLog_of_silent (hc : credential ≠ "") (hemitted : acc.emitted = [])
    (htext : acc.text = "") : CleanLog X credential acc := by
  have hempty : strContains "" credential = false := by
    rw [← guard_new_contains hc]
    exact guard_contains_empty (some credential)
  refine ⟨?_, ?_, fun id => ?_, ?_, ?_⟩
  · rw [hemitted]
    exact hempty
  · rw [hemitted]
    exact hempty
  · rw [hemitted]
    exact hempty
  · rw [hemitted]
    exact fun _ hev => nomatch hev
  · rw [htext]
    exact hempty

theorem StoppedSafe.cleanLog (hc : credential ≠ "") {stopped : Stopped}
    (h : StoppedSafe X (some credential) stopped) : CleanLog X credential stopped.acc := by
  rcases h.account with ⟨hemitted, htext⟩ | ⟨all, channels, hrelays⟩
  · exact cleanLog_of_silent hc hemitted htext
  · exact Relays.cleanLog hc hrelays

end Leaking

/-- **No leak.** For every non-empty credential, every request and every schedule of provider
    events, cancellation and result, with a receiver that stays open: no emitted channel,
    identifier, name, summary or retained state contains the credential, nor does the text of
    the outcome or of the failure; the error is one of the core's own fixed texts, or does not
    contain it either. -/
theorem generation_does_not_leak (X : ChatExternals) (request : GenerationRequest)
    (credential : String) (hc : credential ≠ "") (schedule : Schedule) :
    NoLeak X credential (runGeneration X request (some credential) none schedule) := by
  have hends := generate_ensures X request (some credential) schedule
  unfold runGeneration
  cases hrun : generate X request (some credential) none schedule with
  | ok out =>
    obtain ⟨acc, outcome⟩ := out
    have hdeliv : Delivered X (some credential) schedule acc outcome := (hends.of_ok hrun).1
    have hrelays := hdeliv.relays_closed
    have hlog := Relays.cleanLog hc hrelays
    refine ⟨hlog.text, hlog.reasoning, hlog.arguments, hlog.names, ?_, ?_, ?_⟩
    · rw [hdeliv.text]
      exact hlog.shown
    · intro text htext
      rw [← guard_new_contains hc]
      exact hdeliv.summary text htext
    · intro state hst
      rw [hdeliv.states] at hst
      exact state_clean (hrelays.log.states state hst credential (guard_new_credential hc))
  | error stopped =>
    obtain ⟨fault, acc⟩ := stopped
    have hsafe : StoppedSafe X (some credential) ⟨fault, acc⟩ := (hends.of_error hrun).1
    have hlog := hsafe.cleanLog hc
    obtain ⟨error, hfault, hmsg⟩ := hsafe.error
    cases hfault
    refine ⟨hlog.text, hlog.reasoning, hlog.arguments, hlog.names, hlog.shown, ?_⟩
    rcases hmsg with hown | hclean
    · exact .inl hown
    · rw [guard_new_contains hc] at hclean
      exact .inr hclean

theorem generation_does_not_leak_sample :
    "sk-1" ≠ "" ∧ NoLeak sampleExternals "sk-1"
      (runGeneration sampleExternals sampleRequest (some "sk-1") none sampleSchedule) :=
  ⟨by decide, generation_does_not_leak sampleExternals sampleRequest "sk-1" (by decide)
    sampleSchedule⟩

/-! ### What is not compared -/

/-- The provider echoes the credential `provider`. -/
def echoSchedule : Schedule where
  cancelledBefore := false
  ticks := [.event (.textDelta "provider")]
  result := .ok .default
  queued := []

/-- The summary of a usage that counts twelve tokens. -/
def countedSummary : BoundedJson := ⟨"\x7b\"input\":12\x7d"⟩

def countedUsage : GenerationUsage := { GenerationUsage.default with
  providerRawSummary := some countedSummary }

def countedExternals : ChatExternals := { sampleExternals with
  parseJson := fun text =>
    if text = countedSummary.val then some (.object [("input", .number (.posInt 12))])
    else none }

def countedSchedule : Schedule where
  cancelledBefore := false
  ticks := []
  result := .ok countedUsage
  queued := []

/-- The fixed text of the reflection error contains the credential `provider`, and a usage
    summary is passed on whose text contains the credential `12` in a number. -/
theorem fixed_texts_and_numbers_not_compared :
    ((runGeneration sampleExternals sampleRequest (some "provider") none echoSchedule).ended =
        .failed ⟨credentialReflectionError sampleExternals.uuid, "", 1⟩ ∧
      strContains (credentialReflectionError sampleExternals.uuid).message "provider" = true) ∧
    ((runGeneration countedExternals sampleRequest (some "12") none countedSchedule).emitted =
        [sampleEvent 1 .generationStarted, sampleEvent 2 (.usageUpdated countedUsage)] ∧
      strContains countedSummary.val "12" = true) := by
  refine ⟨⟨?_, ?_⟩, ?_, ?_⟩ <;> decide

end LorePia.Chat
