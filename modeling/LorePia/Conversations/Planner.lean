import LorePia.Conversations.Sends
import LorePia.Lib.Longest
import Mathlib.Algebra.GroupWithZero.Nat

namespace LorePia.Conversations

open Lib List Chat LongestSuffix Conversations.Message Nat

/-!
# The conversation store — what the planner plans

The planner fills a budget from the newest message back and stops at the first message that
does not fit.  What fits passes to suffixes, so the messages it takes are the longest suffix of
the history that fits (`selectHistory_longest`); and what it plans passes the checks a generation
makes on its request, which count the same bytes and characters again (`planWithMode_spec`).
-/

variable {uuid : String} {conversationId : String} {result selected : List Message}

/-! ### Requests as a generation reads them -/

/-- The parts of a message that a generation reads. -/
def Message.toProviderMessage (message : Message) : LorePia.Message :=
  { conversationId := message.conversationId, role := message.role, content := message.content }

/-- A planned request; the planner adds no provenance and keeps no reasoning state. -/
def GenerationRequest.toProviderRequest (request : GenerationRequest) :
    LorePia.GenerationRequest where
  generationId := request.generationId
  conversationId := request.conversationId
  model := request.model
  messages := request.messages.map Message.toProviderMessage
  temperature := request.temperature
  maxOutputTokens := request.maxOutputTokens
  providerProvenance := none
  preserveOpaqueReasoningState := false

/-- `f64::clamp` to the range from 0.0 to 2.0, on bit patterns: a NaN and the negative zero stay as
    they are. -/
def clampTemperature (bits : UInt64) : UInt64 :=
  if bits &&& 0x7FFFFFFFFFFFFFFF > 0x7FF0000000000000 ∨ bits = 0x8000000000000000 then bits
  else if bits > 0x8000000000000000 then 0
  else if bits > 0x4000000000000000 then 0x4000000000000000
  else bits

theorem isFinite_clampTemperature {bits : UInt64} (h : isFinite bits = true) :
    isFinite (clampTemperature bits) = true := by
  unfold clampTemperature
  split
  · exact h
  · split
    · decide
    · split
      · decide
      · exact h

/-! ### What fits a prompt -/

def contentBytes (messages : List Message) : Nat :=
  (messages.map fun message => byteLen message.content).sum

def contentChars (messages : List Message) : Nat :=
  (messages.map fun message => charCount message.content).sum

@[simp] theorem contentBytes_cons (message : Message) (messages : List Message) :
    contentBytes (message :: messages) = byteLen message.content + contentBytes messages := by
  simp [contentBytes]

@[simp] theorem contentChars_cons (message : Message) (messages : List Message) :
    contentChars (message :: messages) = charCount message.content + contentChars messages := by
  simp [contentChars]

/-- The messages can follow a static prompt of the given size: they are few enough, each is
    within the limits of one message, and every total from the newest back is within the limits of
    a prompt. -/
structure FitsPrompt (staticBytes staticChars : Nat) (messages : List Message) : Prop where
  count : messages.length ≤ Chat.maxPromptMessages - 2
  bytes : ∀ message ∈ messages, byteLen message.content ≤ maxHistoryMessageBytes
  chars : ∀ message ∈ messages, charCount message.content ≤ maxHistoryMessageChars
  totalBytes : ∀ newest, newest <:+ messages →
    staticBytes + contentBytes newest ≤ Chat.maxPromptBytes
  totalChars : ∀ newest, newest <:+ messages →
    staticChars + contentChars newest ≤ Chat.maxPromptChars

theorem hereditary_fitsPrompt (staticBytes staticChars : Nat) :
    Hereditary (FitsPrompt staticBytes staticChars) := fun _ _ hsuf h =>
  { count := hsuf.length_le.trans h.count
    bytes := fun message hmsg => h.bytes message (hsuf.subset hmsg)
    chars := fun message hmsg => h.chars message (hsuf.subset hmsg)
    totalBytes := fun newest hnewest => h.totalBytes newest (hnewest.trans hsuf)
    totalChars := fun newest hnewest => h.totalChars newest (hnewest.trans hsuf) }

variable {message : Message}

theorem fitsPrompt_nil (hbytes : staticBytes ≤ maxPromptBytes)
    (hchars : staticChars ≤ maxPromptChars) : FitsPrompt staticBytes staticChars [] := by
  refine ⟨by decide, by simp, by simp, fun newest hnewest => ?_, fun newest hnewest => ?_⟩
  · rw [suffix_nil.mp hnewest]
    exact hbytes
  · rw [suffix_nil.mp hnewest]
    exact hchars

/-- One more message fits exactly when the loop takes it. -/
theorem fitsPrompt_cons (h : FitsPrompt staticBytes staticChars messages) :
    FitsPrompt staticBytes staticChars (message :: messages) ↔
      FitsNext (staticBytes + contentBytes messages) (staticChars + contentChars messages)
        messages.length message := by
  constructor
  · intro hcons
    have hcount := hcons.count
    have hbytes := hcons.totalBytes _ suffix_rfl
    have hchars := hcons.totalChars _ suffix_rfl
    rw [length_cons] at hcount
    rw [contentBytes_cons] at hbytes
    rw [contentChars_cons] at hchars
    exact ⟨by omega, hcons.bytes message (by simp), hcons.chars message (by simp), by omega,
      by omega⟩
  · rintro ⟨hcount, hbytes, hchars, htotalBytes, htotalChars⟩
    have hlen := h.count
    refine ⟨?_, ?_, ?_, ?_, ?_⟩
    · rw [length_cons]
      omega
    · rw [forall_mem_cons]
      exact ⟨hbytes, h.bytes⟩
    · rw [forall_mem_cons]
      exact ⟨hchars, h.chars⟩
    · intro newest hnewest
      rcases suffix_cons_iff.mp hnewest with rfl | hnewest
      · rw [contentBytes_cons]
        omega
      · exact h.totalBytes newest hnewest
    · intro newest hnewest
      rcases suffix_cons_iff.mp hnewest with rfl | hnewest
      · rw [contentChars_cons]
        omega
      · exact h.totalChars newest hnewest

/-! ### The loop over the history -/

private theorem max_le_u64Max : maxPromptBytes ≤ u64Max ∧ maxPromptChars ≤ u64Max := by
  decide

/-- **The longest suffix that fits.** What the loop selects of a history. -/
theorem selectHistory_longest (hfits : FitsPrompt staticBytes staticChars selected)
    (h : selectHistory uuid (staticBytes + contentBytes selected)
      (staticChars + contentChars selected) selected older = .ok result) :
    LongestSuffix (FitsPrompt staticBytes staticChars) (older.reverse ++ selected) result ∧
      (older.reverse ++ selected).getLast? = result.getLast? := by
  induction older generalizing selected with
  | nil =>
    cases h
    exact ⟨self hfits, rfl⟩
  | cons message older ih =>
    rw [reverse_cons, append_assoc, singleton_append]
    by_cases hmore : FitsPrompt staticBytes staticChars (message :: selected)
    · rw [selectHistory_fits ((fitsPrompt_cons hfits).mp hmore), add_assoc, add_assoc,
        add_comm (contentBytes selected), add_comm (contentChars selected),
        ← contentBytes_cons, ← contentChars_cons] at h
      exact ih hmore h
    · obtain ⟨e, hends⟩ := selectHistory_misfit fun hnext => hmore ((fitsPrompt_cons hfits).mpr hnext)
      rw [hends] at h
      by_cases hne : selected = []
      · rw [if_pos hne] at h
        cases h
      rw [if_neg hne] at h
      cases h
      refine ⟨stop (hereditary_fitsPrompt _ _) hfits hmore, ?_⟩
      rw [getLast?_append, getLast?_cons_of_ne_nil hne]
      rw [getLast?_eq_some_getLast hne]
      rfl

/-! ### The whole plan -/

/-- The static prompt: a system message of constants, and the profile as a user message. -/
theorem buildStaticPrompt_ok
    (h : buildStaticPrompt uuid P draws character conversationId mode = .ok staticPrompt) :
    staticPrompt.systemMessage.role = .system ∧ staticPrompt.systemMessage.content =
        trustedSystemPolicy ++ "\n\n" ++ modeInstruction mode ∧
      staticPrompt.systemMessage.conversationId = conversationId ∧
      staticPrompt.profileMessage.role = .user ∧
      (∃ profileJson, P.profileJson (trim character.name) (trim character.description)
          = some profileJson ∧
        staticPrompt.profileMessage.content = untrustedProfilePrefix ++ profileJson) ∧
      staticPrompt.profileMessage.conversationId = conversationId ∧
      staticPrompt.totalBytes = byteLen staticPrompt.systemMessage.content +
        byteLen staticPrompt.profileMessage.content ∧
      staticPrompt.totalChars = charCount staticPrompt.systemMessage.content +
        charCount staticPrompt.profileMessage.content ∧
      staticPrompt.totalBytes ≤ maxPromptBytes ∧
      staticPrompt.totalChars ≤ maxPromptChars := by
  obtain ⟨_, -, profileJson, hjson, h⟩ := steps₂ h
  obtain ⟨totalBytes, hbytes, totalChars, hchars, h⟩ := steps₂ h
  obtain ⟨hlims, h⟩ := guard_ok.mp h
  obtain rfl := pure_inj h
  rw [okOr_ok, checkedAdd_eq_some] at hbytes hchars
  exact ⟨rfl, rfl, rfl, rfl, ⟨profileJson, okOr_ok.mp hjson, rfl⟩, rfl, hbytes.2.symm,
    hchars.2.symm, hlims.1, hlims.2⟩

/-- The request's own loop lets through what was counted before. -/
theorem validateMessages_ok {index totalBytes totalChars : Nat} (hidx : index ≠ 0)
    (hconversation : ∀ message ∈ messages, message.conversationId = conversationId)
    (hrole : ∀ message ∈ messages, message.role ≠ .system)
    (hbytes : totalBytes + contentBytes messages ≤ maxPromptBytes)
    (hchars : totalChars + contentChars messages ≤ maxPromptChars) :
    validateMessages uuid conversationId index totalBytes totalChars sawSystem
      (messages.map toProviderMessage) = .ok () := by
  obtain ⟨hmaxBytes, hmaxChars⟩ := max_le_u64Max
  induction messages generalizing index totalBytes totalChars sawSystem with
  | nil => rfl
  | cons message messages ih =>
    obtain ⟨hconv, hconversation⟩ := forall_mem_cons.mp hconversation
    obtain ⟨hsystem, hrole⟩ := forall_mem_cons.mp hrole
    rw [contentBytes_cons] at hbytes
    rw [contentChars_cons] at hchars
    refine guarded hconv ?_
    refine guarded (fun hboth => hsystem hboth.1) ?_
    refine bind_ok.mpr ⟨totalBytes + byteLen message.content,
      okOr_ok.mpr (checkedAdd_of_le ?_), ?_⟩
    · show totalBytes + byteLen message.content ≤ u64Max
      omega
    refine bind_ok.mpr ⟨totalChars + charCount message.content,
      okOr_ok.mpr (checkedAdd_of_le ?_), ?_⟩
    · show totalChars + charCount message.content ≤ u64Max
      omega
    refine guarded (by omega) ?_
    exact ih (succ_ne_zero index) hconversation hrole (by omega) (by omega)

/-- The controls that were checked before the clamping pass again after it. -/
theorem validateRequestControls_clampTemperature
    (h : validateRequestControls uuid model (some temperature) maxOutputTokens = .ok u) :
    validateRequestControls uuid model (some (clampTemperature temperature))
      maxOutputTokens = .ok () := by
  obtain ⟨hmod, hfinite, h⟩ := guards₂ h
  refine guarded hmod (guarded ?_ h)
  exact isFinite_clampTemperature hfinite

/-- A request of a system message and others without that role passes, if its totals do. -/
theorem validateGenerationRequest_ok {request : GenerationRequest}
    {others : List Message} (hmsgs : request.messages = system :: others)
    (hcontrols : validateRequestControls uuid request.model request.temperature
      request.maxOutputTokens = .ok u) (hlen : others.length + 1 ≤ maxPromptMessages)
    (hsystem : system.conversationId = request.conversationId)
    (hconversation : ∀ message ∈ others, message.conversationId = request.conversationId)
    (hrole : ∀ message ∈ others, message.role ≠ .system)
    (hbytes : byteLen system.content + contentBytes others ≤ maxPromptBytes)
    (hchars : charCount system.content + contentChars others ≤ maxPromptChars) :
    validateGenerationRequest uuid request.toProviderRequest = .ok () := by
  obtain ⟨hmaxBytes, hmaxChars⟩ := max_le_u64Max
  refine then_ok hcontrols (guarded ?_ ?_)
  · show (request.messages.map toProviderMessage).length ≤ maxPromptMessages
    rw [length_map, hmsgs, length_cons]
    exact hlen
  · show validateMessages uuid request.conversationId 0 0 0 false
      (request.messages.map toProviderMessage) = .ok ()
    rw [hmsgs, map_cons, validateMessages]
    refine guarded hsystem (guarded (by simp) ?_)
    refine bind_ok.mpr ⟨0 + byteLen system.content,
      okOr_ok.mpr (checkedAdd_of_le ?_), ?_⟩
    · show 0 + byteLen system.content ≤ u64Max
      omega
    refine bind_ok.mpr ⟨0 + charCount system.content,
      okOr_ok.mpr (checkedAdd_of_le ?_), ?_⟩
    · show 0 + charCount system.content ≤ u64Max
      omega
    refine guarded (by omega) ?_
    exact validateMessages_ok Nat.one_ne_zero hconversation hrole (by omega) (by omega)

/-- The messages of a history that the planner considers. -/
def promptHistory (history : List Message) : List Message :=
  history.filter fun message => message.role != .system

/-- **What the planner plans.** A planned request passes the checks of a generation; it is a
    system message of constants, the profile, and the longest suffix of the history that fits
    behind them, which holds the newest message if there is one. -/
theorem planWithMode_spec {profileJson : String → String → Option String} {draws : PlannerDraws}
    {character : Character} {conversationId : String} {mode : ConversationMode}
    {history : List Message} {model : String} {temperature : UInt64}
    {maxOutputTokens : Option Nat} {request : GenerationRequest}
    (h : planWithMode uuid ⟨profileJson, clampTemperature⟩ draws character conversationId mode
      history model temperature maxOutputTokens = .ok request) :
    Chat.validateGenerationRequest uuid request.toProviderRequest = .ok () ∧
    ∃ system profile selected, request.messages = system :: profile :: selected ∧
      system.role = .system ∧
      system.content = trustedSystemPolicy ++ "\n\n" ++ modeInstruction mode ∧
      profile.role = .user ∧
      (∃ json, profileJson (trim character.name) (trim character.description) = some json ∧
        profile.content = untrustedProfilePrefix ++ json) ∧
      LongestSuffix (FitsPrompt (byteLen system.content + byteLen profile.content)
          (charCount system.content + charCount profile.content))
        (promptHistory history) selected ∧
      (promptHistory history).getLast? = selected.getLast? := by
  obtain ⟨_, hcontrols, _, hhist, h⟩ := steps₂ h
  obtain ⟨staticPrompt, hstatic, selected, hsel, h⟩ := steps₂ h
  obtain rfl := pure_inj h
  obtain ⟨hsystemRole, hsystem, hsystemConv, hprofRole, hprof, hprofConv, hbytes, hchars,
    hmaxBytes, hmaxChars⟩ := buildStaticPrompt_ok hstatic
  obtain ⟨hlongest, hlast⟩ := selectHistory_longest (fitsPrompt_nil hmaxBytes hmaxChars) hsel
  have hreverse : (history.reverse.filter fun message => message.role != .system).reverse ++ []
      = promptHistory history := by
    rw [append_nil, filter_reverse, reverse_reverse]
    rfl
  rw [hreverse] at hlongest hlast
  rw [hbytes, hchars] at hlongest
  refine ⟨?_, staticPrompt.systemMessage, staticPrompt.profileMessage, selected, rfl, hsystemRole,
    hsystem, hprofRole, hprof, hlongest, hlast⟩
  have hfits := hlongest.holds
  have htotalBytes := hfits.totalBytes _ suffix_rfl
  have htotalChars := hfits.totalChars _ suffix_rfl
  have hcount := hfits.count
  have hmem : ∀ message ∈ selected, message ∈ history ∧ message.role ≠ .system := by
    intro message hmsg
    obtain ⟨hin, hrole⟩ := mem_filter.mp (hlongest.suffix.subset hmsg)
    exact ⟨hin, by simpa using hrole⟩
  have hsame : ∀ message ∈ history, message.conversationId = conversationId := by
    obtain ⟨-, hall⟩ := guard_ok.mp hhist
    simpa using require_ok.mp hall
  refine validateGenerationRequest_ok
    (show _ = staticPrompt.systemMessage :: staticPrompt.profileMessage :: selected from rfl)
    (validateRequestControls_clampTemperature hcontrols) ?_ hsystemConv ?_ ?_ ?_ ?_
  · have hlim : maxPromptMessages = 128 := rfl
    rw [length_cons]
    omega
  · rw [forall_mem_cons]
    exact ⟨hprofConv, fun message hmsg => hsame message (hmem message hmsg).1⟩
  · rw [forall_mem_cons]
    refine ⟨?_, fun message hmsg => (hmem message hmsg).2⟩
    rw [hprofRole]
    decide
  · rw [contentBytes_cons]
    omega
  · rw [contentChars_cons]
    omega

/-- A plan for the example client's message is a request a generation accepts. -/
theorem planWithMode_spec_plain : ∃ request,
    planWithMode "" ⟨plainPlanner.profileJson, clampTemperature⟩ plainArgs.draws plainCharacter "c"
      .chat [plainArgs.userMessage "next"] "m" defaultTemperature (some 1024) = .ok request ∧
    Chat.validateGenerationRequest "" request.toProviderRequest = .ok () := by
  obtain ⟨staticPrompt, hstatic, hbytes, hchars⟩ := exists_staticPrompt
  obtain ⟨selected, hsel⟩ := exists_selectHistory []
    (fitsNext_short (hbytes.trans (by decide)) (hchars.trans (by decide)) (zero_le _)
      (show byteLen (plainArgs.userMessage "next").content ≤ 5 by decide))
  have hplan : ∃ request, planWithMode "" ⟨plainPlanner.profileJson, clampTemperature⟩
      plainArgs.draws plainCharacter "c" .chat [plainArgs.userMessage "next"] "m"
      defaultTemperature (some 1024) = .ok request := by
    refine ⟨_, bind_ok.mpr ⟨(), by decide, bind_ok.mpr ⟨(), by decide,
      bind_ok.mpr ⟨staticPrompt, hstatic, bind_ok.mpr ⟨selected, hsel, rfl⟩⟩⟩⟩⟩
  obtain ⟨request, hrequest⟩ := hplan
  exact ⟨request, hrequest, (planWithMode_spec hrequest).1⟩

end LorePia.Conversations
