import LorePia.Conversations.Endings
import LorePia.Lib.Exec

namespace LorePia.Conversations

open Lib

/-!
# The conversation store — runs

A run is a sequence of operations with any arguments, from the empty store.  An operation may
also fail for reasons outside the model, such as a full disk, and then changes nothing.
-/

/-- The operations on conversations, with their arguments. -/
inductive Operation
  | saveConversation (catalog : Catalog) (conversation : Conversation) (branchId now : String)
  | saveConversationWithMode (catalog : Catalog) (conversation : Conversation)
      (mode : ConversationMode) (branchId now : String)
  | createConversationBranch (conversationId : String) (fromMessageId title : Option String)
      (branchId createdAt updatedAt : String)
  | selectConversationBranch (conversationId branchId now : String)
  | appendGeneration (catalog : Catalog) (branchId : String) (expectedHead : Option String)
      (user assistant : Message) (generation : GenerationRecord) (now : String)
  | appendMessageGenerationAction (catalog : Catalog) (sourceBranchId : String)
      (expectedSourceHead : Option String) (targetMessageId : String)
      (action : MessageGenerationAction) (branch : ConversationBranch) (user assistant : Message)
      (generation : GenerationRecord) (now : String)
  | removeMessageFromBranch (conversationId branchId : String) (expectedHead : Option String)
      (targetMessageId now : String)
  | checkpointPendingAssistant (message : Message)
  | finalizeGenerationWithProtocolState (catalog : Catalog) (assistant : Message)
      (usage : Option GenerationUsage) (opaqueReasoningState : List OpaqueReasoningState)
      (errorCode : Option String) (keepAssistant : Bool) (now : String)
  | failGenerationAfterFinalizeError (catalog : Catalog) (assistant : Message)
      (keepAssistant : Bool) (now : String)
  | recover (catalog : Catalog) (preservePartialGenerations : Bool) (recoveredAt : String)

/-- Run an operation; what it returns besides the store is dropped. -/
def Operation.run (X : Externals) (uuid : String) (operation : Operation) (store : Store) :
    CoreResult Store :=
  match operation with
  | .saveConversation catalog conversation branchId now =>
    Conversations.saveConversation X uuid catalog conversation branchId now store
  | .saveConversationWithMode catalog conversation mode branchId now => do
    let result ← Conversations.saveConversationWithMode X uuid catalog conversation mode branchId
      now store
    return result.1
  | .createConversationBranch conversationId fromMessageId title branchId createdAt updatedAt => do
    let result ← Conversations.createConversationBranch X uuid conversationId fromMessageId title
      branchId createdAt updatedAt store
    return result.1
  | .selectConversationBranch conversationId branchId now => do
    let result ← Conversations.selectConversationBranch X uuid conversationId branchId now store
    return result.1
  | .appendGeneration catalog branchId expectedHead user assistant generation now =>
    Conversations.appendGeneration X uuid catalog branchId expectedHead user assistant generation
      now store
  | .appendMessageGenerationAction catalog sourceBranchId expectedSourceHead targetMessageId action
      branch user assistant generation now =>
    Conversations.appendMessageGenerationAction X uuid catalog sourceBranchId expectedSourceHead
      targetMessageId action branch user assistant generation now store
  | .removeMessageFromBranch conversationId branchId expectedHead targetMessageId now => do
    let result ← Conversations.removeMessageFromBranch X uuid conversationId branchId expectedHead
      targetMessageId now store
    return result.1
  | .checkpointPendingAssistant message =>
    Conversations.checkpointPendingAssistant X uuid message store
  | .finalizeGenerationWithProtocolState catalog assistant usage opaqueReasoningState errorCode
      keepAssistant now =>
    Conversations.finalizeGenerationWithProtocolState X uuid catalog assistant usage
      opaqueReasoningState errorCode keepAssistant now store
  | .failGenerationAfterFinalizeError catalog assistant keepAssistant now =>
    Conversations.failGenerationAfterFinalizeError X uuid catalog assistant keepAssistant now store
  | .recover catalog preservePartialGenerations recoveredAt =>
    applyRecoveryTransaction X uuid catalog preservePartialGenerations recoveredAt store

/-- One operation: it succeeds, or it fails and changes nothing. -/
def step (X : Externals) (store : Store) (operation : Operation) (store' : Store) : Prop :=
  store' = store ∨ ∃ uuid, operation.run X uuid store = .ok store'

variable {X : Externals} {store store' : Store} {operation : Operation}

/-- Dropping the second component of a result. -/
theorem exists_of_map_fst {α : Type} {x : CoreResult (Store × α)}
    (h : (x >>= fun result => pure result.1) = .ok store') : ∃ a, x = .ok (store', a) := by
  obtain ⟨⟨s, a⟩, hx, rfl⟩ := last_step h
  exact ⟨a, hx⟩

/-- **Every operation has one of the two effects.** -/
theorem Operation.effect (hc : Consistent store) (he : Enforced X.sqlite store)
    (h : operation.run X uuid store = .ok store') :
    Effect store store' ∧ Enforced X.sqlite store' := by
  cases operation with
  | saveConversation => exact saveConversation_effect h
  | saveConversationWithMode =>
    obtain ⟨_, h⟩ := exists_of_map_fst h
    exact saveConversationWithMode_effect h
  | createConversationBranch =>
    obtain ⟨_, h⟩ := exists_of_map_fst h
    exact createConversationBranch_effect h
  | selectConversationBranch =>
    obtain ⟨_, h⟩ := exists_of_map_fst h
    exact selectConversationBranch_effect h
  | appendGeneration =>
    obtain ⟨hstarts, henf⟩ := appendGeneration_effect h
    exact ⟨.starts _ _ _ hstarts, henf⟩
  | appendMessageGenerationAction =>
    obtain ⟨hstarts, henf⟩ := appendMessageGenerationAction_effect hc he h
    exact ⟨.starts _ _ _ hstarts, henf⟩
  | removeMessageFromBranch =>
    obtain ⟨_, h⟩ := exists_of_map_fst h
    exact removeMessageFromBranch_effect hc he h
  | checkpointPendingAssistant => exact checkpointPendingAssistant_effect h
  | finalizeGenerationWithProtocolState => exact finalizeGenerationWithProtocolState_effect hc he h
  | failGenerationAfterFinalizeError => exact failGenerationAfterFinalizeError_effect hc he h
  | recover => exact applyRecoveryTransaction_effect hc he h

/-- Either effect keeps consistency. -/
theorem Consistent.effect (hc : Consistent store) (he : Enforced X.sqlite store)
    (h : Effect store store') : Consistent store' := by
  cases h with
  | settles ended h => exact hc.settles h
  | starts user assistant generation h => exact hc.starts he h

/-- Either effect keeps every message that is not pending, as it is. -/
theorem Effect.kept (h : Effect store store') {row : Message} (hrow : row ∈ store.messages.rows)
    (hstat : row.status ≠ .pending) : row ∈ store'.messages.rows := by
  cases h with
  | settles ended h => exact h.kept row hrow hstat
  | starts user assistant generation h => exact h.mem_messages.mpr (.inl hrow)

/-- A store in which an operation may be run. -/
structure Sound (X : Externals) (store : Store) : Prop where
  consistent : Consistent store
  enforced : Enforced X.sqlite store

theorem Sound.empty (X : Externals) : Sound X Store.empty :=
  ⟨.empty, rfl, rfl, rfl⟩

/-- **Step lemma.** -/
theorem Sound.step (h : Sound X store) (hstep : step X store operation store') :
    Sound X store' ∧ ∀ row ∈ store.messages.rows, row.status ≠ .pending →
      row ∈ store'.messages.rows := by
  rcases hstep with rfl | ⟨uuid, hrun⟩
  · exact ⟨h, fun row hrow _ => hrow⟩
  · obtain ⟨heff, henf⟩ := operation.effect h.consistent h.enforced hrun
    exact ⟨⟨h.consistent.effect h.enforced heff, henf⟩, fun row => heff.kept⟩

/-- **Run lemma.** Every reachable store is sound. -/
theorem sound_of_reachable (h : Reachable (Conversations.step X) Store.empty store) :
    Sound X store :=
  h.invariant (fun _ _ _ hs hstep => (hs.step hstep).1) (Sound.empty X)

/-- **The invariant of the conversation store.** In every reachable store the clauses of
    `Invariant` hold, and no operation from there changes a message that is not pending, or
    deletes one that is not a pending reply. -/
theorem reachable_invariant (h : Reachable (Conversations.step X) Store.empty store) :
    Invariant store ∧
    ∀ operation store', Conversations.step X store operation store' →
      ∀ row ∈ store.messages.rows, ¬ (row.role = .assistant ∧ row.status = .pending) →
        row ∈ store'.messages.rows := by
  have hsound := sound_of_reachable h
  refine ⟨hsound.consistent.toInvariant hsound.enforced, ?_⟩
  intro operation store' hstep row hrow hterm
  refine (hsound.step hstep).2 row hrow fun hpend => hterm ⟨?_, hpend⟩
  exact hsound.enforced.role_of_not_complete hrow (by simp [hpend])

/-! ### A run -/

/-- Run the operations in order; one that fails changes nothing. -/
def runAll (X : Externals) (store : Store) : List Operation → Store
  | [] => store
  | operation :: operations =>
    match operation.run X "" store with
    | .ok store' => runAll X store' operations
    | .error _ => runAll X store operations

theorem reachable_runAll {start : Store} (h : Reachable (step X) start store) :
    Reachable (step X) start (runAll X store operations) := by
  induction operations generalizing store with
  | nil => exact h
  | cons operation operations ih =>
    rw [runAll]
    split
    case h_1 store' hrun => exact ih (h.step (l := operation) (.inr ⟨"", hrun⟩))
    case h_2 => exact ih h

/-- A database without JSON functions, for runs that use none. -/
def plainExternals : Externals where
  sqlite := { valid := fun _ => false, type := fun _ _ => none, extract := fun _ _ => none }
  sizes :=
    { item := fun _ => 0, topology := fun _ => 0, blocks := fun _ => 0, states := fun _ => some 0 }
  errorText := fun _ => ""

/-- A catalog with every character and no provider. -/
def plainCatalog : Catalog where
  hasCharacter := fun _ => true
  apiFamily := fun _ => none
  presetRoute := fun _ => none

def plainUser (id : String) (parentId : Option String) : Message where
  id := id
  conversationId := "c"
  parentId := parentId
  role := .user
  content := "hi"
  status := .complete
  generationId := none
  createdAt := "t"

def plainReply (id userId generationId : String) : Message where
  id := id
  conversationId := "c"
  parentId := some userId
  role := .assistant
  content := ""
  status := .pending
  generationId := some generationId
  createdAt := "t"

def plainGeneration (id branchId userId replyId : String) : GenerationRecord where
  id := id
  conversationId := "c"
  branchId := branchId
  userMessageId := userId
  assistantMessageId := some replyId
  mode := .chat
  model := "m"
  modelRouteId := none
  generationPresetId := none
  providerFamily := none
  status := .running
  inputTokens := none
  cachedReadTokens := none
  cachedWriteTokens := none
  outputTokens := none
  reasoningTokens := none
  toolTokens := none
  providerRawSummary := none
  opaqueReasoningState := []
  errorCode := none
  startedAt := "t"
  finishedAt := none

/-- A conversation with one finished turn and a second one that is still running. -/
def twoTurns : List Operation :=
  [.saveConversation plainCatalog
     { id := "c", characterId := "x", title := "t", createdAt := "t", updatedAt := "t" } "b" "t",
   .appendGeneration plainCatalog "b" none (plainUser "u" none) (plainReply "a" "u" "g")
     (plainGeneration "g" "b" "u" "a") "t",
   .finalizeGenerationWithProtocolState plainCatalog
     { plainReply "a" "u" "g" with content := "hello", status := .complete } none [] none true "t",
   .appendGeneration plainCatalog "b" (some "a") (plainUser "v" (some "a")) (plainReply "d" "v" "h")
     (plainGeneration "h" "b" "v" "d") "t"]

theorem reachable_invariant_twoTurns :
    (runAll plainExternals Store.empty twoTurns).messages.rows.map
        (fun row => (row.id, row.status == .pending)) =
      [("u", false), ("a", false), ("v", false), ("d", true)] ∧
    Invariant (runAll plainExternals Store.empty twoTurns) :=
  ⟨by decide, (reachable_invariant (X := plainExternals)
    (reachable_runAll ⟨[], .nil Store.empty⟩)).1⟩

end LorePia.Conversations
