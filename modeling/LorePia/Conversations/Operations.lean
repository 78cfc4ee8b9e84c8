import LorePia.Conversations.Tables

namespace LorePia.Conversations

open Lib
open DiscoveryStore (SqliteError)

/-!
# The conversation store — operations

The storage operations on conversations, each one transaction: a failure at any statement
leaves the store as it was.  An operation takes the identifiers it draws and the times it
reads as arguments.
-/

variable (X : Externals) (uuid : String)

/-! ### Errors -/

variable (message : String)

def invalid : CoreError := .new uuid .invalidInput message false

def notFound : CoreError := .new uuid .notFound message false

def storageCorrupted : CoreError := .new uuid .storageCorrupted message false

def storageDbError (error : SqliteError) : CoreError :=
  .new uuid .storageUnavailable ("SQLite operation failed: " ++ X.errorText error) true

def staleBranchError : CoreError :=
  .new uuid .invalidInput "conversation branch head changed; refresh before retrying" true

def activeGenerationActionError : CoreError :=
  .new uuid .invalidInput "message actions are unavailable while the branch is generating" true

/-- A statement of the transaction. -/
def execute {α : Type} (statement : Except SqliteError α) : CoreResult α :=
  statement.mapError (storageDbError X uuid)

/-! ### Conversations and branches -/

variable (conversationId : String)

def ConversationBranch.root (id now : String) : ConversationBranch where
  id := id
  conversationId := conversationId
  title := none
  forkMessageId := none
  headMessageId := none
  createdAt := now
  updatedAt := now

variable (catalog : Catalog)

def saveConversationWithMode (conversation : Conversation)
    (mode : ConversationMode) (branchId now : String) (store : Store) :
    CoreResult (Store × ConversationBranch × ConversationState) := do
  let branch := ConversationBranch.root conversation.id branchId now
  let state : ConversationState :=
    { conversationId := conversation.id
      activeBranchId := branch.id
      selectedMode := mode
      updatedAt := conversation.updatedAt }
  let store ← execute X uuid (store.insertConversationRow X.sqlite catalog conversation)
  let store ← execute X uuid (store.insertBranchRow X.sqlite branch)
  let store ← execute X uuid (store.insertStateRow X.sqlite state)
  return (store, branch, state)

def saveConversation (conversation : Conversation) (branchId now : String)
    (store : Store) : CoreResult Store := do
  let saved ← saveConversationWithMode X uuid catalog conversation .chat branchId now store
  return saved.1

/-- The source of a new branch: a message that is not pending, or an existing conversation. -/
def requireBranchSource (store : Store) :
    Option String → CoreResult Unit
  | some messageId =>
    require ((store.messageIn conversationId messageId).any fun row => row.status != .pending)
      (notFound uuid "branch source message was not found in the conversation")
  | none => require (store.hasConversation conversationId) (notFound uuid "conversation was not found")

def createConversationBranch (fromMessageId title : Option String)
    (branchId createdAt updatedAt : String) (store : Store) :
    CoreResult (Store × ConversationBranch) := do
  let branch : ConversationBranch :=
    { id := branchId
      conversationId := conversationId
      title := title
      forkMessageId := fromMessageId
      headMessageId := fromMessageId
      createdAt := createdAt
      updatedAt := updatedAt }
  requireBranchSource uuid conversationId store fromMessageId
  let store ← execute X uuid (store.insertBranchRow X.sqlite branch)
  return (store, branch)

def getConversationState (store : Store) :
    CoreResult ConversationState :=
  okOr (store.states.find? conversationId) (notFound uuid "conversation state was not found")

def selectConversationBranch (branchId now : String) (store : Store) :
    CoreResult (Store × ConversationState) := do
  let (changed, store) ← execute X uuid (store.updateStates X.sqlite
    (fun row => row.conversationId == conversationId && store.hasBranch conversationId branchId)
    (fun row => { row with activeBranchId := branchId, updatedAt := now }) fun _ => rfl)
  require (changed = 1) (notFound uuid "conversation branch was not found in the conversation")
  let state ← getConversationState uuid conversationId store
  return (store, state)

/-! ### Starting a generation -/

def userAppendMessage : String :=
  "branch append requires a complete user message parented to the expected head"

def assistantAppendMessage : String :=
  "branch append requires a pending assistant child of the user message"

def generationAppendMessage : String :=
  "generation record does not own the appended user and assistant messages"

variable (branchId : String)

def validateGenerationAppend (expectedHead : Option String)
    (user assistant : Message) (generation : GenerationRecord) : CoreResult Unit := do
  require (user.role = .user ∧ user.status = .complete ∧ user.generationId = none ∧
    user.parentId = expectedHead) (invalid uuid userAppendMessage)
  require (assistant.role = .assistant ∧ assistant.status = .pending ∧
    assistant.parentId = some user.id ∧ assistant.conversationId = user.conversationId)
    (invalid uuid assistantAppendMessage)
  require (generation.status = .running ∧ generation.finishedAt = none ∧
    generation.opaqueReasoningState = []) (invalid uuid generationAppendMessage)
  let generationId ← okOr assistant.generationId
    (invalid uuid "pending assistant message requires a generation id")
  require (generation.id = generationId ∧ generation.conversationId = user.conversationId ∧
    generation.branchId = branchId ∧ generation.userMessageId = user.id ∧
    generation.assistantMessageId = some assistant.id) (invalid uuid generationAppendMessage)

/-- `u64_to_i64` under an option. -/
def u64ToI64 (value : Option Nat) : CoreResult (Option Nat) := do
  require (value.all fun n => n ≤ i64Max) (invalid uuid "value exceeds SQLite integer range")
  return value

/-- The list itself stands for its text. -/
def serializeOpaqueReasoningState (states : List OpaqueReasoningState) :
    CoreResult (List OpaqueReasoningState) :=
  if states = [] then .ok []
  else do
    (validateOpaqueReasoningStates X.sizes states).mapError (invalid uuid)
    let serialized ← okOr (X.sizes.states states)
      (invalid uuid "opaque reasoning state could not be encoded")
    require (serialized ≤ maxOpaqueReasoningSerializedBytes)
      (invalid uuid "opaque reasoning state exceeds the stored JSON size limit")
    return states

def matchesFamily (family : ApiFamily) (state : OpaqueReasoningState) : Bool :=
  match family, state with
  | .openAiResponses, .openAiResponses _ => true
  | .openAiChatCompletions, .openRouterReasoning _ => true
  | .anthropicMessages, .anthropicMessages _ => true
  | .geminiGenerateContent, .geminiThoughtSignature _ _ => true
  | _, _ => false

variable (providerFamily : Option ApiFamily)

def opaqueReasoningStateMatchesProviderFamily (states : List OpaqueReasoningState) : Bool :=
  states.isEmpty || providerFamily.any fun family => states.all (matchesFamily family)

def serializeOpaqueReasoningStateForFamily
    (states : List OpaqueReasoningState) : CoreResult (List OpaqueReasoningState) := do
  require (opaqueReasoningStateMatchesProviderFamily providerFamily states)
    (invalid uuid "opaque reasoning state does not match the generation provider family")
  serializeOpaqueReasoningState X uuid states

def insertMessage (message : Message) (store : Store) : CoreResult Store :=
  execute X uuid (store.insertMessageRow X.sqlite message)

def insertGeneration (generation : GenerationRecord) (store : Store) :
    CoreResult Store := do
  let opaqueReasoningState ← serializeOpaqueReasoningState X uuid generation.opaqueReasoningState
  let inputTokens ← u64ToI64 uuid generation.inputTokens
  let outputTokens ← u64ToI64 uuid generation.outputTokens
  let cachedReadTokens ← u64ToI64 uuid generation.cachedReadTokens
  let cachedWriteTokens ← u64ToI64 uuid generation.cachedWriteTokens
  let reasoningTokens ← u64ToI64 uuid generation.reasoningTokens
  let toolTokens ← u64ToI64 uuid generation.toolTokens
  execute X uuid (store.insertGenerationRow X.sqlite catalog
    { generation with
      inputTokens, outputTokens, cachedReadTokens, cachedWriteTokens, reasoningTokens, toolTokens,
      opaqueReasoningState })

/-- The compare-and-swap on the head of a branch. -/
def moveBranchHead (conversationId : String) (newHead expectedHead : Option String)
    (now : String) (store : Store) : CoreResult (Nat × Store) :=
  execute X uuid (store.updateBranches X.sqlite
    (fun row => row.id == branchId && row.conversationId == conversationId &&
      row.headMessageId == expectedHead)
    (fun row => { row with headMessageId := newHead, updatedAt := now }) fun _ => rfl)

def appendGeneration (branchId : String) (expectedHead : Option String)
    (user assistant : Message) (generation : GenerationRecord) (now : String) (store : Store) :
    CoreResult Store := do
  validateGenerationAppend uuid branchId expectedHead user assistant generation
  let stored ← okOr (store.branches.find? branchId)
    (notFound uuid "conversation branch was not found")
  require (stored.conversationId = user.conversationId ∧ stored.headMessageId = expectedHead)
    (staleBranchError uuid)
  forSome (fun headId => do
    let head ← okOr (store.messageIn user.conversationId headId)
      (notFound uuid "expected branch head was not found")
    require (head.status ≠ .pending) (.new uuid .invalidInput
      "cannot append while the branch head is still generating" true)) expectedHead
  let store ← insertMessage X uuid user store
  let store ← insertMessage X uuid assistant store
  let store ← insertGeneration X uuid catalog generation store
  let (changed, store) ← moveBranchHead X uuid branchId user.conversationId (some assistant.id)
    expectedHead now store
  require (changed = 1) (staleBranchError uuid)
  execute X uuid (store.touchConversation X.sqlite user.conversationId now)

/-! ### Message actions -/

inductive MessageGenerationAction
  | editUser
  | regenerateAssistant
deriving DecidableEq

structure MessageGenerationActionContext where
  forkMessageId : Option String
  userText : String

def validateBranchActionSnapshot (branchId : String) (expectedHead : Option String)
    (store : Store) : CoreResult Unit := do
  let branch ← okOr (store.branches.find? branchId)
    (notFound uuid "conversation branch was not found")
  let state ← okOr (store.states.find? branch.conversationId)
    (notFound uuid "conversation branch was not found")
  require (branch.conversationId = conversationId)
    (notFound uuid "conversation branch was not found in the conversation")
  require (branch.headMessageId = expectedHead ∧ state.activeBranchId = branchId)
    (staleBranchError uuid)
  forSome (fun headMessageId => do
    let head ← okOr (store.messageIn conversationId headMessageId)
      (storageCorrupted uuid "conversation branch head was not found")
    require (head.status ≠ .pending) (activeGenerationActionError uuid)) branch.headMessageId

/-- The rows the lineage query of a branch reaches.  Its `UNION` drops repeated rows, so it
    ends after at most as many as there are. -/
def branchLineage (store : Store) : List Message :=
  ancestry store.parentOf store.messages.rows.length (store.branchHead branchId)

def loadBranchActionTarget (branchId : String) (expectedHead : Option String)
    (targetMessageId : String) (store : Store) : CoreResult Message := do
  validateBranchActionSnapshot uuid conversationId branchId expectedHead store
  okOr ((branchLineage branchId store).find? fun row => row.id == targetMessageId)
    (notFound uuid "message was not found in the selected branch")

def loadMessageGenerationActionContext (branchId : String)
    (expectedHead : Option String) (targetMessageId : String) (action : MessageGenerationAction)
    (store : Store) : CoreResult MessageGenerationActionContext := do
  let target ← loadBranchActionTarget uuid conversationId branchId expectedHead targetMessageId
    store
  match action with
  | .editUser => do
    require (target.role = .user ∧ target.status = .complete)
      (invalid uuid "only a complete user message can be edited")
    return { forkMessageId := target.parentId, userText := target.content }
  | .regenerateAssistant => do
    require (target.role = .assistant) (invalid uuid "only an assistant message can be regenerated")
    require (target.status ≠ .pending) (activeGenerationActionError uuid)
    let userMessageId ← okOr target.parentId
      (storageCorrupted uuid "assistant message is missing its user parent")
    let user ← okOr (store.messageIn conversationId userMessageId)
      (storageCorrupted uuid "assistant message user parent was not found")
    require (user.role = .user ∧ user.status = .complete)
      (storageCorrupted uuid "assistant message parent is not a complete user message")
    return { forkMessageId := user.parentId, userText := user.content }

def appendMessageGenerationAction (sourceBranchId : String)
    (expectedSourceHead : Option String) (targetMessageId : String)
    (action : MessageGenerationAction) (branch : ConversationBranch) (user assistant : Message)
    (generation : GenerationRecord) (now : String) (store : Store) : CoreResult Store := do
  validateGenerationAppend uuid branch.id branch.forkMessageId user assistant generation
  require (branch.conversationId = user.conversationId ∧
    branch.headMessageId = some assistant.id ∧ branch.forkMessageId = user.parentId)
    (invalid uuid "message action branch does not own the appended generation")
  let context ← loadMessageGenerationActionContext uuid user.conversationId sourceBranchId
    expectedSourceHead targetMessageId action store
  require (context.forkMessageId = branch.forkMessageId ∧
    ¬ (action = .regenerateAssistant ∧ context.userText ≠ user.content)) (staleBranchError uuid)
  let store ← insertMessage X uuid user store
  let store ← insertMessage X uuid assistant store
  let store ← execute X uuid (store.insertBranchRow X.sqlite branch)
  let store ← insertGeneration X uuid catalog generation store
  let (changed, store) ← execute X uuid (store.updateStates X.sqlite
    (fun row => row.conversationId == user.conversationId && row.activeBranchId == sourceBranchId)
    (fun row => { row with activeBranchId := branch.id, updatedAt := now }) fun _ => rfl)
  require (changed = 1) (staleBranchError uuid)
  execute X uuid (store.touchConversation X.sqlite user.conversationId now)

def removeMessageFromBranch (branchId : String) (expectedHead : Option String)
    (targetMessageId now : String) (store : Store) :
    CoreResult (Store × ConversationBranch) := do
  let target ← loadBranchActionTarget uuid conversationId branchId expectedHead targetMessageId
    store
  require (target.status ≠ .pending) (activeGenerationActionError uuid)
  require (target.role = .user ∨ target.role = .assistant)
    (invalid uuid "only user or assistant messages can be removed from a branch")
  forSome (fun newHead => do
    let parent ← okOr (store.messageIn conversationId newHead)
      (storageCorrupted uuid "message action parent was not found")
    require (parent.status ≠ .pending) (activeGenerationActionError uuid)) target.parentId
  let (changed, store) ← moveBranchHead X uuid branchId conversationId target.parentId
    expectedHead now store
  require (changed = 1) (staleBranchError uuid)
  let (_, store) ← execute X uuid (store.updateStates X.sqlite
    (fun row => row.conversationId == conversationId && row.activeBranchId == branchId)
    (fun row => { row with updatedAt := now }) fun _ => rfl)
  let store ← execute X uuid (store.touchConversation X.sqlite conversationId now)
  let branch ← okOr ((store.branches.find? branchId).filter fun row =>
    row.conversationId == conversationId)
    (.new uuid .storageUnavailable "SQLite operation failed: Query returned no rows" true)
  return (store, branch)

/-! ### Checkpoints and terminal states -/

/-- `WHERE id = ? AND generation_id = ? AND role = 'assistant' AND status = 'pending'`. -/
def isPendingOf (messageId generationId : String) (row : Message) : Bool :=
  row.id == messageId && row.generationId == some generationId && row.role == .assistant &&
    row.status == .pending

def checkpointPendingAssistant (message : Message) (store : Store) : CoreResult Store := do
  require (message.role = .assistant ∧ message.status = .pending)
    (invalid uuid "only a pending assistant message can be checkpointed")
  let generationId ← okOr message.generationId
    (invalid uuid "a pending assistant checkpoint requires a generation id")
  let (changed, store) ← execute X uuid (store.updateMessages X.sqlite
    (isPendingOf message.id generationId)
    (fun row => { row with content := message.content }) fun _ => rfl)
  require (changed = 1) (notFound uuid "pending assistant checkpoint target was not found")
  return store

structure StoredGenerationRoute where
  conversation : String
  branch : String
  userMessage : String
  assistantMessage : Option String
  providerFamily : Option ApiFamily

def loadRunningGeneration (generationId : String) (store : Store) :
    CoreResult StoredGenerationRoute := do
  let row ← okOr ((store.generations.find? generationId).filter fun row => row.status == .running)
    (notFound uuid "running generation was not found")
  return { conversation := row.conversationId
           branch := row.branchId
           userMessage := row.userMessageId
           assistantMessage := row.assistantMessageId
           providerFamily := row.providerFamily }

def validateGenerationAssistantOwnership (generation : StoredGenerationRoute)
    (assistant : Message) : CoreResult Unit :=
  require (generation.conversation = assistant.conversationId ∧
    generation.assistantMessage = some assistant.id)
    (storageCorrupted uuid "generation assistant ownership is inconsistent")

def persistTerminalAssistant (assistant : Message) (generationId : String)
    (generation : StoredGenerationRoute) (finishedAt : String) (keepAssistant : Bool)
    (store : Store) : CoreResult Store :=
  if keepAssistant then do
    let (changed, store) ← execute X uuid (store.updateMessages X.sqlite
      (isPendingOf assistant.id generationId)
      (fun row => { row with content := assistant.content, status := assistant.status })
      fun _ => rfl)
    require (changed = 1) (notFound uuid "pending assistant finalization target was not found")
    return store
  else do
    let (_, store) ← moveBranchHead X uuid generation.branch generation.conversation
      (some generation.userMessage) (some assistant.id) finishedAt store
    let (_, store) ← execute X uuid (store.deleteMessages X.sqlite fun row =>
      row.id == assistant.id)
    return store

def messageStatusToGenerationStatus : MessageStatus → GenerationStatus
  | .pending => .running
  | .complete => .complete
  | .cancelled => .cancelled
  | .failed => .failed

def finalizeGenerationWithProtocolState (assistant : Message)
    (usage : Option GenerationUsage) (opaqueReasoningState : List OpaqueReasoningState)
    (errorCode : Option String) (keepAssistant : Bool) (now : String) (store : Store) :
    CoreResult Store := do
  require (assistant.role = .assistant ∧ assistant.status ≠ .pending)
    (invalid uuid "only a terminal assistant message can finalize a generation")
  require (assistant.status = .complete ∨ opaqueReasoningState = [])
    (invalid uuid "opaque reasoning state can be stored only for a completed generation")
  let generationId ← okOr assistant.generationId
    (invalid uuid "a terminal assistant message requires a generation id")
  let inputTokens ← u64ToI64 uuid (usage.bind GenerationUsage.inputTokens)
  let cachedReadTokens ← u64ToI64 uuid (usage.bind GenerationUsage.cachedReadTokens)
  let cachedWriteTokens ← u64ToI64 uuid (usage.bind GenerationUsage.cachedWriteTokens)
  let outputTokens ← u64ToI64 uuid (usage.bind GenerationUsage.outputTokens)
  let reasoningTokens ← u64ToI64 uuid (usage.bind GenerationUsage.reasoningTokens)
  let toolTokens ← u64ToI64 uuid (usage.bind GenerationUsage.toolTokens)
  let generation ← loadRunningGeneration uuid generationId store
  validateGenerationAssistantOwnership uuid generation assistant
  let opaqueReasoningState ← serializeOpaqueReasoningStateForFamily X uuid
    generation.providerFamily opaqueReasoningState
  let store ← persistTerminalAssistant X uuid assistant generationId generation now keepAssistant
    store
  let (_, store) ← execute X uuid (store.updateGenerations X.sqlite catalog
    (fun row => row.id == generationId && row.status == .running)
    (fun row => { row with
      status := messageStatusToGenerationStatus assistant.status
      inputTokens, cachedReadTokens, cachedWriteTokens, outputTokens, reasoningTokens, toolTokens
      providerRawSummary := usage.bind GenerationUsage.providerRawSummary
      opaqueReasoningState
      errorCode
      finishedAt := some now }) fun _ => rfl)
  execute X uuid (store.touchConversation X.sqlite assistant.conversationId now)

def compensateTerminalAssistant (assistant : Message) (generationId : String)
    (generation : StoredGenerationRoute) (finishedAt : String) (keepAssistant : Bool)
    (store : Store) : CoreResult Store :=
  if keepAssistant then do
    let (changed, store) ← execute X uuid (store.updateMessages X.sqlite
      (isPendingOf assistant.id generationId)
      (fun row => { row with content := assistant.content, status := .failed }) fun _ => rfl)
    require (changed = 1)
      (storageCorrupted uuid "generation assistant compensation target was not found")
    return store
  else do
    let (changed, store) ← moveBranchHead X uuid generation.branch generation.conversation
      (some generation.userMessage) (some assistant.id) finishedAt store
    require (changed = 1)
      (storageCorrupted uuid "generation branch compensation target was not found")
    let (changed, store) ← execute X uuid (store.deleteMessages X.sqlite
      (isPendingOf assistant.id generationId))
    require (changed = 1)
      (storageCorrupted uuid "generation assistant compensation target was not found")
    return store

def failGenerationAfterFinalizeError (assistant : Message)
    (keepAssistant : Bool) (now : String) (store : Store) : CoreResult Store := do
  require (assistant.role = .assistant ∧ assistant.status = .failed)
    (invalid uuid "only a failed assistant message can compensate a generation finalization")
  let generationId ← okOr assistant.generationId
    (invalid uuid "a failed assistant message requires a generation id")
  let generation ← loadRunningGeneration uuid generationId store
  validateGenerationAssistantOwnership uuid generation assistant
  let store ← compensateTerminalAssistant X uuid assistant generationId generation now
    keepAssistant store
  let (changed, store) ← execute X uuid (store.updateGenerations X.sqlite catalog
    (fun row => row.id == generationId && row.status == .running)
    (fun row => { row with
      status := .failed
      inputTokens := none
      cachedReadTokens := none
      cachedWriteTokens := none
      outputTokens := none
      reasoningTokens := none
      toolTokens := none
      providerRawSummary := none
      opaqueReasoningState := []
      errorCode := some "storage_unavailable"
      finishedAt := some now }) fun _ => rfl)
  require (changed = 1) (storageCorrupted uuid "generation compensation target was not found")
  execute X uuid (store.touchConversation X.sqlite assistant.conversationId now)

/-! ### Recovery -/

def isPendingAssistant (row : Message) : Bool := row.role == .assistant && row.status == .pending

/-- `id IN (SELECT id FROM messages WHERE role = 'assistant' AND status = 'pending')`. -/
def Store.isPendingId (store : Store) (id : String) : Bool :=
  (store.messages.find? id).any isPendingAssistant

/-- `CASE WHEN id IN (…) THEN (SELECT parent_id …) ELSE id END`. -/
def Store.skipPending (store : Store) (id : Option String) : Option String :=
  if id.any store.isPendingId then id.bind fun id => (store.messages.find? id).bind Message.parentId
  else id

/-- The statements of `apply_recovery_transaction` on conversations. -/
def applyRecoveryTransaction (preservePartialGenerations : Bool)
    (recoveredAt : String) (store : Store) : CoreResult Store := do
  let (_, store) ← execute X uuid (store.updateGenerations X.sqlite catalog
    (fun row => row.status == .running)
    (fun row => { row with status := .cancelled, finishedAt := some recoveredAt }) fun _ => rfl)
  if preservePartialGenerations then do
    let (_, store) ← execute X uuid (store.updateMessages X.sqlite
      (fun row => row.status == .pending)
      (fun row => { row with status := .cancelled }) fun _ => rfl)
    return store
  else do
    let (_, store) ← execute X uuid (store.updateBranches X.sqlite
      (fun row => row.headMessageId.any store.isPendingId || row.forkMessageId.any store.isPendingId)
      (fun row => { row with
        headMessageId := store.skipPending row.headMessageId
        forkMessageId := store.skipPending row.forkMessageId
        updatedAt := recoveredAt }) fun _ => rfl)
    let (_, store) ← execute X uuid (store.updateMessages X.sqlite
      (fun row => row.parentId.any store.isPendingId)
      (fun child => { child with
        parentId := child.parentId.bind fun id =>
          ((store.messageIn child.conversationId id).filter isPendingAssistant).bind
            Message.parentId }) fun _ => rfl)
    let (_, store) ← execute X uuid (store.deleteMessages X.sqlite isPendingAssistant)
    return store

end LorePia.Conversations
