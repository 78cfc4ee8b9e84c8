import LorePia.DiscoveryStore.Tables
import LorePia.Domain.Provider
import LorePia.Lib.Ancestry

namespace LorePia.Conversations

open Lib
open DiscoveryStore (SqliteError SqliteJson isJsonObject)

/-!
# The conversation store — tables and statements

The five tables of the branch migration, with the columns later migrations added to
`generations`, and the statements the storage operations run on them.  Every statement ends
in `Store.enforce`: the column checks, the unique keys and the foreign keys of the whole
store, any of which makes the statement fail.  A primary key is the key of its `Table`.

Timestamps are texts, and the clock is an argument of the operation that reads it.
-/

/-! ### Rows -/

inductive ConversationMode
  | chat
  | story

inductive GenerationStatus
  | running
  | complete
  | cancelled
  | failed
deriving DecidableEq

structure Conversation where
  id : String
  characterId : String
  title : String
  createdAt : String
  updatedAt : String

structure ConversationBranch where
  id : String
  conversationId : String
  title : Option String
  forkMessageId : Option String
  headMessageId : Option String
  createdAt : String
  updatedAt : String

structure ConversationState where
  conversationId : String
  activeBranchId : String
  selectedMode : ConversationMode
  updatedAt : String

structure Message where
  id : String
  conversationId : String
  parentId : Option String
  role : MessageRole
  content : String
  status : MessageStatus
  generationId : Option String
  createdAt : String
deriving DecidableEq

/-- A row of `generations`.  The column `opaque_reasoning_state_json` is the serialized list,
    and `NULL` for the empty one. -/
structure GenerationRecord where
  id : String
  conversationId : String
  branchId : String
  userMessageId : String
  assistantMessageId : Option String
  mode : ConversationMode
  model : String
  modelRouteId : Option String
  generationPresetId : Option String
  providerFamily : Option ApiFamily
  status : GenerationStatus
  inputTokens : Option Nat
  cachedReadTokens : Option Nat
  cachedWriteTokens : Option Nat
  outputTokens : Option Nat
  reasoningTokens : Option Nat
  toolTokens : Option Nat
  providerRawSummary : Option BoundedJson
  opaqueReasoningState : List OpaqueReasoningState
  errorCode : Option String
  startedAt : String
  finishedAt : Option String

/-- The rows of other tables a statement on these refers to: the characters, and the API
    family of a model route and the route of a generation preset. -/
structure Catalog where
  hasCharacter : String → Bool
  apiFamily : String → Option ApiFamily
  presetRoute : String → Option String

/-- What the store takes from outside: the JSON functions of the database, the serialized
    sizes of reasoning state, and the texts of database errors. -/
structure Externals where
  sqlite : SqliteJson
  sizes : ReasoningSizes
  errorText : SqliteError → String

structure Store where
  conversations : Table String Conversation Conversation.id
  messages : Table String Message Message.id
  branches : Table String ConversationBranch ConversationBranch.id
  states : Table String ConversationState ConversationState.conversationId
  generations : Table String GenerationRecord GenerationRecord.id

/-- The tables as the migrations leave them in a new database. -/
def Store.empty : Store where
  conversations := .empty
  messages := .empty
  branches := .empty
  states := .empty
  generations := .empty

/-! ### Constraints -/

def Message.checks (row : Message) : Bool :=
  row.parentId != some row.id &&
  (row.role == .assistant || row.status == .complete) &&
  (row.role == .assistant) == row.generationId.isSome

def ConversationBranch.checks (row : ConversationBranch) : Bool := row.forkMessageId != some ""

def GenerationRecord.checks (J : SqliteJson) (row : GenerationRecord) : Bool :=
  (row.status == .running) == row.finishedAt.isNone &&
  row.providerRawSummary.all fun json => isJsonObject J json.val && byteLen json.val ≤ 4096

namespace Store

variable (store : Store)

def hasConversation (id : String) : Bool := (store.conversations.find? id).isSome

/-- `SELECT … FROM messages WHERE conversation_id = ? AND id = ?`. -/
def messageIn (conversationId id : String) : Option Message :=
  (store.messages.find? id).filter fun row => row.conversationId == conversationId

def hasBranch (conversationId id : String) : Bool :=
  (store.branches.find? id).any fun row => row.conversationId == conversationId

def checks (J : SqliteJson) : Bool :=
  store.messages.rows.all Message.checks && store.branches.rows.all ConversationBranch.checks &&
    store.generations.rows.all (GenerationRecord.checks J)

/-- The unique index on `messages.generation_id` and the unique
    `generations.assistant_message_id`. -/
def uniqueKeys : Bool :=
  decide (store.messages.rows.filterMap Message.generationId).Nodup &&
    decide (store.generations.rows.filterMap GenerationRecord.assistantMessageId).Nodup

def foreignKeys : Bool :=
  (store.messages.rows.all fun row => store.hasConversation row.conversationId &&
    row.parentId.all fun id => (store.messageIn row.conversationId id).isSome) &&
  (store.branches.rows.all fun row => store.hasConversation row.conversationId &&
    (row.forkMessageId.all fun id => (store.messageIn row.conversationId id).isSome) &&
    row.headMessageId.all fun id => (store.messageIn row.conversationId id).isSome) &&
  (store.states.rows.all fun row => store.hasConversation row.conversationId &&
    store.hasBranch row.conversationId row.activeBranchId) &&
  (store.generations.rows.all fun row => store.hasConversation row.conversationId &&
    store.hasBranch row.conversationId row.branchId &&
    (store.messages.find? row.userMessageId).isSome &&
    row.assistantMessageId.all fun id => (store.messages.find? id).isSome)

/-- The constraints at the end of a statement. -/
def enforce (J : SqliteJson) : Except SqliteError Store := do
  require (store.checks J) .checkConstraint
  require store.uniqueKeys .uniqueConstraint
  require store.foreignKeys .foreignKeyConstraint
  return store

end Store

/-! ### Guards on `generations` -/

/-- `generations_protocol_state_insert_guard` and `generations_protocol_state_update_guard`. -/
def GenerationRecord.protocolStateGuard (catalog : Catalog) (row : GenerationRecord) : Bool :=
  row.modelRouteId.isNone == row.providerFamily.isNone &&
  (row.modelRouteId.all fun route => row.providerFamily.any fun family =>
    catalog.apiFamily route == some family) &&
  (row.opaqueReasoningState.isEmpty ||
    row.status == .complete && row.modelRouteId.isSome && row.generationPresetId.isSome &&
      row.providerFamily.isSome)

/-- `generations_provider_target_insert_guard`. -/
def GenerationRecord.providerTargetGuard (catalog : Catalog) (row : GenerationRecord) : Bool :=
  row.modelRouteId.isNone == row.generationPresetId.isNone &&
  row.modelRouteId.all fun route => row.generationPresetId.any fun preset =>
    catalog.presetRoute preset == some route

/-! ### Statements

An update answers how many rows it matched. -/

namespace Store

variable (J : SqliteJson) (store : Store)

def insertConversationRow (catalog : Catalog) (row : Conversation) : Except SqliteError Store := do
  let conversations ← okOr (store.conversations.insert? row) .uniqueConstraint
  require (catalog.hasCharacter row.characterId) .foreignKeyConstraint
  enforce { store with conversations } J

def insertMessageRow (row : Message) : Except SqliteError Store := do
  let messages ← okOr (store.messages.insert? row) .uniqueConstraint
  enforce { store with messages } J

def insertBranchRow (row : ConversationBranch) : Except SqliteError Store := do
  let branches ← okOr (store.branches.insert? row) .uniqueConstraint
  enforce { store with branches } J

def insertStateRow (row : ConversationState) : Except SqliteError Store := do
  let states ← okOr (store.states.insert? row) .uniqueConstraint
  enforce { store with states } J

def insertGenerationRow (catalog : Catalog) (row : GenerationRecord) :
    Except SqliteError Store := do
  require (row.providerTargetGuard catalog && row.protocolStateGuard catalog) .triggerAbort
  let generations ← okOr (store.generations.insert? row) .uniqueConstraint
  enforce { store with generations } J

/-- `UPDATE conversations SET updated_at = ? WHERE id = ?`. -/
def touchConversation (conversationId now : String) : Except SqliteError Store :=
  enforce { store with
    conversations := store.conversations.updateWhere (fun row => row.id == conversationId)
      (fun row => { row with updatedAt := now }) fun _ => rfl } J

def updateMessages (p : Message → Bool) (f : Message → Message) (hf : ∀ r, (f r).id = r.id) :
    Except SqliteError (Nat × Store) := do
  let updated ← enforce { store with messages := store.messages.updateWhere p f hf } J
  return (store.messages.rows.countP p, updated)

def updateBranches (p : ConversationBranch → Bool) (f : ConversationBranch → ConversationBranch)
    (hf : ∀ r, (f r).id = r.id) : Except SqliteError (Nat × Store) := do
  let updated ← enforce { store with branches := store.branches.updateWhere p f hf } J
  return (store.branches.rows.countP p, updated)

def updateStates (p : ConversationState → Bool) (f : ConversationState → ConversationState)
    (hf : ∀ r, (f r).conversationId = r.conversationId) : Except SqliteError (Nat × Store) := do
  let updated ← enforce { store with states := store.states.updateWhere p f hf } J
  return (store.states.rows.countP p, updated)

/-- An update that sets the status: the guard on the protocol state sees every new row. -/
def updateGenerations (catalog : Catalog) (p : GenerationRecord → Bool)
    (f : GenerationRecord → GenerationRecord) (hf : ∀ r, (f r).id = r.id) :
    Except SqliteError (Nat × Store) := do
  require ((store.generations.rows.filter p).all fun row => (f row).protocolStateGuard catalog)
    .triggerAbort
  let updated ← enforce { store with generations := store.generations.updateWhere p f hf } J
  return (store.generations.rows.countP p, updated)

/-- `DELETE FROM messages WHERE …`, with `ON DELETE SET NULL` for
    `generations.assistant_message_id`. -/
def deleteMessages (p : Message → Bool) : Except SqliteError (Nat × Store) := do
  let deleted := fun id : String => (store.messages.find? id).any p
  let updated ← enforce { store with
    messages := store.messages.deleteWhere p
    generations := store.generations.updateWhere (fun row => row.assistantMessageId.any deleted)
      (fun row => { row with assistantMessageId := none }) fun _ => rfl } J
  return (store.messages.rows.countP p, updated)

end Store

/-! ### Lineages -/

namespace Store

variable (store : Store)

/-- The recursive half of every lineage query: the parent of a row, in its conversation. -/
def parentOf (row : Message) : Option Message :=
  row.parentId.bind (store.messageIn row.conversationId)

/-- The initial half of the lineage queries over a branch: the row of its head. -/
def branchHead (branchId : String) : Option Message :=
  (store.branches.find? branchId).bind fun branch =>
    branch.headMessageId.bind (store.messageIn branch.conversationId)

end Store

end LorePia.Conversations
