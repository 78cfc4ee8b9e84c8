import LorePia.Conversations.Operations
import Mathlib.Data.List.Sort
import Mathlib.Data.Prod.Lex
import Mathlib.Data.String.Basic
import Mathlib.Order.WithBot

namespace LorePia.Conversations

open Lib
open DiscoveryStore (SqliteError SqliteJson)

/-!
# The conversation store — the second schema

The messages of schema two, the acceptance check of the branch migration, and the migration to
schema three.  A conversation of schema two is a timeline: its messages have an order, and a
parent link that may be missing.  The migration turns the timeline into parent links and gives
every conversation one branch, and every assistant message a generation.

The later migrations add columns, which are `NULL` in the rows that are already there, so the
result is a store of the final schema.
-/

/-! ### Tables -/

/-- A row of `messages` in schema two, where the role and the status are free texts. -/
structure LegacyMessage where
  id : String
  conversationId : String
  parentId : Option String
  role : String
  content : String
  status : String
  generationId : Option String
  createdAt : String

/-- A database of schema two, whose messages belong to its conversations. -/
structure LegacyStore where
  conversations : Table String Conversation Conversation.id
  messages : Table String LegacyMessage LegacyMessage.id
  owned : ∀ row ∈ messages.rows, (conversations.find? row.conversationId).isSome = true

def parseMessageRole : String → Option MessageRole
  | "system" => some .system
  | "user" => some .user
  | "assistant" => some .assistant
  | _ => none

def parseMessageStatus : String → Option MessageStatus
  | "pending" => some .pending
  | "complete" => some .complete
  | "cancelled" => some .cancelled
  | "failed" => some .failed
  | _ => none

namespace LegacyStore

variable (legacy : LegacyStore)

/-! ### The order of the migration -/

/-- The user message that an assistant message hangs below. -/
def userParent (row : LegacyMessage) : Option LegacyMessage :=
  (row.parentId.bind legacy.messages.find?).filter fun parent =>
    parent.conversationId == row.conversationId && parent.role == "user"

/-- `ORDER BY turn_created_at, turn_id, turn_position, created_at, id`, with `NULL` first. -/
abbrev OrderKey : Type :=
  WithBot String ×ₗ WithBot String ×ₗ Nat ×ₗ String ×ₗ String

def orderKey (row : LegacyMessage) : OrderKey :=
  let turn : WithBot String × WithBot String × Nat :=
    if row.role = "assistant" then
      ((legacy.userParent row).map LegacyMessage.createdAt,
        (legacy.userParent row).map LegacyMessage.id, 1)
    else (some row.createdAt, some row.id, 0)
  toLex (turn.1, toLex (turn.2.1, toLex (turn.2.2, toLex (row.createdAt, row.id))))

/-- The messages of a conversation in the order of the migration. -/
def timeline (conversationId : String) : List LegacyMessage :=
  (legacy.messages.rows.filter fun row => row.conversationId == conversationId).insertionSort
    fun a b => legacy.orderKey a ≤ legacy.orderKey b

/-- `LAG(id)` at the row `id` of an ordered partition. -/
def lag (id : String) : Option String → List LegacyMessage → Option String
  | _, [] => none
  | previous, row :: rows => if row.id = id then previous else lag id (some row.id) rows

def expectedParentId (row : LegacyMessage) : Option String :=
  lag row.id none (legacy.timeline row.conversationId)

/-! ### The acceptance check -/

/-- The condition of the first count. -/
def isInvalid (row : LegacyMessage) : Bool :=
  !(["system", "user", "assistant"].contains row.role) ||
  !(["pending", "complete", "cancelled", "failed"].contains row.status) ||
  row.role == "assistant" && row.generationId.isNone ||
  row.role == "assistant" && row.parentId.isNone ||
  row.role == "assistant" && (legacy.userParent row).isNone ||
  row.role != "assistant" && row.generationId.isSome ||
  row.role != "assistant" && row.status != "complete"

/-- The generation identifiers that more than one message has. -/
def duplicateGenerationIds : List String :=
  let ids := legacy.messages.rows.filterMap LegacyMessage.generationId
  ids.dedup.filter fun id => ids.count id > 1

/-- The condition of the third count. -/
def isInconsistent (row : LegacyMessage) : Bool :=
  row.parentId.isSome && row.parentId != legacy.expectedParentId row

end LegacyStore

def validateLegacyMessagesForBranchMigration (uuid : String) (legacy : LegacyStore) :
    CoreResult Unit := do
  require (legacy.messages.rows.countP legacy.isInvalid = 0)
    (storageCorrupted uuid "legacy messages contain invalid role, status, or generation ownership")
  require (legacy.duplicateGenerationIds.length = 0)
    (storageCorrupted uuid "legacy messages reuse a generation id")
  require (legacy.messages.rows.countP legacy.isInconsistent = 0) (storageCorrupted uuid
      "legacy message parents disagree with the persisted timeline order")

/-! ### The migration -/

namespace LegacyStore

variable (legacy : LegacyStore)

/-- `INSERT INTO messages … SELECT …`. -/
def migrateMessage (row : LegacyMessage) : Option Message := do
  let role ← parseMessageRole row.role
  let status ← parseMessageStatus row.status
  return { id := row.id
           conversationId := row.conversationId
           parentId := legacy.expectedParentId row
           role
           content := row.content
           status
           generationId := row.generationId
           createdAt := row.createdAt }

def migrateMessages : Except SqliteError (Table String Message Message.id) := do
  require (legacy.messages.rows.all fun row => (legacy.migrateMessage row).isSome) .checkConstraint
  okOr (Table.ofRows? (legacy.messages.rows.filterMap legacy.migrateMessage)) .uniqueConstraint

end LegacyStore

section Migration

variable (messages : Table String Message Message.id)

/-- A message without a child in its conversation. -/
def isLeaf (row : Message) : Bool :=
  messages.rows.all fun child =>
    child.conversationId != row.conversationId || child.parentId != some row.id

/-- `ORDER BY message.created_at DESC, message.id DESC LIMIT 1` over the leaves. -/
def lastLeaf (conversationId : String) : Option Message :=
  ((messages.rows.filter fun row =>
    row.conversationId == conversationId && isLeaf messages row).insertionSort
      fun a b => toLex (b.createdAt, b.id) ≤ toLex (a.createdAt, a.id)).head?

def migratedBranchId (conversationId : String) : String := "branch:" ++ conversationId

def migrateBranch (conversation : Conversation) : ConversationBranch where
  id := migratedBranchId conversation.id
  conversationId := conversation.id
  title := none
  forkMessageId := none
  headMessageId := (lastLeaf messages conversation.id).map Message.id
  createdAt := conversation.createdAt
  updatedAt := conversation.updatedAt

def migrateState (conversation : Conversation) : ConversationState where
  conversationId := conversation.id
  activeBranchId := migratedBranchId conversation.id
  selectedMode := .chat
  updatedAt := conversation.updatedAt

/-- `CASE assistant.status WHEN 'pending' THEN 'running' ELSE assistant.status END`. -/
def migrateStatus : MessageStatus → GenerationStatus
  | .pending => .running
  | .complete => .complete
  | .cancelled => .cancelled
  | .failed => .failed

/-- The join of an assistant message with its user message. -/
def migrateGeneration (assistant : Message) : Option GenerationRecord := do
  let generationId ← if assistant.role = .assistant then assistant.generationId else none
  let user ← (assistant.parentId.bind messages.find?).filter fun user =>
    user.conversationId == assistant.conversationId && user.role == .user
  return { id := generationId
           conversationId := assistant.conversationId
           branchId := migratedBranchId assistant.conversationId
           userMessageId := user.id
           assistantMessageId := some assistant.id
           mode := .chat
           model := ""
           modelRouteId := none
           generationPresetId := none
           providerFamily := none
           status := migrateStatus assistant.status
           inputTokens := none
           cachedReadTokens := none
           cachedWriteTokens := none
           outputTokens := none
           reasoningTokens := none
           toolTokens := none
           providerRawSummary := none
           opaqueReasoningState := []
           errorCode := none
           startedAt := assistant.createdAt
           finishedAt := if assistant.status = .pending then none else some assistant.createdAt }

end Migration

/-- `0003_conversation_branches.sql`; the constraints are checked at its end. -/
def migrateConversationBranches (J : SqliteJson) (legacy : LegacyStore) :
    Except SqliteError Store := do
  let messages ← legacy.migrateMessages
  let branches ← okOr (Table.ofRows? (legacy.conversations.rows.map (migrateBranch messages)))
    .uniqueConstraint
  let states ← okOr (Table.ofRows? (legacy.conversations.rows.map migrateState)) .uniqueConstraint
  let generations ← okOr (Table.ofRows? (messages.rows.filterMap (migrateGeneration messages)))
    .uniqueConstraint
  Store.enforce { conversations := legacy.conversations, messages, branches, states, generations } J

end LorePia.Conversations
