import LorePia.Conversations.History

namespace LorePia.Conversations

open Lib List Chat Except Function Option Table

/-!
# Sending to a branch

`send_message_to_branch` as the three transactions it is: it checks the branch, later reads
the history of the branch and plans a request from it, and later still appends the turn.
Other clients run operations in between.

The append compares the head of the branch with the head the client expects.  The read does
not: it takes the lineage of whatever head the branch has by then, and skips that head while
it is pending.  So the request is the right one when the branch has the expected head, and
that head is settled, at the time of the read (`append_history_current`), and need not be
otherwise (`pendingHead_history_stale`).
-/

variable (P : PlannerExternals) (uuid : String) {client : Nat} {history : List Message} {s : System}
  {send : PlannedSend}

def maxUserMessageBytes : Nat := 64 * 1024
def maxUserMessageChars : Nat := 16 * 1024

def validateUserMessageText (value : String) : CoreResult String := do
  require (trim value ≠ "") (invalid uuid "message text cannot be empty")
  require (¬ (byteLen (trim value) > maxUserMessageBytes ∨
      charCount (trim value) > maxUserMessageChars))
    (invalid uuid ("message text exceeds the " ++ toString maxUserMessageBytes ++ "-byte or " ++
      toString maxUserMessageChars ++ "-character limit"))
  return trim value

/-- The arguments of a call, with the identifiers and the times it draws.  The generation
    target is a model route and a generation preset. -/
structure SendArgs where
  conversationId : String
  branchId : String
  expectedHead : Option String
  mode : ConversationMode
  text : String
  model : String
  generationTarget : Option (String × String)
  providerFamily : Option ApiFamily
  temperature : Option UInt64
  maxOutputTokens : Option Nat
  userMessageId : String
  userCreatedAt : String
  assistantMessageId : String
  assistantCreatedAt : String
  draws : PlannerDraws

/-- The bits of `1.0`. -/
def defaultTemperature : UInt64 := 0x3FF0000000000000

/-- The checks before the history is read: the trimmed text and the character. -/
def openSend (characters : String → Option Character) (args : SendArgs) (store : Store) :
    CoreResult (String × Character) := do
  let text ← validateUserMessageText uuid args.text
  let conversation ← okOr (store.conversations.find? args.conversationId)
    (notFound uuid "conversation was not found")
  let character ← okOr (characters conversation.characterId)
    (notFound uuid "character was not found")
  let branch ← okOr (store.branches.find? args.branchId)
    (notFound uuid "conversation branch was not found")
  require (branch.conversationId = args.conversationId)
    (notFound uuid "conversation branch was not found in the conversation")
  return (text, character)

/-- What a call holds between planning and appending. -/
structure PlannedSend where
  args : SendArgs
  text : String
  character : Character
  history : List Message
  request : GenerationRequest

namespace SendArgs

/-- `Message::user_after`. -/
def userMessage (args : SendArgs) (text : String) : Message where
  id := args.userMessageId
  conversationId := args.conversationId
  parentId := args.expectedHead
  role := .user
  content := text
  status := .complete
  generationId := none
  createdAt := args.userCreatedAt

/-- `Message::pending_assistant`. -/
def assistantMessage (args : SendArgs) : Message where
  id := args.assistantMessageId
  conversationId := args.conversationId
  parentId := some args.userMessageId
  role := .assistant
  content := ""
  status := .pending
  generationId := some args.draws.generationId
  createdAt := args.assistantCreatedAt

def generation (args : SendArgs) : GenerationRecord where
  id := args.draws.generationId
  conversationId := args.conversationId
  branchId := args.branchId
  userMessageId := args.userMessageId
  assistantMessageId := some args.assistantMessageId
  mode := args.mode
  model := args.model
  modelRouteId := args.generationTarget.map Prod.fst
  generationPresetId := args.generationTarget.map Prod.snd
  providerFamily := args.providerFamily
  status := .running
  inputTokens := none
  cachedReadTokens := none
  cachedWriteTokens := none
  outputTokens := none
  reasoningTokens := none
  toolTokens := none
  providerRawSummary := none
  opaqueReasoningState := []
  errorCode := none
  startedAt := args.assistantCreatedAt
  finishedAt := none

end SendArgs

/-- The request for a history: the planner's, on the history and the new message. -/
def planRequest (args : SendArgs) (text : String) (character : Character)
    (history : List Message) : CoreResult GenerationRequest := do
  let request ← planWithMode uuid P args.draws character args.conversationId args.mode
    (history ++ [args.userMessage text]) args.model (args.temperature.getD defaultTemperature)
    args.maxOutputTokens
  return if args.temperature.isNone then { request with temperature := none } else request

def planSend (args : SendArgs) (text : String) (character : Character) (store : Store) :
    CoreResult PlannedSend := do
  let history ← listRecentBranchMessagesForPrompt uuid args.branchId (Chat.maxPromptMessages - 2)
    maxHistoryMessageBytes maxHistoryMessageChars store
  let request ← planRequest P uuid args text character history
  return { args, text, character, history, request }

def appendSend (X : Externals) (catalog : Catalog) (send : PlannedSend) (now : String)
    (store : Store) : CoreResult Store :=
  appendGeneration X uuid catalog send.args.branchId send.args.expectedHead
    (send.args.userMessage send.text) send.args.assistantMessage send.args.generation now store

/-! ### Clients side by side -/

/-- How far a client's call has come. -/
inductive Phase
  | opened (args : SendArgs) (text : String) (character : Character)
  | planned (send : PlannedSend)

structure System where
  store : Store
  clients : Nat → Option Phase

def System.initial : System := ⟨Store.empty, fun _ => none⟩

/-- An operation of some client on the store, or one of the three transactions of a send. -/
inductive Event
  | operation (operation : Operation)
  | opened (client : Nat) (args : SendArgs)
  | planned (client : Nat)
  | appended (client : Nat)

inductive System.Step (X : Externals) (characters : String → Option Character) :
    System → Event → System → Prop
  | operation {s : System} {operation : Operation} {store' : Store}
      (h : step X s.store operation store') :
      Step X characters s (.operation operation) { s with store := store' }
  | opened {s : System} {client : Nat} {uuid : String} {args : SendArgs} {text : String}
      {character : Character} (h : openSend uuid characters args s.store = .ok (text, character)) :
      Step X characters s (.opened client args)
        { s with clients := Function.update s.clients client (some (.opened args text character)) }
  | planned {s : System} {client : Nat} {uuid : String} {args : SendArgs} {text : String}
      {character : Character} {send : PlannedSend}
      (hclient : s.clients client = some (.opened args text character))
      (h : planSend P uuid args text character s.store = .ok send) :
      Step X characters s (.planned client)
        { s with clients := Function.update s.clients client (some (.planned send)) }
  | appended {s : System} {client : Nat} {uuid : String} {catalog : Catalog} {now : String}
      {send : PlannedSend} {store' : Store}
      (hclient : s.clients client = some (.planned send))
      (h : appendSend uuid X catalog send now s.store = .ok store') :
      Step X characters s (.appended client)
        { store := store', clients := Function.update s.clients client none }

/-- The branch has the expected head, and that head is not pending. -/
def HeadSettled (store : Store) (args : SendArgs) : Prop :=
  store.Settled args.expectedHead ∧ ∃ branch ∈ store.branches.rows,
    branch.id = args.branchId ∧ branch.headMessageId = args.expectedHead

/-- A step in which a history is read only while the branch has its expected, settled head. -/
def System.GuardedStep (X : Externals) (characters : String → Option Character) (s : System)
    (event : Event) (s' : System) : Prop :=
  System.Step P X characters s event s' ∧ ∀ client args text character, event = .planned client →
      s.clients client = some (.opened args text character) → HeadSettled s.store args

/-- The history of the request is the recent eligible part of the lineage that ends at the
    expected head, as the store is now, and the request is planned from it. -/
structure PlannedSend.Current (store : Store) (send : PlannedSend) : Prop where
  history : ∀ uuid, listRecentMessageLineageForPrompt uuid send.args.conversationId
    send.args.expectedHead (Chat.maxPromptMessages - 2) maxHistoryMessageBytes
    maxHistoryMessageChars store = .ok send.history
  request : ∃ uuid, planRequest P uuid send.args send.text send.character send.history =
    .ok send.request

/-! ### What a send keeps while it waits -/

section Waiting

variable {P} {X : Externals} {store : Store}

theorem listRecentMessageLineageForPrompt_eq (conversationId : String) (head : Option String) :
    listRecentMessageLineageForPrompt uuid conversationId head (maxPromptMessages - 2)
      maxHistoryMessageBytes maxHistoryMessageChars store =
    .ok (recentLineage store (head.bind (store.messageIn conversationId))
      (maxPromptMessages - 2) maxHistoryMessageBytes maxHistoryMessageChars) := by
  cases head with
  | none => rfl
  | some head => rfl

/-- A planned send whose history is the lineage of its expected head, which is settled. -/
structure Anchored (P : PlannerExternals) (store : Store) (send : PlannedSend) : Prop where
  settled : store.Settled send.args.expectedHead
  history : ∀ start : Option Message, start.map Message.id = send.args.expectedHead →
    (∀ row ∈ start, row ∈ store.messages.rows) →
    send.history = recentLineage store start (Chat.maxPromptMessages - 2) maxHistoryMessageBytes
      maxHistoryMessageChars
  request : ∃ uuid, planRequest P uuid send.args send.text send.character send.history =
    .ok send.request

/-- Planning at a settled expected head anchors the send. -/
theorem planSend_anchored {uuid : String} {text : String} {character : Character}
    (hs : Sound X store) (hhead : HeadSettled store args)
    (h : planSend P uuid args text character store = .ok send) :
    Anchored P store send := by
  obtain ⟨history, hhist, request, hrequest, h⟩ := steps₂ h
  cases pure_inj h
  cases ok.inj hhist
  obtain ⟨hsett, branch, hbr, hid, hbrHead⟩ := hhead
  refine ⟨hsett, fun start hstart hstored => ?_, uuid, hrequest⟩
  -- the row the branch query starts from is the stored row of the expected head
  have hsame : store.branchHead args.branchId = start := by
    cases start with
    | none =>
      have hfind : store.branches.find? args.branchId = some branch := find?_eq_some.mpr ⟨hbr, hid⟩
      rw [Store.branchHead, hfind, bind_some, hbrHead, ← hstart]
      rfl
    | some row =>
      have hrow : row ∈ store.messages.rows := hstored row rfl
      have hheadId : branch.headMessageId = some row.id := hbrHead.trans hstart.symm
      obtain ⟨head, hmem, hrowId, hconv⟩ := hs.enforced.head hbr hheadId
      have heq : head = row := eq_of_key hmem hrow hrowId
      exact branchHead_eq_some.mpr ⟨branch, hbr, hid, hheadId, hrow, heq ▸ hconv⟩
  exact congrArg (fun start => recentLineage store start _ _ _) hsame

/-- An anchored send stays anchored while settled messages are kept. -/
theorem Anchored.of_kept (h : Anchored P store send) (hs : Sound X store)
    (hkept : Kept store store') : Anchored P store' send := by
  refine ⟨h.settled.of_kept hkept, fun start hstart hstored => ?_, h.request⟩
  cases start with
  | none =>
    refine h.history none hstart ?_
    intro row hrow
    cases hrow
  | some row =>
    -- the row is the settled one that was there before
    obtain ⟨old, hold, hid, hstat⟩ := h.settled row.id hstart.symm
    have heq : old = row := eq_of_key (hkept old hold hstat) (hstored row rfl) hid
    subst heq
    rw [recentLineage_of_kept hs hkept hold]
    refine h.history (some old) hstart ?_
    rintro a ⟨⟩
    exact hold

/-- An anchored send whose append succeeds has the history of that moment. -/
theorem Anchored.current (h : Anchored P store send) (hs : Sound X store) {catalog : Catalog}
    (happ : appendSend uuid X catalog send now store = .ok store') :
    send.Current P store := by
  refine ⟨fun uuid => ?_, h.request⟩
  rw [listRecentMessageLineageForPrompt_eq]
  obtain ⟨_, _, stored, hstored, happ⟩ := steps₂ happ
  obtain ⟨⟨hconv, hhead⟩, _⟩ := guard_ok.mp happ
  rw [okOr_ok, find?_eq_some] at hstored
  refine congrArg ok (h.history _ ?_ fun row hrow => ?_).symm
  · cases hexp : send.args.expectedHead with
    | none => rfl
    | some head =>
      -- the foreign key of the branch puts the head into the conversation
      obtain ⟨row, hrow, rfl, hrowConv⟩ := hs.enforced.head hstored.1 (hhead.trans hexp)
      have hfind : store.messageIn send.args.conversationId row.id = some row :=
        messageIn_eq_some.mpr ⟨hrow, rfl, hrowConv.trans hconv⟩
      rw [bind_some, hfind]
      rfl
  · obtain ⟨_, _, hfind⟩ := bind_eq_some_iff.mp hrow
    exact (messageIn_eq_some.mp hfind).1

/-- What holds while clients run side by side, as long as histories are read at the expected
    head. -/
structure SystemSound (P : PlannerExternals) (X : Externals) (s : System) : Prop where
  sound : Sound X s.store
  anchored : ∀ client send, s.clients client = some (.planned send) → Anchored P s.store send

theorem SystemSound.initial : SystemSound P X System.initial where
  sound := .empty X
  anchored := by
    intro client send h
    cases h

/-- A step on the store keeps every waiting send anchored. -/
theorem SystemSound.anchored_step (h : SystemSound P X s) {operation : Operation}
    (hstep : step X s.store operation store')
    (hclient : s.clients client = some (.planned send)) : Anchored P store' send :=
  (h.anchored client send hclient).of_kept h.sound (h.sound.step hstep).2

/-- A send that waits after one client moved is that client's, or waited before. -/
theorem planned_of_update {other : Nat} {phase : Option Phase}
    (h : update clients client phase other = some (.planned send)) :
    phase = some (.planned send) ∨ clients other = some (.planned send) := by
  by_cases hsame : other = client
  · subst hsame
    rw [update_self] at h
    exact .inl h
  · rw [update_of_ne hsame] at h
    exact .inr h

theorem SystemSound.step (h : SystemSound P X s)
    (hstep : System.GuardedStep P X characters s event s') : SystemSound P X s' := by
  obtain ⟨hstep, hguard⟩ := hstep
  cases hstep with
  | operation hop =>
    exact ⟨(h.sound.step hop).1, fun client send hclient => h.anchored_step hop hclient⟩
  | @opened client uuid args text character hopen =>
    refine ⟨h.sound, fun other send hoth => ?_⟩
    rcases planned_of_update hoth with hphase | hoth
    · cases hphase
    · exact h.anchored other send hoth
  | @planned client uuid args text character planned hclient hplan =>
    refine ⟨h.sound, fun other send hoth => ?_⟩
    rcases planned_of_update hoth with hphase | hoth
    · cases hphase
      exact planSend_anchored h.sound (hguard client args text character rfl hclient) hplan
    · exact h.anchored other send hoth
  | @appended client uuid catalog now planned store' hclient happ =>
    have hop : Conversations.step X s.store (.appendGeneration catalog planned.args.branchId
        planned.args.expectedHead (planned.args.userMessage planned.text)
        planned.args.assistantMessage planned.args.generation now) store' :=
      .inr ⟨uuid, happ⟩
    refine ⟨(h.sound.step hop).1, fun other send hoth => ?_⟩
    rcases planned_of_update hoth with hphase | hoth
    · cases hphase
    · exact h.anchored_step hop hoth

end Waiting

/-- **The history of a request is the history it was appended to.** In every run of clients
    side by side in which each history is read while its branch has the expected, settled
    head: whenever the append of a send succeeds, the request was planned from the recent
    eligible lineage that ends, at that moment, at the expected head. -/
theorem append_history_current (X : Externals) (characters : String → Option Character)
    {events : List Event} {s : System}
    (h : Exec (System.GuardedStep P X characters) System.initial events s) {client : Nat}
    {send : PlannedSend} (hclient : s.clients client = some (.planned send)) {catalog : Catalog}
    {now : String} {store' : Store}
    (happ : appendSend uuid X catalog send now s.store = .ok store') :
    send.Current P s.store := by
  have hsound : SystemSound P X s :=
    h.invariant (fun _ _ _ hs hstep => hs.step hstep) SystemSound.initial
  exact (hsound.anchored client send hclient).current uuid hsound.sound happ

/-! ### Two interleavings -/

section Interleavings

/-- A character without a text, under the encoding of its empty profile. -/
def plainCharacter : Character := { id := "x", name := "", description := "" }

def plainProfileJson : String := "\x7b\"name\":\"\",\"description\":\"\"\x7d"

def plainPlanner : PlannerExternals where
  profileJson := fun name description =>
    if name = "" ∧ description = "" then some plainProfileJson else none
  clampTemperature := id

/-- A second message to the branch of the example run, by a client that knows the reply. -/
def plainArgs : SendArgs where
  conversationId := "c"
  branchId := "b"
  expectedHead := some "a"
  mode := .chat
  text := "next"
  model := "m"
  generationTarget := none
  providerFamily := none
  temperature := some defaultTemperature
  maxOutputTokens := some 1024
  userMessageId := "v"
  userCreatedAt := "t"
  assistantMessageId := "d"
  assistantCreatedAt := "t"
  draws :=
    { generationId := "h", systemMessageId := "s", systemCreatedAt := "t", profileMessageId := "p",
      profileCreatedAt := "t" }

theorem byteLen_append_le {s t : String} (hs : byteLen s ≤ m) (ht : byteLen t ≤ n) :
    byteLen (s ++ t) ≤ m + n := by
  rw [byteLen_append]
  omega

/-- The static prompt is far from the limits. -/
theorem byteLen_systemContent :
    byteLen (trustedSystemPolicy ++ "\n\n" ++ modeInstruction .chat) ≤ 1000 := by
  have hpolicy : byteLen trustedSystemPolicy ≤ 100 + 100 + 100 + 100 + 100 := by
    refine byteLen_append_le (byteLen_append_le (byteLen_append_le (byteLen_append_le ?_ ?_) ?_)
      ?_) ?_
    · decide
    · decide
    · decide
    · decide
    · decide
  have hbreak : byteLen "\n\n" ≤ 2 := by decide
  have hmode : byteLen (modeInstruction .chat) ≤ 100 + 100 := by
    refine byteLen_append_le ?_ ?_
    · decide
    · decide
  have h := byteLen_append_le (byteLen_append_le hpolicy hbreak) hmode
  omega

theorem byteLen_profileContent : byteLen (untrustedProfilePrefix ++ plainProfileJson) ≤ 200 := by
  have hpref : byteLen untrustedProfilePrefix ≤ 100 := by decide
  have hprof : byteLen plainProfileJson ≤ 100 := by decide
  exact byteLen_append_le hpref hprof

theorem exists_staticPrompt : ∃ staticPrompt,
    buildStaticPrompt "" plainPlanner plainArgs.draws plainCharacter "c" .chat = .ok staticPrompt ∧
      staticPrompt.totalBytes ≤ 1200 ∧ staticPrompt.totalChars ≤ 1200 := by
  have hjson : plainPlanner.profileJson (trim plainCharacter.name)
      (trim plainCharacter.description) = some plainProfileJson := by
    decide
  have hbytes := Nat.add_le_add byteLen_systemContent byteLen_profileContent
  have hchars := Nat.add_le_add
    (charCount_le_byteLen (trustedSystemPolicy ++ "\n\n" ++ modeInstruction .chat))
    (charCount_le_byteLen (untrustedProfilePrefix ++ plainProfileJson))
  obtain ⟨staticPrompt, hstatic, htotalBytes, htotalChars⟩ := exists_buildStaticPrompt ""
    plainArgs.draws "c" (by decide) hjson (hbytes.trans (by decide))
    ((hchars.trans hbytes).trans (by decide))
  exact ⟨staticPrompt, hstatic, htotalBytes.trans_le hbytes,
    htotalChars.trans_le (hchars.trans hbytes)⟩

/-- A short message fits before a few others. -/
theorem fitsNext_short {bytes chars count : Nat} (hbytes : bytes ≤ 1400) (hchars : chars ≤ 1400)
    (hcount : count ≤ 100) (htext : byteLen message.content ≤ 5) :
    FitsNext bytes chars count message := by
  have hlen := charCount_le_byteLen message.content
  have hlims : 5 ≤ maxHistoryMessageBytes ∧ 5 ≤ maxHistoryMessageChars ∧
    100 < maxPromptMessages - 2 ∧ 1405 ≤ maxPromptBytes ∧ 1405 ≤ maxPromptChars := by
      decide
  exact ⟨by omega, by omega, by omega, by omega, by omega⟩

/-- The example client can plan from any short history of its conversation. -/
theorem exists_plainRequest (hlen : history.length ≤ 100)
    (hconv : history.all fun row => row.conversationId == "c") :
    ∃ request, planRequest plainPlanner "" plainArgs "next" plainCharacter history =
      .ok request := by
  obtain ⟨staticPrompt, hstatic, hbytes, hchars⟩ := exists_staticPrompt
  let newest := plainArgs.userMessage "next"
  have hnewest : (history ++ [newest]).reverse.filter (fun message => message.role != .system) =
      newest :: history.reverse.filter fun message => message.role != .system := by
    rw [reverse_append]
    rfl
  obtain ⟨selected, hsel⟩ := exists_selectHistory
    (history.reverse.filter fun message => message.role != .system)
    (fitsNext_short (hbytes.trans (by decide)) (hchars.trans (by decide)) (Nat.zero_le _)
      (show byteLen newest.content ≤ 5 by decide))
  have hhist : validateHistoryConversation "" (history ++ [newest]) "c" = .ok () := by
    refine guarded ?_ (require_ok.mpr ?_)
    · have hinput : 101 ≤ maxPromptInputMessages := by decide
      rw [length_append, length_singleton]
      omega
    · rw [all_append, hconv]
      decide
  refine ⟨_, then_ok (bind_ok.mpr ⟨(), by decide, then_ok hhist
    (then_ok hstatic (bind_ok.mpr ⟨selected, ?_, rfl⟩))⟩) rfl⟩
  rw [hnewest]
  exact hsel

def plainCharacters : String → Option Character := fun _ => some plainCharacter

/-- The first turn of the example run, up to its append and up to its end. -/
def turnStarted : Store := runAll plainExternals Store.empty (twoTurns.take 2)

def turnFinished : Store := runAll plainExternals turnStarted ((twoTurns.drop 2).take 1)

theorem System.exec_runAll (operations : List Operation) (s : System) :
    Exec (System.GuardedStep plainPlanner plainExternals plainCharacters) s
      (operations.map Event.operation)
      { s with store := runAll plainExternals s.store operations } := by
  have hguard : ∀ {s s' : System} {operation : Operation},
      System.Step plainPlanner plainExternals plainCharacters s (.operation operation) s' →
      System.GuardedStep plainPlanner plainExternals plainCharacters s (.operation operation) s' := by
    intro s s' operation hstep
    refine ⟨hstep, ?_⟩
    intro client args text character hev
    cases hev
  induction operations generalizing s with
  | nil => exact .nil s
  | cons operation operations ih =>
    rw [runAll]
    split
    case h_1 store' hrun =>
      exact .cons (hguard (.operation (.inr ⟨"", hrun⟩))) (ih { s with store := store' })
    case h_2 => exact .cons (hguard (.operation (.inl rfl))) (ih s)

theorem openSend_plain (store : Store) (h : store = turnStarted ∨ store = turnFinished) :
    openSend "" plainCharacters plainArgs store = .ok ("next", plainCharacter) := by
  rcases h with rfl | rfl
  · decide
  · decide

theorem branchHistory_plain :
    listRecentBranchMessagesForPrompt "" "b" (maxPromptMessages - 2) maxHistoryMessageBytes
      maxHistoryMessageChars turnStarted = .ok [plainUser "u" none] ∧
    listRecentBranchMessagesForPrompt "" "b" (maxPromptMessages - 2) maxHistoryMessageBytes
      maxHistoryMessageChars turnFinished = .ok [plainUser "u" none,
          { plainReply "a" "u" "g" with content := "hello", status := .complete }] := by
  decide

theorem appendSend_plain : ((appendGeneration plainExternals "" plainCatalog "b" (some "a")
    (plainArgs.userMessage "next") plainArgs.assistantMessage plainArgs.generation "t"
    turnFinished).isOk) = true := by
  decide

theorem exists_appended (hargs : send.args = plainArgs) (htext : send.text = "next") :
    ∃ store', appendSend "" plainExternals plainCatalog send "t" turnFinished = .ok store' := by
  have happ := appendSend_plain
  rw [appendSend, hargs, htext]
  cases hstore : appendGeneration plainExternals "" plainCatalog "b" (some "a")
      (plainArgs.userMessage "next") plainArgs.assistantMessage plainArgs.generation "t"
      turnFinished with
  | ok store' => exact ⟨store', hstore⟩
  | error e =>
    rw [hstore] at happ
    cases happ

/-- The request of the example client, from the store it reads. -/
theorem exists_planSend
    (hhist : listRecentBranchMessagesForPrompt "" "b" (maxPromptMessages - 2)
      maxHistoryMessageBytes maxHistoryMessageChars store = .ok history)
    (hlen : history.length ≤ 100) (hconv : history.all fun row => row.conversationId == "c") :
    ∃ send, planSend plainPlanner "" plainArgs "next" plainCharacter store = .ok send ∧
      send.args = plainArgs ∧ send.text = "next" ∧ send.history = history := by
  obtain ⟨request, hrequest⟩ := exists_plainRequest hlen hconv
  exact ⟨_, then_ok hhist (then_ok hrequest rfl), rfl, rfl, rfl⟩

/-- A history read while the expected head is pending lacks the reply that ends before the
    append. -/
theorem pendingHead_history_stale :
    ¬ ∀ (events : List Event) (s : System) (client : Nat) (send : PlannedSend) (catalog : Catalog)
        (now : String) (store' : Store),
      Exec (System.Step plainPlanner plainExternals plainCharacters) System.initial events s →
      s.clients client = some (.planned send) →
      appendSend "" plainExternals catalog send now s.store = .ok store' →
      send.Current plainPlanner s.store := by
  intro hclaim
  obtain ⟨send, hplan, hargs, htext, hsent⟩ :=
    exists_planSend branchHistory_plain.1 (by decide) (by decide)
  obtain ⟨store', happ⟩ := exists_appended hargs htext
  -- the client opens and plans during the first turn, which then ends
  let s₁ : System := { System.initial with store := turnStarted }
  let s₂ : System := { s₁ with
    clients := update s₁.clients 0 (some (.opened plainArgs "next" plainCharacter)) }
  let s₃ : System := { s₂ with clients := update s₂.clients 0 (some (.planned send)) }
  let s₄ : System := { s₃ with store := turnFinished }
  have hrun₁ := System.exec_runAll (twoTurns.take 2) System.initial
  have hopened : System.Step plainPlanner plainExternals plainCharacters s₁ (.opened 0 plainArgs) s₂ :=
    .opened (openSend_plain turnStarted (.inl rfl))
  have hplanned : System.Step plainPlanner plainExternals plainCharacters s₂ (.planned 0) s₃ :=
    .planned rfl hplan
  have hrun₂ := System.exec_runAll ((twoTurns.drop 2).take 1) s₃
  have hrun := ((hrun₁.mono fun _ _ _ h => h.1).append
    (.cons hopened (.cons hplanned (.nil s₃)))).append (hrun₂.mono fun _ _ _ h => h.1)
  have hcur : send.Current plainPlanner turnFinished :=
    hclaim _ s₄ 0 send plainCatalog "t" store' hrun rfl happ
  have hhist := hcur.history ""
  rw [hargs, hsent] at hhist
  have hactual : listRecentMessageLineageForPrompt "" "c" (some "a") (maxPromptMessages - 2)
      maxHistoryMessageBytes maxHistoryMessageChars turnFinished = .ok [plainUser "u" none,
          { plainReply "a" "u" "g" with content := "hello", status := .complete }] := by
    decide
  exact absurd (ok.inj hhist) (by decide)

theorem headSettled_turnFinished : HeadSettled turnFinished plainArgs := by
  have hmsgs : turnFinished.messages.rows = [plainUser "u" none,
      { plainReply "a" "u" "g" with content := "hello", status := .complete }] := by
    decide
  have hbrs : turnFinished.branches.rows.map
      (fun branch => (branch.id, branch.headMessageId)) = [("b", some "a")] := by
    decide
  refine ⟨?_, ?_⟩
  · rintro id ⟨⟩
    exact ⟨_, mem_cons_of_mem _ (mem_singleton_self _), rfl, by decide⟩
  · have hbr : ("b", some "a") ∈ turnFinished.branches.rows.map
        (fun branch => (branch.id, branch.headMessageId)) := by
      exact mem_singleton_self _
    obtain ⟨branch, hmem, heq⟩ := mem_map.mp hbr
    rw [Prod.mk.injEq] at heq
    exact ⟨branch, hmem, heq.1, heq.2⟩

/-- The same client, when it reads the history after the first turn has ended. -/
theorem append_history_current_turnFinished : ∃ (send : PlannedSend) (store' : Store),
    appendSend "" plainExternals plainCatalog send "t" turnFinished = .ok store' ∧
      send.Current plainPlanner turnFinished := by
  obtain ⟨send, hplan, hargs, htext, _⟩ :=
    exists_planSend branchHistory_plain.2 (by decide) (by decide)
  obtain ⟨store', happ⟩ := exists_appended hargs htext
  let s₁ : System := { System.initial with store := turnFinished }
  let s₂ : System := { s₁ with
    clients := Function.update s₁.clients 0 (some (.opened plainArgs "next" plainCharacter)) }
  let s₃ : System := { s₂ with clients := update s₂.clients 0 (some (.planned send)) }
  have hrun₁ := System.exec_runAll (twoTurns.take 2) System.initial
  have hrun₂ := System.exec_runAll ((twoTurns.drop 2).take 1)
    { System.initial with store := turnStarted }
  have hopened : System.GuardedStep plainPlanner plainExternals plainCharacters s₁
      (.opened 0 plainArgs) s₂ := by
    refine ⟨.opened (openSend_plain turnFinished (.inr rfl)), ?_⟩
    intro client args text character hev
    cases hev
  have hplanned : System.GuardedStep plainPlanner plainExternals plainCharacters s₂
      (.planned 0) s₃ := by
    refine ⟨.planned rfl hplan, ?_⟩
    rintro client args text character ⟨⟩ hclient
    have hsame : some (Phase.opened plainArgs "next" plainCharacter) =
      some (.opened args text character) := hclient
    simp only [some.injEq, Phase.opened.injEq] at hsame
    rw [← hsame.1]
    exact headSettled_turnFinished
  have hrun := (hrun₁.append hrun₂).append (.cons hopened (.cons hplanned (.nil s₃)))
  have hclient : s₃.clients 0 = some (.planned send) := rfl
  exact ⟨send, store', happ, append_history_current plainPlanner "" plainExternals
    plainCharacters hrun hclient happ⟩

end Interleavings

end LorePia.Conversations
