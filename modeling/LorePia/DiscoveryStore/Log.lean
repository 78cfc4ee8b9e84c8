import LorePia.DiscoveryStore.Persist
import LorePia.Discovery.Contract

namespace LorePia.DiscoveryStore

open Lib Discovery List Table

/-!
# The discovery store — the log of a run

A run is any sequence of calls, each one transaction, from any number of clients, with any
writes to the other ledgers in between.  Its log is the list of transitions it applied.

* `Logged` — what the store holds of that log: the receipts and the outbox are its rows, and
    every session has advanced by the number of its own transitions;
* `Logged.step` — every step keeps it;
* `persisted_log` — so in every run an action id is applied at most once, revisions count
    applied transitions, event sequences are consecutive, and a reused action id replays,
    conflicts or is refused without changing a row.
-/

variable (X : StoreExternals)

/-- A call with the answer it got, or a write that does not concern the log. -/
inductive Event
  | call (t : DurableDiscoveryTransition)
      (result : Except DiscoveryStorageError PersistDiscoveryTransition)
  | elsewhere

/-- One step of a run. -/
inductive Step : Store → Event → Store → Prop
  | call {store store' : Store} {t : DurableDiscoveryTransition}
      {result : Except DiscoveryStorageError PersistDiscoveryTransition}
      (h : persistDiscoveryTransition X store t = (result, store')) :
      Step store (.call t result) store'
  | elsewhere {store store' : Store} (h : SameLog store store') : Step store .elsewhere store'

abbrev Run (store : Store) (events : List Event) (store' : Store) : Prop :=
  Exec (Step X) store events store'

/-- A store before any call: no event, no receipt, and every session about to allocate its
    first event. -/
structure Store.Fresh (store : Store) : Prop where
  outbox : store.outbox.rows = []
  receipts : store.receipts.rows = []
  sequence : ∀ row ∈ store.sessions.rows, row.nextEventSequence = 1

/-- The transition an event applied. -/
def Event.applied? : Event → Option DurableDiscoveryTransition
  | .call t (.ok (.applied _ _)) => some t
  | _ => none

/-- The log: the applied transitions, in order. -/
def applied (events : List Event) : List DurableDiscoveryTransition :=
  events.filterMap Event.applied?

/-- The log of one session. -/
def appliedTo (id : String) (events : List Event) : List DurableDiscoveryTransition :=
  (applied events).filter fun t => t.sessionId = id

/-! ### What the store holds of the log -/

/-- A session after `n` applied transitions. -/
def Advanced (n : Nat) (row row' : SessionRow) : Prop :=
  row'.revision = row.revision + n ∧ row'.nextEventSequence = row.nextEventSequence + n

/-- The store is the initial one after the log of `events`. -/
structure Logged (s₀ : Store) (events : List Event) (s : Store) : Prop where
  receipts : s.receipts.rows = (applied events).map DurableDiscoveryTransition.receiptRow
  outbox : s.outbox.rows = (applied events).map DurableDiscoveryTransition.outboxRow
  sessions : ∀ id row, s₀.sessions.find? id = some row →
    ∃ row', s.sessions.find? id = some row' ∧ Advanced (appliedTo id events).length row row'
  missing : ∀ id, s₀.sessions.find? id = none → s.sessions.find? id = none
  sequences : ∀ id, (appliedTo id events).map DurableDiscoveryTransition.eventSequence =
    List.range' 1 (appliedTo id events).length

variable {X} {s₀ s s' : Store} {events : List Event}

theorem Logged.init (hfresh : s₀.Fresh) : Logged s₀ [] s₀ where
  receipts := hfresh.receipts
  outbox := hfresh.outbox
  sessions := fun _ row hrow => ⟨row, hrow, rfl, rfl⟩
  missing := fun _ h => h
  sequences := fun _ => rfl

/-- A step that applies nothing and keeps the log tables keeps `Logged`. -/
theorem Logged.of_sameLog (h : Logged s₀ events s) (hsame : SameLog s s')
    (hev : event.applied? = none) : Logged s₀ (events ++ [event]) s' := by
  have happlied : applied (events ++ [event]) = applied events := by simp [applied, hev]
  have hto (id : String) : appliedTo id (events ++ [event]) = appliedTo id events := by
    rw [appliedTo, happlied, appliedTo]
  refine ⟨?_, ?_, ?_, ?_, ?_⟩
  · rw [hsame.receipts, happlied]
    exact h.receipts
  · rw [hsame.outbox, happlied]
    exact h.outbox
  · intro id row hrow
    rw [hsame.sessions, hto]
    exact h.sessions id row hrow
  · intro id hnone
    rw [hsame.sessions]
    exact h.missing id hnone
  · intro id
    rw [hto]
    exact h.sequences id

/-- An applied transition extends the log by one entry of its session. -/
theorem Logged.of_applies {revision sequence : Nat} (hfresh : s₀.Fresh) (h : Logged s₀ events s)
    (happ : Applies s t s') :
    Logged s₀ (events ++ [.call t (.ok (.applied revision sequence))]) s' := by
  have happlied : applied (events ++ [.call t (.ok (.applied revision sequence))]) =
      applied events ++ [t] := by
    simp [applied, Event.applied?]
  have hown : appliedTo t.sessionId (events ++ [.call t (.ok (.applied revision sequence))]) =
      appliedTo t.sessionId events ++ [t] := by
    simp [appliedTo, happlied]
  have hoth {id : String} (hid : t.sessionId ≠ id) :
      appliedTo id (events ++ [.call t (.ok (.applied revision sequence))]) =
        appliedTo id events := by
    simp [appliedTo, happlied, hid]
  obtain ⟨old, new, hold, hnewId, hsequence, hrevision, hnext, hses⟩ := happ.session
  have hsome : (s.sessions.find? new.id).isSome = true := by
    rw [hnewId, hold]
    rfl
  -- the session of the transition existed at the start, and its counter says how far it is
  have hstart : ∃ row, s₀.sessions.find? t.sessionId = some row := by
    cases hrow : s₀.sessions.find? t.sessionId with
    | some row => exact ⟨row, rfl⟩
    | none =>
      have hnone := h.missing _ hrow
      rw [hnone] at hold
      cases hold
  obtain ⟨row₀, hrow₀⟩ := hstart
  obtain ⟨row', hrow', hadvanced⟩ := h.sessions _ row₀ hrow₀
  have hrow' : row' = old := Option.some.inj (hrow'.symm.trans hold)
  subst hrow'
  have hone : row₀.nextEventSequence = 1 := hfresh.sequence row₀ (find?_eq_some.mp hrow₀).1
  refine ⟨?_, ?_, ?_, ?_, ?_⟩
  · rw [happ.receipts, happlied, h.receipts, map_append, map_singleton]
  · rw [happ.outbox, happlied, h.outbox, map_append, map_singleton]
  · intro id row hrow
    rw [hses]
    by_cases hid : t.sessionId = id
    · subst hid
      have hrow : row = row₀ := Option.some.inj (hrow.symm.trans hrow₀)
      subst hrow
      refine ⟨new, ?_, ?_⟩
      · rw [find?_update hsome, if_pos hnewId]
      · rw [hown, length_append, length_singleton]
        have hrev := hadvanced.1
        have hseq := hadvanced.2
        exact ⟨by omega, by omega⟩
    · rw [hoth hid, find?_update hsome, if_neg (hnewId ▸ hid)]
      exact h.sessions id row hrow
  · intro id hnone
    have hid : t.sessionId ≠ id := by
      rintro rfl
      rw [hrow₀] at hnone
      cases hnone
    rw [hses, find?_update hsome, if_neg (hnewId ▸ hid)]
    exact h.missing id hnone
  · intro id
    by_cases hid : t.sessionId = id
    · subst hid
      rw [hown, map_append, map_singleton, h.sequences, length_append,
        length_singleton, range'_concat]
      -- the allocated number is the first one not yet used
      have hseq := hadvanced.2
      have hnumber : t.eventSequence = 1 + 1 * (appliedTo t.sessionId events).length := by omega
      rw [hnumber]
    · rw [hoth hid]
      exact h.sequences id

/-- Every step of a run keeps `Logged`. -/
theorem Logged.step (hfresh : s₀.Fresh) (h : Logged s₀ events s) (hstep : Step X s event s') :
    Logged s₀ (events ++ [event]) s' := by
  cases hstep with
  | elsewhere hsame => exact h.of_sameLog hsame rfl
  | call hcall =>
    unfold persistDiscoveryTransition at hcall
    split at hcall
    case h_1 answer store' hok =>
      cases hcall
      rcases persist_cases hok with ⟨_, _, _, rfl, rfl⟩ | ⟨rfl, happ⟩
      · exact h.of_sameLog (.refl _) rfl
      · exact h.of_applies hfresh happ
    case h_2 error _ =>
      cases hcall
      exact h.of_sameLog (.refl s) rfl

/-- **The log of a run.** -/
theorem Run.logged (hfresh : s₀.Fresh) (hrun : Run X s₀ events s) : Logged s₀ events s :=
  Exec.history (P := fun events s => Logged s₀ events s) (Logged.init hfresh)
    (fun _ _ _ _ _ h hstep => h.step hfresh hstep) hrun

/-! ### Reused action ids -/

variable (X) in
/-- How a call answers when it replays, and when the log already holds its action id. -/
structure ReuseSettled (log : List DurableDiscoveryTransition) (s : Store)
    (t : DurableDiscoveryTransition)
    (result : Except DiscoveryStorageError PersistDiscoveryTransition) (s' : Store) : Prop where
  replayed : ∀ revision sequence response, result = .ok (.replayed revision sequence response) →
    s' = s ∧ ∃ original ∈ log, original.actionId = t.actionId ∧ original.receiptRow.Answers t ∧
      revision = original.resultingRevision ∧ sequence = original.eventSequence ∧
      response = original.responseJson
  same : ∀ original ∈ log, original.actionId = t.actionId →
    validateTransitionRedaction X t = .ok () → original.receiptRow.Answers t →
    s' = s ∧ result = .ok (.replayed original.resultingRevision original.eventSequence
      original.responseJson)
  conflict : ∀ original ∈ log, original.actionId = t.actionId →
    validateTransitionRedaction X t = .ok () → ¬ original.receiptRow.Answers t →
    s' = s ∧ result = .error (.idempotencyConflict t.actionId)
  refused : ∀ original ∈ log, original.actionId = t.actionId →
    validateTransitionRedaction X t ≠ .ok () →
    s' = s ∧ ∃ reason, result = .error (.invalidTransition reason)

/-- The receipts of a logged store are the receipts of its log. -/
theorem Logged.find?_receipt (h : Logged s₀ events s) (hmem : original ∈ applied events) :
    s.receipts.find? original.actionId = some original.receiptRow := by
  rw [find?_eq_some, h.receipts]
  exact ⟨mem_map_of_mem hmem, rfl⟩

theorem Logged.reuseSettled (h : Logged s₀ events s)
    {result : Except DiscoveryStorageError PersistDiscoveryTransition}
    (hstep : Step X s (.call t result) s') : ReuseSettled X (applied events) s t result s' := by
  cases hstep with
  | call hcall =>
  have hstored {original : DurableDiscoveryTransition} (hmem : original ∈ applied events)
      (hid : original.actionId = t.actionId) :
      s.receipts.find? t.actionId = some original.receiptRow := hid ▸ h.find?_receipt hmem
  refine ⟨?_, ?_, ?_, ?_⟩
  · -- a replay was answered from a stored receipt, which the log explains
    rintro revision sequence response rfl
    unfold persistDiscoveryTransition at hcall
    split at hcall
    case h_2 => cases hcall
    case h_1 answer store' hok =>
      cases hcall
      rcases persist_cases hok with ⟨receipt, hfind, hanswers, hres, hsame⟩ | ⟨hres, _⟩
      · cases hres
        obtain ⟨hmem, hid⟩ := find?_eq_some.mp hfind
        rw [h.receipts, mem_map] at hmem
        obtain ⟨original, horiginal, rfl⟩ := hmem
        exact ⟨hsame, original, horiginal, hid, hanswers, rfl, rfl, rfl⟩
      · cases hres
  · intro original hmem hid hok hanswers
    rw [persistDiscoveryTransition, persist_of_receipt hok (hstored hmem hid),
      if_pos hanswers] at hcall
    cases hcall
    exact ⟨rfl, rfl⟩
  · intro original hmem hid hok hanswers
    rw [persistDiscoveryTransition, persist_of_receipt hok (hstored hmem hid),
      if_neg hanswers] at hcall
    cases hcall
    exact ⟨rfl, rfl⟩
  · intro original _ _ hredaction
    cases herr : validateTransitionRedaction X t with
    | ok _ => exact absurd herr hredaction
    | error e =>
      obtain ⟨reason, rfl⟩ := validateTransitionRedaction_error herr
      rw [persistDiscoveryTransition, persist_of_redaction_error herr] at hcall
      cases hcall
      exact ⟨rfl, reason, rfl⟩

/-- The outbox of one session lists the event numbers of its log. -/
theorem Logged.outbox_sequences (h : Logged s₀ events s) (id : String) :
    (s.outbox.rows.filter fun row => row.sessionId = id).map OutboxRow.sequence =
      List.range' 1 (appliedTo id events).length := by
  rw [h.outbox, filter_map, map_map, ← h.sequences id]
  rfl

/-- **At most once, in order, without gaps.** In every run of calls from a fresh store, an
    action id is applied at most once; each session's revision has grown by the number of its
    applied transitions and its outbox numbers are `1, …, n`; and every further call treats
    the log as `ReuseSettled` says. -/
theorem persisted_log (hfresh : s₀.Fresh) (hrun : Run X s₀ events s) :
    ((applied events).map DurableDiscoveryTransition.actionId).Nodup ∧
    (∀ id row₀, s₀.sessions.find? id = some row₀ → ∃ row, s.sessions.find? id = some row ∧
      row.revision = row₀.revision + (appliedTo id events).length ∧
      (s.outbox.rows.filter fun event => event.sessionId = id).map OutboxRow.sequence =
        List.range' 1 (appliedTo id events).length) ∧
    (∀ t result s', Step X s (.call t result) s' →
      ReuseSettled X (applied events) s t result s') := by
  have hlog : Logged s₀ events s := hrun.logged hfresh
  refine ⟨?_, ?_, ?_⟩
  · have huniq := s.receipts.unique
    rw [hlog.receipts, map_map] at huniq
    exact huniq
  · intro id row₀ hrow₀
    obtain ⟨row, hrow, hadvanced⟩ := hlog.sessions id row₀ hrow₀
    exact ⟨row, hrow, hadvanced.1, hlog.outbox_sequences id⟩
  · intro t result s' hstep
    exact hlog.reuseSettled hstep

/-! ### A run

A session begins, the client repeats the request, another request takes the same action id,
and a third one arrives with a document the redaction check refuses. -/

/-- A client's calls, one after the other. -/
def serve (X : StoreExternals) (store : Store) : List DurableDiscoveryTransition →
    List Event × Store
  | [] => ([], store)
  | t :: ts =>
    let answer := persistDiscoveryTransition X store t
    let rest := serve X answer.2 ts
    (.call t answer.1 :: rest.1, rest.2)

theorem serve_run (store : Store) (ts : List DurableDiscoveryTransition) :
    Run X store (serve X store ts).1 (serve X store ts).2 := by
  induction ts generalizing store with
  | nil => exact .nil store
  | cons t ts ih => exact .cons (.call rfl) (ih _)

/-- The text of an empty JSON object. -/
def emptyObject : String := "\x7b\x7d"

/-- The text of an object with a forbidden field. -/
def passwordObject : String := "\x7b\"password\":\"\"\x7d"

/-- The crates on the two documents of the run. -/
def sampleStoreExternals : StoreExternals where
  url := sampleExternals.url
  sqlite :=
    { valid := fun json => json = emptyObject ∨ json = passwordObject
      type := fun json path =>
        if path = "$" ∧ (json = emptyObject ∨ json = passwordObject) then some "object" else none
      extract := fun _ _ => none }
  digests := { sha256Hex := fun _ => "", reviewPayload := fun _ _ _ _ => .ok [] }
  parseValue := fun json =>
    if json = emptyObject then some (.object [])
    else if json = passwordObject then some (.object [("password", .string "")])
    else none
  decodeFailure := fun _ => none
  failureToValue := fun _ => none
  approvalBinding := { decode := fun _ => none, encode := fun _ => none }
  approvalGrant := { decode := fun _ => none, encode := fun _ => none }
  decodeReviewDiff := fun _ => none
  decodeCommitPlan := fun _ => none
  decodeCompensationStep := fun _ => none

/-- A store with one session that has not begun. -/
def sampleStore : Store where
  connections := []
  candidates := []
  sessions := ⟨[{
    id := "session-1"
    state := "draft"
    revision := 0
    nextEventSequence := 1
    draftJson := none
    reviewDiffJson := none
    errorJson := none
    recoveryJson := none
    unknownOperation := none
    manifestSha256 := none
    commitPlanSha256 := none
    commitAttemptId := none
    committedConnectionId := none
    cancellationPending := false
    activeOperationId := none
    activeEffectApprovalJson := none
    updatedAt := "2026-01-01T00:00:00Z" }], by decide⟩
  approvals := .empty
  operations := .empty
  outbox := .empty
  receipts := .empty
  commitAttempts := .empty
  compensationSteps := .empty
  auditLog := .empty

/-- The session begins. -/
def beginTransition : DurableDiscoveryTransition where
  sessionId := "session-1"
  expectedRevision := 0
  resultingRevision := 1
  eventSequence := 1
  nextEventSequence := 2
  state := "resolving_known_provider"
  draftJson := none
  reviewDiffJson := none
  errorJson := none
  recoveryJson := none
  unknownOperation := none
  manifestSha256 := none
  commitPlanSha256 := none
  commitAttemptId := none
  committedConnectionId := none
  cancellationPending := false
  eventId := "event-1"
  eventVersion := 1
  eventJson := emptyObject
  effect := .resolveKnownProvider
  actionId := "action-1"
  actionKind := "begin"
  actionApprovalId := none
  requestSha256 := sampleSha256
  responseJson := emptyObject
  receiptOutcome := "applied"
  auditKind := "transition_applied"
  auditSummaryKey := "discovery.audit.transition_applied"
  occurredAt := "2026-01-01T00:00:01Z"
  operation := some ⟨"operation-1", "resolve_known_provider", "read_only", none, none⟩
  completedOperation := none
  approval := none
  commit := none

/-- The same request with a draft that carries a forbidden field. -/
def unredactedTransition : DurableDiscoveryTransition :=
  { beginTransition with draftJson := some passwordObject }

theorem sampleStore_fresh : sampleStore.Fresh := ⟨rfl, rfl, by decide⟩

/-- The request and its retry, a second action under the same id, and the unredacted one. -/
def sampleCalls : List DurableDiscoveryTransition :=
  [beginTransition, beginTransition, { beginTransition with actionKind := "cancel" },
    unredactedTransition]

theorem persisted_log_sampleCalls :
    sampleStore.Fresh ∧ ((applied (serve sampleStoreExternals sampleStore sampleCalls).1).map
        DurableDiscoveryTransition.actionId).Nodup :=
  ⟨sampleStore_fresh, (persisted_log sampleStore_fresh (serve_run _ sampleCalls)).1⟩

/-- Not every reuse of an action id is a replay or an idempotency conflict: a request that
    fails the redaction check is refused before its receipt is looked up. -/
theorem unredacted_reuse_not_conflict :
    ¬ ∀ (s₀ s s' : Store) (events : List Event) (t : DurableDiscoveryTransition)
      (result : Except DiscoveryStorageError PersistDiscoveryTransition),
      s₀.Fresh → Run sampleStoreExternals s₀ events s →
      Step sampleStoreExternals s (.call t result) s' →
      (∃ original ∈ applied events, original.actionId = t.actionId) →
      (∃ revision sequence response, result = .ok (.replayed revision sequence response)) ∨
        result = .error (.idempotencyConflict t.actionId) := by
  intro h
  have hbegin : beginTransition ∈
      applied (serve sampleStoreExternals sampleStore [beginTransition]).1 := by
    decide
  have hres : (persistDiscoveryTransition sampleStoreExternals
      (serve sampleStoreExternals sampleStore [beginTransition]).2 unredactedTransition).1 =
      .error (.invalidTransition "persisted JSON contains a forbidden sensitive field") := by
    decide
  have hstep : Step sampleStoreExternals _ (.call unredactedTransition _) _ :=
    .call (Prod.ext hres rfl)
  rcases h _ _ _ _ _ _ sampleStore_fresh (serve_run _ [beginTransition]) hstep
    ⟨_, hbegin, rfl⟩ with ⟨_, _, _, hreplay⟩ | hconflict
  · cases hreplay
  · cases hconflict

end LorePia.DiscoveryStore
