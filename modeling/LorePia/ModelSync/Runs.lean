import LorePia.Lib.Exec
import LorePia.ModelSync.Invariant
import LorePia.ProviderStore.Runs

namespace LorePia.ModelSync

open List OutboxRow

open Lib Lib.Stateful
open ProviderStore (ModelSyncState ProviderConnection)

/-!
# Model synchronization — runs

* `Kept` — what a call keeps of the jobs, their events and the provider graph;
* `Sound` — what holds at the end of a run; `sound_of_run` proves it for every run in which the
  stored reviews read back;
* `interrupted_of_run` — what later calls can do to an interrupted job.
-/

variable {outcome : CoreResult Response} {operation : Operation} {events : List Event}
  {event : Event} {old new : JobRow} {a b : JobRow} {created : Store} {id now : String}

variable {X : Externals} {uuid : String} {start store store' : Store}

/-! ### What a call does to a row -/

theorem Move.unfinished (h : Move old new) : old.state.isFinished = false := by
  cases h with
  | fetch now h => rw [h]; rfl
  | review json sha256 now h => rw [h]; rfl
  | approve sha256 now h => rw [h]; rfl
  | complete now h => rw [h]; rfl
  | fail failure now h => exact h
  | cancel now h => exact h
  | interrupt now h => cases hst : old.state <;> rw [hst] at h <;> first | rfl | cases h

/-- The events of a job, apart from their delivery. -/
def tellings (store : Store) (id : String) : List OutboxRow :=
  (eventsOf store id).map OutboxRow.told

/-- A job has the same row and the same events. -/
structure Stays (store store' : Store) (row : JobRow) : Prop where
  mem : row ∈ store'.jobs.rows
  told : tellings store' row.id = tellings store row.id

theorem Stays.trans {row : JobRow} (h : Stays store store' row)
    (h' : Stays store' store'' row) : Stays store store'' row :=
  ⟨h'.mem, h'.told.trans h.told⟩

/-- A job has the same row and its events the same rows. -/
structure Untouched (store store' : Store) (row : JobRow) : Prop where
  mem : row ∈ store'.jobs.rows
  events : eventsOf store' row.id = eventsOf store row.id

theorem Untouched.stays {row : JobRow} (h : Untouched store store' row) :
    Stays store store' row := by
  refine ⟨h.mem, ?_⟩
  rw [tellings, h.events, tellings]

theorem Moves.untouched {row : JobRow} (h : Moves X store store' old new)
    (hrow : row ∈ store.jobs.rows) (hne : row.id ≠ old.id) : Untouched store store' row := by
  obtain ⟨event, hev, hrows⟩ := h.event
  refine ⟨h.mem_of_ne hrow hne, ?_⟩
  rw [eventsOf_append hrows, if_neg (hev.jobId ▸ hne.symm)]

/-- The events of a job that moved: one more. -/
theorem Moves.tellings (h : Moves X store store' old new) :
    ∃ event, Announces X old.id old.nextEventSequence new.revision new.state event ∧
      tellings store' old.id = tellings store old.id ++ [event.outboxRow] := by
  obtain ⟨event, hev, hrows⟩ := h.event
  refine ⟨event, hev, ?_⟩
  rw [ModelSync.tellings, eventsOf_append hrows, if_pos hev.jobId, map_append]
  rfl

theorem Marks.stays {row : JobRow} (h : Marks X store store' f)
    (hrow : row ∈ store.jobs.rows) : Stays store store' row := by
  refine ⟨h.jobs ▸ hrow, ?_⟩
  rw [ModelSync.tellings, h.eventsOf, map_map]
  exact map_congr_left fun x _ => h.told x

theorem Creates.untouched {row : JobRow} (h : Creates X uuid store store' id now connection)
    (hrow : row ∈ store.jobs.rows) :
    Untouched store store' row := by
  obtain ⟨event, hev, hrows⟩ := h.event
  constructor
  · rw [h.jobs]
    exact mem_append_left _ hrow
  · rw [eventsOf_append hrows, if_neg]
    rw [hev.jobId]
    exact fun heq => h.fresh row hrow heq.symm

/-- Recovery leaves a job as it was, unless it was being worked on. -/
theorem stays_of_interrupts {row : JobRow} (h : Relation.ReflTransGen (Interrupts X) store store')
    (hrow : row ∈ store.jobs.rows) (hst : isInterruptible row.state = false) :
    Stays store store' row := by
  induction h with
  | refl => exact ⟨hrow, rfl⟩
  | tail _ hstep ih =>
    obtain ⟨old, now, hold, hmoves, _⟩ := hstep
    refine ih.trans (hmoves.untouched ih.mem fun hid => ?_).stays
    obtain rfl := Table.eq_of_key ih.mem hmoves.found hid
    rw [hold] at hst
    cases hst

/-- A call leaves the row of a job as it was, or asked for what changed it. -/
theorem Effect.row {row : JobRow}
    (h : Effect X uuid store operation outcome store') (hrow : row ∈ store.jobs.rows) :
    Stays store store' row ∨
      (∃ new, operation.Requests X uuid row new ∧ Moves X store store' row new) ∨
      (∃ now, operation = .commit row.id row.revision now ∧
        Moves X store store' row (row.complete (row.revision + 1) now).countEvent) ∨
      ∃ now, operation = .recover now ∧ isInterruptible row.state = true := by
  cases h with
  | unchanged => exact .inl ⟨hrow, rfl⟩
  | creates h => exact .inl (h.untouched hrow).stays
  | @moves _ _ old new hrequests h _ =>
    by_cases hid : row.id = old.id
    · obtain rfl := Table.eq_of_key hrow h.found hid
      exact .inr (.inl ⟨new, hrequests, h⟩)
    · exact .inl (h.untouched hrow hid).stays
  | @commits _ old now _ h =>
    by_cases hid : row.id = old.id
    · obtain rfl := Table.eq_of_key hrow h.found hid
      exact .inr (.inr (.inl ⟨now, rfl, h⟩))
    · exact .inl (h.untouched hrow hid).stays
  | recovers now h =>
    cases hst : isInterruptible row.state with
    | true => exact .inr (.inr (.inr ⟨now, rfl, rfl⟩))
    | false => exact .inl (stays_of_interrupts h hrow hst)
  | polls id limit now => exact .inl ((polled_marks (X := X) store id limit now).stays hrow)
  | acknowledges id sequence now =>
    exact .inl ((acknowledged_marks (X := X) store id sequence now).stays hrow)

/-- A finished job is not changed. -/
theorem Effect.finished {row : JobRow} (h : Effect X uuid store operation outcome store')
    (hrow : row ∈ store.jobs.rows) (hfin : row.state.isFinished = true) :
    Stays store store' row := by
  rcases h.row hrow with hstays | ⟨new, _, hmoves⟩ | ⟨now, _, hmoves⟩ | ⟨now, _, hst⟩
  · exact hstays
  · exact absurd (hmoves.move.unfinished.symm.trans hfin) (by decide)
  · exact absurd (hmoves.move.unfinished.symm.trans hfin) (by decide)
  · have hunfinished := (Move.interrupt "" hst).unfinished
    exact absurd (hunfinished.symm.trans hfin) (by decide)

/-! ### The graph -/

theorem SameGraph.refl (store : Store) : SameGraph store store := ⟨rfl, rfl⟩

theorem SameGraph.trans (h : SameGraph store store')
    (h' : SameGraph store' store'') : SameGraph store store'' :=
  ⟨h'.1.trans h.1, h'.2.trans h.2⟩

theorem sameGraph_of_interrupts (h : Relation.ReflTransGen (Interrupts X) store store') :
    SameGraph store store' := by
  induction h with
  | refl => exact .refl _
  | tail _ hstep ih =>
    obtain ⟨_, _, _, _, hgraph⟩ := hstep
    exact ih.trans hgraph

/-- A job was completed, and its review applied. -/
structure Completes (X : Externals) (uuid : String) (store store' : Store) (operation : Operation)
    (row : JobRow) : Prop where
  found : row ∈ store.jobs.rows
  committing : row.state = .committing
  commits : Commits X uuid store row
  call : ∃ now, operation = .commit row.id row.revision now ∧
    (row.complete (row.revision + 1) now).countEvent ∈ store'.jobs.rows

theorem Moves.committing {row : JobRow}
    (h : Moves X store store' row (row.complete (row.revision + 1) now).countEvent) :
    row.state = .committing := by
  generalize hnew : (row.complete (row.revision + 1) now).countEvent = new at h
  have hst : new.state = .completed := by rw [← hnew]; rfl
  cases h.move with
  | complete now hcommitting => exact hcommitting
  | fetch | review | approve | fail | cancel | interrupt => cases hst

/-- The graph changes with the completion of a job. -/
theorem Effect.graph (h : Effect X uuid store operation outcome store') :
    SameGraph store store' ∨ ∃ row, Completes X uuid store store' operation row := by
  cases h with
  | unchanged | polls | acknowledges => exact .inl ⟨rfl, rfl⟩
  | creates h => exact .inl h.graph
  | moves _ _ hgraph => exact .inl hgraph
  | @commits _ row now hcommits h =>
    exact .inr ⟨row, h.found, h.committing, hcommits, now, rfl, h.new_mem⟩
  | recovers now h => exact .inl (sameGraph_of_interrupts h)

/-! ### Events -/

/-- The job that a call is for. -/
def Operation.subject : Operation → Option String
  | .create id _ _ | .startFetching id _ _ | .storeReview id _ _ _ | .markCommitting id _ _ _
  | .commit id _ _ | .fail id _ _ _ | .cancel id _ | .poll id _ _ | .ack id _ _ => some id
  | .recover _ => none

theorem Operation.Requests.subject
    (h : operation.Requests X uuid old new) : operation.subject = some old.id := by
  cases operation with
  | startFetching | storeReview | markCommitting | fail | cancel => rw [← h.1]; rfl
  | create | commit | poll | ack | recover => exact h.elim

theorem Marks.untouched {row : JobRow} (h : Marks X store store' f) (hrow : row ∈ store.jobs.rows)
    (hf : ∀ event : OutboxRow, event.jobId = row.id → f event = event) :
    Untouched store store' row := by
  refine ⟨h.jobs ▸ hrow, ?_⟩
  have hsame : (ModelSync.eventsOf store row.id).map f = (ModelSync.eventsOf store row.id).map id := by
    refine map_congr_left fun event hev => hf event ?_
    exact eq_of_beq (mem_filter.mp hev).2
  rw [h.eventsOf, hsame, List.map_id]

section

variable (h : Effect X uuid store operation outcome store')
include h

/-- A call for one job leaves the others alone. -/
theorem Effect.others {row : JobRow}
    (hsubj : operation.subject = some id) (hrow : row ∈ store.jobs.rows) (hne : row.id ≠ id) :
    Untouched store store' row := by
  cases h with
  | unchanged => exact ⟨hrow, rfl⟩
  | creates h => exact h.untouched hrow
  | moves hrequests h _ =>
    rw [hrequests.subject, Option.some.injEq] at hsubj
    exact h.untouched hrow (hsubj ▸ hne)
  | commits now _ h =>
    obtain rfl := Option.some.inj hsubj
    exact h.untouched hrow hne
  | recovers => cases hsubj
  | polls job limit now =>
    obtain rfl := Option.some.inj hsubj
    refine (polled_marks (X := X) store job limit now).untouched hrow fun event hev => ?_
    rw [afterPoll, if_neg]
    simp [isPolled, hev, hne]
  | acknowledges job sequence now =>
    obtain rfl := Option.some.inj hsubj
    have hmarks := acknowledged_marks (X := X) store job sequence now
    refine hmarks.untouched hrow fun event hev => ?_
    rw [afterAck, if_neg]
    rw [isPending_iff, hev]
    exact fun hpend => hne hpend.1

/-- An event that nobody has read is kept, or was read by the call. -/
theorem Effect.undelivered {row : OutboxRow}
    (hrow : row ∈ store.outbox.rows) (hnone : row.deliveredAt = none) :
    (∃ kept ∈ store'.outbox.rows, kept.told = row.told ∧ kept.deliveredAt = none) ∨
      0 < row.deliveryAttempts ∧ ∃ now, operation = .ack row.jobId row.sequence now ∧
        outcome = .ok (.acknowledged true) := by
  have happ : (∃ event, store'.outbox.rows = store.outbox.rows ++ [event]) →
      ∃ kept ∈ store'.outbox.rows, kept.told = row.told ∧ kept.deliveredAt = none := by
    rintro ⟨event, hrows⟩
    exact ⟨row, hrows ▸ mem_append_left _ hrow, rfl, hnone⟩
  cases h with
  | unchanged => exact .inl ⟨row, hrow, rfl, hnone⟩
  | creates h =>
    obtain ⟨event, _, hrows⟩ := h.event
    exact .inl (happ ⟨_, hrows⟩)
  | moves _ h _ =>
    obtain ⟨event, _, hrows⟩ := h.event
    exact .inl (happ ⟨_, hrows⟩)
  | commits now _ h =>
    obtain ⟨event, _, hrows⟩ := h.event
    exact .inl (happ ⟨_, hrows⟩)
  | recovers now h =>
    left
    clear happ
    induction h with
    | refl => exact ⟨row, hrow, rfl, hnone⟩
    | tail _ hstep ih =>
      obtain ⟨_, _, _, hmoves, _⟩ := hstep
      obtain ⟨event, _, hrows⟩ := hmoves.event
      obtain ⟨kept, hkept, hsame⟩ := ih
      exact ⟨kept, hrows ▸ mem_append_left _ hkept, hsame⟩
  | polls job limit now =>
    have hmarks := polled_marks (X := X) store job limit now
    refine .inl ⟨_, hmarks.rows ▸ mem_map_of_mem hrow, hmarks.told row, ?_⟩
    rw [OutboxRow.afterPoll]
    split
    · exact hnone
    · exact hnone
  | acknowledges job sequence now =>
    have hmarks := acknowledged_marks (X := X) store job sequence now
    by_cases hpend : isPending job sequence row = true
    · have hone : store.outbox.rows.countP (isPending job sequence) = 1 := by
        refine Table.countP_eq_one hrow hpend fun x _ hx => ?_
        obtain ⟨hjob, hseq, -⟩ := isPending_iff.mp hx
        obtain ⟨rfl, rfl, -⟩ := isPending_iff.mp hpend
        exact Prod.ext hjob hseq
      obtain ⟨rfl, rfl, -, hatts⟩ := isPending_iff.mp hpend
      refine .inr ⟨hatts, now, rfl, ?_⟩
      rw [hone]
      rfl
    · refine .inl ⟨_, hmarks.rows ▸ mem_map_of_mem hrow, hmarks.told row, ?_⟩
      rw [OutboxRow.afterAck, if_neg hpend]
      exact hnone

/-- An event that was polled before, or that the call returns. -/
theorem Effect.attempted {row : OutboxRow}
    (hrow : row ∈ store'.outbox.rows) (hatts : 0 < row.deliveryAttempts) :
    (∃ old ∈ store.outbox.rows, old.told = row.told ∧ 0 < old.deliveryAttempts) ∨
      ∃ limit now events, operation = .poll row.jobId limit now ∧
        outcome = .ok (.events events) ∧ row.event ∈ events := by
  have happ : ∀ {before after : Store} {event : ModelSyncEvent},
      after.outbox.rows = before.outbox.rows ++ [event.outboxRow] → row ∈ after.outbox.rows →
      row ∈ before.outbox.rows := by
    intro before after event hrows hrow
    rw [hrows, mem_append, mem_singleton] at hrow
    rcases hrow with hrow | rfl
    · exact hrow
    · exact absurd hatts (Nat.lt_irrefl 0)
  cases h with
  | unchanged => exact .inl ⟨row, hrow, rfl, hatts⟩
  | creates h =>
    obtain ⟨event, _, hrows⟩ := h.event
    exact .inl ⟨row, happ hrows hrow, rfl, hatts⟩
  | moves _ h _ =>
    obtain ⟨event, _, hrows⟩ := h.event
    exact .inl ⟨row, happ hrows hrow, rfl, hatts⟩
  | commits now _ h =>
    obtain ⟨event, _, hrows⟩ := h.event
    exact .inl ⟨row, happ hrows hrow, rfl, hatts⟩
  | recovers now h =>
    left
    induction h with
    | refl => exact ⟨row, hrow, rfl, hatts⟩
    | tail _ hstep ih =>
      obtain ⟨_, _, _, hmoves, _⟩ := hstep
      obtain ⟨event, _, hrows⟩ := hmoves.event
      exact ih (happ hrows hrow)
  | polls job limit now =>
    have hmarks := polled_marks (X := X) store job limit now
    rw [hmarks.rows, mem_map] at hrow
    obtain ⟨old, hold, rfl⟩ := hrow
    rw [afterPoll] at hatts ⊢
    by_cases hpolled : isPolled job ((selected job limit now store).map sequence) old
    · rw [if_pos hpolled]
      simp only [isPolled, Bool.and_eq_true, beq_iff_eq, decide_eq_true_eq, mem_map]
        at hpolled
      obtain ⟨⟨rfl, _⟩, row, hrow, hseq⟩ := hpolled
      obtain ⟨hmem, hjob, -⟩ := mem_available.mp (mem_of_mem_take hrow)
      obtain rfl : row = old := Table.eq_of_key hmem hold (Prod.ext hjob hseq)
      have hreturned : row.event ∈ (selected row.jobId limit now store).map event :=
        mem_map_of_mem hrow
      exact .inr ⟨limit, now, _, rfl, rfl, hreturned⟩
    · rw [if_neg hpolled] at hatts ⊢
      exact .inl ⟨old, hold, rfl, hatts⟩
  | acknowledges job sequence now =>
    have hmarks := acknowledged_marks (X := X) store job sequence now
    rw [hmarks.rows, mem_map] at hrow
    obtain ⟨old, hold, rfl⟩ := hrow
    refine .inl ⟨old, hold, (hmarks.told old).symm, ?_⟩
    rw [afterAck] at hatts
    split at hatts
    · exact hatts
    · exact hatts

end

/-! ### Runs -/

/-- A new database: there are no jobs. -/
structure Initial (store : Store) : Prop where
  jobs : store.jobs.rows = []
  outbox : store.outbox.rows = []

/-- The review that a call stores reads back. -/
def Event.ReadsBack (X : Externals) (uuid : String) : Event → Prop
  | .call operation _ => operation.ReadsBack X uuid
  | .write _ _ => True

theorem Initial.coherent (h : Initial store) : Coherent X store := by
  refine ⟨?_, ?_, ?_, ?_, ?_⟩
  · rw [h.jobs]
    exact nodup_nil
  all_goals simp [h.jobs, h.outbox]

theorem Step.coherent (h : Step X uuid store event store')
    (hc : Coherent X store) : Coherent X store' := by
  cases event with
  | call operation outcome => exact (run_effect h).coherent hc
  | write provider observations =>
    obtain rfl := h
    exact hc.of_sameJobs ⟨rfl, rfl⟩

theorem Step.readable (h : Step X uuid store event store')
    (hreads : event.ReadsBack X uuid) (hr : ∀ row ∈ store.jobs.rows, Readable X uuid row) :
    ∀ row ∈ store'.jobs.rows, Readable X uuid row := by
  cases event with
  | call operation outcome => exact (run_effect h).readable hreads hr
  | write provider observations =>
    obtain rfl := h
    exact hr

theorem coherent_of_run (h : Exec (Step X uuid) start events store)
    (hstart : Initial start) : Coherent X store :=
  h.invariant (fun _ _ _ hc hstep => Step.coherent hstep hc) hstart.coherent

theorem readable_of_run (h : Exec (Step X uuid) start events store)
    (hstart : Initial start) (hreads : ∀ event ∈ events, event.ReadsBack X uuid) :
    ∀ row ∈ store.jobs.rows, Readable X uuid row := by
  have hinitial : ∀ row ∈ start.jobs.rows, Readable X uuid row := by
    rw [hstart.jobs]
    exact fun row hrow => absurd hrow not_mem_nil
  exact h.invariant_of_labels (I := fun store : Store => ∀ row ∈ store.jobs.rows,
      Readable X uuid row) (G := Event.ReadsBack X uuid)
    (fun _ _ _ hr hev hstep => Step.readable hstep hev hr) hreads hinitial

/-! ### Creation -/

/-- A job was created by a call in the state `created`, for a connection and a graph that the
    storage held there. -/
structure CreatedIn (X : Externals) (uuid : String) (start : Store) (events : List Event)
    (row : JobRow) (created : Store) : Prop where
  call : ∃ now outcome before after,
    events = before ++ .call (.create row.id now row.expectedConnection) outcome :: after ∧
      Exec (Step X uuid) start before created
  connectionId : row.connectionId = row.expectedConnection.id
  connection : loadProviderConnection uuid row.connectionId created = .ok row.expectedConnection
  graph : X.graphSha256 (graphOf created row.expectedConnection) = row.baseGraphSha256

/-- Two rows of one job, which keep what it was created for. -/
structure SameOrigin (old new : JobRow) : Prop where
  id : new.id = old.id
  connectionId : new.connectionId = old.connectionId
  expectedConnection : new.expectedConnection = old.expectedConnection
  baseGraphSha256 : new.baseGraphSha256 = old.baseGraphSha256

theorem Move.sameOrigin (h : Move old new) : SameOrigin old new := by
  cases h <;> exact ⟨rfl, rfl, rfl, rfl⟩

theorem Moves.origin {row : JobRow} (h : Moves X store store' old new)
    (hrow : row ∈ store'.jobs.rows) : ∃ before ∈ store.jobs.rows, SameOrigin before row := by
  rcases h.mem_jobs hrow with rfl | ⟨hrow, _⟩
  · exact ⟨old, h.found, h.move.sameOrigin⟩
  · exact ⟨row, hrow, rfl, rfl, rfl, rfl⟩

theorem SameOrigin.trans (h : SameOrigin a b) (h' : SameOrigin b c) :
    SameOrigin a c :=
  ⟨h'.id.trans h.id, h'.connectionId.trans h.connectionId,
    h'.expectedConnection.trans h.expectedConnection, h'.baseGraphSha256.trans h.baseGraphSha256⟩

/-- A row of a job that was there before, or that the call created. -/
theorem Effect.origin {row : JobRow} (h : Effect X uuid store operation outcome store')
    (hrow : row ∈ store'.jobs.rows) :
    (∃ old ∈ store.jobs.rows, SameOrigin old row) ∨ row.connectionId = row.expectedConnection.id ∧
      loadProviderConnection uuid row.connectionId store = .ok row.expectedConnection ∧
      X.graphSha256 (graphOf store row.expectedConnection) = row.baseGraphSha256 ∧
      ∃ now, operation = .create row.id now row.expectedConnection := by
  cases h with
  | unchanged | polls | acknowledges => exact .inl ⟨row, hrow, rfl, rfl, rfl, rfl⟩
  | @creates _ id now connection h =>
    rw [h.jobs, mem_append, mem_singleton] at hrow
    rcases hrow with hrow | rfl
    · exact .inl ⟨row, hrow, rfl, rfl, rfl, rfl⟩
    · exact .inr ⟨rfl, h.loaded, rfl, now, rfl⟩
  | moves _ h _ => exact .inl (h.origin hrow)
  | commits now _ h => exact .inl (h.origin hrow)
  | recovers now h =>
    left
    induction h generalizing row with
    | refl => exact ⟨row, hrow, rfl, rfl, rfl, rfl⟩
    | tail _ hstep ih =>
      obtain ⟨_, _, _, hmoves, _⟩ := hstep
      obtain ⟨middle, hmid, hsame⟩ := hmoves.origin hrow
      obtain ⟨old, hold, horig⟩ := ih hmid
      exact ⟨old, hold, horig.trans hsame⟩

theorem CreatedIn.snoc {row : JobRow}
    (h : CreatedIn X uuid start events old created) (hsame : SameOrigin old row) :
    CreatedIn X uuid start (events ++ [event]) row created := by
  obtain ⟨now, outcome, before, after, rfl, hbef⟩ := h.call
  refine ⟨⟨now, outcome, before, after ++ [event], ?_, hbef⟩, ?_, ?_, ?_⟩
  · rw [hsame.id, hsame.expectedConnection, append_assoc, cons_append]
  · rw [hsame.connectionId, hsame.expectedConnection]
    exact h.connectionId
  · rw [hsame.connectionId, hsame.expectedConnection]
    exact h.connection
  · rw [hsame.expectedConnection, hsame.baseGraphSha256]
    exact h.graph

theorem created_of_run (h : Exec (Step X uuid) start events store) (hstart : Initial start) :
    ∀ row ∈ store.jobs.rows, ∃ created, CreatedIn X uuid start events row created := by
  refine h.history (P := fun events store => ∀ row ∈ store.jobs.rows,
    ∃ created, CreatedIn X uuid start events row created) ?_ ?_
  · rw [hstart.jobs]
    exact fun row hrow => absurd hrow not_mem_nil
  · intro events store event store' hrun ih hstep row hrow
    cases event with
    | write provider observations =>
      obtain rfl := hstep
      obtain ⟨created, hcreated⟩ := ih row hrow
      exact ⟨created, hcreated.snoc ⟨rfl, rfl, rfl, rfl⟩⟩
    | call operation outcome =>
      rcases (run_effect hstep).origin hrow with ⟨old, hold, hsame⟩ | hcreates
      · obtain ⟨created, hcreated⟩ := ih old hold
        exact ⟨created, hcreated.snoc hsame⟩
      · obtain ⟨hid, hconn, hgraph, now, rfl⟩ := hcreates
        exact ⟨store, ⟨now, outcome, events, [], rfl, hrun⟩, hid, hconn, hgraph⟩

/-! ### Polls -/

/-- An event was returned by a poll. -/
def PolledBy (events : List Event) (row : OutboxRow) : Prop :=
  ∃ limit now returned,
    .call (.poll row.jobId limit now) (.ok (.events returned)) ∈ events ∧ row.event ∈ returned

theorem PolledBy.of_told {old row : OutboxRow}
    (h : PolledBy events old) (htold : old.told = row.told) : PolledBy (events ++ [event]) row := by
  obtain ⟨limit, now, returned, hcall, hreturned⟩ := h
  have hid : old.told.jobId = row.told.jobId := by rw [htold]
  have hev : old.told.event = row.told.event := by rw [htold]
  refine ⟨limit, now, returned, mem_append_left _ ?_, ?_⟩
  · rw [← show old.jobId = row.jobId from hid]
    exact hcall
  · rw [← show old.event = row.event from hev]
    exact hreturned

theorem polled_of_run (h : Exec (Step X uuid) start events store) (hstart : Initial start) :
    ∀ row ∈ store.outbox.rows, 0 < row.deliveryAttempts → PolledBy events row := by
  refine h.history (P := fun events store => ∀ row ∈ store.outbox.rows,
    0 < row.deliveryAttempts → PolledBy events row) ?_ ?_
  · rw [hstart.outbox]
    exact fun row hrow => absurd hrow not_mem_nil
  · intro events store event store' _ ih hstep row hrow hatts
    cases event with
    | write provider observations =>
      obtain rfl := hstep
      exact (ih row hrow hatts).of_told rfl
    | call operation outcome =>
      rcases (run_effect hstep).attempted hrow hatts with ⟨old, hold, htold, hold'⟩ | hpolls
      · exact (ih old hold hold').of_told htold
      · obtain ⟨limit, now, returned, rfl, rfl, hreturned⟩ := hpolls
        exact ⟨limit, now, returned, mem_concat_self, hreturned⟩

/-! ### Writes of the graph -/

/-- The state after an event. -/
def Event.after (X : Externals) (uuid : String) (store : Store) : Event → Store
  | .call operation _ => (exec (operation.run X uuid) store).2
  | .write provider observations => { store with provider, observations }

/-- The job that an event changes the graph for. -/
def Event.graphWrite (X : Externals) (uuid : String) (store : Store) : Event → List (Option String)
  | .call operation outcome =>
    let store' := (Event.call operation outcome).after X uuid store
    if store'.provider = store.provider ∧ store'.observations = store.observations then []
    else [operation.subject]
  | .write _ _ => []

/-- The jobs that the calls of a run change the graph for, with repetitions. -/
def graphWrites (X : Externals) (uuid : String) : Store → List Event → List (Option String)
  | _, [] => []
  | store, event :: events =>
    event.graphWrite X uuid store ++ graphWrites X uuid (event.after X uuid store) events

theorem Step.after (h : Step X uuid store event store') :
    event.after X uuid store = store' := by
  cases event with
  | call operation outcome =>
    show (exec (operation.run X uuid) store).2 = store'
    rw [show exec (operation.run X uuid) store = (outcome, store') from h]
  | write provider observations => exact h.symm

theorem graphWrites_snoc (h : Exec (Step X uuid) start events store) :
    graphWrites X uuid start (events ++ [event]) =
      graphWrites X uuid start events ++ event.graphWrite X uuid store := by
  induction h with
  | nil => rw [nil_append, graphWrites, graphWrites, graphWrites, append_nil,
      nil_append]
  | cons hstep _ ih =>
    rw [cons_append, graphWrites, graphWrites, Step.after hstep, ih, append_assoc]

theorem Step.graphWrite (h : Step X uuid store event store') :
    event.graphWrite X uuid store = [] ∨ ∃ operation outcome row, event = .call operation outcome ∧
        Completes X uuid store store' operation row ∧
        event.graphWrite X uuid store = [some row.id] := by
  cases event with
  | write provider observations => exact .inl rfl
  | call operation outcome =>
    have hafter := Step.after h
    rcases (run_effect h).graph with hsame | ⟨row, hcompls⟩
    · left
      rw [Event.graphWrite, hafter]
      exact if_pos hsame
    · obtain ⟨now, rfl, _⟩ := hcompls.call
      by_cases hsame : store'.provider = store.provider ∧ store'.observations = store.observations
      · left
        rw [Event.graphWrite, hafter]
        exact if_pos hsame
      · refine .inr ⟨_, _, row, rfl, hcompls, ?_⟩
        rw [Event.graphWrite, hafter]
        exact if_neg hsame

/-- The jobs that changed the graph are completed. -/
theorem written_of_run (h : Exec (Step X uuid) start events store) :
    (graphWrites X uuid start events).Nodup ∧ ∀ subject ∈ graphWrites X uuid start events,
        ∃ row ∈ store.jobs.rows, row.state = .completed ∧ subject = some row.id := by
  refine h.history (P := fun events store => (graphWrites X uuid start events).Nodup ∧
    ∀ subject ∈ graphWrites X uuid start events,
      ∃ row ∈ store.jobs.rows, row.state = .completed ∧ subject = some row.id) ?_ ?_
  · exact ⟨nodup_nil, fun subject hsubj => absurd hsubj not_mem_nil⟩
  · intro events store event store' hrun ih hstep
    have hkept : ∀ row ∈ store.jobs.rows, row.state = .completed → row ∈ store'.jobs.rows := by
      intro row hrow hst
      cases event with
      | write provider observations =>
        obtain rfl := hstep
        exact hrow
      | call operation outcome => exact ((run_effect hstep).finished hrow (by rw [hst]; rfl)).mem
    rw [graphWrites_snoc hrun]
    rcases Step.graphWrite hstep with hnone | ⟨_, _, row, _, hcompls, hwrite⟩
    · rw [hnone, append_nil]
      refine ⟨ih.1, fun subject hsubj => ?_⟩
      obtain ⟨row, hrow, hst, hid⟩ := ih.2 subject hsubj
      exact ⟨row, hkept row hrow hst, hst, hid⟩
    · rw [hwrite]
      constructor
      · -- the job was committing, and those that wrote before are completed
        refine List.Nodup.append ih.1 (nodup_singleton _) ?_
        rw [disjoint_singleton]
        intro hmem
        obtain ⟨done, hdone, hst, hid⟩ := ih.2 _ hmem
        obtain rfl := Table.eq_of_key hcompls.found hdone (Option.some.inj hid)
        rw [hcompls.committing] at hst
        cases hst
      · intro subject hsubj
        rw [mem_append, mem_singleton] at hsubj
        rcases hsubj with hsubj | rfl
        · obtain ⟨row, hrow, hst, hid⟩ := ih.2 subject hsubj
          exact ⟨row, hkept row hrow hst, hst, hid⟩
        · obtain ⟨now, _, hdone⟩ := hcompls.call
          exact ⟨_, hdone, rfl, rfl⟩

/-! ### What holds in every run -/

/-- A connection and its graph are the same in two states, as far as the digest of the graphs
    tells these two apart. -/
structure SameConnection (X : Externals) (uuid : String) (connection : ProviderConnection)
    (before after : Store) : Prop where
  loadedBefore : loadProviderConnection uuid connection.id before = .ok connection
  loadedAfter : loadProviderConnection uuid connection.id after = .ok connection
  graph : (X.graphSha256 (graphOf after connection) = X.graphSha256 (graphOf before connection) →
      graphOf after connection = graphOf before connection) →
    graphOf after connection = graphOf before connection

/-- What a call does to the jobs, their events and the graph. -/
structure Kept (X : Externals) (uuid : String) (start : Store) (events : List Event)
    (store : Store) (operation : Operation) (outcome : CoreResult Response)
    (store' : Store) : Prop where
  failed : ∀ e, outcome = .error e → store' = store
  finished : ∀ row ∈ store.jobs.rows, row.state.isFinished = true → Stays store store' row
  others : ∀ id, operation.subject = some id → ∀ row ∈ store.jobs.rows, row.id ≠ id →
    Untouched store store' row
  undelivered : ∀ row ∈ store.outbox.rows, row.deliveredAt = none →
    (∃ kept ∈ store'.outbox.rows, kept.told = row.told ∧ kept.deliveredAt = none) ∨
      0 < row.deliveryAttempts ∧ ∃ now, operation = .ack row.jobId row.sequence now ∧
        outcome = .ok (.acknowledged true)
  graph : SameGraph store store' ∨ ∃ row created, Completes X uuid store store' operation row ∧
    CreatedIn X uuid start events row created ∧
    SameConnection X uuid row.expectedConnection created store

/-- What holds after a run, and of the next call. -/
structure Sound (X : Externals) (uuid : String) (start : Store) (events : List Event)
    (store : Store) : Prop where
  active : ∀ a ∈ store.jobs.rows, ∀ b ∈ store.jobs.rows, isActive a.state = true →
    isActive b.state = true → a.connectionId = b.connectionId → a = b
  numbered : ∀ row ∈ store.jobs.rows, (eventsOf store row.id).map OutboxRow.place =
    (List.range' 1 row.revision).map fun n => (n, n)
  written : (graphWrites X uuid start events).Nodup
  polled : ∀ row ∈ store.outbox.rows, row.deliveredAt.isSome → PolledBy events row
  pollable : ∀ row ∈ store.jobs.rows, ∀ limit now, limit ≠ 0 ∧ limit ≤ maxOutboxPoll →
    exec ((Operation.poll row.id limit now).run X uuid) store =
      (.ok (.events ((selected row.id limit now store).map OutboxRow.event)),
        store.polled row.id limit now)
  next : ∀ operation outcome store', operation.ReadsBack X uuid →
    Step X uuid store (.call operation outcome) store' →
    Kept X uuid start events store operation outcome store'

theorem Coherent.active_unique (h : Coherent X store) (ha : a ∈ store.jobs.rows)
    (hb : b ∈ store.jobs.rows) (hactv : isActive a.state = true)
    (hactv' : isActive b.state = true) (hid : a.connectionId = b.connectionId) : a = b :=
  inj_on_of_nodup_map h.active (mem_filter.mpr ⟨ha, hactv⟩) (mem_filter.mpr ⟨hb, hactv'⟩) hid

theorem CreatedIn.sameConnection {row : JobRow}
    (h : CreatedIn X uuid start events row created) (hcommits : Commits X uuid store row) :
    SameConnection X uuid row.expectedConnection created store where
  loadedBefore := h.connectionId ▸ h.connection
  loadedAfter := h.connectionId ▸ hcommits.connection
  graph hdigest := hdigest (hcommits.graph.trans h.graph.symm)

/-- In a run in which the stored reviews read back, a connection has one active job, events are
    numbered with the revisions of their job and are delivered after a poll, and each job changes
    the graph once at most, when it completes. -/
theorem sound_of_run {events : List Event} (h : Exec (Step X uuid) start events store)
    (hstart : Initial start) (hreads : ∀ event ∈ events, event.ReadsBack X uuid) :
    Sound X uuid start events store := by
  have hcoh := coherent_of_run h hstart
  have hreadable := readable_of_run h hstart hreads
  constructor
  case active =>
    intro a ha b hb hactv hactv' hid
    exact hcoh.active_unique ha hb hactv hactv' hid
  case numbered => exact fun row hrow => (hcoh.numbered row hrow).places
  case written => exact (written_of_run h).1
  case polled =>
    intro row hrow hdeliv
    exact polled_of_run h hstart row hrow ((hcoh.written row hrow).polled hdeliv)
  case pollable =>
    intro row hrow limit now hlim
    exact run_poll hcoh hrow (hreadable row hrow) hlim now
  case next =>
    intro operation outcome store' hreads' hstep
    have heff := run_effect hstep
    constructor
    case failed => exact fun e he => heff.eq_of_error he (heff.readable hreads' hreadable)
    case finished => exact fun row hrow hfin => heff.finished hrow hfin
    case others => exact fun id hsubj row hrow hne => heff.others hsubj hrow hne
    case undelivered => exact fun row hrow hnone => heff.undelivered hrow hnone
    case graph =>
      rcases heff.graph with hsame | ⟨row, hcompls⟩
      · exact .inl hsame
      · obtain ⟨created, hcreated⟩ := created_of_run h hstart row hcompls.found
        exact .inr ⟨row, created, hcompls, hcreated, hcreated.sameConnection hcompls.commits⟩

/-! ### A review that does not read back -/

/-- A parameter of a preset is a number that JSON writes as `null`. -/
def nullParameter : String :=
  "[\x7b\"parameter_id\":\"temperature\",\"state\":\x7b\"state\":\"explicit\"," ++
    "\"value\":\x7b\"type\":\"number\",\"value\":null\x7d\x7d\x7d]"

/-- Everything is accepted; of the JSON of a review only the values of its presets are kept, and
    one without a number where a number belongs is not read. -/
def sampleExternals : Externals where
  toExternals := ProviderStore.acceptingExternals
  reviewJson review := .ok (String.join (review.diff.initialPresets.map (·.valuesJson)))
  parseReview json := .error ("invalid type: null, expected f64 in " ++ json)
  reviewSha256 _ := .ok "c64e7bd8e4aa5bf7ae3c6c5b2d7b1b8e5a0e3ec1c7f0d40a7b6f7c8f1f8e9d0a"
  graphSha256 _ := "1f9d3a7b5c0e48d6a2b4f7c9e1d3a5b7c9d1e3f5a7b9c1d3e5f7a9b1c3d5e7f9"
  connectionJsonBytes _ := 400
  failureJsonBytes _ := 80
  eventJsonBytes _ := 300
  validateProviderApiRouteMetadata _ := .ok ()
  validateProviderApiSnapshotObservation _ _ := .ok ()
  validateCapabilityObservation _ _ := .ok ()

def sampleConnection : ProviderConnection where
  id := "c"
  templateId := "t"
  templateVersion := 1
  displayName := "C"
  apiOrigin := ⟨"https://a.b"⟩
  config := ⟨none, .public, none, []⟩
  credentialRef := none
  credentialScope := none
  timeoutSeconds := 60
  status := .connected
  createdAt := "2026-01-01T00:00:00+00:00"
  updatedAt := "2026-01-01T00:00:00+00:00"

/-- A storage with one connection. -/
def sampleStore : Store where
  provider := { ProviderStore.Store.empty with
    providerConnections := ⟨[⟨sampleConnection, none⟩], by decide⟩ }
  observations := .empty
  jobs := .empty
  outbox := .empty

def sampleRoute : ProviderStore.ModelRoute where
  id := "r"
  connectionId := "c"
  apiFamily := .openAiResponses
  modelId := "m"
  displayName := none
  routeConfig := .default
  status := .available
  missCount := 0
  rawMetadata := none
  metadataSource := .providerApi
  metadataObservedAt := some "2026-01-01T00:00:02+00:00"
  lastReconciledSyncJobId := some "j"
  metadataSyncJobId := some "j"
  firstSeenAt := "2026-01-01T00:00:02+00:00"
  lastSeenAt := some "2026-01-01T00:00:02+00:00"

/-- A new route, with an initial preset. -/
def sampleReview : ModelSyncReview where
  sha256 := "c64e7bd8e4aa5bf7ae3c6c5b2d7b1b8e5a0e3ec1c7f0d40a7b6f7c8f1f8e9d0a"
  diff :=
    { connectionId := "c"
      expectedConnection := sampleConnection
      expectedModelRoutes := []
      observedAt := "2026-01-01T00:00:02+00:00"
      listedRoutes := [sampleRoute]
      newlySeenModelRouteIds := ["r"]
      missingModelRouteIds := []
      initialPresets := [⟨"g", "r", "Default", nullParameter, "2026-01-01T00:00:02+00:00",
        "2026-01-01T00:00:02+00:00"⟩]
      capabilityObservations := []
      routesRequiringPresetConfiguration := []
      provenance := ⟨"provider_api", .openAiResponses, ⟨"https://a.b"⟩, ⟨"/models"⟩, 1, 100⟩ }

def createsJob : Operation := .create "j" "2026-01-01T00:00:00+00:00" sampleConnection
def startsFetching : Operation := .startFetching "j" 1 "2026-01-01T00:00:01+00:00"
def storesReview : Operation := .storeReview "j" 2 sampleReview "2026-01-01T00:00:02+00:00"

/-- The state after a call of the sample. -/
def Operation.sampleAfter (operation : Operation) (store : Store) : Store :=
  (exec (operation.run sampleExternals "") store).2

def Operation.sampleCall (operation : Operation) (store : Store) : Event :=
  .call operation (exec (operation.run sampleExternals "") store).1

theorem step_sampleCall (operation : Operation) (store : Store) :
    Step sampleExternals "" store (operation.sampleCall store) (operation.sampleAfter store) :=
  rfl

def createdStore : Store := createsJob.sampleAfter sampleStore

def fetchingStore : Store := startsFetching.sampleAfter createdStore

theorem exec_fetchingStore : Exec (Step sampleExternals "") sampleStore
    [createsJob.sampleCall sampleStore, startsFetching.sampleCall createdStore] fetchingStore :=
  .cons (step_sampleCall _ _) (.cons (step_sampleCall _ _) (.nil _))

set_option maxRecDepth 4000 in
/-- A review is stored, although the call that stores it fails. -/
theorem storesReview_fails : ∃ events store e store', Exec (Step sampleExternals "") sampleStore
      events store ∧ Initial sampleStore ∧
    Step sampleExternals "" store (.call storesReview (.error e)) store' ∧ store' ≠ store := by
  have hfails : (exec (storesReview.run sampleExternals "") fetchingStore).1.toBool = false := by
    decide
  have hstates : (storesReview.sampleAfter fetchingStore).jobs.rows.map JobRow.state ≠
      fetchingStore.jobs.rows.map JobRow.state := by
    decide
  have hstep := step_sampleCall storesReview fetchingStore
  rw [Operation.sampleCall] at hstep
  cases houtcome : (exec (storesReview.run sampleExternals "") fetchingStore).1 with
  | ok response =>
    rw [houtcome] at hfails
    cases hfails
  | error e =>
    rw [houtcome] at hstep
    exact ⟨_, _, e, _, exec_fetchingStore, ⟨rfl, rfl⟩, hstep, fun hsame => hstates (by rw [hsame])⟩

/-- The run up to the review meets the condition. -/
theorem sound_fetchingStore : Sound sampleExternals "" sampleStore
    [createsJob.sampleCall sampleStore, startsFetching.sampleCall createdStore] fetchingStore :=
  sound_of_run exec_fetchingStore ⟨rfl, rfl⟩
    (forall_mem_cons.mpr ⟨trivial, forall_mem_singleton.mpr trivial⟩)

/-! ### Interrupted jobs -/

/-- What a call that ends an interrupted job makes of its row. -/
def Operation.EndsInterrupted (operation : Operation) (row new : JobRow) : Prop :=
  (∃ now, operation = .cancel row.id now ∧
    new = (row.moveTo .cancelled (row.revision + 1) none now).countEvent) ∨
  ∃ failure now, operation = .fail row.id row.revision failure now ∧
    new = (row.moveTo .failed (row.revision + 1) (some failure) now).countEvent

theorem Operation.EndsInterrupted.finished {row : JobRow}
    (h : operation.EndsInterrupted row new) : new.state.isFinished = true := by
  rcases h with ⟨now, _, rfl⟩ | ⟨failure, now, _, rfl⟩ <;> rfl

theorem Move.of_interrupted (h : Move old new) (hst : old.state = .interrupted) :
    new.state = .failed ∨ new.state = .cancelled := by
  cases h with
  | fail => exact .inl rfl
  | cancel => exact .inr rfl
  | interrupt now h =>
    rw [hst] at h
    cases h
  | fetch now h => exact absurd (hst.symm.trans h) (by decide)
  | review json sha256 now h => exact absurd (hst.symm.trans h) (by decide)
  | approve sha256 now h => exact absurd (hst.symm.trans h) (by decide)
  | complete now h => exact absurd (hst.symm.trans h) (by decide)

theorem Operation.Requests.endsInterrupted {row : JobRow}
    (h : operation.Requests X uuid row new) (hmove : Move row new)
    (hst : row.state = .interrupted) : operation.EndsInterrupted row new := by
  have hends := hmove.of_interrupted hst
  cases operation with
  | fail id revision failure now =>
    obtain ⟨rfl, rfl, _, rfl⟩ := h
    exact .inr ⟨failure, now, rfl, rfl⟩
  | cancel id now =>
    obtain ⟨rfl, rfl⟩ := h
    exact .inl ⟨now, rfl, rfl⟩
  | startFetching id revision now =>
    obtain ⟨_, _, rfl⟩ := h
    exact hends.elim (fun h => by cases h) fun h => by cases h
  | storeReview id revision review now =>
    obtain ⟨_, _, _, _, rfl⟩ := h
    exact hends.elim (fun h => by cases h) fun h => by cases h
  | markCommitting id revision sha256 now =>
    obtain ⟨_, _, rfl⟩ := h
    exact hends.elim (fun h => by cases h) fun h => by cases h
  | create | commit | poll | ack | recover => exact h.elim

/-- A call ended an interrupted job: its row is the finished row of the next revision, with the
    review it had, and one event was appended. -/
structure EndsInterrupted (X : Externals) (uuid : String) (store : Store) (row : JobRow)
    (event : Event) (store' : Store) (new : JobRow) : Prop where
  call : ∃ operation outcome, event = .call operation outcome ∧ operation.EndsInterrupted row new
  mem : new ∈ store'.jobs.rows
  told : ∃ announced, Announces X row.id row.nextEventSequence new.revision new.state announced ∧
    tellings store' row.id = tellings store row.id ++ [announced.outboxRow]

theorem Step.interrupted {row : JobRow} (h : Step X uuid store event store')
    (hrow : row ∈ store.jobs.rows) (hst : row.state = .interrupted) :
    Stays store store' row ∨ ∃ new, EndsInterrupted X uuid store row event store' new := by
  cases event with
  | write provider observations =>
    obtain rfl := h
    exact .inl ⟨hrow, rfl⟩
  | call operation outcome =>
    rcases (run_effect h).row hrow with hstays | ⟨new, hrequests, hmoves⟩ | ⟨now, _, hmoves⟩ |
      ⟨now, _, hinterruptible⟩
    · exact .inl hstays
    · exact .inr ⟨new, ⟨operation, outcome, rfl, hrequests.endsInterrupted hmoves.move hst⟩,
        hmoves.new_mem, hmoves.tellings⟩
    · exact absurd (hst.symm.trans hmoves.committing) (by decide)
    · rw [hst] at hinterruptible
      cases hinterruptible

theorem stays_of_run {row : JobRow}
    (h : Exec (Step X uuid) store events store') (hrow : row ∈ store.jobs.rows)
    (hfin : row.state.isFinished = true) : Stays store store' row := by
  induction h with
  | nil => exact ⟨hrow, rfl⟩
  | @cons before after _ event _ hstep _ ih =>
    have hstays : Stays before after row := by
      cases event with
      | write provider observations =>
        obtain rfl := hstep
        exact ⟨hrow, rfl⟩
      | call operation outcome => exact (run_effect hstep).finished hrow hfin
    exact hstays.trans (ih hstays.mem)

/-- A job stays as it is in a run, or until one call ends it, and then as it ended. -/
def StaysUntilEnded (X : Externals) (uuid : String) (store : Store) (row : JobRow)
    (events : List Event) (store' : Store) : Prop :=
  Stays store store' row ∨
    ∃ before event after stored ended new, events = before ++ event :: after ∧
      Exec (Step X uuid) store before stored ∧ Stays store stored row ∧
      EndsInterrupted X uuid stored row event ended new ∧
      Exec (Step X uuid) ended after store' ∧ Stays ended store' new

/-- After a job was interrupted, only a cancellation, or a failure of its revision, changes it,
    once. -/
theorem interrupted_of_run {events : List Event} {row : JobRow}
    (h : Exec (Step X uuid) store events store') (hrow : row ∈ store.jobs.rows)
    (hst : row.state = .interrupted) : StaysUntilEnded X uuid store row events store' := by
  induction h with
  | nil => exact .inl ⟨hrow, rfl⟩
  | @cons store middle _ event events hstep hrest ih =>
    rcases Step.interrupted hstep hrow hst with hstays | ⟨new, hends⟩
    · rcases ih hstays.mem with hrest | ⟨before, call, after, stored, ended, new, rfl, hbef, h⟩
      · exact .inl (hstays.trans hrest)
      · exact .inr ⟨event :: before, call, after, stored, ended, new, rfl, .cons hstep hbef,
          hstays.trans h.1, h.2⟩
    · obtain ⟨_, _, _, hfin⟩ := hends.call
      exact .inr ⟨[], event, events, store, middle, new, rfl, .nil _, ⟨hrow, rfl⟩, hends, hrest,
        stays_of_run hrest hends.mem hfin.finished⟩

def recovers : Operation := .recover fun _ => "2026-01-01T00:00:02+00:00"

def interruptedStore : Store := recovers.sampleAfter createdStore

def cancelsJob : Operation := .cancel "j" "2026-01-01T00:00:03+00:00"

set_option maxRecDepth 4000 in
theorem interruptedStore_interrupted :
    ∃ row ∈ interruptedStore.jobs.rows, row.state = .interrupted := by
  decide

theorem exec_cancelsJob : Exec (Step sampleExternals "") interruptedStore
    [cancelsJob.sampleCall interruptedStore] (cancelsJob.sampleAfter interruptedStore) :=
  .cons (step_sampleCall _ _) (.nil _)

set_option maxRecDepth 4000 in
/-- A job is cancelled after recovery interrupted it. -/
theorem cancelsJob_ends : ∃ events later row store', Exec (Step sampleExternals "") sampleStore
      events interruptedStore ∧ Initial sampleStore ∧ row ∈ interruptedStore.jobs.rows ∧
    row.state = .interrupted ∧ Exec (Step sampleExternals "") interruptedStore later store' ∧
    ¬ Stays interruptedStore store' row := by
  obtain ⟨row, hrow, hst⟩ := interruptedStore_interrupted
  have hrun := (Exec.single_iff.mpr (step_sampleCall createsJob sampleStore)).snoc
    (step_sampleCall recovers createdStore)
  refine ⟨_, _, row, _, hrun, ⟨rfl, rfl⟩, hrow, hst, exec_cancelsJob, fun hstays => ?_⟩
  have hcanc : ∀ row ∈ (cancelsJob.sampleAfter interruptedStore).jobs.rows,
      row.state = .cancelled := by
    decide
  exact absurd (hst.symm.trans (hcanc row hstays.mem)) (by decide)

theorem interrupted_of_cancelsJob : ∃ row ∈ interruptedStore.jobs.rows,
    StaysUntilEnded sampleExternals "" interruptedStore row
      [cancelsJob.sampleCall interruptedStore] (cancelsJob.sampleAfter interruptedStore) := by
  obtain ⟨row, hrow, hst⟩ := interruptedStore_interrupted
  exact ⟨row, hrow, interrupted_of_run exec_cancelsJob hrow hst⟩

end LorePia.ModelSync
