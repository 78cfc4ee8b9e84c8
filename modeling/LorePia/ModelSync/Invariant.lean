import LorePia.ModelSync.Effects

namespace LorePia.ModelSync

open List ModelSyncEvent OutboxRow

open Lib Lib.Stateful
open ProviderStore (ModelSyncState ProviderConnection)

/-!
# Model synchronization — the invariant of the jobs

* `Coherent` — one active job for each connection, and one event for each revision of a job, at
    the place of that revision; every operation keeps it (`Effect.coherent`);
* `Readable` — the storage can read a row that it wrote; every operation keeps it, if the reviews
    that it stores read back (`Effect.readable`);
* `Effect.eq_of_error` — of readable rows, a call that fails leaves the storage as it was;
* `run_poll` — a poll of a coherent storage returns the first undelivered events of the job.
-/

variable {new : JobRow} {f : OutboxRow → OutboxRow} {outcome : CoreResult Response}
  {operation : Operation} {row : JobRow} {id : String} {event : ModelSyncEvent} {now : String}
  {sequence : Nat}

variable {X : Externals} {uuid : String} {store store' : Store}

/-- The events of a job, in the order in which they were appended. -/
def eventsOf (store : Store) (id : String) : List OutboxRow :=
  store.outbox.rows.filter fun row => row.jobId == id

/-- Where an event stands among the events of its job, and which revision it tells of. -/
def OutboxRow.place (row : OutboxRow) : Nat × Nat := (row.sequence, row.jobRevision)

/-- The events of a job tell of its revisions, one after another. -/
structure Numbered (store : Store) (row : JobRow) : Prop where
  next : row.nextEventSequence = row.revision + 1
  places : (eventsOf store row.id).map OutboxRow.place =
    (List.range' 1 row.revision).map fun n => (n, n)

/-- What is known of a row of the outbox. -/
structure OutboxRow.Written (X : Externals) (row : OutboxRow) : Prop where
  jobId : row.event.jobId = row.jobId
  sequence : row.event.sequence = row.sequence
  size : X.eventJsonBytes row.event ≤ maxEventBytes
  polled : row.deliveredAt.isSome → 0 < row.deliveryAttempts

/-- A job that is or was committed has its review approved. -/
def JobRow.Approved (row : JobRow) : Prop :=
  row.state = .committing ∨ row.state = .completed →
    row.approvedReviewSha256 = row.reviewSha256 ∧ row.reviewSha256.isSome

structure Coherent (X : Externals) (store : Store) : Prop where
  active : (activeConnections store.jobs.rows).Nodup
  numbered : ∀ row ∈ store.jobs.rows, Numbered store row
  owned : ∀ event ∈ store.outbox.rows, ∃ row ∈ store.jobs.rows, row.id = event.jobId
  written : ∀ event ∈ store.outbox.rows, event.Written X
  approved : ∀ row ∈ store.jobs.rows, row.Approved

/-! ### What keeps it -/

theorem Coherent.of_sameJobs (h : Coherent X store) (hsame : SameJobs store store') :
    Coherent X store' where
  active := hsame.jobs ▸ h.active
  numbered row hrow := by
    have hnum := h.numbered row (hsame.jobs ▸ hrow)
    refine ⟨hnum.next, ?_⟩
    rw [eventsOf, hsame.outbox]
    exact hnum.places
  owned event hev := by
    rw [hsame.jobs]
    exact h.owned event (hsame.outbox ▸ hev)
  written event hev := h.written event (hsame.outbox ▸ hev)
  approved row hrow := h.approved row (hsame.jobs ▸ hrow)

theorem eventsOf_append (h : store'.outbox.rows = store.outbox.rows ++ [event.outboxRow]) :
    eventsOf store' id =
      if event.jobId = id then eventsOf store id ++ [event.outboxRow] else eventsOf store id := by
  rw [eventsOf, h, filter_append]
  show eventsOf store id ++ _ = _
  by_cases hid : event.jobId = id
  · simp [hid, ModelSyncEvent.outboxRow]
  · simp [hid, ModelSyncEvent.outboxRow]

theorem Announces.written {revision : Nat} {state : ModelSyncState} (h : Announces X id sequence revision state event) :
    event.outboxRow.Written X where
  jobId := rfl
  sequence := rfl
  size := h.size
  polled hdeliv := by cases hdeliv

theorem Creates.coherent
    (h : Creates X uuid store store' id now connection) (hc : Coherent X store) :
    Coherent X store' := by
  obtain ⟨event, hev, hrows⟩ := h.event
  have hold : ∀ row ∈ store.jobs.rows, Numbered store' row := by
    intro row hrow
    refine ⟨(hc.numbered row hrow).next, ?_⟩
    rw [eventsOf_append hrows, if_neg]
    · exact (hc.numbered row hrow).places
    · rw [hev.jobId]
      exact fun heq => h.fresh row hrow heq.symm
  -- the new job has no other events
  have hnone : eventsOf store id = [] := by
    refine filter_eq_nil_iff.mpr fun row hrow hid => ?_
    obtain ⟨job, hjob, heq⟩ := hc.owned row hrow
    exact h.fresh job hjob (heq.trans (beq_iff_eq.mp hid))
  refine ⟨h.active, ?_, ?_, ?_, ?_⟩
  · intro row hrow
    rw [h.jobs, mem_append, mem_singleton] at hrow
    rcases hrow with hrow | rfl
    · exact hold row hrow
    · refine ⟨rfl, ?_⟩
      rw [eventsOf_append hrows, if_pos hev.jobId, hnone]
      simp [place, outboxRow, hev.sequence, hev.jobRevision]
  · intro row hrow
    rw [hrows, mem_append, mem_singleton] at hrow
    rw [h.jobs]
    rcases hrow with hrow | rfl
    · obtain ⟨job, hjob, heq⟩ := hc.owned row hrow
      exact ⟨job, mem_append_left _ hjob, heq⟩
    · exact ⟨_, mem_concat_self, hev.jobId.symm⟩
  · rw [hrows]
    exact forall_mem_concat.mpr ⟨hc.written, hev.written⟩
  · rw [h.jobs]
    refine forall_mem_concat.mpr ⟨hc.approved, ?_⟩
    rintro (hst | hst) <;> cases hst

theorem Move.nextEventSequence (h : Move old new) :
    new.nextEventSequence = old.nextEventSequence + 1 := by
  cases h <;> rfl

theorem Move.approved (h : Move old new) (hold : old.Approved) :
    new.Approved := by
  cases h with
  | approve sha256 now hst hsha256 =>
    intro _
    show some sha256 = old.reviewSha256 ∧ old.reviewSha256.isSome
    rw [hsha256]
    exact ⟨rfl, rfl⟩
  | complete now hst => exact fun _ => hold (.inl hst)
  | fetch | review | fail | cancel | interrupt => rintro (hst | hst) <;> cases hst

/-- A row after a move: the new row, or another job's. -/
theorem Moves.mem_jobs (h : Moves X store store' old new)
    (hrow : row ∈ store'.jobs.rows) : row = new ∨ row ∈ store.jobs.rows ∧ row.id ≠ old.id := by
  rw [h.jobs, Table.mem_update] at hrow
  obtain ⟨x, hx, hrow⟩ := hrow
  by_cases hid : x.id = new.id
  · rw [if_pos hid] at hrow
    exact .inl hrow.symm
  · rw [if_neg hid] at hrow
    subst hrow
    exact .inr ⟨hx, h.move.id ▸ hid⟩

theorem Moves.new_mem (h : Moves X store store' old new) :
    new ∈ store'.jobs.rows := by
  rw [h.jobs]
  exact Table.mem_update.mpr ⟨old, h.found, if_pos h.move.id.symm⟩

theorem Moves.mem_of_ne (h : Moves X store store' old new)
    (hrow : row ∈ store.jobs.rows) (hne : row.id ≠ old.id) : row ∈ store'.jobs.rows := by
  rw [h.jobs]
  exact Table.mem_update.mpr ⟨row, hrow, if_neg (h.move.id ▸ hne)⟩

theorem Moves.coherent (h : Moves X store store' old new)
    (hc : Coherent X store) : Coherent X store' := by
  obtain ⟨event, hev, hrows⟩ := h.event
  have hnum := hc.numbered old h.found
  refine ⟨h.active, ?_, ?_, ?_, ?_⟩
  · intro row hrow
    rcases h.mem_jobs hrow with rfl | ⟨hrow, hne⟩
    · refine ⟨?_, ?_⟩
      · rw [h.move.nextEventSequence, h.move.revision, hnum.next]
      · rw [eventsOf_append hrows, if_pos (hev.jobId.trans h.move.id.symm), h.move.id,
          map_append, hnum.places, h.move.revision, range'_1_concat, map_append]
        simp [place, outboxRow, hev.sequence, hev.jobRevision,
          hnum.next, h.move.revision, Nat.add_comm]
    · refine ⟨(hc.numbered row hrow).next, ?_⟩
      rw [eventsOf_append hrows, if_neg (hev.jobId ▸ hne.symm)]
      exact (hc.numbered row hrow).places
  · intro row hrow
    rw [hrows, mem_append, mem_singleton] at hrow
    have hkept : ∀ id, (∃ job ∈ store.jobs.rows, job.id = id) →
        ∃ job ∈ store'.jobs.rows, job.id = id := by
      rintro id ⟨job, hjob, rfl⟩
      by_cases hid : job.id = old.id
      · exact ⟨new, h.new_mem, h.move.id.trans hid.symm⟩
      · exact ⟨job, h.mem_of_ne hjob hid, rfl⟩
    rcases hrow with hrow | rfl
    · exact hkept _ (hc.owned row hrow)
    · exact hkept _ ⟨old, h.found, hev.jobId.symm⟩
  · rw [hrows]
    exact forall_mem_concat.mpr ⟨hc.written, hev.written⟩
  · intro row hrow
    rcases h.mem_jobs hrow with rfl | ⟨hrow, _⟩
    · exact h.move.approved (hc.approved old h.found)
    · exact hc.approved row hrow

/-! ### Delivery -/

/-- A row of the outbox apart from its delivery. -/
def OutboxRow.told (row : OutboxRow) : OutboxRow :=
  { row with deliveryAttempts := 0, deliveredAt := none }

/-- Rows of the outbox were marked as polled or delivered. -/
structure Marks (X : Externals) (store store' : Store) (f : OutboxRow → OutboxRow) : Prop where
  rows : store'.outbox.rows = store.outbox.rows.map f
  jobs : store'.jobs = store.jobs
  graph : SameGraph store store'
  told : ∀ row, (f row).told = row.told
  polled : ∀ row, row.Written X → (f row).Written X

section

variable (h : Marks X store store' f)
include h

theorem Marks.jobId (row : OutboxRow) :
    (f row).jobId = row.jobId := by
  show (f row).told.jobId = row.told.jobId
  rw [h.told]

theorem Marks.place (row : OutboxRow) :
    (f row).place = row.place := by
  show (f row).told.place = row.told.place
  rw [h.told]

theorem Marks.eventsOf (id : String) :
    eventsOf store' id = (eventsOf store id).map f := by
  have hsame : (fun row : OutboxRow => row.jobId == id) ∘ f = fun row => row.jobId == id := by
    funext row
    show ((f row).jobId == id) = _
    rw [h.jobId]
  rw [ModelSync.eventsOf, h.rows, filter_map, hsame]
  rfl

theorem Marks.coherent (hc : Coherent X store) : Coherent X store' where
  active := h.jobs ▸ hc.active
  numbered row hrow := by
    have hnum := hc.numbered row (h.jobs ▸ hrow)
    refine ⟨hnum.next, ?_⟩
    rw [h.eventsOf, map_map, ← hnum.places]
    exact map_congr_left fun x _ => h.place x
  owned event hev := by
    rw [h.rows, mem_map] at hev
    obtain ⟨x, hx, rfl⟩ := hev
    rw [h.jobs, h.jobId]
    exact hc.owned x hx
  written event hev := by
    rw [h.rows, mem_map] at hev
    obtain ⟨x, hx, rfl⟩ := hev
    exact h.polled x (hc.written x hx)
  approved row hrow := hc.approved row (h.jobs ▸ hrow)

end

/-- What a poll makes of a row. -/
def OutboxRow.afterPoll (id : String) (sequences : List Nat) (row : OutboxRow) : OutboxRow :=
  if isPolled id sequences row then row.attempt else row

theorem polled_marks (store : Store) (id : String) (limit : Nat) (now : String) :
    Marks X store (store.polled id limit now)
      (OutboxRow.afterPoll id ((selected id limit now store).map OutboxRow.sequence)) := by
  refine ⟨rfl, rfl, ⟨rfl, rfl⟩, ?_, ?_⟩
  all_goals
    intro row
    rw [afterPoll]
    split
  · rfl
  · rfl
  · exact fun h => ⟨h.jobId, h.sequence, h.size, fun _ => Nat.succ_pos _⟩
  · exact fun h => h

/-- What an acknowledgement makes of a row. -/
def OutboxRow.afterAck (id : String) (sequence : Nat) (now : String) (row : OutboxRow) :
    OutboxRow :=
  if isPending id sequence row then row.deliver now else row

theorem isPending_iff {row : OutboxRow} :
    isPending id sequence row = true ↔ row.jobId = id ∧ row.sequence = sequence ∧
      row.deliveredAt = none ∧ 0 < row.deliveryAttempts := by
  simp [isPending, isUndelivered, and_assoc]

theorem acknowledged_marks (store : Store) (id : String) (sequence : Nat) (now : String) :
    Marks X store (store.acknowledged id sequence now) (OutboxRow.afterAck id sequence now) := by
  refine ⟨rfl, rfl, ⟨rfl, rfl⟩, ?_, ?_⟩
  all_goals
    intro row
    rw [afterAck]
    split
  · rfl
  · rfl
  case' isTrue hpend =>
    exact fun h => ⟨h.jobId, h.sequence, h.size, fun _ => (isPending_iff.mp hpend).2.2.2⟩
  · exact fun h => h

/-- Every operation keeps the invariant. -/
theorem Effect.coherent (h : Effect X uuid store operation outcome store') (hc : Coherent X store) :
    Coherent X store' := by
  cases h with
  | unchanged => exact hc
  | creates h => exact h.coherent hc
  | moves _ h _ => exact h.coherent hc
  | commits _ _ h => exact h.coherent hc
  | recovers now h =>
    induction h with
    | refl => exact hc
    | tail _ hstep ih =>
      obtain ⟨_, _, _, hmoves, _⟩ := hstep
      exact hmoves.coherent ih
  | polls id limit now => exact (polled_marks store id limit now).coherent hc
  | acknowledges id sequence now => exact (acknowledged_marks store id sequence now).coherent hc

/-! ### Reading rows again -/

/-- The storage can read a row. -/
structure Readable (X : Externals) (uuid : String) (row : JobRow) : Prop where
  size : X.connectionJsonBytes row.expectedConnection ≤ maxConnectionSnapshotBytes
  review : ∃ review, decodeReview X uuid row.id row.reviewJson row.reviewSha256 = .ok review
  failure : decodeFailure X uuid row.failure = .ok ()

theorem Readable.decode (h : Readable X uuid row) :
    ∃ stored, decodeModelSyncJob X uuid row = .ok stored := by
  obtain ⟨review, hreview⟩ := h.review
  exact ⟨_, guarded h.size (then_ok hreview (then_ok h.failure rfl))⟩

theorem load_isOk (hrow : row ∈ store.jobs.rows) (h : Readable X uuid row) :
    ∃ stored, loadModelSyncJob X uuid row.id store = .ok stored := by
  obtain ⟨stored, hstored⟩ := h.decode
  have hfind : store.jobs.find? row.id = some row := Table.find?_eq_some.mpr ⟨hrow, rfl⟩
  exact ⟨stored, then_ok (okOr_ok.mpr hfind) hstored⟩

/-- The JSON of a review that can be stored reads back as a review that passes the checks of a
    stored one, under the same digest. -/
def ReadsBack (X : Externals) (uuid id : String) (review : ModelSyncReview) : Prop :=
  ∀ json, Reviewed X uuid id json review.sha256 review → ∃ read, X.parseReview json = .ok read ∧
    read.verify X = .ok () ∧ read.sha256 = review.sha256 ∧
      validateModelSyncReview X uuid id read = .ok ()

def Operation.ReadsBack (X : Externals) (uuid : String) : Operation → Prop
  | .storeReview id _ review _ => ModelSync.ReadsBack X uuid id review
  | _ => True

theorem decodeReview_of_readsBack (hreads : ReadsBack X uuid id review)
    (hrevd : Reviewed X uuid id json review.sha256 review) :
    ∃ read, decodeReview X uuid id (some json) (some review.sha256) = .ok (some read) := by
  obtain ⟨read, hparse, hverify, hsha256, hval⟩ := hreads json hrevd
  refine ⟨read, bind_ok.mpr ⟨read, ?_, ?_⟩⟩
  · exact guarded hrevd.size (mapError_ok.mpr hparse)
  · exact then_ok (mapError_ok.mpr hverify) (guarded hsha256 (then_ok (mapError_ok.mpr hval) rfl))

theorem Creates.exists_row (h : Creates X uuid store store' id now connection) :
    ∃ row ∈ store'.jobs.rows, row.id = id := by
  rw [h.jobs]
  exact ⟨_, mem_concat_self, rfl⟩

theorem Creates.readable (h : Creates X uuid store store' id now connection)
    (hr : ∀ row ∈ store.jobs.rows, Readable X uuid row) :
    ∀ row ∈ store'.jobs.rows, Readable X uuid row := by
  rw [h.jobs]
  exact forall_mem_concat.mpr ⟨hr, h.size, ⟨none, rfl⟩, rfl⟩

theorem Moves.readable (h : Moves X store store' old new)
    (hnew : Readable X uuid new) (hr : ∀ row ∈ store.jobs.rows, Readable X uuid row) :
    ∀ row ∈ store'.jobs.rows, Readable X uuid row := by
  intro row hrow
  rcases h.mem_jobs hrow with rfl | ⟨hrow, _⟩
  · exact hnew
  · exact hr row hrow

/-- A row that differs from a readable one in neither its connection nor its review is readable,
    if its failure is. -/
theorem Readable.congr (h : Readable X uuid old) (hid : new.id = old.id)
    (hconn : new.expectedConnection = old.expectedConnection)
    (hreview : new.reviewJson = old.reviewJson ∧ new.reviewSha256 = old.reviewSha256)
    (hfailure : decodeFailure X uuid new.failure = .ok ()) : Readable X uuid new where
  size := hconn ▸ h.size
  review := by
    rw [hid, hreview.1, hreview.2]
    exact h.review
  failure := hfailure

/-- What a call asks of a job leaves it readable. -/
theorem Operation.Requests.readable
    (h : operation.Requests X uuid old new) (hreads : operation.ReadsBack X uuid)
    (hold : Readable X uuid old) : Readable X uuid new := by
  cases operation with
  | startFetching id revision now =>
    obtain ⟨-, -, rfl⟩ := h
    exact hold.congr rfl rfl ⟨rfl, rfl⟩ rfl
  | storeReview id revision review now =>
    obtain ⟨rfl, -, json, hrevd, rfl⟩ := h
    obtain ⟨read, hread⟩ := decodeReview_of_readsBack hreads hrevd
    exact ⟨hold.size, ⟨some read, hread⟩, rfl⟩
  | markCommitting id revision sha256 now =>
    obtain ⟨-, -, rfl⟩ := h
    exact hold.congr rfl rfl ⟨rfl, rfl⟩ hold.failure
  | fail id revision failure now =>
    obtain ⟨-, -, hfailure, rfl⟩ := h
    exact hold.congr rfl rfl ⟨rfl, rfl⟩ hfailure
  | cancel id now =>
    obtain ⟨-, rfl⟩ := h
    exact hold.congr rfl rfl ⟨rfl, rfl⟩ rfl
  | create | commit | poll | ack | recover => exact h.elim

/-- Every operation leaves the rows readable, if the review that it stores reads back. -/
theorem Effect.readable
    (h : Effect X uuid store operation outcome store') (hreads : operation.ReadsBack X uuid)
    (hr : ∀ row ∈ store.jobs.rows, Readable X uuid row) :
    ∀ row ∈ store'.jobs.rows, Readable X uuid row := by
  cases h with
  | unchanged => exact hr
  | creates h => exact h.readable hr
  | moves hrequests h _ => exact h.readable (hrequests.readable hreads (hr _ h.found)) hr
  | commits now _ h =>
    have hold := hr _ h.found
    exact h.readable (hold.congr rfl rfl ⟨rfl, rfl⟩ hold.failure) hr
  | recovers now h =>
    induction h with
    | refl => exact hr
    | tail _ hstep ih =>
      obtain ⟨old, now, _, hmoves, _⟩ := hstep
      have hold := ih old hmoves.found
      exact hmoves.readable (hold.congr rfl rfl ⟨rfl, rfl⟩ hold.failure) ih
  | polls | acknowledges => exact hr

theorem jobResponse_isOk (hrow : row ∈ store.jobs.rows) (h : Readable X uuid row)
    (e : CoreError) : jobResponse X uuid row.id store ≠ .error e := by
  obtain ⟨stored, hstored⟩ := load_isOk hrow h
  rw [jobResponse, hstored]
  exact fun heq => by cases heq

/-- A call that fails changes nothing, if the rows that it would leave are readable. -/
theorem Effect.eq_of_error (h : Effect X uuid store operation outcome store')
    (he : outcome = .error e) (hr : ∀ row ∈ store'.jobs.rows, Readable X uuid row) :
    store' = store := by
  cases h with
  | unchanged => rfl
  | creates h =>
    obtain ⟨row, hrow, rfl⟩ := h.exists_row
    exact absurd he (jobResponse_isOk hrow (hr row hrow) e)
  | moves _ h _ =>
    rw [← h.move.id] at he
    exact absurd he (jobResponse_isOk h.new_mem (hr _ h.new_mem) e)
  | commits now _ h => exact absurd he (jobResponse_isOk h.new_mem (hr _ h.new_mem) e)
  | recovers | polls | acknowledges => cases he

/-! ### Polling -/

/-- One row of the outbox is the undelivered event at a place. -/
theorem countP_isUndelivered {row : OutboxRow} (hrow : row ∈ store.outbox.rows)
    (hundelivered : row.deliveredAt = none) :
    store.outbox.rows.countP (isUndelivered row.jobId row.sequence) = 1 := by
  apply Table.countP_eq_one hrow
  · simp [isUndelivered, hundelivered]
  · intro x _ h
    simp only [isUndelivered, Bool.and_eq_true, beq_iff_eq] at h
    exact Prod.ext h.1.1 h.1.2

theorem pollRows_isOk (hsequences : (rows.map OutboxRow.sequence).Nodup)
    (hrows : ∀ row ∈ rows, row ∈ store.outbox.rows ∧ row.jobId = id ∧ row.deliveredAt = none ∧
      row.Written X) :
    ∃ result, pollRows X uuid id rows store = .ok result := by
  induction rows generalizing store with
  | nil => exact ⟨_, rfl⟩
  | cons row rows ih =>
    obtain ⟨⟨hrow, rfl, hundelivered, hwritten⟩, hothers⟩ := forall_mem_cons.mp hrows
    obtain ⟨hfresh, hrest⟩ := nodup_cons.mp hsequences
    have hkept : ∀ other ∈ rows, other ∈ (store.outbox.updateWhere
        (isUndelivered row.jobId row.sequence) attempt fun _ => rfl).rows := by
      intro other hoth
      refine Table.mem_updateWhere.mpr ⟨other, (hothers other hoth).1, if_neg fun h => ?_⟩
      simp only [isUndelivered, Bool.and_eq_true, beq_iff_eq] at h
      exact hfresh (h.1.2 ▸ mem_map_of_mem hoth)
    obtain ⟨⟨events, polled⟩, hpolled⟩ := @ih (store.updateOutbox
      (isUndelivered row.jobId row.sequence) attempt fun _ => rfl).2 hrest
      fun other hoth => ⟨hkept other hoth, (hothers other hoth).2⟩
    refine ⟨(row.event :: events, polled), ?_⟩
    refine guarded hwritten.size (guarded ⟨hwritten.jobId, hwritten.sequence⟩
      (guarded (countP_isUndelivered hrow hundelivered) (then_ok hpolled rfl)))

/-- A poll returns the first undelivered events of a job. -/
theorem run_poll (hc : Coherent X store) (hrow : row ∈ store.jobs.rows) (hr : Readable X uuid row)
    (hlim : limit ≠ 0 ∧ limit ≤ maxOutboxPoll) (now : String) :
    exec ((Operation.poll row.id limit now).run X uuid) store =
      (.ok (.events ((selected row.id limit now store).map OutboxRow.event)),
        store.polled row.id limit now) := by
  obtain ⟨stored, hload⟩ := load_isOk hrow hr
  obtain ⟨⟨events, polled⟩, hpoll⟩ : ∃ result, pollRows X uuid row.id
      (selected row.id limit now store) store = .ok result := by
    refine pollRows_isOk nodup_selected fun event hev => ?_
    obtain ⟨hmem, hid, hnone, -⟩ := mem_available.mp (mem_of_mem_take hev)
    exact ⟨hmem, hid, hnone, hc.written event hmem⟩
  have htransaction : pollTransaction X uuid row.id limit now store = .ok (events, polled) :=
    then_ok hload hpoll
  obtain ⟨rfl, rfl⟩ := pollTransaction_ok htransaction
  have hmethod : exec (pollModelSyncEventsForJob X uuid row.id limit now) store =
      (.ok ((selected row.id limit now store).map OutboxRow.event),
        store.polled row.id limit now) := by
    rw [pollModelSyncEventsForJob, exec_bind_of_ok (exec_check _ _ |>.trans (by
      rw [require_true hlim]))]
    rw [transactWith, exec_get_bind, exec_bind_of_ok (exec_check _ _ |>.trans (by
      rw [htransaction]))]
    rfl
  exact exec_bind_of_ok hmethod

end LorePia.ModelSync
