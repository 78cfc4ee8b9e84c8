import LorePia.ModelSync.Operations

namespace LorePia.ModelSync

open List

open Lib Lib.Stateful
open DiscoveryStore (SqliteError bindU64 insertRow insertRow_ok)
open ProviderStore (ModelSyncState ProviderConnection)

/-!
# Model synchronization — what an operation can do

A transaction that changes a job moves it (`Move`): the row takes the next revision, and the
event of that revision is appended to the outbox (`Moves`).  A job is created with its first
event (`Creates`), a poll counts an attempt on the events it returns, and an acknowledgement
delivers one event.  `Effect` says which of these a call can do; `run_effect` reads it off the
operations.
-/

variable {X : Externals} {uuid : String} {store store' : Store} {limit sequence : Nat}
  {connectionId jobId now sha256 : String} {failure : Option ModelSyncFailure}
  {new old row : JobRow} {operation : Operation} {outcome : CoreResult Response}
  {r : CoreResult ModelSyncJob} {review : ModelSyncReview} {reviewSha256 : Option String}
  {state : ModelSyncState} {stored : StoredModelSyncJob} {transaction : Store → CoreResult Store}

/-! ### Statements -/

theorem insertJob_ok (h : store.insertJob row = .ok store') :
    ∃ jobs, store' = { store with jobs } ∧ jobs.rows = store.jobs.rows ++ [row] ∧
      (∀ x ∈ store.jobs.rows, x.id ≠ row.id) ∧ (activeConnections jobs.rows).Nodup := by
  obtain ⟨jobs, hinsert, hactv, h⟩ := step_guard h
  obtain ⟨_, hfree, hrows⟩ := insertRow_ok hinsert
  exact ⟨jobs, (pure_inj h).symm, hrows, hfree, hactv⟩

theorem updateJobs_ok {hf : ∀ row, (f row).id = row.id}
    (h : store.updateJobs p f hf = .ok (changed, store')) :
    changed = store.jobs.rows.countP p ∧
      store' = { store with jobs := store.jobs.updateWhere p f hf } ∧
      (activeConnections (store.jobs.updateWhere p f hf).rows).Nodup := by
  obtain ⟨_, hactv, h⟩ := guards₂ h
  obtain ⟨hchanged, hstore⟩ := Prod.mk.inj (pure_inj h)
  exact ⟨hchanged.symm, hstore.symm, hactv⟩

theorem insertEvent_ok {row : OutboxRow} (h : store.insertEvent row = .ok store') :
    ∃ outbox, store' = { store with outbox } ∧ outbox.rows = store.outbox.rows ++ [row] := by
  obtain ⟨_, _, outbox, hinsert, h⟩ := steps₂ h
  exact ⟨outbox, (pure_inj h).symm, (insertRow_ok hinsert).2.2⟩

/-! ### Events -/

/-- The row of an event that nobody has read. -/
def ModelSyncEvent.outboxRow (event : ModelSyncEvent) : OutboxRow where
  jobId := event.jobId
  sequence := event.sequence
  jobRevision := event.jobRevision
  state := event.state
  event := event
  createdAt := event.emittedAt
  availableAt := event.emittedAt
  deliveryAttempts := 0
  deliveredAt := none

/-- An event of a job: its place in the job's events, the revision that it tells of, and its
    size. -/
structure Announces (X : Externals) (id : String) (sequence revision : Nat)
    (state : ModelSyncState) (event : ModelSyncEvent) : Prop where
  jobId : event.jobId = id
  sequence : event.sequence = sequence
  jobRevision : event.jobRevision = revision
  state : event.state = state
  size : X.eventJsonBytes event ≤ maxEventBytes

theorem insertModelSyncEvent_ok {id : String} {revision : Nat} {progress : ModelSyncProgress}
    (h : insertModelSyncEvent X uuid id sequence revision state progress reviewSha256 failure now
      store = .ok store') :
    ∃ event outbox, Announces X id sequence revision state event ∧ event.emittedAt = now ∧
      store' = { store with outbox } ∧
      outbox.rows = store.outbox.rows ++ [event.outboxRow] := by
  obtain ⟨hsize, h⟩ := guard_ok.mp h
  obtain ⟨outbox, hstore, hrows⟩ := insertEvent_ok (mapError_ok.mp h)
  exact ⟨_, outbox, ⟨rfl, rfl, rfl, rfl, hsize⟩, rfl, hstore, hrows⟩

theorem appendModelSyncEvent_ok {progress : ModelSyncProgress} (hrow : row ∈ store.jobs.rows)
    (h : appendModelSyncEvent X uuid row.id state progress reviewSha256 failure now store
      = .ok store') :
    ∃ event outbox, Announces X row.id row.nextEventSequence row.revision state event ∧
      outbox.rows = store.outbox.rows ++ [event.outboxRow] ∧
      (activeConnections (store.jobs.update row.countEvent).rows).Nodup ∧
      store' = { store with jobs := store.jobs.update row.countEvent, outbox } := by
  obtain ⟨found, hfound, h⟩ := bind_ok.mp h
  have hfind : store.jobs.find? row.id = some row := Table.find?_eq_some.mpr ⟨hrow, rfl⟩
  rw [okOr_ok, hfind, Option.some.injEq] at hfound
  subst hfound
  obtain ⟨inserted, hinsert, ⟨changed, updated⟩, hupdate, _, _, h⟩ := steps₃ h
  obtain rfl : updated = store' := pure_inj h
  obtain ⟨event, outbox, hev, -, rfl, hrows⟩ := insertModelSyncEvent_ok hinsert
  obtain ⟨-, rfl, hactv⟩ := updateJobs_ok (mapError_ok.mp hupdate)
  have hjobs : store.jobs.updateWhere
      (fun job => job.id == row.id && job.nextEventSequence == row.nextEventSequence)
      JobRow.countEvent (fun _ => rfl) = store.jobs.update row.countEvent := by
    apply Table.updateWhere_eq_update hrow
    · simp
    · intro x hx
      simp at hx
      exact hx.1
  exact ⟨event, outbox, hev, hrows, hjobs ▸ hactv, by rw [← hjobs]⟩

/-! ### Moves -/

/-- The review columns of a row were written by the storage. -/
structure Reviewed (X : Externals) (uuid id json sha256 : String) (review : ModelSyncReview) :
    Prop where
  verified : review.verify X = .ok ()
  valid : validateModelSyncReview X uuid id review = .ok ()
  encoded : X.reviewJson review = .ok json
  size : byteLen json ≤ maxReviewBytes
  sha256 : review.sha256 = sha256

/-- The row that a job can have after `row`. -/
inductive Move (row : JobRow) : JobRow → Prop
  | fetch (now : String) (h : row.state = .created) :
      Move row (row.moveTo .fetching (row.revision + 1) none now).countEvent
  | review (json sha256 now : String) (h : row.state = .fetching) :
      Move row (row.storeReview (row.revision + 1) json sha256 now).countEvent
  | approve (sha256 now : String) (h : row.state = .diffReadyAwaitingReview)
      (hsha256 : row.reviewSha256 = some sha256) :
      Move row (row.approve (row.revision + 1) sha256 now).countEvent
  | complete (now : String) (h : row.state = .committing) :
      Move row (row.complete (row.revision + 1) now).countEvent
  | fail (failure : ModelSyncFailure) (now : String) (h : row.state.isFinished = false) :
      Move row (row.moveTo .failed (row.revision + 1) (some failure) now).countEvent
  | cancel (now : String) (h : row.state.isFinished = false) (hcommitting : row.state ≠ .committing) :
      Move row (row.moveTo .cancelled (row.revision + 1) none now).countEvent
  | interrupt (now : String) (h : isInterruptible row.state = true) :
      Move row (row.interrupt now).countEvent

/-- A job moved from the row `old` to the row `new`, and the event of the move was appended. -/
structure Moves (X : Externals) (store store' : Store) (old new : JobRow) : Prop where
  found : old ∈ store.jobs.rows
  move : Move old new
  jobs : store'.jobs = store.jobs.update new
  event : ∃ event, Announces X old.id old.nextEventSequence new.revision new.state event ∧
    store'.outbox.rows = store.outbox.rows ++ [event.outboxRow]
  active : (activeConnections store'.jobs.rows).Nodup

theorem Move.id (h : Move old new) : new.id = old.id := by
  cases h <;> rfl

theorem Move.revision (h : Move old new) :
    new.revision = old.revision + 1 := by
  cases h <;> rfl

/-- The provider graph is the same. -/
def SameGraph (store store' : Store) : Prop :=
  store'.provider = store.provider ∧ store'.observations = store.observations

/-- The row `old` was updated, and its event appended. -/
theorem moves_of_update {hf : ∀ row, (f row).id = row.id} {progress : ModelSyncProgress}
    (hold : old ∈ store.jobs.rows) (hp : p old = true)
    (honly : ∀ row, p row = true → row.id = old.id) (hmove : Move old (f old).countEvent)
    (hseq : (f old).nextEventSequence = old.nextEventSequence)
    (h : appendModelSyncEvent X uuid old.id (f old).state progress reviewSha256 failure now
      { store with jobs := store.jobs.updateWhere p f hf } = .ok store') :
    Moves X store store' old (f old).countEvent ∧ SameGraph store store' := by
  have hjobs : store.jobs.updateWhere p f hf = store.jobs.update (f old) :=
    Table.updateWhere_eq_update hold hp honly
  have hmem : f old ∈ (store.jobs.updateWhere p f hf).rows :=
    Table.mem_updateWhere.mpr ⟨old, hold, by rw [if_pos hp]⟩
  rw [← hf old] at h
  obtain ⟨event, outbox, hev, hrows, hactv, rfl⟩ := appendModelSyncEvent_ok hmem h
  have htwice : (store.jobs.updateWhere p f hf).update (f old).countEvent
      = store.jobs.update (f old).countEvent := by
    rw [hjobs]
    exact Table.update_update rfl
  refine ⟨⟨hold, hmove, htwice, ⟨event, ?_, hrows⟩, hactv⟩, rfl, rfl⟩
  rw [← hseq, ← hf old]
  exact hev

/-! ### Transactions -/

theorem loadModelSyncJob_ok {id : String} (h : loadModelSyncJob X uuid id store = .ok stored) :
    ∃ row ∈ store.jobs.rows, row.id = id ∧ decodeModelSyncJob X uuid row = .ok stored := by
  obtain ⟨row, hrow, h⟩ := bind_ok.mp h
  obtain ⟨hmem, hid⟩ := Table.find?_eq_some.mp (okOr_ok.mp hrow)
  exact ⟨row, hmem, hid, h⟩

/-- What is known of a row that was read as `stored`. -/
structure Decoded (X : Externals) (uuid : String) (row : JobRow) (stored : StoredModelSyncJob) :
    Prop where
  size : X.connectionJsonBytes row.expectedConnection ≤ maxConnectionSnapshotBytes
  review : decodeReview X uuid row.id row.reviewJson row.reviewSha256 = .ok stored.job.review
  failure : decodeFailure X uuid row.failure = .ok ()
  connectionId : stored.job.connectionId = row.connectionId
  state : stored.job.state = row.state
  revision : stored.job.revision = row.revision
  expectedConnection : stored.expectedConnection = row.expectedConnection
  baseGraphSha256 : stored.baseGraphSha256 = row.baseGraphSha256
  approvedReviewSha256 : stored.approvedReviewSha256 = row.approvedReviewSha256

theorem decodeModelSyncJob_ok
    (h : decodeModelSyncJob X uuid row = .ok stored) : Decoded X uuid row stored := by
  obtain ⟨hsize, h⟩ := guard_ok.mp h
  obtain ⟨review, hreview, _, hfailure, h⟩ := steps₂ h
  obtain rfl := pure_inj h
  exact ⟨hsize, hreview, hfailure, rfl, rfl, rfl, rfl, rfl, rfl⟩

theorem decodeFailure_ok {failure : ModelSyncFailure} (hval : validateFailure uuid failure = .ok ())
    (hsize : X.failureJsonBytes failure ≤ maxFailureBytes) :
    decodeFailure X uuid (some failure) = .ok () :=
  guarded hsize (mapError_ok.mpr hval)

theorem decodeReview_eq_some {id : String} {json sha256 : Option String}
    (h : decodeReview X uuid id json sha256 = .ok (some review)) :
    sha256 = some review.sha256 := by
  cases json with
  | none =>
    cases sha256 with
    | none => cases pure_inj h
    | some sha256 => cases h
  | some json =>
    cases sha256 with
    | none =>
      obtain ⟨_, _, h⟩ := bind_ok.mp h
      cases h
    | some sha256 =>
      obtain ⟨read, _, _, _, h⟩ := steps₂ h
      obtain ⟨hsha256, _, _, h⟩ := guard_step h
      obtain rfl : read = review := Option.some.inj (pure_inj h)
      rw [hsha256]

/-- A compare-and-swap that changed one row found it. -/
theorem exists_of_changed {hf : ∀ row, (f row).id = row.id} {values : List Nat}
    (h : execute X uuid (do
      bindU64 values
      store.updateJobs p f hf) = .ok (changed, updated))
    (hchanged : ensureSingleCasUpdate uuid changed = .ok ()) :
    (∃ row ∈ store.jobs.rows, p row = true) ∧
      updated = { store with jobs := store.jobs.updateWhere p f hf } := by
  obtain ⟨_, _, h⟩ := bind_ok.mp (mapError_ok.mp h)
  obtain ⟨hcount, hupd, -⟩ := updateJobs_ok h
  have hone : changed = 1 := require_ok.mp hchanged
  refine ⟨countP_pos_iff.mp ?_, hupd⟩
  omega

theorem matchesJob_iff {id : String} {revision : Nat} :
    matchesJob id state revision row = true ↔
      row.id = id ∧ row.state = state ∧ row.revision = revision := by
  simp [matchesJob, and_assoc]

theorem nextRevisionOf_ok {revision next : Nat} (h : nextRevisionOf uuid revision = .ok next) :
    next = revision + 1 :=
  (checkedAdd_eq_some.mp (okOr_ok.mp h)).2.symm

theorem transitionTransaction_moves {id : String} {revision : Nat} {progress : ModelSyncProgress}
    (hmove : ∀ row : JobRow, row.state = state →
      Move row (row.moveTo nextState (row.revision + 1) failure now).countEvent)
    (h : transitionTransaction X uuid id revision state nextState progress reviewSha256 failure now
      store = .ok store') :
    (∀ f, failure = some f → X.failureJsonBytes f ≤ maxFailureBytes) ∧
    ∃ old : JobRow, old.id = id ∧ old.revision = revision ∧ Moves X store store' old
        (old.moveTo nextState (old.revision + 1) failure now).countEvent ∧
      SameGraph store store' := by
  obtain ⟨stored, _, _, h⟩ := step_guard h
  obtain ⟨next, hnext, h⟩ := bind_ok.mp h
  obtain rfl := nextRevisionOf_ok hnext
  obtain ⟨_, hsize, ⟨changed, updated⟩, hupdate, _, hchanged, h⟩ := steps₃ h
  obtain ⟨⟨old, hold, hp⟩, rfl⟩ := exists_of_changed hupdate hchanged
  obtain ⟨rfl, hst, rfl⟩ := matchesJob_iff.mp hp
  have hfailure : ∀ f, failure = some f → X.failureJsonBytes f ≤ maxFailureBytes :=
    fun f hf => require_ok.mp (forSome_ok.mp hsize f hf)
  have hmoves := moves_of_update hold hp (fun row hrow => (matchesJob_iff.mp hrow).1)
    (hmove old hst) rfl h
  exact ⟨hfailure, old, rfl, rfl, hmoves⟩

theorem storeReviewTransaction_moves {id : String} {revision : Nat}
    (h : storeReviewTransaction X uuid id revision review now store = .ok store') :
    ∃ (old : JobRow) (json : String), old.id = id ∧ old.revision = revision ∧
      Reviewed X uuid old.id json review.sha256 review ∧
      Moves X store store' old
        (old.storeReview (old.revision + 1) json review.sha256 now).countEvent ∧
      SameGraph store store' := by
  obtain ⟨_, hverify, _, hval, h⟩ := steps₂ h
  obtain ⟨_, json, hjson, h⟩ := guard_step h
  obtain ⟨hsize, stored, _, h⟩ := guard_step h
  obtain ⟨_, _, h⟩ := rest₂ h
  obtain ⟨next, hnext, h⟩ := bind_ok.mp h
  obtain rfl := nextRevisionOf_ok hnext
  obtain ⟨⟨changed, updated⟩, hupdate, _, hchanged, h⟩ := steps₂ h
  obtain ⟨⟨old, hold, hp⟩, rfl⟩ := exists_of_changed hupdate hchanged
  obtain ⟨rfl, hst, rfl⟩ := matchesJob_iff.mp hp
  have hrevd : Reviewed X uuid old.id json review.sha256 review :=
    ⟨mapError_ok.mp hverify, hval, mapError_ok.mp hjson, hsize, rfl⟩
  have hmoves := moves_of_update hold hp (fun row hrow => (matchesJob_iff.mp hrow).1)
    (.review json review.sha256 now hst) rfl h
  exact ⟨old, json, rfl, rfl, hrevd, hmoves⟩

theorem markCommittingTransaction_moves {id : String} {revision : Nat}
    (h : markCommittingTransaction X uuid id revision sha256 now store = .ok store') :
    ∃ old : JobRow, old.id = id ∧ old.revision = revision ∧
      Moves X store store' old (old.approve (old.revision + 1) sha256 now).countEvent ∧
      SameGraph store store' := by
  obtain ⟨stored, _, _, h⟩ := step_guard h
  obtain ⟨review, _, h⟩ := bind_ok.mp h
  obtain ⟨_, _, _, h⟩ := rest₃ h
  obtain ⟨next, hnext, h⟩ := bind_ok.mp h
  obtain rfl := nextRevisionOf_ok hnext
  obtain ⟨⟨changed, updated⟩, hupdate, _, hchanged, h⟩ := steps₂ h
  obtain ⟨⟨old, hold, hp⟩, rfl⟩ := exists_of_changed hupdate hchanged
  obtain ⟨hmatches, hsha256⟩ := Bool.and_eq_true_iff.mp hp
  obtain ⟨rfl, hst, rfl⟩ := matchesJob_iff.mp hmatches
  have honly : ∀ row : JobRow, (matchesJob old.id .diffReadyAwaitingReview old.revision row &&
      row.reviewSha256 == some sha256) = true → row.id = old.id :=
    fun row hrow => (matchesJob_iff.mp (Bool.and_eq_true_iff.mp hrow).1).1
  have hmoves := moves_of_update hold hp honly (.approve sha256 now hst (eq_of_beq hsha256)) rfl h
  exact ⟨old, rfl, rfl, hmoves⟩

/-! ### Applying a review -/

/-- The jobs and their events are the same. -/
structure SameJobs (store store' : Store) : Prop where
  jobs : store'.jobs = store.jobs
  outbox : store'.outbox = store.outbox

theorem SameJobs.trans (h : SameJobs store store') (h' : SameJobs store' store'') :
    SameJobs store store'' :=
  ⟨h'.jobs.trans h.jobs, h'.outbox.trans h.outbox⟩

theorem upsertListedRoutes_sameJobs
    (h : upsertListedRoutes X uuid connectionId seen routes store = .ok store') :
    SameJobs store store' := by
  induction routes generalizing seen store with
  | nil =>
    obtain rfl := pure_inj h
    exact ⟨rfl, rfl⟩
  | cons route routes ih =>
    obtain ⟨_, _, _, h⟩ := rest₃ h
    obtain ⟨provider, _, h⟩ := bind_ok.mp h
    have hrest := ih h
    exact ⟨hrest.jobs, hrest.outbox⟩

theorem markAllMissing_sameJobs {missingIds : List String}
    (h : markAllMissing X uuid jobId connectionId missingIds store = .ok store') :
    SameJobs store store' := by
  induction missingIds generalizing store with
  | nil =>
    obtain rfl := pure_inj h
    exact ⟨rfl, rfl⟩
  | cons missingId missingIds ih =>
    obtain ⟨marked, hmarked, h⟩ := bind_ok.mp h
    obtain ⟨provider, _, rfl⟩ := last_step hmarked
    have hrest := ih h
    exact ⟨hrest.jobs, hrest.outbox⟩

theorem upsertInitialPresets_sameJobs
    (h : upsertInitialPresets X uuid listedIds presets store = .ok store') :
    SameJobs store store' := by
  induction presets generalizing store with
  | nil =>
    obtain rfl := pure_inj h
    exact ⟨rfl, rfl⟩
  | cons preset presets ih =>
    obtain ⟨_, provider, _, h⟩ := guard_step h
    have hrest := ih h
    exact ⟨hrest.jobs, hrest.outbox⟩

theorem upsertCapabilityObservationRow_sameJobs
    (h : upsertCapabilityObservationRow X uuid observation store = .ok store') :
    SameJobs store store' := by
  obtain ⟨_, _, _, h⟩ := rest₃ h
  by_cases hsame : store.observations.find? observation.id = some observation
  · rw [if_pos hsame] at h
    obtain rfl := pure_inj h
    exact ⟨rfl, rfl⟩
  · rw [if_neg hsame] at h
    obtain ⟨_, h⟩ := guard_ok.mp h
    obtain rfl := pure_inj h
    exact ⟨rfl, rfl⟩

theorem upsertObservations_sameJobs
    (h : upsertObservations X uuid listedIds observations store = .ok store') :
    SameJobs store store' := by
  induction observations generalizing store with
  | nil =>
    obtain rfl := pure_inj h
    exact ⟨rfl, rfl⟩
  | cons observation observations ih =>
    obtain ⟨_, written, hwritten, h⟩ := guard_step h
    exact (upsertCapabilityObservationRow_sameJobs hwritten).trans (ih h)

theorem applyReview_sameJobs {current : ProviderConnection}
    (h : applyReview X uuid jobId connectionId current review store = .ok store') :
    SameJobs store store' := by
  obtain ⟨listed, hlisted, _, h⟩ := step_guard h
  obtain ⟨marked, hmarked, preset, hpre, observed, hobserved, h⟩ := steps₃ h
  obtain ⟨provider, _, _, _, h⟩ := steps₂ h
  obtain rfl := pure_inj h
  have hwritten := (upsertListedRoutes_sameJobs hlisted).trans (markAllMissing_sameJobs hmarked)
  have hdeleted : SameJobs preset
      (deleteProviderObservations (review.diff.listedRoutes.map ProviderStore.ModelRoute.id) preset) :=
    ⟨rfl, rfl⟩
  have hobs := (hwritten.trans (upsertInitialPresets_sameJobs hpre)).trans
    (hdeleted.trans (upsertObservations_sameJobs hobserved))
  exact ⟨hobs.jobs, hobs.outbox⟩

/-- What a commit requires of the graph: the review that the job holds was approved, and the
    connection and its graph are those of the creation of the job. -/
structure Commits (X : Externals) (uuid : String) (store : Store) (row : JobRow) : Prop where
  approved : row.approvedReviewSha256 = row.reviewSha256
  reviewed : row.reviewSha256.isSome
  connection : loadProviderConnection uuid row.connectionId store = .ok row.expectedConnection
  graph : X.graphSha256 (graphOf store row.expectedConnection) = row.baseGraphSha256

theorem modelSyncGraphSha256_ok (h : modelSyncGraphSha256 X uuid connectionId store = .ok sha256) :
    ∃ connection, loadProviderConnection uuid connectionId store = .ok connection ∧
      X.graphSha256 (graphOf store connection) = sha256 := by
  obtain ⟨connection, hconn, _, _, h⟩ := steps₂ h
  exact ⟨connection, hconn, pure_inj h⟩

theorem Moves.of_sameJobs (h : Moves X middle store' old new) (hsame : SameJobs store middle) :
    Moves X store store' old new where
  found := hsame.jobs ▸ h.found
  move := h.move
  jobs := hsame.jobs ▸ h.jobs
  event := by
    obtain ⟨event, hev, hrows⟩ := h.event
    exact ⟨event, hev, hsame.outbox ▸ hrows⟩
  active := h.active

theorem commitTransaction_moves {id : String} {revision : Nat}
    (h : commitTransaction X uuid id revision now store = .ok store') :
    ∃ old : JobRow, old.id = id ∧ old.revision = revision ∧ Commits X uuid store old ∧
      Moves X store store' old (old.complete (old.revision + 1) now).countEvent := by
  obtain ⟨stored, hstored, _, h⟩ := step_guard h
  obtain ⟨review, hreview, h⟩ := bind_ok.mp h
  obtain ⟨_, _, h⟩ := rest₂ h
  obtain ⟨happr, current, hcur, h⟩ := guard_step h
  obtain ⟨⟨hconn, _⟩, sha256, hsha256, h⟩ := guard_step h
  obtain ⟨hgraph, _, h⟩ := guards₂ h
  obtain ⟨written, hwritten, next, hnext, h⟩ := steps₂ h
  obtain rfl := nextRevisionOf_ok hnext
  obtain ⟨⟨changed, updated⟩, hupdate, _, hchanged, happ⟩ := steps₂ h
  obtain ⟨⟨old, hold, hp⟩, rfl⟩ := exists_of_changed hupdate hchanged
  obtain ⟨rfl, hst, rfl⟩ := matchesJob_iff.mp hp
  have hsame := applyReview_sameJobs hwritten
  -- the row that was read is the row that was completed
  obtain ⟨row, hrow, hid, hdecode⟩ := loadModelSyncJob_ok hstored
  rw [← hsame.jobs] at hrow
  obtain rfl : row = old := Table.eq_of_key hrow hold hid
  have hdec := decodeModelSyncJob_ok hdecode
  have hrevd : row.reviewSha256 = some review.sha256 := by
    have hread := hdec.review
    rw [okOr_ok.mp hreview] at hread
    exact decodeReview_eq_some hread
  obtain ⟨digested, hdigested, rfl⟩ := modelSyncGraphSha256_ok hsha256
  obtain rfl : current = digested := Except.ok.inj (hcur.symm.trans hdigested)
  have hcommits : Commits X uuid store row :=
    { approved := by rw [← hdec.approvedReviewSha256, happr, hrevd]
      reviewed := by rw [hrevd, Option.isSome_some]
      connection := by
        rw [← hdec.connectionId, ← hdec.expectedConnection, ← hconn]
        exact hcur
      graph := by rw [← hdec.expectedConnection, ← hconn, hgraph,
        hdec.baseGraphSha256] }
  obtain ⟨hmoves, -⟩ := moves_of_update hold hp (fun row hrow => (matchesJob_iff.mp hrow).1)
    (.complete now hst) rfl happ
  exact ⟨row, rfl, rfl, hcommits, hmoves.of_sameJobs hsame⟩

/-! ### Recovery -/

/-- A job that was being worked on became `Interrupted`. -/
def Interrupts (X : Externals) (store store' : Store) : Prop :=
  ∃ (old : JobRow) (now : String), isInterruptible old.state = true ∧
    Moves X store store' old (old.interrupt now).countEvent ∧ SameGraph store store'

theorem interruptJob_moves (hold : old ∈ store.jobs.rows) (hst : isInterruptible old.state = true)
    (h : interruptJob X uuid old.id now store = .ok store') :
    Moves X store store' old (old.interrupt now).countEvent ∧ SameGraph store store' := by
  obtain ⟨⟨changed, updated⟩, hupdate, h⟩ := bind_ok.mp h
  obtain ⟨-, rfl, -⟩ := updateJobs_ok (mapError_ok.mp hupdate)
  have hp : (old.id == old.id && isInterruptible old.state) = true := by simp [hst]
  have honly : ∀ row : JobRow, (row.id == old.id && isInterruptible row.state) = true →
      row.id = old.id :=
    fun row hrow => eq_of_beq (Bool.and_eq_true_iff.mp hrow).1
  exact moves_of_update hold hp honly (.interrupt now hst) rfl h

theorem interruptJobs_interrupts {now : String → String} (hids : ids.Nodup)
    (hrows : ∀ id ∈ ids, ∃ row ∈ store.jobs.rows, row.id = id ∧ isInterruptible row.state = true)
    (h : interruptJobs X uuid now ids store = .ok store') :
    Relation.ReflTransGen (Interrupts X) store store' := by
  induction ids generalizing store with
  | nil =>
    obtain rfl := pure_inj h
    exact .refl
  | cons id ids ih =>
    obtain ⟨interrupted, hinterrupted, hagain⟩ := bind_ok.mp h
    obtain ⟨hfresh, hrest⟩ := nodup_cons.mp hids
    obtain ⟨⟨old, hold, rfl, hst⟩, hothers⟩ := forall_mem_cons.mp hrows
    obtain ⟨hmoves, hgraph⟩ := interruptJob_moves hold hst hinterrupted
    refine .head ⟨old, now old.id, hst, hmoves, hgraph⟩ (ih hrest ?_ hagain)
    -- the jobs that remain were not touched
    intro id hid
    obtain ⟨row, hrow, rfl, hrowSt⟩ := hothers id hid
    have hne : row.id ≠ (old.interrupt (now old.id)).countEvent.id := fun heq => hfresh (heq ▸ hid)
    refine ⟨row, ?_, rfl, hrowSt⟩
    rw [hmoves.jobs]
    exact Table.mem_update.mpr ⟨row, hrow, if_neg hne⟩

theorem mem_interruptedIds {id : String} : id ∈ interruptedIds store ↔
    ∃ row ∈ store.jobs.rows, row.id = id ∧ isInterruptible row.state = true := by
  simp only [interruptedIds, mem_map, mem_sortByKey, mem_filter]
  constructor
  · rintro ⟨row, ⟨hrow, hst⟩, hid⟩
    exact ⟨row, hrow, hid, hst⟩
  · rintro ⟨row, hrow, hid, hst⟩
    exact ⟨row, ⟨hrow, hst⟩, hid⟩

theorem nodup_interruptedIds : (interruptedIds store).Nodup := by
  rw [interruptedIds, ((perm_sortByKey _ _).map JobRow.id).nodup_iff]
  exact store.jobs.unique.sublist (filter_sublist.map JobRow.id)

theorem recoverTransaction_interrupts {now : String → String}
    (h : recoverTransaction X uuid now store = .ok store') :
    Relation.ReflTransGen (Interrupts X) store store' :=
  interruptJobs_interrupts nodup_interruptedIds (fun _ hid => mem_interruptedIds.mp hid) h

/-! ### Delivery -/

/-- The undelivered events of a job at the given places. -/
def isPolled (id : String) (sequences : List Nat) (row : OutboxRow) : Bool :=
  row.jobId == id && row.deliveredAt.isNone && decide (row.sequence ∈ sequences)

/-- An attempt was counted on every event that a poll returned. -/
theorem pollRows_ok {id : String} (hrows : (rows.map OutboxRow.sequence).Nodup)
    (h : pollRows X uuid id rows store = .ok (events, store')) :
    events = rows.map OutboxRow.event ∧ store' = { store with
        outbox := store.outbox.updateWhere (isPolled id (rows.map OutboxRow.sequence))
          OutboxRow.attempt fun _ => rfl } := by
  induction rows generalizing store events with
  | nil =>
    obtain ⟨rfl, rfl⟩ := Prod.mk.inj (pure_inj h)
    refine ⟨rfl, ?_⟩
    have hsame : store.outbox.updateWhere (isPolled id []) OutboxRow.attempt (fun _ => rfl)
        = store.outbox := by
      apply Table.ext_rows
      simp [Table.updateWhere, isPolled]
    rw [map_nil, hsame]
  | cons row rows ih =>
    obtain ⟨_, _, _, h⟩ := rest₃ h
    obtain ⟨⟨rest, polled⟩, hrest, h⟩ := bind_ok.mp h
    obtain ⟨rfl, rfl⟩ := Prod.mk.inj (pure_inj h)
    obtain ⟨hfresh, hrows⟩ := nodup_cons.mp hrows
    obtain ⟨rfl, rfl⟩ := ih hrows hrest
    refine ⟨rfl, ?_⟩
    -- the attempt on the first event and those on the others are on different rows
    have hboth : (store.outbox.updateWhere (isUndelivered id row.sequence) OutboxRow.attempt
          fun _ => rfl).updateWhere (isPolled id (rows.map OutboxRow.sequence)) OutboxRow.attempt
          (fun _ => rfl)
        = store.outbox.updateWhere (isPolled id ((row :: rows).map OutboxRow.sequence))
          OutboxRow.attempt fun _ => rfl := by
      apply Table.ext_rows
      simp only [Table.updateWhere, map_map]
      refine map_congr_left fun x _ => ?_
      by_cases hx : isUndelivered id row.sequence x = true
      · have hseq : x.sequence = row.sequence := by
          simp [isUndelivered] at hx
          exact hx.1.2
        have hnot : isPolled id (rows.map OutboxRow.sequence) x.attempt = false := by
          have hfresh' : x.attempt.sequence ∉ rows.map OutboxRow.sequence := by
            show x.sequence ∉ _
            rw [hseq]
            exact hfresh
          simp only [isPolled, hfresh', decide_false, Bool.and_false]
        have hpolled : isPolled id ((row :: rows).map OutboxRow.sequence) x = true := by
          simp [isUndelivered] at hx
          simp [isPolled, hx]
        simp only [Function.comp_apply, hx, hnot, hpolled, reduceIte, Bool.false_eq_true]
      · have hsame : isPolled id ((row :: rows).map OutboxRow.sequence) x
            = isPolled id (rows.map OutboxRow.sequence) x := by
          rw [Bool.eq_iff_iff]
          simp only [isUndelivered, isPolled, Bool.and_eq_true, beq_iff_eq, decide_eq_true_eq,
            map_cons, mem_cons] at hx ⊢
          constructor
          · rintro ⟨⟨hid, hnone⟩, hseq | hmem⟩
            · exact absurd ⟨⟨hid, hseq⟩, hnone⟩ hx
            · exact ⟨⟨hid, hnone⟩, hmem⟩
          · rintro ⟨hboth, hmem⟩
            exact ⟨hboth, .inr hmem⟩
        simp only [Function.comp_apply, if_neg hx, hsame]
    show { store with outbox := _ } = _
    rw [hboth]

/-- The rows that a poll returns. -/
def selected (id : String) (limit : Nat) (now : String) (store : Store) : List OutboxRow :=
  (available id now store).take limit

theorem mem_available {id : String} {row : OutboxRow} : row ∈ available id now store ↔
    row ∈ store.outbox.rows ∧ row.jobId = id ∧ row.deliveredAt = none ∧ row.availableAt ≤ now := by
  simp [available, and_assoc]

theorem nodup_available {id : String} :
    ((available id now store).map OutboxRow.sequence).Nodup := by
  rw [available, ((perm_sortByKey _ _).map OutboxRow.sequence).nodup_iff]
  have hkeys := store.outbox.unique.sublist ((filter_sublist (l := store.outbox.rows)
    (p := fun row => row.jobId == id && row.deliveredAt.isNone &&
      decide (row.availableAt ≤ now))).map OutboxRow.key)
  refine pairwise_map.mpr ((pairwise_map.mp hkeys).imp_of_mem ?_)
  intro a b ha hb hne heq
  have hjob : ∀ row ∈ store.outbox.rows.filter fun row => row.jobId == id &&
      row.deliveredAt.isNone && decide (row.availableAt ≤ now), row.jobId = id := by
    simp +contextual
  exact hne (Prod.ext ((hjob a ha).trans (hjob b hb).symm) heq)

theorem nodup_selected {id : String} :
    ((selected id limit now store).map OutboxRow.sequence).Nodup :=
  nodup_available.sublist ((take_sublist _ _).map OutboxRow.sequence)

theorem OutboxRow.attempt_key (row : OutboxRow) : row.attempt.key = row.key := rfl

theorem OutboxRow.deliver_key (now : String) (row : OutboxRow) :
    (row.deliver now).key = row.key := rfl

/-- An attempt is counted on the rows that a poll returns. -/
def Store.polled (store : Store) (id : String) (limit : Nat) (now : String) : Store :=
  { store with
    outbox := store.outbox.updateWhere
      (isPolled id ((selected id limit now store).map OutboxRow.sequence)) OutboxRow.attempt
      OutboxRow.attempt_key }

theorem pollTransaction_ok {id : String}
    (h : pollTransaction X uuid id limit now store = .ok (events, store')) :
    events = (selected id limit now store).map OutboxRow.event ∧
      store' = store.polled id limit now := by
  obtain ⟨_, _, h⟩ := bind_ok.mp h
  exact pollRows_ok nodup_selected h

/-- The event at a place, if it was polled and is not delivered. -/
def isPending (id : String) (sequence : Nat) (row : OutboxRow) : Bool :=
  isUndelivered id sequence row && decide (0 < row.deliveryAttempts)

def Store.acknowledged (store : Store) (id : String) (sequence : Nat) (now : String) : Store :=
  { store with
    outbox := store.outbox.updateWhere (isPending id sequence) (OutboxRow.deliver now)
      (OutboxRow.deliver_key now) }

theorem ackTransaction_ok {id : String} {acknowledged : Bool}
    (h : ackTransaction X uuid id sequence now store = .ok (acknowledged, store')) :
    acknowledged = (store.outbox.rows.countP (isPending id sequence) == 1) ∧
      store' = store.acknowledged id sequence now := by
  obtain ⟨_, _, h⟩ := rest₂ h
  obtain ⟨hacknowledged, hstore⟩ := Prod.mk.inj (pure_inj h)
  exact ⟨hacknowledged.symm, hstore.symm⟩

/-! ### Operations -/

/-- A job was created with its first event, for a connection and a graph that the storage
    holds. -/
structure Creates (X : Externals) (uuid : String) (store store' : Store) (id now : String)
    (connection : ProviderConnection) : Prop where
  loaded : loadProviderConnection uuid connection.id store = .ok connection
  size : X.connectionJsonBytes connection ≤ maxConnectionSnapshotBytes
  fresh : ∀ row ∈ store.jobs.rows, row.id ≠ id
  jobs : store'.jobs.rows = store.jobs.rows ++ [
    { id
      connectionId := connection.id
      state := .created
      revision := 1
      nextEventSequence := 2
      expectedConnection := connection
      baseGraphSha256 := X.graphSha256 (graphOf store connection)
      reviewJson := none
      reviewSha256 := none
      approvedReviewSha256 := none
      approvedAt := none
      failure := none
      createdAt := now
      updatedAt := now }]
  event : ∃ event, Announces X id 1 1 .created event ∧
    store'.outbox.rows = store.outbox.rows ++ [event.outboxRow]
  active : (activeConnections store'.jobs.rows).Nodup
  graph : SameGraph store store'

theorem createTransaction_creates {id : String}
    (h : createTransaction X uuid id now connection store = .ok store') :
    Creates X uuid store store' id now connection := by
  obtain ⟨_, stored, hstored, h⟩ := guard_step h
  obtain ⟨rfl, h⟩ := guard_ok.mp h
  obtain ⟨_, hsize, sha256, hsha256, inserted, hinsert, h⟩ := steps₃ h
  obtain ⟨digested, hdigested, rfl⟩ := modelSyncGraphSha256_ok hsha256
  obtain rfl : stored = digested := Except.ok.inj (hstored.symm.trans hdigested)
  obtain ⟨jobs, rfl, hjobs, hfresh, hactv⟩ := insertJob_ok (mapError_ok.mp hinsert)
  obtain ⟨event, outbox, hev, -, rfl, hrows⟩ := insertModelSyncEvent_ok h
  exact
    { loaded := hstored
      size := require_ok.mp hsize
      fresh := hfresh
      jobs := hjobs
      event := ⟨event, hev, hrows⟩
      active := hactv
      graph := ⟨rfl, rfl⟩ }

/-- What a call asks of a job: to take the row `new` after the row `old`. -/
def Operation.Requests (X : Externals) (uuid : String) : Operation → JobRow → JobRow → Prop
  | .startFetching id revision now, old, new => old.id = id ∧ old.revision = revision ∧
      new = (old.moveTo .fetching (old.revision + 1) none now).countEvent
  | .storeReview id revision review now, old, new => old.id = id ∧ old.revision = revision ∧
      ∃ json, Reviewed X uuid old.id json review.sha256 review ∧
        new = (old.storeReview (old.revision + 1) json review.sha256 now).countEvent
  | .markCommitting id revision sha256 now, old, new => old.id = id ∧ old.revision = revision ∧
      new = (old.approve (old.revision + 1) sha256 now).countEvent
  | .fail id revision failure now, old, new => old.id = id ∧ old.revision = revision ∧
      decodeFailure X uuid (some failure) = .ok () ∧
      new = (old.moveTo .failed (old.revision + 1) (some failure) now).countEvent
  | .cancel id now, old, new => old.id = id ∧
      new = (old.moveTo .cancelled (old.revision + 1) none now).countEvent
  | _, _, _ => False

/-- The answer of a call that changed a job, which it reads again. -/
def jobResponse (X : Externals) (uuid id : String) (store : Store) : CoreResult Response :=
  (loadModelSyncJob X uuid id store).map fun stored => .job stored.job

/-- What a call with an outcome can do to the storage. -/
inductive Effect (X : Externals) (uuid : String) (store : Store) :
    Operation → CoreResult Response → Store → Prop
  | unchanged (operation : Operation) (outcome : CoreResult Response) :
      Effect X uuid store operation outcome store
  | creates {store' : Store} {id now : String} {connection : ProviderConnection}
      (h : Creates X uuid store store' id now connection) :
      Effect X uuid store (.create id now connection) (jobResponse X uuid id store') store'
  | moves {store' : Store} {operation : Operation} {old new : JobRow}
      (hrequests : operation.Requests X uuid old new) (h : Moves X store store' old new)
      (hgraph : SameGraph store store') :
      Effect X uuid store operation (jobResponse X uuid old.id store') store'
  | commits {store' : Store} {old : JobRow} (now : String) (hcommits : Commits X uuid store old)
      (h : Moves X store store' old (old.complete (old.revision + 1) now).countEvent) :
      Effect X uuid store (.commit old.id old.revision now) (jobResponse X uuid old.id store') store'
  | recovers {store' : Store} (now : String → String)
      (h : Relation.ReflTransGen (Interrupts X) store store') :
      Effect X uuid store (.recover now) (.ok .done) store'
  | polls (id : String) (limit : Nat) (now : String) :
      Effect X uuid store (.poll id limit now)
        (.ok (.events ((selected id limit now store).map OutboxRow.event)))
        (store.polled id limit now)
  | acknowledges (id : String) (sequence : Nat) (now : String) :
      Effect X uuid store (.ack id sequence now)
        (.ok (.acknowledged (store.outbox.rows.countP (isPending id sequence) == 1)))
        (store.acknowledged id sequence now)

/-! ### Running an operation -/

theorem transact_error (h : exec (transact transaction) store = (.error e, store')) :
    store' = store := by
  rw [transact, exec_get_bind] at h
  rcases check_bind_cases h with ⟨_, _, _, rfl⟩ | ⟨_, _, h⟩
  · rfl
  · cases h

theorem transact_ok (h : exec (transact transaction) store = (.ok (), store')) :
    transaction store = .ok store' := by
  rw [transact, exec_get_bind] at h
  obtain ⟨written, hwritten, h⟩ := check_bind_ok.mp h
  cases h
  exact hwritten

theorem transactWith_error {α : Type} {transaction : Store → CoreResult (α × Store)}
    (h : exec (transactWith transaction) store = (.error e, store')) : store' = store := by
  rw [transactWith, exec_get_bind] at h
  rcases check_bind_cases h with ⟨_, _, _, rfl⟩ | ⟨_, _, h⟩
  · rfl
  · cases h

theorem transactWith_ok {α : Type} {transaction : Store → CoreResult (α × Store)} {a : α}
    (h : exec (transactWith transaction) store = (.ok a, store')) :
    transaction store = .ok (a, store') := by
  rw [transactWith, exec_get_bind] at h
  obtain ⟨written, hwritten, h⟩ := check_bind_ok.mp h
  cases h
  exact hwritten

theorem exec_getModelSyncJob (id : String) : exec (getModelSyncJob X uuid id) store =
    ((loadModelSyncJob X uuid id store).map StoredModelSyncJob.job, store) := by
  rw [getModelSyncJob, exec_get_bind]
  cases hload : loadModelSyncJob X uuid id store with
  | error e => exact exec_bind_of_error (exec_check _ _)
  | ok stored => exact exec_bind_of_ok (exec_check _ _)

/-- A method that first reads a job fails with it, or goes on with what it read. -/
theorem get_bind_cases {α : Type} {id : String} {f : ModelSyncJob → StorageM α}
    {r : CoreResult α} (h : exec (getModelSyncJob X uuid id >>= f) store = (r, store')) :
    (∃ e, r = .error e ∧ store' = store) ∨ ∃ stored, loadModelSyncJob X uuid id store = .ok stored ∧
        exec (f stored.job) store = (r, store') := by
  rcases bind_cases h with ⟨e, hget, rfl⟩ | ⟨job, middle, hget, h⟩
  · rw [exec_getModelSyncJob] at hget
    exact .inl ⟨e, rfl, (Prod.mk.inj hget).2.symm⟩
  · rw [exec_getModelSyncJob] at hget
    obtain ⟨hjob, rfl⟩ := Prod.mk.inj hget
    cases hload : loadModelSyncJob X uuid id store with
    | error e =>
      rw [hload] at hjob
      cases hjob
    | ok stored =>
      rw [hload] at hjob
      obtain rfl : stored.job = job := Except.ok.inj hjob
      exact .inr ⟨stored, rfl, h⟩

/-- A method left the storage as it was, or took effect by one transaction and answers with the
    job that it then read. -/
def Takes (X : Externals) (uuid id : String) (transaction : Store → CoreResult Store)
    (store : Store) (r : CoreResult ModelSyncJob) (store' : Store) : Prop :=
  store' = store ∨ transaction store = .ok store' ∧
    r = (loadModelSyncJob X uuid id store').map StoredModelSyncJob.job

theorem takes_of_exec {id : String}
    (h : exec (do
      transact transaction
      getModelSyncJob X uuid id) store = (r, store')) :
    Takes X uuid id transaction store r store' := by
  rcases bind_cases h with ⟨e, htransact, rfl⟩ | ⟨_, middle, htransact, h⟩
  · exact .inl (transact_error htransact)
  · rw [exec_getModelSyncJob] at h
    obtain ⟨rfl, rfl⟩ := Prod.mk.inj h
    exact .inr ⟨transact_ok htransact, rfl⟩

theorem markModelSyncJobCommitting_takes {id : String} {revision : Nat}
    (h : exec (markModelSyncJobCommitting X uuid id revision sha256 now) store = (r, store')) :
    Takes X uuid id (markCommittingTransaction X uuid id revision sha256 now) store r store' := by
  rcases get_bind_cases h with ⟨_, _, rfl⟩ | ⟨stored, _, h⟩
  · exact .inl rfl
  by_cases hcompd : stored.job.state = .completed
  · rw [if_pos hcompd] at h
    rcases check_bind_cases h with ⟨_, _, _, rfl⟩ | ⟨_, _, h⟩
    · exact .inl rfl
    · exact .inl (Prod.mk.inj h).2.symm
  · rw [if_neg hcompd] at h
    exact takes_of_exec h

theorem commitModelSyncJob_takes {id : String} {revision : Nat}
    (h : exec (commitModelSyncJob X uuid id revision now) store = (r, store')) :
    Takes X uuid id (commitTransaction X uuid id revision now) store r store' := by
  rcases get_bind_cases h with ⟨_, _, rfl⟩ | ⟨stored, _, h⟩
  · exact .inl rfl
  by_cases hcompd : stored.job.state = .completed
  · rw [if_pos hcompd] at h
    exact .inl (Prod.mk.inj h).2.symm
  · rw [if_neg hcompd] at h
    exact takes_of_exec h

theorem failModelSyncJob_takes {id : String} {revision : Nat} {failure : ModelSyncFailure}
    (h : exec (failModelSyncJob X uuid id revision failure now) store = (r, store')) :
    store' = store ∨ validateFailure uuid failure = .ok () ∧
      ∃ state : ModelSyncState, state.isFinished = false ∧
        Takes X uuid id (transitionTransaction X uuid id revision state .failed
          (progress 4 "model_sync.failed") none (some failure) now) store r store' := by
  rcases check_bind_cases h with ⟨_, _, _, rfl⟩ | ⟨_, hval, h⟩
  · exact .inl rfl
  rcases get_bind_cases h with ⟨_, _, rfl⟩ | ⟨stored, _, h⟩
  · exact .inl rfl
  cases hfin : stored.job.state.isFinished with
  | true =>
    rw [if_pos hfin] at h
    exact .inl (Prod.mk.inj h).2.symm
  | false =>
    rw [if_neg (by rw [hfin]; decide)] at h
    exact .inr ⟨hval, stored.job.state, hfin, takes_of_exec h⟩

theorem cancelModelSyncJob_takes {id : String}
    (h : exec (cancelModelSyncJob X uuid id now) store = (r, store')) :
    store' = store ∨ ∃ (state : ModelSyncState) (revision : Nat),
      state.isFinished = false ∧ state ≠ .committing ∧
        Takes X uuid id (transitionTransaction X uuid id revision state .cancelled
          (progress 4 "model_sync.cancelled") none none now) store r store' := by
  rcases get_bind_cases h with ⟨_, _, rfl⟩ | ⟨stored, _, h⟩
  · exact .inl rfl
  by_cases hcanc : stored.job.state = .cancelled
  · rw [if_pos hcanc] at h
    exact .inl (Prod.mk.inj h).2.symm
  rw [if_neg hcanc] at h
  rcases check_bind_cases h with ⟨_, _, _, rfl⟩ | ⟨_, hfin, h⟩
  · exact .inl rfl
  rcases check_bind_cases h with ⟨_, _, _, rfl⟩ | ⟨_, hcommitting, h⟩
  · exact .inl rfl
  exact .inr ⟨stored.job.state, stored.job.revision, require_ok.mp hfin,
    require_ok.mp hcommitting, takes_of_exec h⟩

/-- A call that answers with the job of a method. -/
theorem respond_cases
    (h : exec (do
      let job ← method
      return Response.job job) store = (outcome, store')) :
    ∃ r, exec method store = (r, store') ∧ outcome = r.map Response.job := by
  rcases bind_cases h with ⟨e, hmethod, rfl⟩ | ⟨job, middle, hmethod, h⟩
  · exact ⟨_, hmethod, rfl⟩
  · obtain ⟨rfl, rfl⟩ := Prod.mk.inj h
    exact ⟨_, hmethod, rfl⟩

theorem map_load_eq_jobResponse {id : String} :
    ((loadModelSyncJob X uuid id store).map StoredModelSyncJob.job).map Response.job =
      jobResponse X uuid id store := by
  rw [jobResponse]
  cases loadModelSyncJob X uuid id store <;> rfl

/-- A method that moves the job it is called for is one of the moves that a call can ask for. -/
theorem Takes.effect {id : String} (h : Takes X uuid id transaction store r store')
    (hmoves : transaction store = .ok store' → ∃ old new, old.id = id ∧
      operation.Requests X uuid old new ∧ Moves X store store' old new ∧ SameGraph store store') :
    Effect X uuid store operation (r.map Response.job) store' := by
  rcases h with rfl | ⟨hwritten, rfl⟩
  · exact .unchanged _ _
  · obtain ⟨old, new, rfl, hrequests, hmoves, hgraph⟩ := hmoves hwritten
    rw [map_load_eq_jobResponse]
    exact .moves hrequests hmoves hgraph

theorem run_effect (h : exec (operation.run X uuid) store = (outcome, store')) :
    Effect X uuid store operation outcome store' := by
  cases operation
  case poll id limit now =>
    rcases bind_cases h with ⟨e, hpoll, rfl⟩ | ⟨events, middle, hpoll, h⟩
    · rcases check_bind_cases hpoll with ⟨_, _, _, rfl⟩ | ⟨_, _, hpoll⟩
      · exact .unchanged _ _
      · obtain rfl := transactWith_error hpoll
        exact .unchanged _ _
    · obtain ⟨rfl, rfl⟩ := Prod.mk.inj h
      obtain ⟨_, _, hpoll⟩ := check_bind_ok.mp hpoll
      obtain ⟨rfl, rfl⟩ := pollTransaction_ok (transactWith_ok hpoll)
      exact .polls id limit now
  case ack id sequence now =>
    rcases bind_cases h with ⟨e, hack, rfl⟩ | ⟨acknowledged, middle, hack, h⟩
    · rcases check_bind_cases hack with ⟨_, _, _, rfl⟩ | ⟨_, _, hack⟩
      · exact .unchanged _ _
      · obtain rfl := transactWith_error hack
        exact .unchanged _ _
    · obtain ⟨rfl, rfl⟩ := Prod.mk.inj h
      obtain ⟨_, _, hack⟩ := check_bind_ok.mp hack
      obtain ⟨rfl, rfl⟩ := ackTransaction_ok (transactWith_ok hack)
      exact .acknowledges id sequence now
  case recover now =>
    rcases bind_cases h with ⟨e, hrecover, rfl⟩ | ⟨_, middle, hrecover, h⟩
    · obtain rfl := transact_error hrecover
      exact .unchanged _ _
    · obtain ⟨rfl, rfl⟩ := Prod.mk.inj h
      exact .recovers now (recoverTransaction_interrupts (transact_ok hrecover))
  all_goals obtain ⟨r, hmethod, rfl⟩ := respond_cases h
  case create id now connection =>
    rcases takes_of_exec hmethod with rfl | ⟨hwritten, rfl⟩
    · exact .unchanged _ _
    · rw [map_load_eq_jobResponse]
      exact .creates (createTransaction_creates hwritten)
  case startFetching id revision now =>
    refine (takes_of_exec hmethod).effect fun hwritten => ?_
    obtain ⟨-, old, hid, hrev, hmoves, hgraph⟩ := transitionTransaction_moves
      (fun row hrow => .fetch now hrow) hwritten
    exact ⟨old, _, hid, ⟨hid, hrev, rfl⟩, hmoves, hgraph⟩
  case storeReview id revision review now =>
    refine (takes_of_exec hmethod).effect fun hwritten => ?_
    obtain ⟨old, json, hid, hrev, hrevd, hmoves, hgraph⟩ := storeReviewTransaction_moves hwritten
    exact ⟨old, _, hid, ⟨hid, hrev, json, hrevd, rfl⟩, hmoves, hgraph⟩
  case markCommitting id revision sha256 now =>
    refine (markModelSyncJobCommitting_takes hmethod).effect fun hwritten => ?_
    obtain ⟨old, hid, hrev, hmoves, hgraph⟩ := markCommittingTransaction_moves hwritten
    exact ⟨old, _, hid, ⟨hid, hrev, rfl⟩, hmoves, hgraph⟩
  case commit id revision now =>
    rcases commitModelSyncJob_takes hmethod with rfl | ⟨hwritten, rfl⟩
    · exact .unchanged _ _
    · obtain ⟨old, rfl, rfl, hcommits, hmoves⟩ := commitTransaction_moves hwritten
      rw [map_load_eq_jobResponse]
      exact .commits now hcommits hmoves
  case fail id revision failure now =>
    rcases failModelSyncJob_takes hmethod with rfl | ⟨hval, state, hfin, htakes⟩
    · exact .unchanged _ _
    refine htakes.effect fun hwritten => ?_
    obtain ⟨hsize, old, hid, hrev, hmoves, hgraph⟩ := transitionTransaction_moves
      (fun row hrow => .fail failure now (hrow ▸ hfin)) hwritten
    exact ⟨old, _, hid, ⟨hid, hrev, decodeFailure_ok hval (hsize _ rfl), rfl⟩, hmoves, hgraph⟩
  case cancel id now =>
    rcases cancelModelSyncJob_takes hmethod with rfl | ⟨state, revision, hfin, hcommitting, htakes⟩
    · exact .unchanged _ _
    refine htakes.effect fun hwritten => ?_
    obtain ⟨-, old, hid, -, hmoves, hgraph⟩ := transitionTransaction_moves
      (fun row hrow => .cancel now (hrow ▸ hfin) (hrow ▸ hcommitting)) hwritten
    exact ⟨old, _, hid, ⟨hid, rfl⟩, hmoves, hgraph⟩

end LorePia.ModelSync
