import LorePia.Discovery.Invariant

namespace LorePia.Discovery

open Lib List Avoids Option ProviderDiscoverySession

/-!
# Provider discovery — when a step breaks the session contract

`apply` reports `InvalidSession` when the current session, or the successor it has just
built, fails its own contract.  On a reachable session the only way there is the
reconciliation `LosesApproval`, whose sibling arms clear the bound approval and which
does not.

* `keeps_stage` — on a coherent session no arm misses a field it requires;
* `apply_keeps_contract_iff` — the exact condition.
-/

variable {X : Externals} {s : ProviderDiscoverySession} {action : ProviderDiscoveryAction}

/-! ### No arm misses a required field -/

/-- The error that reports a broken session. -/
def DiscoveryTransitionError.IsInvalidSession : DiscoveryTransitionError → Prop
  | .invalidSession _ => True
  | _ => False

/-- The program never reports a broken session. -/
abbrev KeepsSession {α : Type} (x : Except DiscoveryTransitionError α) : Prop :=
  Avoids DiscoveryTransitionError.IsInvalidSession x

private theorem keeps_check {check : Except DiscoveryContractError Unit} :
    KeepsSession (checkAction check) :=
  avoids_mapError fun _ h => h

/-- An arm that only checks its action. -/
private theorem keeps_checked {check : Except DiscoveryContractError Unit} :
    KeepsSession (checkAction check >>= fun _ => pure t) :=
  keeps_check.bind fun _ _ => avoids_pure

private theorem keeps_runCompensation (h : s.commitAttemptId.isSome = true) :
    KeepsSession (runCompensation s reason) :=
  (avoids_okOr h).bind fun _ _ => avoids_pure

private theorem keeps_effectForOperation (h : s.Resumable op) :
    KeepsSession (effectForOperation s op) := by
  cases op with
  | buildAssistantManifestDraft | probeCapabilities =>
    exact (avoids_okOr (h.approval rfl)).bind fun _ _ => avoids_pure
  | atomicCommit =>
    refine (avoids_okOr (h.attempt rfl)).bind fun _ _ => ?_
    exact (avoids_okOr (h.plan rfl)).bind fun _ _ => avoids_pure
  | compensation => exact (avoids_okOr (h.attempt rfl)).bind fun _ _ => avoids_pure
  | _ => exact avoids_pure

private theorem keeps_commitCompleted (h : s.commitAttemptId.isSome = true) :
    KeepsSession (commitCompleted s connectionId) := by
  refine .ite (fun _ => ?_) fun _ => avoids_pure
  exact (keeps_runCompensation h).bind fun _ _ => avoids_pure

private theorem keeps_resolveUnknownOutcome (hs : s.state = .unknownOutcome) (hc : s.Coherent) :
    KeepsSession (resolveUnknownOutcome s action resolution) := by
  obtain ⟨_, _, op, ho, hres⟩ := (coherent_unknownOutcome hs).mp hc
  cases resolution with
  | confirmedNoEffect =>
    refine (avoids_okOr (by rw [ho]; rfl)).bind fun _ _ => ?_
    exact .ite (fun _ => .ite (fun _ => avoids_pure) fun _ => avoids_pure)
      fun _ => avoids_pure
  | confirmedCommitCompleted connectionId =>
    refine (avoids_require fun h => h).bind fun _ hcommit => ?_
    obtain rfl := some.inj (ho.symm.trans (require_ok.mp hcommit))
    exact keeps_commitCompleted (s := { s with unknownOperation := none }) (hres.attempt rfl)
  | confirmedCompensated => exact (avoids_require fun h => h).bind fun _ _ => avoids_pure
  | manuallyReconciledAsFailed => exact avoids_pure

private theorem keeps_freshEvidenceAllowed :
    KeepsSession (freshEvidenceAllowed X s source) := by
  unfold freshEvidenceAllowed
  split
  · exact avoids_pure
  · exact (avoids_mapError fun _ h => h).bind fun _ _ => avoids_pure
  · split
    · exact avoids_pure
    · exact avoids_pure

private theorem keeps_applyStateAction (hc : s.Coherent) :
    KeepsSession (applyStateAction X s action) := by
  -- only the saga, restart and reconciliation arms read a field that could be missing
  have hactv : ∀ {k}, s.state = stateForOperation k → s.Resumable k := fun hs =>
    ((coherent_active hs).mp hc).resumable
  unfold applyStateAction
  split
  next => exact avoids_pure
  next => exact .ite (fun _ => avoids_pure) fun _ => avoids_pure
  next => exact avoids_pure
  next => exact avoids_pure
  next => exact avoids_pure
  next => split <;> exact avoids_pure
  next => exact keeps_check.bind fun _ _ => keeps_checked
  next => exact keeps_checked
  next =>
    refine keeps_check.bind fun _ _ => keeps_freshEvidenceAllowed.bind fun _ _ => ?_
    exact (avoids_require fun h => h).bind fun _ _ => avoids_pure
  next => exact avoids_pure
  next => exact keeps_checked
  next => exact avoids_pure
  next => exact keeps_checked
  next => exact keeps_checked
  next => exact avoids_pure
  next => exact (avoids_require fun h => h).bind fun _ _ => avoids_pure
  next =>
    refine keeps_check.bind fun _ _ => (avoids_require fun h => h).bind fun _ _ => ?_
    exact .ite (fun _ => avoids_pure) fun _ => avoids_pure
  next => exact avoids_pure
  next => exact .ite (fun _ => avoids_pure) fun _ => avoids_pure
  next => exact keeps_checked
  next => exact avoids_pure
  next => exact avoids_pure
  next => exact keeps_checked
  next hs => exact keeps_commitCompleted ((hactv (k := .atomicCommit) hs).attempt rfl)
  next => exact keeps_checked
  next => exact (avoids_require fun h => h).bind fun _ _ => keeps_checked
  next hs =>
    refine (avoids_require fun h => h).bind fun _ _ => ?_
    exact (keeps_runCompensation ((hactv (k := .compensation) hs).attempt rfl)).bind
      fun _ _ => avoids_pure
  next hs =>
    exact (keeps_runCompensation ((hactv (k := .atomicCommit) hs).attempt rfl)).bind
      fun _ _ => avoids_pure
  next => exact (avoids_require fun h => h).bind fun _ _ => avoids_pure
  next => exact avoids_pure
  next => exact (avoids_require fun h => h).bind fun _ _ => avoids_pure
  next hs =>
    obtain ⟨_, _, op, hrec, hres⟩ := (coherent_interrupted hs).mp hc
    refine (avoids_okOr (by rw [hrec]; rfl)).bind fun checkpoint hcheckpoint => ?_
    obtain rfl := some.inj (hrec.symm.trans (okOr_ok.mp hcheckpoint))
    exact (keeps_effectForOperation hres).bind fun _ _ => avoids_pure
  next hs => exact keeps_resolveUnknownOutcome hs hc
  next => exact avoids_error fun h => h

/-- On a coherent session no arm misses a field it requires. -/
theorem keeps_stage (hc : s.Coherent) : KeepsSession (stage X s action) := by
  unfold stage
  split
  next =>
    unfold applyCancel
    refine .ite (fun _ => avoids_error fun h => h) fun _ => ?_
    refine .ite (fun _ => avoids_error fun h => h) fun _ => ?_
    refine .ite (fun _ => avoids_pure) fun _ => ?_
    split
    · exact .ite (fun _ => avoids_pure) fun _ => avoids_pure
    · exact avoids_pure
  next =>
    unfold applyInterrupt
    refine .ite (fun _ => avoids_error fun h => h) fun _ => ?_
    split
    · refine .ite (fun _ => ?_) fun _ => avoids_pure
      exact .ite (fun _ => avoids_pure) fun _ => avoids_pure
    · exact avoids_pure
  next => exact (avoids_require fun h => h).bind fun _ _ => keeps_checked
  next =>
    refine .ite (fun _ => ?_) fun _ => keeps_applyStateAction hc
    exact (avoids_require fun h => h).bind fun _ _ => avoids_pure

/-! ### The exact condition -/

/-- `apply` does not report a broken session. -/
def NeverInvalidSession (X : Externals) (s : ProviderDiscoverySession)
    (eventId : DiscoveryEventId) (envelope : DiscoveryActionEnvelope) : Prop :=
  ∀ error, s.apply X eventId envelope ≠ .error (.invalidSession error)

/-- The successor of every arm that the action selects passes `validate` once sealed. -/
def SuccessorsValid (X : Externals) (s : ProviderDiscoverySession)
    (action : ProviderDiscoveryAction) : Prop :=
  ∀ staged, stage X s action = .ok staged → (staged.sealed s).validate X = .ok ()

theorem ProviderDiscoverySession.Sound.validate (h : s.Sound X) : s.validate X = .ok () :=
  (validate_ok_iff X).mpr (h.coherent.wellFormed h.values)

/-- A step of a sound session ends in a sound session, the defective one apart. -/
theorem Stages.sound (h : Stages X s action staged) (hs : s.Sound X)
    (hok : ¬ LosesApproval s action) : (staged.sealed s).Sound X :=
  ⟨valuesValid_sealed (h.valuesValid hs.values), coherent_sealed.mpr (h.coherent hs.coherent hok)⟩

/-- The defective reconciliation is an accepted arm. -/
private theorem stage_of_losesApproval (hlose : LosesApproval s action) :
    ∃ staged, stage X s action = .ok staged := by
  obtain ⟨hs, hpend, hbill, approvalId, rfl⟩ := hlose
  obtain ⟨op, ho, hop⟩ := (any_eq_true _ _).mp hbill
  obtain ⟨id, input, state, revision, sequence, recovery, unknown, manifest, plan, attempt,
    committed, pending, approval, failure⟩ := s
  dsimp only at hs hpend ho
  subst hs hpend ho
  cases op with
  | buildAssistantManifestDraft | probeCapabilities => exact ⟨_, rfl⟩
  | _ => cases hop

/-- What `apply` does on a sound session once the checks of the envelope have passed: it is
    decided by the arm and by the contract of the successor. -/
theorem apply_of_stage (eventId : DiscoveryEventId) (envelope : DiscoveryActionEnvelope)
    (hs : s.Sound X) (hwf : envelope.validate = .ok ())
    (hrev : envelope.expectedRevision = s.revision) (hrevision : s.revision < u64Max)
    (hseq : s.nextEventSequence < u64Max) (hstage : stage X s envelope.action = .ok staged) :
    s.apply X eventId envelope =
      ((staged.sealed s).validate X).mapError .invalidSession >>= fun _ =>
        .ok (sealTransition eventId s envelope staged (staged.sealed s)) := by
  unfold apply
  rw [hs.validate, hwf, hstage, require_true hrev,
    checkedAdd_of_le hrevision, checkedAdd_of_le hseq]
  rfl

/-- **When a step keeps the session contract.** On a reachable session, a well-formed and
    current action makes `apply` report a broken session, and selects a successor that fails
    `validate`, exactly at the reconciliation that loses an approval. -/
theorem apply_keeps_contract_iff {eventId : DiscoveryEventId}
    {envelope : DiscoveryActionEnvelope} (hreach : ReachableSession X s)
    (hwf : envelope.validate = .ok ()) (hrev : envelope.expectedRevision = s.revision)
    (hrevision : s.revision < u64Max) (hseq : s.nextEventSequence < u64Max) :
    (NeverInvalidSession X s eventId envelope ↔ ¬ LosesApproval s envelope.action) ∧
      (SuccessorsValid X s envelope.action ↔ ¬ LosesApproval s envelope.action) := by
  have hs := hreach.sound
  have hsuccessor : SuccessorsValid X s envelope.action ↔ ¬ LosesApproval s envelope.action := by
    constructor
    · intro hnext hlose
      obtain ⟨staged, hstaged⟩ := stage_of_losesApproval (X := X) hlose
      have hw := (validate_ok_iff X).mp (hnext staged hstaged)
      exact (stage_cases X hstaged).not_wellFormed hs.coherent hlose hw
    · intro hok staged hstaged
      exact ((stage_cases X hstaged).sound hs hok).validate
  refine ⟨?_, hsuccessor⟩
  rw [← hsuccessor]
  cases hstage : stage X s envelope.action with
  | error e =>
    -- no successor: the arm's own error is never a broken session
    refine iff_of_true ?_ ?_
    · intro error herr
      unfold apply at herr
      rw [hs.validate, hwf, require_true hrev, hstage] at herr
      obtain rfl := Except.error.inj herr
      exact keeps_stage hs.coherent _ hstage trivial
    · intro staged hstaged
      rw [hstage] at hstaged
      cases hstaged
  | ok staged =>
    have happly := apply_of_stage eventId envelope hs hwf hrev hrevision hseq hstage
    cases hval : (staged.sealed s).validate X with
    | error e =>
      rw [hval] at happly
      refine iff_of_false ?_ ?_
      · intro hnever
        exact hnever e happly
      · intro hnext
        have := hnext staged hstage
        rw [hval] at this
        cases this
    | ok u =>
      rw [hval] at happly
      refine iff_of_true ?_ ?_
      · intro error herr
        rw [happly] at herr
        cases herr
      · intro staged' hstaged'
        rw [hstage] at hstaged'
        obtain rfl := Except.ok.inj hstaged'
        exact hval

/-! ### Playing actions -/

/-- The envelope of an action at the session's revision. -/
def envelopeAt (id : DiscoveryActionId) (hash : String) (s : ProviderDiscoverySession)
    (action : ProviderDiscoveryAction) : DiscoveryActionEnvelope where
  id
  expectedRevision := s.revision
  requestSha256 := hash
  action

/-- Take actions one after another until one is refused: the steps taken and the session
    reached, computed from the arms alone. -/
def play (X : Externals) (id : DiscoveryActionId) (hash : String) (s : ProviderDiscoverySession) :
    List ProviderDiscoveryAction → List AcceptedAction × ProviderDiscoverySession
  | [] => ([], s)
  | action :: actions =>
    match stage X s action with
    | .error _ => ([], s)
    | .ok staged =>
      let envelope := envelopeAt id hash s action
      let rest := play X id hash (staged.sealed s) actions
      (⟨envelope, sealTransition id s envelope staged (staged.sealed s)⟩ :: rest.1, rest.2)

/-- An action that passes the checks of its envelope and never loses an approval. -/
structure Playable (action : ProviderDiscoveryAction) : Prop where
  grant : ∀ id hash s, isSha256 hash = true → (envelopeAt id hash s action).validate = .ok ()
  settled : ∀ s, ¬ LosesApproval s action

/-- Playing from a sound session makes a run of the machine. -/
theorem play_run {id : DiscoveryActionId} {hash : String} (hhash : isSha256 hash = true)
    (hs : s.Sound X) (hplayable : ∀ action ∈ actions, Playable action)
    (hrevision : s.revision + actions.length ≤ u64Max)
    (hseq : s.nextEventSequence + actions.length ≤ u64Max) :
    Run X s (play X id hash s actions).1 (play X id hash s actions).2 := by
  induction actions generalizing s with
  | nil => exact .nil s
  | cons action actions ih =>
    rw [forall_mem_cons] at hplayable
    obtain ⟨hplay, hplayable⟩ := hplayable
    rw [length_cons] at hrevision hseq
    rw [play]
    split
    next => exact .nil s
    next staged hstage =>
      have hnext := (stage_cases X hstage).sound hs (hplay.settled s)
      have happly := apply_of_stage id (envelopeAt id hash s action) hs (hplay.grant _ _ _ hhash)
        rfl (by omega) (by omega) hstage
      rw [hnext.validate] at happly
      refine .cons ⟨⟨id, happly⟩, rfl⟩ (ih hnext hplayable ?_ ?_)
      · show s.revision + 1 + actions.length ≤ u64Max
        omega
      · show s.nextEventSequence + 1 + actions.length ≤ u64Max
        omega

/-! ### The failing run -/

/-- The URL crate on the sample session's site, and nothing else. -/
def sampleExternals : Externals where
  url := {
    parse := fun value =>
      if value = "https://api.example.com/" then
        .ok {
          scheme := "https", host := some "api.example.com", username := "", password := none,
          path := "/", query := none, fragment := none, originAscii := "https://api.example.com" }
      else .error "relative URL without a base" }
  debugStr := fun value => "\"" ++ value ++ "\""

def sampleInput : SanitizedDiscoveryInput where
  connectionId := ⟨"connection-1"⟩
  displayName := "Example"
  siteUrl := ⟨"https://api.example.com/"⟩
  docsUrl := none
  credentialRef := none
  preferredAssistant := none
  connectionOptions := .default
  suppliedEvidenceIds := []

/-- The session that `ProviderDiscoverySession.new` makes of the sample input. -/
def sampleSession : ProviderDiscoverySession where
  id := ⟨"session-1"⟩
  input := sampleInput
  state := .draft
  revision := 0
  nextEventSequence := 1
  recovery := none
  unknownOperation := none
  manifestSha256 := none
  commitPlanSha256 := none
  commitAttemptId := none
  committedConnectionId := none
  cancellationPending := false
  activeEffectApproval := none
  failure := none

def sampleId : OpaqueId := ⟨"id-1", by decide⟩

def sampleSha256 : String := "0123456789abcdef0123456789abcdef0123456789abcdef0123456789abcdef"

theorem sampleSha256_valid : isSha256 sampleSha256 = true := by decide

theorem sampleSession_new :
    new sampleExternals ⟨"session-1"⟩ sampleInput = .ok sampleSession := by
  decide

/-- A billable operation is started, its cancellation is requested, and the process loses
    track of the outcome. -/
def lostBillableActions : List ProviderDiscoveryAction :=
  [.begin, .knownProviderCandidatesResolved 0, .documentsFetched 1,
    .evidenceExtracted .assistantRecommended, .approveAssistant sampleId sampleSha256, .cancel,
    .interrupt .buildAssistantManifestDraft .externalOutcomeUnknown]

def lostBillableSession : ProviderDiscoverySession :=
  { sampleSession with
    state := .unknownOutcome
    revision := 7
    nextEventSequence := 8
    unknownOperation := some .buildAssistantManifestDraft
    cancellationPending := true
    activeEffectApproval := some ⟨sampleId, sampleSha256⟩ }

/-- Actions other than reconciliations are playable once their grant is a digest. -/
theorem playable_of
    (hgrant : ∀ approvalId grant, action = .approveAssistant approvalId grant ∨
      action = .approveProbes approvalId grant → isSha256 grant = true)
    (h : ∀ approvalId resolution, action ≠ .resolveUnknownOutcome approvalId resolution) :
    Playable action := by
  refine ⟨?_, ?_⟩
  · intro id hash s hhash
    unfold DiscoveryActionEnvelope.validate
    rw [bind_ok]
    refine ⟨(), ?_, ?_⟩
    · show validateSha256 "request_sha256" hash = .ok ()
      simpa [validateSha256] using hhash
    dsimp only [envelopeAt]
    split
    next approvalId grant => simpa [validateSha256] using hgrant approvalId grant (Or.inl rfl)
    next approvalId grant => simpa [validateSha256] using hgrant approvalId grant (Or.inr rfl)
    next => rfl
  · rintro s ⟨-, -, -, approvalId, rfl⟩
    exact h _ _ rfl

theorem lostBillable_playable : ∀ action ∈ lostBillableActions, Playable action := by
  intro action hact
  simp only [lostBillableActions, mem_cons, not_mem_nil, or_false] at hact
  rcases hact with rfl | rfl | rfl | rfl | rfl | rfl | rfl
  all_goals exact playable_of (by simp [sampleSha256_valid]) (by simp)

theorem play_lostBillable :
    (play sampleExternals sampleId sampleSha256 sampleSession lostBillableActions).2 =
      lostBillableSession := by
  rfl

theorem lostBillable_reachable : ReachableSession sampleExternals lostBillableSession := by
  have hrun : Run sampleExternals sampleSession
      (play sampleExternals sampleId sampleSha256 sampleSession lostBillableActions).1 _ :=
    play_run sampleSha256_valid (new_sound sampleSession_new) lostBillable_playable (by decide)
      (by decide)
  rw [play_lostBillable] at hrun
  exact ⟨_, _, _, sampleSession_new, _, hrun⟩

/-- Confirming that the lost operation had no effect. -/
def lostBillableEnvelope : DiscoveryActionEnvelope :=
  envelopeAt sampleId sampleSha256 lostBillableSession
    (.resolveUnknownOutcome sampleId .confirmedNoEffect)

theorem lostBillableEnvelope_valid : lostBillableEnvelope.validate = .ok () := by
  decide

theorem lostBillable_apply :
    lostBillableSession.apply sampleExternals sampleId lostBillableEnvelope =
      .error (.invalidSession ⟨"active_effect_approval",
        "must exist exactly while an approved billable effect is active or recoverable"⟩) := by
  decide

/-- The exact condition at the lost billable operation. -/
theorem apply_keeps_contract_iff_lostBillable :
    (NeverInvalidSession sampleExternals lostBillableSession sampleId lostBillableEnvelope ↔
        ¬ LosesApproval lostBillableSession lostBillableEnvelope.action) ∧
      (SuccessorsValid sampleExternals lostBillableSession lostBillableEnvelope.action ↔
        ¬ LosesApproval lostBillableSession lostBillableEnvelope.action) :=
  apply_keeps_contract_iff lostBillable_reachable lostBillableEnvelope_valid rfl (by decide)
    (by decide)

/-- Not every well-formed, current action on a reachable session keeps the contract. -/
theorem lostBillable_breaks_contract :
    ¬ ∀ (X : Externals) (s : ProviderDiscoverySession) (eventId : DiscoveryEventId)
        (envelope : DiscoveryActionEnvelope), ReachableSession X s →
        envelope.validate = .ok () → envelope.expectedRevision = s.revision →
        s.revision < u64Max → s.nextEventSequence < u64Max →
        NeverInvalidSession X s eventId envelope := by
  intro hclaim
  exact hclaim sampleExternals lostBillableSession sampleId lostBillableEnvelope
    lostBillable_reachable lostBillableEnvelope_valid rfl (by decide) (by decide) _
    lostBillable_apply

end LorePia.Discovery
