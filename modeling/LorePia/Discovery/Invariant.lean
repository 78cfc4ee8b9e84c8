import LorePia.Discovery.Step

namespace LorePia.Discovery

open Lib DiscoveryState ProviderDiscoverySession

/-!
# Provider discovery — the session invariant

What the dependent fields of a session look like in each state (`Coherent`), that every
step keeps it but one, and what follows for the session contract.

* `Stages.coherent` — the step lemma: a step keeps coherence unless it is the defective
    reconciliation `LosesApproval`;
* `ReachableSession.sound` — every reachable session is coherent.
-/

variable {tr : List AcceptedAction} {m : ProviderDiscoverySession} {f : Option DiscoveryFailure}
  {state : DiscoveryState}

variable (X : Externals)

/-! ### States and operations -/

theorem operation_eq_some_iff :
    state.operation = some op ↔ state = stateForOperation op := by
  cases state <;> cases op <;> decide

@[simp] theorem operation_stateForOperation (op : DiscoveryOperationKind) :
    (stateForOperation op).operation = some op :=
  operation_eq_some_iff.mpr rfl

/-- The states outside every billable operation, the saga, recovery and the end. -/
def DiscoveryState.isPlain (state : DiscoveryState) : Bool :=
  match state with
  | .interrupted | .unknownOutcome | .ready | .failed | .cancelled => false
  | state => state.operation.all fun op => !op.isBillable && !op.isSaga

namespace ProviderDiscoverySession

/-! ### Coherence -/

/-- No recovery marker is set and no approval is bound. -/
@[mk_iff]
structure Cleared (s : ProviderDiscoverySession) : Prop where
  recovery : s.recovery = none
  unknown : s.unknownOperation = none
  approval : s.activeEffectApproval = none

/-- The session holds what a restart of `op` needs: the approval of a billable operation,
    the recipe of a saga operation, and no approval otherwise. -/
@[mk_iff]
structure Resumable (s : ProviderDiscoverySession) (op : DiscoveryOperationKind) : Prop where
  approval : op.isBillable = true → s.activeEffectApproval.isSome = true
  noApproval : op.isBillable = false → s.activeEffectApproval = none
  plan : op.isSaga = true → s.commitPlanSha256.isSome = true
  attempt : op.isSaga = true → s.commitAttemptId.isSome = true

/-- `op` is under way. -/
@[mk_iff]
structure Active (s : ProviderDiscoverySession) (op : DiscoveryOperationKind) : Prop where
  recovery : s.recovery = none
  unknown : s.unknownOperation = none
  failure : s.state ≠ .compensating → s.failure = none
  resumable : s.Resumable op

/-- `op` was interrupted and can be restarted. -/
@[mk_iff]
structure Suspended (s : ProviderDiscoverySession) : Prop where
  unknown : s.unknownOperation = none
  failure : s.failure = none
  checkpoint : ∃ op, s.recovery = some { interruptedState := stateForOperation op, operation := op } ∧
    s.Resumable op

/-- The outcome of an operation is unknown. -/
@[mk_iff]
structure Unresolved (s : ProviderDiscoverySession) : Prop where
  recovery : s.recovery = none
  failure : s.failure = none
  operation : ∃ op, s.unknownOperation = some op ∧ s.Resumable op

/-- **Coherence.** What the dependent fields look like in each state. -/
def Coherent (s : ProviderDiscoverySession) : Prop :=
  match s.state with
  | .interrupted => s.Suspended
  | .unknownOutcome => s.Unresolved
  | .ready => s.Cleared ∧ s.failure = none ∧ s.committedConnectionId.isSome = true
  | .failed | .cancelled => s.Cleared
  | state =>
    match state.operation with
    | some op => s.Active op
    | none => s.Cleared ∧ s.failure = none

variable {s t : ProviderDiscoverySession} {k : DiscoveryOperationKind}

theorem Resumable.congr (h : s.Resumable k)
    (happroval : t.activeEffectApproval = s.activeEffectApproval)
    (hplan : t.commitPlanSha256 = s.commitPlanSha256)
    (hattempt : t.commitAttemptId = s.commitAttemptId) : t.Resumable k := by
  refine ⟨?_, ?_, ?_, ?_⟩
  · rw [happroval]
    exact h.approval
  · rw [happroval]
    exact h.noApproval
  · rw [hplan]
    exact h.plan
  · rw [hattempt]
    exact h.attempt

/-- A saga operation can be followed by the other saga operation. -/
theorem Resumable.saga (h : s.Resumable k) (hop : k.isSaga = true) (hj : j.isSaga = true) :
    s.Resumable j := by
  refine ⟨?_, ?_, fun _ => h.plan hop, fun _ => h.attempt hop⟩
  · intro hb
    rw [isBillable_eq_false_of_isSaga hj] at hb
    cases hb
  · intro _
    exact h.noApproval (isBillable_eq_false_of_isSaga hop)

/-! ### Coherence, state by state -/

theorem coherent_active (h : s.state = stateForOperation k) : s.Coherent ↔ s.Active k := by
  cases k <;> simp only [stateForOperation] at h <;> simp [Coherent, h, DiscoveryState.operation]

theorem coherent_interrupted (h : s.state = .interrupted) : s.Coherent ↔ s.Suspended := by
  simp [Coherent, h]

theorem coherent_unknownOutcome (h : s.state = .unknownOutcome) :
    s.Coherent ↔ s.Unresolved := by
  simp [Coherent, h]

theorem coherent_ready (h : s.state = .ready) :
    s.Coherent ↔ s.Cleared ∧ s.failure = none ∧ s.committedConnectionId.isSome = true := by
  simp [Coherent, h]

theorem coherent_settled (h : s.state = .failed ∨ s.state = .cancelled) :
    s.Coherent ↔ s.Cleared := by
  rcases h with h | h <;> simp [Coherent, h]

private theorem coherent_waiting (h : s.state.isPlain = true) (ho : s.state.operation = none) :
    s.Coherent ↔ s.Cleared ∧ s.failure = none := by
  generalize hs : s.state = state at h ho
  cases state <;> simp only [DiscoveryState.operation, reduceCtorEq] at ho <;>
    simp only [isPlain, Bool.false_eq_true] at h <;>
    simp [Coherent, hs, operation]

theorem coherent_plain (h : s.state.isPlain = true) :
    s.Coherent ↔ s.Cleared ∧ s.failure = none := by
  cases ho : s.state.operation with
  | none => exact coherent_waiting h ho
  | some k =>
    have hs := operation_eq_some_iff.mp ho
    have hop : k.isBillable = false ∧ k.isSaga = false ∧ stateForOperation k ≠ .compensating := by
      rw [hs] at h
      cases k <;> first | exact ⟨rfl, rfl, by decide⟩ | cases h
    rw [coherent_active hs]
    constructor
    · intro ha
      exact ⟨⟨ha.recovery, ha.unknown, ha.resumable.noApproval hop.1⟩, ha.failure (hs ▸ hop.2.2)⟩
    · rintro ⟨hcl, hf⟩
      refine ⟨hcl.recovery, hcl.unknown, fun _ => hf, ?_, fun _ => hcl.approval, ?_, ?_⟩
      · simp [hop.1]
      · simp [hop.2.1]
      · simp [hop.2.1]

/-! ### How coherence moves -/

theorem Active.failure_eq_none (h : s.Active k) (hop : k.isSaga = false)
    (hs : s.state = stateForOperation k) : s.failure = none := by
  refine h.failure ?_
  rw [hs]
  cases k <;> first | decide | cases hop

theorem Active.failure_of_saga (h : s.Active k)
    (hsaga : s.state = .compensating → s.failure = none) : s.failure = none := by
  by_cases hs : s.state = .compensating
  · exact hsaga hs
  · exact h.failure hs

/-- Starting a billable operation from an idle session binds its approval. -/
theorem Cleared.start (h : s.Cleared) (hf : s.failure = none) (hop : k.isBillable = true) :
    { s with activeEffectApproval := some b, state := stateForOperation k }.Coherent := by
  have hsaga : k.isSaga = false := by cases k <;> first | rfl | cases hop
  rw [coherent_active rfl]
  refine ⟨h.recovery, h.unknown, fun _ => hf, fun _ => rfl, ?_, ?_, ?_⟩
  · simp [hop]
  · simp [hsaga]
  · simp [hsaga]

/-- Ending an operation with its approval released leaves an idle session. -/
theorem Active.finish {m : Option String} (h : s.Active k)
    (hf : s.failure = none) (hst : state.isPlain = true) :
    { s with manifestSha256 := m, activeEffectApproval := none, state }.Coherent := by
  rw [coherent_plain hst]
  exact ⟨⟨h.recovery, h.unknown, rfl⟩, hf⟩

/-- An operation under way goes on when its cancellation flag or failure changes. -/
theorem Active.goOn (h : s.Active k) (hs : s.state = stateForOperation k)
    (hf : s.state ≠ .compensating → f = none) :
    { s with cancellationPending := p, failure := f }.Coherent := by
  have ht : { s with cancellationPending := p, failure := f }.state = stateForOperation k := hs
  rw [coherent_active ht]
  exact ⟨h.recovery, h.unknown, hf, h.resumable.congr rfl rfl rfl⟩

/-- An interrupted operation keeps what a restart needs. -/
theorem Resumable.suspend (h : s.Resumable k) (hf : s.failure = none) :
    { s with
      state := .interrupted
      recovery := some { interruptedState := stateForOperation k, operation := k }
      unknownOperation := none }.Coherent := by
  rw [coherent_interrupted rfl]
  exact ⟨rfl, hf, k, rfl, h.congr rfl rfl rfl⟩

/-- So does one whose outcome is unknown. -/
theorem Resumable.unresolve (h : s.Resumable k) (hf : s.failure = none) :
    { s with state := .unknownOutcome, recovery := none, unknownOperation := some k }.Coherent := by
  rw [coherent_unknownOutcome rfl]
  exact ⟨rfl, hf, k, rfl, h.congr rfl rfl rfl⟩

/-- A saga session whose compensation is under way. -/
theorem Resumable.compensate (h : s.Resumable k) (hop : k.isSaga = true) :
    { s with state := .compensating, recovery := none, unknownOperation := none }.Coherent := by
  have hs : { s with state := .compensating, recovery := none, unknownOperation := none }.state =
        stateForOperation .compensation := rfl
  rw [coherent_active hs]
  exact ⟨rfl, rfl, fun hne => absurd rfl hne, (h.saga hop rfl).congr rfl rfl rfl⟩

theorem coherent_clearRecoveryMarkers (hst : state = .failed ∨ state = .cancelled) :
    (clearRecoveryMarkers
      { s with state, failure := f, cancellationPending := p }).Coherent := by
  rw [coherent_settled hst]
  exact ⟨rfl, rfl, rfl⟩

theorem settledState_cases (pending : Bool) :
    settledState pending = .failed ∨ settledState pending = .cancelled := by
  cases pending
  · exact Or.inl rfl
  · exact Or.inr rfl

theorem coherent_settle (hr : s.recovery = none) (hu : s.unknownOperation = none) :
    { settle s with failure := f }.Coherent := by
  rw [coherent_settled (settledState_cases s.cancellationPending)]
  exact ⟨hr, hu, rfl⟩

end ProviderDiscoverySession

/-! ### The step lemma -/

open ProviderDiscoverySession

/-- **The defective reconciliation.** A billable operation of unknown outcome is confirmed to
    have had no effect while a cancellation is pending: the session is cancelled with its
    approval still bound. -/
def LosesApproval (s : ProviderDiscoverySession) (action : ProviderDiscoveryAction) : Prop :=
  s.state = .unknownOutcome ∧ s.cancellationPending = true ∧
    s.unknownOperation.any DiscoveryOperationKind.isBillable = true ∧
    ∃ approvalId, action = .resolveUnknownOutcome approvalId .confirmedNoEffect

variable {X} {s : ProviderDiscoverySession} {action : ProviderDiscoveryAction}
  {t : StagedTransition}

private theorem plain_of (hc : s.Coherent) (hs : s.state = state) (hp : state.isPlain = true) :
    s.Cleared ∧ s.failure = none :=
  (coherent_plain (hs ▸ hp)).mp hc

/-- **Table step.** Every arm keeps coherence, the defective reconciliation apart. -/
theorem TableArm.coherent (h : TableArm X s action t) (hc : s.Coherent)
    (hok : ¬ LosesApproval s action) : t.next.Coherent := by
  cases h with
  | begin hs | candidatesAbsent hs | candidatesFound hs _ | selectTemplate hs
  | continueWithoutTemplate hs | documentsFetched hs | draftAvailable hs
  | assistantRecommended hs | moreEvidenceRequired hs | supplyMoreEvidence hs _
  | supplyFreshEvidence hs _ _ | requestAssistant hs | declineAssistant hs
  | manifestNeedsApproval hs _ _ | manifestValidated hs _ _ | approveCredentialOrigin hs
  | modelsWithoutProbes hs | modelsWithProbes hs _ | skipProbes hs =>
    -- from one idle state to another: no dependent field is touched
    obtain ⟨hcl, hf⟩ := plain_of hc hs rfl
    exact (coherent_plain rfl).mpr ⟨⟨hcl.recovery, hcl.unknown, hcl.approval⟩, hf⟩
  | resumeAssistant hs _ | approveAssistant hs _ =>
    obtain ⟨hcl, hf⟩ := plain_of hc hs rfl
    exact hcl.start (k := .buildAssistantManifestDraft) hf rfl
  | approveProbes hs _ =>
    obtain ⟨hcl, hf⟩ := plain_of hc hs rfl
    exact hcl.start (k := .probeCapabilities) hf rfl
  | manifestDraftBuilt hs _ =>
    rcases hs with hs | hs
    · obtain ⟨hcl, hf⟩ := plain_of hc hs rfl
      exact (coherent_plain rfl).mpr ⟨⟨hcl.recovery, hcl.unknown, rfl⟩, hf⟩
    · have ha := (coherent_active (k := .buildAssistantManifestDraft) hs).mp hc
      exact ha.finish (ha.failure_eq_none rfl hs) rfl
  | assistantCheckpointed hs => exact hc
  | assistantRequestedMoreEvidence hs _ =>
    have ha := (coherent_active (k := .buildAssistantManifestDraft) hs).mp hc
    exact ha.finish (m := s.manifestSha256) (ha.failure_eq_none rfl hs) rfl
  | probesCompleted hs =>
    have ha := (coherent_active (k := .probeCapabilities) hs).mp hc
    exact ha.finish (m := s.manifestSha256) (ha.failure_eq_none rfl hs) rfl
  | approveReview hs _ =>
    obtain ⟨hcl, hf⟩ := plain_of hc hs rfl
    rw [coherent_active (k := .atomicCommit) rfl]
    exact ⟨hcl.recovery, hcl.unknown, fun _ => hf, by simp [DiscoveryOperationKind.isBillable],
      fun _ => hcl.approval, fun _ => rfl, fun _ => rfl⟩
  | commitSucceeded hs _ =>
    have ha := (coherent_active (k := .atomicCommit) hs).mp hc
    rw [coherent_ready rfl]
    exact ⟨⟨ha.recovery, ha.unknown, ha.resumable.noApproval rfl⟩,
      ha.failure (by rw [hs]; decide), rfl⟩
  | commitSucceededPending hs _ _ | compensationRequired hs _ =>
    have ha := (coherent_active (k := .atomicCommit) hs).mp hc
    have hnext := ha.resumable.compensate rfl
    rw [coherent_active (k := .compensation) rfl] at hnext ⊢
    exact ⟨ha.recovery, ha.unknown, fun hne => absurd rfl hne, hnext.resumable.congr rfl rfl rfl⟩
  | commitFailedBeforeApply hs _ =>
    have ha := (coherent_active (k := .atomicCommit) hs).mp hc
    exact coherent_settle ha.recovery ha.unknown
  | compensationFailed hs _ _ | resumeCompensation hs _ _ =>
    have ha := (coherent_active (k := .compensation) hs).mp hc
    exact ha.goOn (p := s.cancellationPending) hs fun hne => absurd hs hne
  | compensationSucceeded hs _ =>
    have ha := (coherent_active (k := .compensation) hs).mp hc
    exact coherent_settle (f := s.failure) ha.recovery ha.unknown
  | commitBecameUnknown hs =>
    have ha := (coherent_active (k := .atomicCommit) hs).mp hc
    exact ha.resumable.unresolve (ha.failure (by rw [hs]; decide))
  | compensationBecameUnknown hs hnone =>
    have ha := (coherent_active (k := .compensation) hs).mp hc
    exact ha.resumable.unresolve hnone
  | restartInterrupted hs hr _ =>
    obtain ⟨_, hf, op, hrec, hres⟩ := (coherent_interrupted hs).mp hc
    obtain rfl := Option.some.inj (hr.symm.trans hrec)
    rw [coherent_active (k := op) rfl]
    exact ⟨rfl, rfl, fun _ => hf, hres.congr rfl rfl rfl⟩
  | noEffectSaga hs ho _ hop =>
    obtain ⟨_, hf, op', ho', hres⟩ := (coherent_unknownOutcome hs).mp hc
    obtain rfl := Option.some.inj (ho.symm.trans ho')
    exact (hres.saga (j := .compensation) hop rfl).suspend hf
  | noEffectCancelled hs ho hpend _ =>
    obtain ⟨_, _, op', ho', hres⟩ := (coherent_unknownOutcome hs).mp hc
    obtain rfl := Option.some.inj (ho.symm.trans ho')
    rw [coherent_settled (Or.inr rfl)]
    refine ⟨rfl, rfl, hres.noApproval ?_⟩
    by_contra hbill
    exact hok ⟨hs, hpend, by simpa [ho] using hbill, _, rfl⟩
  | noEffectInterrupted hs ho _ =>
    obtain ⟨_, hf, op', ho', hres⟩ := (coherent_unknownOutcome hs).mp hc
    obtain rfl := Option.some.inj (ho.symm.trans ho')
    exact hres.suspend hf
  | confirmedCommit hs ho _ =>
    obtain ⟨hrec, hf, op', ho', hres⟩ := (coherent_unknownOutcome hs).mp hc
    obtain rfl := Option.some.inj (ho.symm.trans ho')
    rw [coherent_ready rfl]
    exact ⟨⟨hrec, rfl, hres.noApproval rfl⟩, hf, rfl⟩
  | confirmedCommitPending hs ho _ _ =>
    obtain ⟨hrec, hf, op', ho', hres⟩ := (coherent_unknownOutcome hs).mp hc
    obtain rfl := Option.some.inj (ho.symm.trans ho')
    rw [coherent_active (k := .compensation) rfl]
    exact ⟨hrec, rfl, fun hne => absurd rfl hne, (hres.saga rfl rfl).congr rfl rfl rfl⟩
  | confirmedCompensated hs _ _ | manuallyReconciledAsFailed hs =>
    have hu := (coherent_unknownOutcome hs).mp hc
    exact coherent_settle (s := { s with unknownOperation := none }) (f := s.failure)
      hu.recovery rfl

/-- **Step lemma.** Every step keeps coherence, the defective reconciliation apart. -/
theorem Stages.coherent (h : Stages X s action t) (hc : s.Coherent)
    (hok : ¬ LosesApproval s action) : t.next.Coherent := by
  cases h with
  | cancelCompensating hs =>
    have ha := (coherent_active (k := .compensation) hs).mp hc
    exact ha.goOn hs ha.failure
  | cancelAgain _ _ _ => exact hc
  | cancelOperation ho _ _ =>
    have hs := operation_eq_some_iff.mp ho
    have ha := (coherent_active hs).mp hc
    exact ha.goOn hs ha.failure
  | cancelIdle _ _ _ =>
    exact coherent_clearRecoveryMarkers (f := s.failure) (p := s.cancellationPending) (Or.inr rfl)
  | interruptSaga ho hf _ hop =>
    have ha := (coherent_active (operation_eq_some_iff.mp ho)).mp hc
    exact (ha.resumable.saga (j := .compensation) hop rfl).suspend (ha.failure_of_saga hf)
  | interruptCancelled _ _ _ _ => exact coherent_clearRecoveryMarkers (f := s.failure) (Or.inr rfl)
  | interruptCheckpoint ho hf _ =>
    have hs := operation_eq_some_iff.mp ho
    have ha := (coherent_active hs).mp hc
    rw [hs]
    exact ha.resumable.suspend (ha.failure_of_saga hf)
  | interruptUnknown ho hf =>
    have ha := (coherent_active (operation_eq_some_iff.mp ho)).mp hc
    exact ha.resumable.unresolve (ha.failure_of_saga hf)
  | fail _ _ _ => exact coherent_clearRecoveryMarkers (settledState_cases _)
  | completePending _ _ _ => exact coherent_clearRecoveryMarkers (f := s.failure) (Or.inr rfl)
  | table _ harm => exact harm.coherent hc hok

/-! ### Stored values -/

variable (X)

/-- Every stored value passes its own check. -/
structure ProviderDiscoverySession.ValuesValid (s : ProviderDiscoverySession) : Prop where
  input : s.input.validate X = .ok ()
  sequence : s.nextEventSequence ≠ 0
  plan : ∀ hash, s.commitPlanSha256 = some hash → isSha256 hash = true
  manifest : ∀ hash, s.manifestSha256 = some hash → isSha256 hash = true
  approval : ∀ b, s.activeEffectApproval = some b → isSha256 b.grantSha256 = true
  failure : ∀ f, s.failure = some f → f.validate = .ok ()

variable {X}

theorem ProviderDiscoverySession.WellFormed.valuesValid (h : s.WellFormed X) :
    s.ValuesValid X :=
  ⟨h.input, h.sequence, h.plan, h.manifest, h.approval, fun f hf => (h.failure f hf).1⟩

private theorem of_some {α : Type} {P : α → Prop} {x : α} (h : P x) :
    ∀ y, some x = some y → P y := by
  rintro y ⟨⟩
  exact h

private theorem of_none {α : Type} {P : α → Prop} : ∀ y, (none : Option α) = some y → P y := by
  intro y h
  cases h

/-- A table arm stores checked values only. -/
theorem TableArm.valuesValid (h : TableArm X s action t) (hv : s.ValuesValid X) :
    t.next.ValuesValid X := by
  obtain ⟨hin, hseq, hplan, hman, happ, hfail⟩ := hv
  cases h with
  | resumeAssistant _ hb | approveAssistant _ hb | approveProbes _ hb =>
    exact ⟨hin, hseq, hplan, hman, of_some hb, hfail⟩
  | manifestDraftBuilt _ hh => exact ⟨hin, hseq, hplan, of_some hh, of_none, hfail⟩
  | manifestNeedsApproval _ hh _ | manifestValidated _ hh _ =>
    exact ⟨hin, hseq, hplan, of_some hh, happ, hfail⟩
  | assistantRequestedMoreEvidence _ _ | probesCompleted _ | compensationSucceeded _ _
  | confirmedCompensated _ _ _ | manuallyReconciledAsFailed _ =>
    exact ⟨hin, hseq, hplan, hman, of_none, hfail⟩
  | approveReview _ hp => exact ⟨hin, hseq, of_some hp, hman, happ, hfail⟩
  | commitFailedBeforeApply _ hf => exact ⟨hin, hseq, hplan, hman, of_none, of_some hf⟩
  | compensationFailed _ _ hf => exact ⟨hin, hseq, hplan, hman, happ, of_some hf⟩
  | resumeCompensation _ _ _ => exact ⟨hin, hseq, hplan, hman, happ, of_none⟩
  | _ => exact ⟨hin, hseq, hplan, hman, happ, hfail⟩

/-- **Values step.** A step stores checked values only. -/
theorem Stages.valuesValid (h : Stages X s action t) (hv : s.ValuesValid X) :
    t.next.ValuesValid X := by
  obtain ⟨hin, hseq, hplan, hman, happ, hfail⟩ := hv
  cases h with
  | cancelIdle _ _ _ | interruptCancelled _ _ _ _ | completePending _ _ _ =>
    exact ⟨hin, hseq, hplan, hman, of_none, hfail⟩
  | fail _ _ hf => exact ⟨hin, hseq, hplan, hman, of_none, of_some hf⟩
  | table _ harm => exact harm.valuesValid ⟨hin, hseq, hplan, hman, happ, hfail⟩
  | _ => exact ⟨hin, hseq, hplan, hman, happ, hfail⟩

/-! ### From coherence to the session contract -/

section

variable (hv : s.ValuesValid X)
include hv

private theorem failure_rule (h : s.failure = none ∨ s.state.mayCarryFailure = true) :
    ∀ f, s.failure = some f → f.validate = .ok () ∧ s.state.mayCarryFailure = true := by
  intro f hf
  refine ⟨hv.failure f hf, ?_⟩
  rcases h with h | h
  · rw [h] at hf
    cases hf
  · exact h

/-- A session with nothing bound is well formed in any state that requires nothing. -/
private theorem Cleared.wellFormed (h : s.Cleared)
    (hf : s.failure = none ∨ s.state.mayCarryFailure = true)
    (hst : s.state.isPlain = true ∨ s.state.isTerminal = true)
    (hready : s.state = .ready → s.committedConnectionId.isSome = true) : s.WellFormed X := by
  have hreq : s.approvalRequired = false ∧ s.state ≠ .interrupted ∧ s.state ≠ .unknownOutcome ∧
      s.state ≠ .committing ∧ s.state ≠ .compensating := by
    unfold approvalRequired
    generalize s.state = state at hst
    cases state <;> first | exact ⟨rfl, by decide⟩ | (exfalso; revert hst; decide)
  obtain ⟨hreq, hint, hunk, hcom, hcmp⟩ := hreq
  refine ⟨hv.input, hv.sequence, hv.plan, hv.manifest, hv.approval, failure_rule hv hf,
    ?_, ?_, ?_, fun _ => h.approval, ?_, hready⟩
  · rw [if_neg hint]
    exact h.recovery
  · rw [if_neg hunk]
    exact h.unknown
  · rw [hreq]
    exact fun h => nomatch h
  · rintro (hs | hs)
    · exact absurd hs hcom
    · exact absurd hs hcmp

private theorem Active.wellFormed (hs : s.state = stateForOperation k) (h : s.Active k) :
    s.WellFormed X := by
  have hreq : s.approvalRequired = k.isBillable := by
    unfold approvalRequired
    rw [hs]
    cases k <;> rfl
  have hne : s.state ≠ .interrupted ∧ s.state ≠ .unknownOutcome ∧ s.state ≠ .ready := by
    rw [hs]
    cases k <;> decide
  refine ⟨hv.input, hv.sequence, hv.plan, hv.manifest, hv.approval, failure_rule hv ?_,
    ?_, ?_, ?_, ?_, ?_, fun hr => absurd hr hne.2.2⟩
  · by_cases hcmp : s.state = .compensating
    · rw [hcmp]
      exact Or.inr rfl
    · exact Or.inl (h.failure hcmp)
  · rw [if_neg hne.1]
    exact h.recovery
  · rw [if_neg hne.2.1]
    exact h.unknown
  · rw [hreq]
    exact h.resumable.approval
  · intro hall
    refine h.resumable.noApproval ?_
    rw [ProviderDiscoverySession.approvalAllowed, Bool.or_eq_false_iff] at hall
    exact hreq ▸ hall.1
  · intro hsaga
    have hk : k.isSaga = true := by
      rw [hs] at hsaga
      revert hsaga
      cases k <;> decide
    exact ⟨h.resumable.plan hk, h.resumable.attempt hk⟩

private theorem Suspended.wellFormed (hs : s.state = .interrupted)
    (h : s.Suspended) : s.WellFormed X := by
  obtain ⟨hunk, hf, k, hrec, hres⟩ := h
  have hreq : s.approvalRequired = k.isBillable := by
    simp [approvalRequired, hs, hrec]
  refine ⟨hv.input, hv.sequence, hv.plan, hv.manifest, hv.approval,
    failure_rule hv (Or.inl hf), ?_, ?_, ?_, ?_, ?_, ?_⟩
  · rw [if_pos hs]
    exact ⟨_, hrec, operation_stateForOperation k⟩
  · rw [if_neg (by rw [hs]; decide)]
    exact hunk
  · rw [hreq]
    exact hres.approval
  · intro hall
    refine hres.noApproval ?_
    rw [ProviderDiscoverySession.approvalAllowed, Bool.or_eq_false_iff] at hall
    exact hreq ▸ hall.1
  · simp [hs]
  · simp [hs]

private theorem Unresolved.wellFormed (hs : s.state = .unknownOutcome)
    (h : s.Unresolved) : s.WellFormed X := by
  obtain ⟨hrec, hf, k, ho, hres⟩ := h
  refine ⟨hv.input, hv.sequence, hv.plan, hv.manifest, hv.approval,
    failure_rule hv (Or.inl hf), ?_, ?_, ?_, ?_, ?_, ?_⟩
  · rw [if_neg (by rw [hs]; decide)]
    exact hrec
  · rw [if_pos hs, ho]
    rfl
  · simp [approvalRequired, hs]
  · intro hall
    refine hres.noApproval ?_
    simpa [ProviderDiscoverySession.approvalAllowed, hs, ho] using (Bool.or_eq_false_iff.mp hall).2
  · simp [hs]
  · simp [hs]

/-- **Coherent sessions are well formed.** -/
theorem ProviderDiscoverySession.Coherent.wellFormed (hc : s.Coherent) :
    s.WellFormed X := by
  cases ho : s.state.operation with
  | some k =>
    have hs := operation_eq_some_iff.mp ho
    exact Active.wellFormed hv hs ((coherent_active hs).mp hc)
  | none =>
    by_cases hp : s.state.isPlain = true
    · obtain ⟨hcl, hf⟩ := (coherent_plain hp).mp hc
      refine Cleared.wellFormed hv hcl (Or.inl hf) (Or.inl hp) ?_
      intro hr
      rw [hr] at hp
      cases hp
    · cases hs : s.state with
      | interrupted => exact Suspended.wellFormed hv hs ((coherent_interrupted hs).mp hc)
      | unknownOutcome => exact Unresolved.wellFormed hv hs ((coherent_unknownOutcome hs).mp hc)
      | ready =>
        obtain ⟨hcl, hf, hcommd⟩ := (coherent_ready hs).mp hc
        exact Cleared.wellFormed hv hcl (Or.inl hf) (Or.inr (by rw [hs]; rfl)) fun _ => hcommd
      | failed =>
        have hcl := (coherent_settled (Or.inl hs)).mp hc
        exact Cleared.wellFormed hv hcl (Or.inr (by rw [hs]; rfl)) (Or.inr (by rw [hs]; rfl))
          fun hr => absurd (hs.symm.trans hr) (by decide)
      | cancelled =>
        have hcl := (coherent_settled (Or.inr hs)).mp hc
        exact Cleared.wellFormed hv hcl (Or.inr (by rw [hs]; rfl)) (Or.inr (by rw [hs]; rfl))
          fun hr => absurd (hs.symm.trans hr) (by decide)
      | _ => rw [hs] at ho hp; first | exact absurd rfl hp | cases ho

end

/-! ### Runs -/

/-- Sealing a successor touches the two counters only. -/
theorem coherent_sealed : (t.sealed s).Coherent ↔ t.next.Coherent := by
  simp only [Coherent, StagedTransition.sealed, cleared_iff, suspended_iff, unresolved_iff,
    active_iff, resumable_iff]

theorem valuesValid_sealed (h : t.next.ValuesValid X) : (t.sealed s).ValuesValid X :=
  ⟨h.input, Nat.succ_ne_zero _, h.plan, h.manifest, h.approval, h.failure⟩

/-- The defective reconciliation builds a session that its own contract rejects. -/
theorem Stages.not_wellFormed (h : Stages X s action t) (hc : s.Coherent)
    (hlose : LosesApproval s action) : ¬ (t.sealed s).WellFormed X := by
  obtain ⟨hs, hpend, hbill, approvalId, rfl⟩ := hlose
  obtain ⟨_, _, k, ho, hres⟩ := (coherent_unknownOutcome hs).mp hc
  have hk : k.isBillable = true := by simpa [ho] using hbill
  intro hw
  cases h with
  | completePending _ _ ha =>
    rw [hs] at ha
    cases ha
  | table _ harm =>
    cases harm with
    | noEffectSaga _ ho' _ hop =>
      obtain rfl := Option.some.inj (ho.symm.trans ho')
      rw [isBillable_eq_false_of_isSaga hop] at hk
      cases hk
    | noEffectCancelled _ _ _ _ =>
      have hnone : s.activeEffectApproval = none := hw.approvalAbsent rfl
      have hsome := hres.approval hk
      rw [hnone] at hsome
      cases hsome
    | noEffectInterrupted _ _ hc' =>
      rw [hpend] at hc'
      cases hc'

variable (X)

/-- What every reachable session satisfies. -/
structure ProviderDiscoverySession.Sound (s : ProviderDiscoverySession) : Prop where
  values : s.ValuesValid X
  coherent : s.Coherent

variable {X}

theorem new_sound {id : DiscoverySessionId} {input : SanitizedDiscoveryInput}
    (h : new X id input = .ok s) : s.Sound X := by
  obtain ⟨hw, hs, _⟩ := new_ok X h
  have hunk := hw.unknown
  have hrec := hw.recovery
  rw [hs] at hunk hrec
  refine ⟨hw.valuesValid, (coherent_plain (by rw [hs]; rfl)).mpr ⟨⟨hrec, hunk, ?_⟩, ?_⟩⟩
  · refine hw.approvalAbsent ?_
    simp [approvalAllowed, approvalRequired, hs]
  · by_contra hf
    obtain ⟨f, hf⟩ := Option.ne_none_iff_exists'.mp hf
    have := (hw.failure f hf).2
    rw [hs] at this
    cases this

/-- `apply` itself refuses the defective reconciliation. -/
theorem Step.not_losesApproval (h : Step X s l s') (hc : s.Coherent) :
    ¬ LosesApproval s l.envelope.action := by
  obtain ⟨staged, hstages, _, rfl, hw⟩ := h.cases
  intro hlose
  exact hstages.not_wellFormed hc hlose hw

/-- An accepted step keeps the invariant. -/
theorem Step.sound (h : Step X s l s') (hi : s.Sound X) : s'.Sound X := by
  have hok := h.not_losesApproval hi.coherent
  obtain ⟨staged, hstages, _, rfl, _⟩ := h.cases
  exact ⟨valuesValid_sealed (hstages.valuesValid hi.values),
    coherent_sealed.mpr (hstages.coherent hi.coherent hok)⟩

/-- **Session invariant.** Every reachable session is sound. -/
theorem ReachableSession.sound (h : ReachableSession X s) : s.Sound X := by
  obtain ⟨id, input, s₀, hnew, hreach⟩ := h
  exact hreach.invariant (fun _ _ _ hi hstep => hstep.sound hi) (new_sound hnew)

/-! ### Runs from a new session -/

private theorem operation_not_terminal (h : state.operation = some k) :
    state.isTerminal = false := by
  rw [operation_eq_some_iff.mp h]
  cases k <;> rfl

private theorem isOperationCompletion_not_terminal (h : isOperationCompletion state action = true) :
    state.isTerminal = false := by
  cases state <;> first | rfl | cases h

/-- A terminal session accepts no action. -/
theorem Stages.not_terminal (h : Stages X s action t) : s.state.isTerminal = false := by
  cases h with
  | cancelCompensating hs => rw [hs]; rfl
  | cancelIdle _ ht _ => exact ht
  | fail ht _ _ => exact ht
  | cancelAgain ho _ _ | cancelOperation ho _ _ | interruptSaga ho _ _ _
  | interruptCancelled ho _ _ _ | interruptCheckpoint ho _ _ | interruptUnknown ho _ =>
    exact operation_not_terminal ho
  | completePending _ _ ha => exact isOperationCompletion_not_terminal ha
  | table _ harm =>
    cases harm with
    | manifestDraftBuilt hs _ => rcases hs with hs | hs <;> rw [hs] <;> rfl
    | _ => rename_i hs; simp_all [DiscoveryState.isTerminal]

/-- Nor does a run go on from one. -/
theorem Run.not_terminal (h : Run X s (l :: tr) m) : s.state.isTerminal = false := by
  obtain ⟨_, hstep, _⟩ := Exec.cons_iff.mp h
  obtain ⟨_, hstages, _⟩ := hstep.cases
  exact hstages.not_terminal

variable (X) in
/-- A run of the machine from a new session with valid input. -/
def SessionRun (tr : List AcceptedAction) (s : ProviderDiscoverySession) : Prop :=
  ∃ id input s₀, ProviderDiscoverySession.new X id input = .ok s₀ ∧ Run X s₀ tr s

theorem SessionRun.reachable (h : SessionRun X tr s) :
    ReachableSession X s := by
  obtain ⟨id, input, s₀, hnew, hrun⟩ := h
  exact ⟨id, input, s₀, hnew, tr, hrun⟩

theorem SessionRun.sound (h : SessionRun X tr s) : s.Sound X :=
  h.reachable.sound

/-- A run around one of its actions. -/
theorem SessionRun.split_at (h : SessionRun X (pre ++ l :: post) s) :
    ∃ m m', SessionRun X pre m ∧ Step X m l m' ∧ Run X m' post s := by
  obtain ⟨id, input, s₀, hnew, hrun⟩ := h
  obtain ⟨m, m', hpre, hstep, hpost⟩ := hrun.split_at
  exact ⟨m, m', ⟨id, input, s₀, hnew, hpre⟩, hstep, hpost⟩

theorem SessionRun.snoc (h : SessionRun X tr s) (hl : Step X s l m) :
    SessionRun X (tr ++ [l]) m := by
  obtain ⟨id, input, s₀, hnew, hrun⟩ := h
  exact ⟨id, input, s₀, hnew, Exec.snoc hrun hl⟩

/-- A step is observed through its transition record. -/
theorem Step.target (h : Step X s l m) :
    l.transition.session = m :=
  h.2.symm

/-- **History rule for session runs.** -/
theorem SessionRun.history {P : List AcceptedAction → ProviderDiscoverySession → Prop}
    (h0 : ∀ s, s.state = .draft → s.cancellationPending = false → P [] s)
    (hstep : ∀ tr m l m', SessionRun X tr m → P tr m → Step X m l m' → P (tr ++ [l]) m') (h : SessionRun X tr s) : P tr s := by
  obtain ⟨id, input, s₀, hnew, hrun⟩ := h
  obtain ⟨_, hdraft, hpend, _⟩ := new_ok X hnew
  refine Exec.history (h0 s₀ hdraft hpend) ?_ hrun
  intro tr m l m' hpre hP hl
  exact hstep tr m l m' ⟨id, input, s₀, hnew, hpre⟩ hP hl

end LorePia.Discovery
