import LorePia.Discovery.Contract

namespace LorePia.Discovery

open Lib List Option Or

/-!
# Provider discovery — the commit saga over whole runs

Once a review is approved the session is inside the commit saga: committing, compensating,
or suspended in the middle of either (`InSaga`).  It leaves the saga through `Ready`,
through an action that settles it (`Settles`), or by abandoning it: `Cancel` and `Fail` are
refused while the saga is running or its outcome is unknown, but not while it is
interrupted (`AbandonsSaga`).

* `Stages.saga_cases` — the step lemma: the three ways out;
* `SessionRun.saga_history` — a session is in the saga only after an approved review, and
    after one it stays there until it ends;
* `saga_settled_iff` — every end of a reviewed session is a settling action exactly in the
    runs that never abandon the saga;
* `one_commit_plan` — a run approves at most one review, and commits no other plan.
-/

variable {X : Externals} {s : ProviderDiscoverySession} {action : ProviderDiscoveryAction}

/-! ### The phases of the saga -/

/-- **Inside the saga.** -/
def InSaga (s : ProviderDiscoverySession) : Prop :=
  s.state = .committing ∨ s.state = .compensating ∨
    (s.state = .interrupted ∧ s.recovery.any (fun c => c.operation.isSaga) = true) ∨
    (s.state = .unknownOutcome ∧ s.unknownOperation.any DiscoveryOperationKind.isSaga = true)

/-- The actions that settle the saga. -/
def Settles : ProviderDiscoveryAction → Prop
  | .commitFailedBeforeApply _ | .compensationSucceeded
  | .resolveUnknownOutcome _ .confirmedCompensated
  | .resolveUnknownOutcome _ .manuallyReconciledAsFailed => True
  | _ => False

/-- **The unguarded exit.** A cancel or a failure is applied while the saga is interrupted. -/
def AbandonsSaga (s : ProviderDiscoverySession) (action : ProviderDiscoveryAction) : Prop :=
  s.state = .interrupted ∧ s.recovery.any (fun c => c.operation.isSaga) = true ∧
    (action = .cancel ∨ ∃ failure, action = .fail failure)

/-- The states of the saga. -/
def DiscoveryState.isSagaState : DiscoveryState → Bool
  | .committing | .compensating | .interrupted | .unknownOutcome => true
  | _ => false

theorem InSaga.isSagaState (h : InSaga s) : s.state.isSagaState = true := by
  rcases h with h | h | ⟨h, _⟩ | ⟨h, _⟩ <;> rw [h] <;> rfl

private theorem InSaga.absurd_of {P : Prop} (h : InSaga s) (hs : s.state = state)
    (hst : state.isSagaState = false) : P := by
  have hsaga := h.isSagaState
  rw [hs, hst] at hsaga
  cases hsaga

/-- In the saga, an operation under way is a saga operation. -/
theorem InSaga.operation (h : InSaga s) (ho : s.state.operation = some op) : op.isSaga = true := by
  rcases h with h | h | ⟨h, _⟩ | ⟨h, _⟩ <;> rw [h] at ho
  · obtain rfl := some.inj ho
    rfl
  · obtain rfl := some.inj ho
    rfl
  · cases ho
  · cases ho

/-- A saga with no operation under way and no unknown outcome is interrupted. -/
theorem InSaga.interrupted_of_idle (h : InSaga s) (ho : s.state.operation = none)
    (hs : s.state ≠ .unknownOutcome) :
    s.state = .interrupted ∧ s.recovery.any (fun c => c.operation.isSaga) = true := by
  rcases h with h | h | h | ⟨h, _⟩
  · rw [h] at ho
    cases ho
  · rw [h] at ho
    cases ho
  · exact h
  · exact absurd h hs

/-- So is a saga in which `Fail` is not refused. -/
theorem InSaga.interrupted_of_acceptsFail (h : InSaga s) (hr : s.state.refusesFail = false) :
    s.state = .interrupted ∧ s.recovery.any (fun c => c.operation.isSaga) = true := by
  rcases h with h | h | h | ⟨h, _⟩
  · rw [h] at hr
    cases hr
  · rw [h] at hr
    cases hr
  · exact h
  · rw [h] at hr
    cases hr

private theorem inSaga_of_operation (hs : s.state = stateForOperation op) (hop : op.isSaga = true) :
    InSaga s := by
  cases op <;> first | exact inl hs | exact inr (inl hs) | cases hop

/-! ### The step lemmas -/

/-- Where a step from inside the saga leads. -/
def SagaOutcome (s : ProviderDiscoverySession) (action : ProviderDiscoveryAction)
    (next : ProviderDiscoverySession) : Prop :=
  InSaga next ∨ next.state = .ready ∨
    (next.state.isTerminal = true ∧ (Settles action ∨ AbandonsSaga s action))

private theorem settle_isTerminal (s : ProviderDiscoverySession) :
    (settle s).state.isTerminal = true := by
  show (settledState s.cancellationPending).isTerminal = true
  cases s.cancellationPending <;> rfl

private theorem TableArm.saga_cases (h : TableArm X s action t) (hc : s.Coherent)
    (hsaga : InSaga s) : SagaOutcome s action t.next := by
  cases h with
  | begin hs | candidatesAbsent hs | candidatesFound hs _ | selectTemplate hs
  | continueWithoutTemplate hs | documentsFetched hs | draftAvailable hs
  | assistantRecommended hs | moreEvidenceRequired hs | resumeAssistant hs _
  | supplyMoreEvidence hs _ | supplyFreshEvidence hs _ _ | requestAssistant hs
  | approveAssistant hs _ | declineAssistant hs | assistantCheckpointed hs
  | assistantRequestedMoreEvidence hs _ | manifestNeedsApproval hs _ _
  | manifestValidated hs _ _ | approveCredentialOrigin hs | modelsWithoutProbes hs
  | modelsWithProbes hs _ | approveProbes hs _ | skipProbes hs | probesCompleted hs
  | approveReview hs _ => exact hsaga.absurd_of hs rfl
  | manifestDraftBuilt hs _ =>
    rcases hs with hs | hs
    · exact hsaga.absurd_of hs rfl
    · exact hsaga.absurd_of hs rfl
  | commitSucceeded _ _ | confirmedCommit _ _ _ => exact inr (inl rfl)
  | commitSucceededPending _ _ _ | compensationRequired _ _ | confirmedCommitPending _ _ _ _ =>
    exact inl (inr (inl rfl))
  | compensationFailed hs _ _ | resumeCompensation hs _ _ => exact inl (inr (inl hs))
  | commitFailedBeforeApply _ _ | compensationSucceeded _ _ | confirmedCompensated _ _ _
  | manuallyReconciledAsFailed _ => exact inr (inr ⟨settle_isTerminal _, inl trivial⟩)
  | commitBecameUnknown _ | compensationBecameUnknown _ _ => exact inl (inr (inr (inr ⟨rfl, rfl⟩)))
  | restartInterrupted hs hr _ =>
    -- the checkpoint restarts the state of its own operation, which is a saga operation
    obtain ⟨_, _, op, hrec, _⟩ := (ProviderDiscoverySession.coherent_interrupted hs).mp hc
    obtain rfl := some.inj (hrec.symm.trans hr)
    have hop := (hsaga.interrupted_of_idle (by rw [hs]; rfl) (by rw [hs]; decide)).2
    rw [hrec] at hop
    exact inl (inSaga_of_operation rfl hop)
  | noEffectSaga _ _ _ _ => exact inl (inr (inr (inl ⟨rfl, rfl⟩)))
  | noEffectCancelled hs ho _ hop =>
    rcases hsaga with h | h | ⟨h, _⟩ | ⟨_, h⟩
    · exact nomatch hs.symm.trans h
    · exact nomatch hs.symm.trans h
    · exact nomatch hs.symm.trans h
    · rw [ho, any_some, hop] at h
      cases h
  | noEffectInterrupted hs ho _ =>
    rcases hsaga with h | h | ⟨h, _⟩ | ⟨_, h⟩
    · exact nomatch hs.symm.trans h
    · exact nomatch hs.symm.trans h
    · exact nomatch hs.symm.trans h
    · rw [ho] at h
      exact inl (inr (inr (inl ⟨rfl, h⟩)))

/-- **Saga step.** From inside the saga a step stays in it, makes the session ready, or ends
    it; and it ends it only by settling or by abandoning the saga. -/
theorem Stages.saga_cases (h : Stages X s action t) (hc : s.Coherent) (hsaga : InSaga s) :
    SagaOutcome s action t.next := by
  cases h with
  | cancelCompensating hs => exact inl (inr (inl hs))
  | cancelAgain _ _ _ | cancelOperation _ _ _ => exact inl hsaga
  | cancelIdle ho ht hs =>
    have hint := hsaga.interrupted_of_idle ho hs
    exact inr (inr ⟨rfl, inr ⟨hint.1, hint.2, inl rfl⟩⟩)
  | interruptSaga _ _ _ _ => exact inl (inr (inr (inl ⟨rfl, rfl⟩)))
  | interruptCancelled ho _ _ hop =>
    rw [hsaga.operation ho] at hop
    cases hop
  | interruptCheckpoint ho _ _ => exact inl (inr (inr (inl ⟨rfl, hsaga.operation ho⟩)))
  | interruptUnknown ho _ => exact inl (inr (inr (inr ⟨rfl, hsaga.operation ho⟩)))
  | fail _ hr _ =>
    have hint := hsaga.interrupted_of_acceptsFail hr
    refine inr (inr ⟨?_, inr ⟨hint.1, hint.2, inr ⟨_, rfl⟩⟩⟩)
    show (settledState s.cancellationPending).isTerminal = true
    cases s.cancellationPending <;> rfl
  | completePending _ hs ha =>
    rcases hsaga with h | h | ⟨h, _⟩ | ⟨h, _⟩
    · exact absurd h hs.1
    · exact absurd h hs.2
    · rw [h] at ha
      cases ha
    · rw [h] at ha
      cases ha
  | table _ harm => exact harm.saga_cases hc hsaga

/-- Abandoning the saga ends the session. -/
theorem Stages.abandons (h : Stages X s action t) (ha : AbandonsSaga s action) :
    t.next.state = .cancelled ∨ t.next.state = .failed := by
  obtain ⟨hs, _, rfl | ⟨failure, rfl⟩⟩ := ha
  · cases h with
    | cancelCompensating hs' => exact nomatch hs.symm.trans hs'
    | cancelAgain ho _ _ | cancelOperation ho _ _ => exact nomatch hs ▸ ho
    | cancelIdle _ _ _ => exact inl rfl
    | completePending _ _ _ => exact inl rfl
    | table _ harm => cases harm
  · cases h with
    | fail _ _ _ => exact (ProviderDiscoverySession.settledState_cases _).symm
    | completePending _ _ _ => exact inl rfl
    | table _ harm => cases harm

/-- The approval that opens the saga. -/
def ApprovesReview (action : ProviderDiscoveryAction) : Prop :=
  ∃ approvalId attempt plan graph, action = .approveReview approvalId attempt plan graph

private theorem TableArm.saga_entry (h : TableArm X s action t) (hc : s.Coherent)
    (hout : ¬ InSaga s) (hin : InSaga t.next) : ApprovesReview action := by
  cases h with
  | begin _ | candidatesAbsent _ | candidatesFound _ _ | selectTemplate _
  | continueWithoutTemplate _ | documentsFetched _ | draftAvailable _
  | assistantRecommended _ | moreEvidenceRequired _ | resumeAssistant _ _
  | supplyMoreEvidence _ _ | supplyFreshEvidence _ _ _ | requestAssistant _
  | approveAssistant _ _ | declineAssistant _ | manifestDraftBuilt _ _
  | assistantRequestedMoreEvidence _ _ | manifestNeedsApproval _ _ _
  | manifestValidated _ _ _ | approveCredentialOrigin _ | modelsWithoutProbes _
  | modelsWithProbes _ _ | approveProbes _ _ | skipProbes _ | probesCompleted _
  | commitSucceeded _ _ | noEffectCancelled _ _ _ _ | confirmedCommit _ _ _ =>
    exact hin.absurd_of rfl rfl
  | assistantCheckpointed _ => exact absurd hin hout
  | approveReview _ _ => exact ⟨_, _, _, _, rfl⟩
  | commitSucceededPending hs _ _ | commitFailedBeforeApply hs _ | compensationRequired hs _
  | commitBecameUnknown hs => exact absurd (inl hs) hout
  | compensationFailed hs _ _ | resumeCompensation hs _ _ | compensationSucceeded hs _
  | compensationBecameUnknown hs _ => exact absurd (inr (inl hs)) hout
  | restartInterrupted hs hr _ =>
    obtain ⟨_, _, op, hrec, _⟩ := (ProviderDiscoverySession.coherent_interrupted hs).mp hc
    obtain rfl := some.inj (hrec.symm.trans hr)
    have hop : op.isSaga = true := hin.operation (operation_stateForOperation op)
    exact absurd (inr (inr (inl ⟨hs, by rw [hrec]; exact hop⟩))) hout
  | noEffectSaga hs ho _ hop => exact absurd (inr (inr (inr ⟨hs, by rw [ho]; exact hop⟩))) hout
  | noEffectInterrupted hs ho _ =>
    have hop := (hin.interrupted_of_idle rfl (fun h => nomatch h)).2
    exact absurd (inr (inr (inr ⟨hs, by rw [ho]; exact hop⟩))) hout
  | confirmedCommitPending hs ho _ _ => exact absurd (inr (inr (inr ⟨hs, by rw [ho]; rfl⟩))) hout
  | confirmedCompensated hs ho hop =>
    exact absurd (inr (inr (inr ⟨hs, by rw [ho]; exact hop⟩))) hout
  | manuallyReconciledAsFailed _ =>
    rcases ProviderDiscoverySession.settledState_cases s.cancellationPending with h | h
    · exact hin.absurd_of h rfl
    · exact hin.absurd_of h rfl

/-- The saga is entered by approving a review, and only so. -/
theorem Stages.saga_entry (h : Stages X s action t) (hc : s.Coherent) (hout : ¬ InSaga s)
    (hin : InSaga t.next) : ApprovesReview action := by
  cases h with
  | cancelCompensating hs => exact absurd (inr (inl hs)) hout
  | cancelAgain _ _ _ | cancelOperation _ _ _ => exact absurd hin hout
  | cancelIdle _ _ _ | interruptCancelled _ _ _ _ | completePending _ _ _ =>
    exact hin.absurd_of rfl rfl
  | interruptSaga ho _ _ hop =>
    exact absurd (inSaga_of_operation (operation_eq_some_iff.mp ho) hop) hout
  | interruptCheckpoint ho _ _ =>
    have hop := (hin.interrupted_of_idle rfl (fun h => nomatch h)).2
    exact absurd (inSaga_of_operation (operation_eq_some_iff.mp ho) hop) hout
  | interruptUnknown ho _ =>
    rcases hin with h | h | ⟨h, _⟩ | ⟨_, hop⟩
    · cases h
    · cases h
    · cases h
    · exact absurd (inSaga_of_operation (operation_eq_some_iff.mp ho) hop) hout
  | fail _ _ _ =>
    rcases ProviderDiscoverySession.settledState_cases s.cancellationPending with h | h
    · exact hin.absurd_of h rfl
    · exact hin.absurd_of h rfl
  | table _ harm => exact harm.saga_entry hc hout hin

/-- An approved review was awaited, and enters the saga. -/
theorem Stages.approveReview (h : Stages X s action t) (ha : ApprovesReview action) :
    s.state = .awaitingReview ∧ InSaga t.next := by
  obtain ⟨approvalId, attempt, plan, graph, rfl⟩ := ha
  cases h with
  | completePending _ _ ha =>
    revert ha
    cases s.state <;> exact fun ha => nomatch ha
  | table _ harm =>
    cases harm with
    | approveReview hs _ => exact ⟨hs, inl rfl⟩

/-! ### Whole runs -/

/-- A review was approved somewhere along the run. -/
def Reviewed (tr : List AcceptedAction) : Prop :=
  ∃ l ∈ tr, ApprovesReview l.envelope.action

theorem reviewed_snoc :
    Reviewed (tr ++ [l]) ↔ Reviewed tr ∨ ApprovesReview l.envelope.action := by
  simp [Reviewed, or_and_right, exists_or]

/-- **Saga history.** A session is in the saga only after an approved review; after one it is
    in the saga or at its end. -/
theorem SessionRun.saga_history (h : SessionRun X tr s) :
    (InSaga s → Reviewed tr) ∧ (Reviewed tr → InSaga s ∨ s.state.isTerminal = true) := by
  refine h.history (P := fun tr s =>
    (InSaga s → Reviewed tr) ∧ (Reviewed tr → InSaga s ∨ s.state.isTerminal = true)) ?_ ?_
  · intro s hs _
    refine ⟨fun hsaga => hsaga.absurd_of hs rfl, ?_⟩
    rintro ⟨l, hl, _⟩
    cases hl
  · rintro tr m l _ hrun ⟨hin, hafter⟩ hstep
    obtain ⟨staged, hstages, _, rfl, _⟩ := hstep.cases
    have hc := hrun.sound.coherent
    rw [reviewed_snoc]
    refine ⟨?_, ?_⟩
    · intro hnext
      by_cases hm : InSaga m
      · exact inl (hin hm)
      · exact inr (hstages.saga_entry hc hm hnext)
    · rintro (hrev | happ)
      · rcases hafter hrev with hm | hterm
        · rcases hstages.saga_cases hc hm with hnext | hready | ⟨hterm, _⟩
          · exact inl hnext
          · refine inr ?_
            show staged.next.state.isTerminal = true
            rw [hready]
            rfl
          · exact inr hterm
        · rw [hstages.not_terminal] at hterm
          cases hterm
      · exact inl (hstages.approveReview happ).2

/-- Every end of the session after an approved review is a settling action. -/
def SagaSettled (tr : List AcceptedAction) : Prop :=
  ∀ pre l post, tr = pre ++ l :: post → Reviewed pre →
    l.transition.session.state = .cancelled ∨ l.transition.session.state = .failed →
    Settles l.envelope.action

/-- **The saga is settled exactly in the runs that never abandon it.** -/
theorem saga_settled_iff {id : DiscoverySessionId} {input : SanitizedDiscoveryInput}
    {s₀ : ProviderDiscoverySession} {tr : List AcceptedAction}
    (hnew : ProviderDiscoverySession.new X id input = .ok s₀) (hrun : Run X s₀ tr s) :
    SagaSettled tr ↔ ∀ pre l post m, tr = pre ++ l :: post → Run X s₀ pre m →
      ¬ AbandonsSaga m l.envelope.action := by
  constructor
  · rintro hsett pre l post m rfl hpre habandons
    obtain ⟨m₁, m', hpre₁, hstep, _⟩ := hrun.split_at
    obtain rfl := hpre.unique (fun h h' => h.target.symm.trans h'.target) hpre₁
    obtain ⟨staged, hstages, _, rfl, _⟩ := hstep.cases
    have hsaga : InSaga m := inr (inr (inl ⟨habandons.1, habandons.2.1⟩))
    have hrevd := (SessionRun.saga_history ⟨_, _, _, hnew, hpre⟩).1 hsaga
    have hend := hsett pre l post rfl hrevd (by
      rw [hstep.target]
      exact hstages.abandons habandons)
    rcases habandons.2.2 with ha | ⟨failure, ha⟩
    · rw [ha] at hend
      exact hend
    · rw [ha] at hend
      exact hend
  · rintro hnever pre l post rfl hrevd hend
    obtain ⟨m, m', hpre, hstep, _⟩ := hrun.split_at
    obtain ⟨staged, hstages, _, rfl, _⟩ := hstep.cases
    have hpre' : SessionRun X pre m := ⟨_, _, _, hnew, hpre⟩
    rw [hstep.target] at hend
    rcases hpre'.saga_history.2 hrevd with hsaga | hterm
    · rcases hstages.saga_cases hpre'.sound.coherent hsaga with hin | hready | ⟨_, hsettles | ha⟩
      · rcases hend with hend | hend
        · exact hin.absurd_of hend rfl
        · exact hin.absurd_of hend rfl
      · rcases hend with hend | hend
        · exact nomatch hend.symm.trans hready
        · exact nomatch hend.symm.trans hready
      · exact hsettles
      · exact absurd ha (hnever pre l post m rfl hpre)
    · rw [hstages.not_terminal] at hterm
      cases hterm

/-! ### The abandoned commit -/

/-- A review is approved, its commit is cancelled and confirmed unstarted, and the session is
    cancelled again while the compensation recipe still waits to be restarted. -/
def abandonedCommitActions : List ProviderDiscoveryAction :=
  [.begin, .knownProviderCandidatesResolved 0, .documentsFetched 1,
    .evidenceExtracted .deterministicDraftAvailable, .manifestDraftBuilt sampleSha256,
    .manifestValidated sampleSha256 false, .modelsListed 1 0,
    .approveReview sampleId sampleId sampleSha256 sampleSha256, .cancel,
    .interrupt .atomicCommit .confirmedNoExternalEffect, .cancel]

def abandonedCommit : List AcceptedAction × ProviderDiscoverySession :=
  play sampleExternals sampleId sampleSha256 sampleSession abandonedCommitActions

theorem abandonedCommit_run :
    Run sampleExternals sampleSession abandonedCommit.1 abandonedCommit.2 := by
  refine play_run sampleSha256_valid (new_sound sampleSession_new) ?_ (by decide) (by decide)
  intro action hact
  simp only [abandonedCommitActions, mem_cons, not_mem_nil, or_false] at hact
  rcases hact with rfl | rfl | rfl | rfl | rfl | rfl | rfl | rfl | rfl | rfl | rfl
  all_goals exact playable_of (by simp) (by simp)

/-- The exact condition at the abandoned commit. -/
theorem saga_settled_iff_abandonedCommit :
    SagaSettled abandonedCommit.1 ↔ ∀ pre l post m, abandonedCommit.1 = pre ++ l :: post →
      Run sampleExternals sampleSession pre m → ¬ AbandonsSaga m l.envelope.action :=
  saga_settled_iff sampleSession_new abandonedCommit_run

/-- Not every run settles its saga. -/
theorem abandonedCommit_not_settled :
    ¬ ∀ (X : Externals) (id : DiscoverySessionId) (input : SanitizedDiscoveryInput)
        (s₀ s : ProviderDiscoverySession) (tr : List AcceptedAction),
        ProviderDiscoverySession.new X id input = .ok s₀ → Run X s₀ tr s → SagaSettled tr := by
  intro hclaim
  have hsett := hclaim _ _ _ _ _ _ sampleSession_new abandonedCommit_run
  obtain ⟨pre, l, hsplit, hrevd, hend, hact⟩ : ∃ pre l, abandonedCommit.1 = pre ++ [l] ∧
      Reviewed pre ∧ l.transition.session.state = .cancelled ∧ l.envelope.action = .cancel := by
    refine ⟨abandonedCommit.1.dropLast, abandonedCommit.1.getLast (by rintro ⟨⟩), ?_, ?_, rfl, rfl⟩
    · exact (dropLast_append_getLast _).symm
    · exact ⟨_, mem_of_getElem? (i := 7) rfl, _, _, _, _, rfl⟩
  have hfalse := hsett pre l [] hsplit hrevd (inl hend)
  rw [hact] at hfalse
  exact hfalse

/-! ### The plan of the commit -/

/-- What an effect asks of the commit is for the attempt, and with the plan, of a session. -/
def Carries (attempt : Option DiscoveryCommitAttemptId) (plan : Option String) :
    DiscoveryEffect → Prop
  | .commitAtomically a p => attempt = some a ∧ plan = some p
  | .runCompensation a => attempt = some a
  | _ => True

theorem carries_effectForOperation (h : effectForOperation s op = .ok effect) :
    Carries s.commitAttemptId s.commitPlanSha256 effect := by
  cases op <;> simp only [effectForOperation, requiredField, bind_ok, okOr_ok, pure_ok,
    Except.ok.injEq] at h <;> grind [Carries]

/-- **Plan step.** A session gets its attempt and its plan from an approved review. -/
theorem Stages.carries (h : Stages X s action t) :
    Carries t.next.commitAttemptId t.next.commitPlanSha256 t.effect ∧
      ((∃ i a p g, action = .approveReview i a p g ∧ t.next.commitAttemptId = some a ∧
          t.next.commitPlanSha256 = some p) ∨
        t.next.commitAttemptId = s.commitAttemptId ∧
          t.next.commitPlanSha256 = s.commitPlanSha256) := by
  cases h with
  | table _ harm =>
    cases harm with
    | approveReview _ _ => exact ⟨⟨rfl, rfl⟩, inl ⟨_, _, _, _, rfl, rfl, rfl⟩⟩
    | restartInterrupted _ _ he => exact ⟨carries_effectForOperation he, inr ⟨rfl, rfl⟩⟩
    | commitSucceededPending _ _ ha | resumeCompensation _ _ ha | compensationRequired _ ha
    | confirmedCommitPending _ _ _ ha => exact ⟨ha, inr ⟨rfl, rfl⟩⟩
    | _ => exact ⟨trivial, inr ⟨rfl, rfl⟩⟩
  | _ => exact ⟨trivial, inr ⟨rfl, rfl⟩⟩

/-- No review is approved after another one: the session is in the saga or at its end. -/
theorem SessionRun.not_reviewed (h : SessionRun X tr m) (hstep : Step X m l m')
    (ha : ApprovesReview l.envelope.action) : ¬ Reviewed tr := by
  intro hrev
  obtain ⟨staged, hstages, -⟩ := hstep.cases
  have hs := (hstages.approveReview ha).1
  rcases h.saga_history.2 hrev with hsaga | hterm
  · exact hsaga.absurd_of hs rfl
  · rw [hs] at hterm
    cases hterm

/-- The attempt and the plan are those of an approved review, or there are none. -/
def OfReview (tr : List AcceptedAction) (attempt : Option DiscoveryCommitAttemptId)
    (plan : Option String) : Prop :=
  attempt = none ∧ plan = none ∨ ∃ l ∈ tr, ∃ i a p g,
    l.envelope.action = .approveReview i a p g ∧ attempt = some a ∧ plan = some p

theorem OfReview.step (h : OfReview tr s.commitAttemptId s.commitPlanSha256)
    (hstages : Stages X s l.envelope.action t) :
    OfReview (tr ++ [l]) t.next.commitAttemptId t.next.commitPlanSha256 := by
  rcases hstages.carries.2 with ⟨i, a, p, g, hact, ha, hp⟩ | ⟨ha, hp⟩
  · exact inr ⟨l, mem_concat_self, i, a, p, g, hact, ha, hp⟩
  · rw [ha, hp]
    exact h.imp_right fun ⟨review, hmem, hreview⟩ => ⟨review, mem_append_left _ hmem, hreview⟩

/-- **Plan run.** What a session is to commit, it has from an approved review. -/
theorem OfReview.of_run {id : DiscoverySessionId} {input : SanitizedDiscoveryInput}
    {s₀ : ProviderDiscoverySession} {tr : List AcceptedAction}
    (hnew : ProviderDiscoverySession.new X id input = .ok s₀) (hrun : Run X s₀ tr s) :
    OfReview tr s.commitAttemptId s.commitPlanSha256 := by
  refine hrun.history (P := fun tr s => OfReview tr s.commitAttemptId s.commitPlanSha256) ?_ ?_
  · simp only [ProviderDiscoverySession.new, bind_ok, pure_ok, Except.ok.injEq] at hnew
    obtain ⟨_, -, rfl⟩ := hnew
    exact inl ⟨rfl, rfl⟩
  · rintro tr m l m' - hm hstep
    obtain ⟨staged, hstages, -, rfl, -⟩ := hstep.cases
    exact hm.step hstages

/-- **One plan.** A run approves at most one review, and what is asked of the commit, by a restart
    or for a compensation too, is for the attempt and with the plan of the review before it. -/
theorem one_commit_plan {id : DiscoverySessionId} {input : SanitizedDiscoveryInput}
    {s₀ : ProviderDiscoverySession} {tr : List AcceptedAction}
    (hnew : ProviderDiscoverySession.new X id input = .ok s₀) (hrun : Run X s₀ tr s) :
    ∀ pre l post, tr = pre ++ l :: post →
      (ApprovesReview l.envelope.action → ¬ Reviewed (pre ++ post)) ∧
        ∃ attempt plan, OfReview (pre ++ [l]) attempt plan ∧
          Carries attempt plan l.transition.effect := by
  rintro pre l post rfl
  obtain ⟨m, m', hm, hstep, -⟩ := hrun.split_at
  obtain ⟨staged, hstages, heff, -, -⟩ := hstep.cases
  refine ⟨?_, _, _, (OfReview.of_run hnew hm).step hstages, heff ▸ hstages.carries.1⟩
  rintro ha ⟨l', hl', ha'⟩
  rcases mem_append.mp hl' with hpre | hpost
  · exact SessionRun.not_reviewed ⟨_, _, _, hnew, hm⟩ hstep ha ⟨l', hpre, ha'⟩
  · obtain ⟨mid, rest, rfl⟩ := append_of_mem hpost
    rw [← cons_append, ← append_assoc] at hrun
    obtain ⟨m, m', hm, hstep, -⟩ := hrun.split_at
    exact SessionRun.not_reviewed ⟨_, _, _, hnew, hm⟩ hstep ha' ⟨l, by simp, ha⟩

theorem one_commit_plan_abandonedCommit : ∃ attempt plan,
    OfReview (abandonedCommit.1.take 8) attempt plan ∧
      Carries attempt plan (.commitAtomically sampleId sampleSha256) :=
  (one_commit_plan sampleSession_new abandonedCommit_run (abandonedCommit.1.take 7) _
    (abandonedCommit.1.drop 8) rfl).2

end LorePia.Discovery
