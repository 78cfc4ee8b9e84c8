import LorePia.Discovery.Contract

namespace LorePia.Discovery

open Lib List AcceptedAction Exec Option Or ProviderDiscoverySession Run

/-!
# Provider discovery — billable effects over whole runs

A billable effect spends the user's money under one approval binding.  Three actions start
such an effect with a binding of their own; `RestartInterrupted` issues it again with the
binding the session has kept.

* `Stages.billing_cases` — the step lemma: who issues a billable effect, and with what;
* `SessionRun.billing_history` — the binding kept by a session is the one its operation was
    last started with;
* `billable_effects_authorized` — the three guarantees over every run.
-/

variable {X : Externals} {s : ProviderDiscoverySession} {action : ProviderDiscoveryAction}
  {t : StagedTransition}

/-! ### Billable effects and the operation a binding belongs to -/

/-- The operation a billable effect issues and the binding it carries. -/
def DiscoveryEffect.billing :
    DiscoveryEffect → Option (DiscoveryOperationKind × DiscoveryApprovalBinding)
  | .buildAssistantManifestDraft approval => some (.buildAssistantManifestDraft, approval)
  | .probeCapabilities approval => some (.probeCapabilities, approval)
  | _ => Option.none

/-- The actions that start a billable effect with a binding of their own. -/
def ProviderDiscoveryAction.startsBillable : ProviderDiscoveryAction → Bool
  | .approveAssistant _ _ | .assistantResumedWithEvidence _ _ | .approveProbes _ _ => true
  | _ => false

/-- The billable operation that the session is carrying: active, interrupted or unknown. -/
def ProviderDiscoverySession.boundOperation (s : ProviderDiscoverySession) :
    Option DiscoveryOperationKind :=
  match s.state with
  | .buildingAssistantManifestDraft => some .buildAssistantManifestDraft
  | .probingCapabilities => some .probeCapabilities
  | .interrupted => (s.recovery.map (·.operation)).filter DiscoveryOperationKind.isBillable
  | .unknownOutcome => s.unknownOperation.filter DiscoveryOperationKind.isBillable
  | _ => none

theorem boundOperation_eq_of_operation (hs : s.state = stateForOperation op) :
    s.boundOperation = (some op).filter DiscoveryOperationKind.isBillable := by
  unfold boundOperation
  rw [hs]
  cases op <;> rfl

/-- A restart issues a billable effect exactly for a billable operation, with the kept
    binding. -/
theorem effectForOperation_billing {effect : DiscoveryEffect}
    (h : effectForOperation s op = .ok effect) :
    (op.isBillable = true → ∃ b, s.activeEffectApproval = some b ∧ effect.billing = some (op, b)) ∧
    (op.isBillable = false → effect.billing = none) := by
  cases op <;> simp only [effectForOperation, requiredField, bind_ok, okOr_ok, pure_ok,
      Except.ok.injEq] at h
  case buildAssistantManifestDraft | probeCapabilities =>
    obtain ⟨b, hb, rfl⟩ := h
    exact ⟨fun _ => ⟨b, hb, rfl⟩, fun hop => (nomatch hop)⟩
  case atomicCommit =>
    obtain ⟨_, _, _, _, rfl⟩ := h
    exact ⟨fun hop => (nomatch hop), fun _ => rfl⟩
  case compensation =>
    obtain ⟨_, _, rfl⟩ := h
    exact ⟨fun hop => (nomatch hop), fun _ => rfl⟩
  all_goals
    subst h
    exact ⟨fun hop => (nomatch hop), fun _ => rfl⟩

/-! ### The step lemmas -/

/-- What a step does to the binding: it starts a billable operation, it restarts the kept one,
    or it issues nothing billable and binds nothing new. -/
inductive BillingStep (s : ProviderDiscoverySession) (action : ProviderDiscoveryAction)
    (t : StagedTransition) : Prop
  | start {op : DiscoveryOperationKind} {b : DiscoveryApprovalBinding}
      (ha : action.startsBillable = true) (he : t.effect.billing = some (op, b))
      (hbd : t.next.boundOperation = some op) (hb : t.next.activeEffectApproval = some b)
  | restart {op : DiscoveryOperationKind} {b : DiscoveryApprovalBinding}
      (ha : action = .restartInterrupted) (he : t.effect.billing = some (op, b))
      (hbd : s.boundOperation = some op) (hb : s.activeEffectApproval = some b)
      (hnext : t.next.boundOperation = some op) (hb' : t.next.activeEffectApproval = some b)
  | quiet (he : t.effect.billing = none)
      (hkeep : ∀ op, t.next.boundOperation = some op →
        s.boundOperation = some op ∧ t.next.activeEffectApproval = s.activeEffectApproval)

private theorem BillingStep.unbound (he : t.effect.billing = none)
    (h : t.next.boundOperation = none) : BillingStep s action t := by
  refine .quiet he ?_
  intro op hop
  rw [h] at hop
  cases hop

private theorem boundOperation_of_settled {pending : Bool} (h : s.state = settledState pending) :
    s.boundOperation = none := by
  unfold boundOperation
  rw [h]
  cases pending <;> rfl

private theorem TableArm.billing_cases (h : TableArm X s action t) (hc : s.Coherent) :
    BillingStep s action t := by
  cases h with
  | resumeAssistant _ _ | approveAssistant _ _ | approveProbes _ _ => exact .start rfl rfl rfl rfl
  | assistantCheckpointed _ => exact .quiet rfl fun _ h => ⟨h, rfl⟩
  | compensationFailed hs _ _ | resumeCompensation hs _ _ =>
    have hbd := @boundOperation_eq_of_operation _ .compensation hs
    exact .unbound rfl hbd
  | commitFailedBeforeApply _ _ | compensationSucceeded _ _ | confirmedCompensated _ _ _
  | manuallyReconciledAsFailed _ => exact .unbound rfl (boundOperation_of_settled rfl)
  | restartInterrupted hs hr he =>
    obtain ⟨_, _, op, hrec, _⟩ := (coherent_interrupted hs).mp hc
    obtain rfl := some.inj (hrec.symm.trans hr)
    have hbill := effectForOperation_billing he
    cases hop : op.isBillable with
    | true =>
      obtain ⟨b, hb, hbilling⟩ := hbill.1 hop
      refine .restart rfl hbilling ?_ hb ?_ hb
      · simp [boundOperation, hs, hrec, hop]
      · rw [boundOperation_eq_of_operation rfl]
        simp [hop]
    | false =>
      refine .unbound (hbill.2 hop) ?_
      rw [boundOperation_eq_of_operation rfl]
      simp [hop]
  | noEffectInterrupted hs ho _ =>
    refine .quiet rfl fun op hop => ⟨?_, rfl⟩
    simpa [boundOperation, hs, ho] using hop
  | _ => exact .unbound rfl rfl

/-- **Billing step.** -/
theorem Stages.billing_cases (h : Stages X s action t) (hc : s.Coherent) :
    BillingStep s action t := by
  cases h with
  | cancelCompensating _ | cancelAgain _ _ _ | cancelOperation _ _ _ =>
    exact .quiet rfl fun _ h => ⟨h, rfl⟩
  | cancelIdle _ _ _ | interruptCancelled _ _ _ _ | interruptSaga _ _ _ _
  | completePending _ _ _ => exact .unbound rfl rfl
  | interruptCheckpoint ho _ _ | interruptUnknown ho _ =>
    refine .quiet rfl fun op hop => ⟨?_, rfl⟩
    rw [boundOperation_eq_of_operation (operation_eq_some_iff.mp ho)]
    exact hop
  | fail _ _ _ => exact .unbound rfl (boundOperation_of_settled rfl)
  | table _ harm => exact harm.billing_cases hc

/-! ### Restarting after an unknown outcome -/

/-- The session waits for the reconciliation of `op`. -/
def AwaitsReconciliation (op : DiscoveryOperationKind) (s : ProviderDiscoverySession) : Prop :=
  s.state = .unknownOutcome ∧ s.unknownOperation = some op

/-- The session waits for the restart of `op`. -/
def AwaitsRestart (op : DiscoveryOperationKind) (s : ProviderDiscoverySession) : Prop :=
  s.state = .interrupted ∧
    s.recovery = some { interruptedState := stateForOperation op, operation := op }

variable {op : DiscoveryOperationKind}

theorem Stages.interrupt_unknown (h : Stages X s (.interrupt op .externalOutcomeUnknown) t) :
    AwaitsReconciliation op t.next := by
  cases h with
  | interruptUnknown _ _ => exact ⟨rfl, rfl⟩
  | completePending _ _ ha =>
    revert ha
    cases s.state <;> exact fun ha => nomatch ha
  | table _ harm => cases harm

/-- A billable operation of unknown outcome issues nothing: it is confirmed to have had no
    effect and waits for a restart, or the session ends. -/
theorem Stages.reconcile (h : Stages X s action t) (hop : op.isBillable = true)
    (hs : AwaitsReconciliation op s) (hok : ¬ LosesApproval s action) :
    t.effect.billing = none ∧
      ((∃ approvalId, action = .resolveUnknownOutcome approvalId .confirmedNoEffect ∧
          AwaitsRestart op t.next) ∨ t.next.state.isTerminal = true) := by
  obtain ⟨hst, hunknown⟩ := hs
  have hidle : s.state.operation = none := by rw [hst]; rfl
  cases h with
  | cancelCompensating hs => exact nomatch hst.symm.trans hs
  | cancelAgain ho _ _ | cancelOperation ho _ _ | interruptSaga ho _ _ _
  | interruptCancelled ho _ _ _ | interruptCheckpoint ho _ _ | interruptUnknown ho _ =>
    exact nomatch hidle.symm.trans ho
  | cancelIdle _ _ hs => exact absurd hst hs
  | fail _ hr _ =>
    rw [hst] at hr
    cases hr
  | completePending _ _ ha =>
    rw [hst] at ha
    cases ha
  | table _ harm =>
    cases harm with
    | noEffectSaga _ ho _ hsaga =>
      obtain rfl := some.inj (hunknown.symm.trans ho)
      rw [isBillable_eq_false_of_isSaga hsaga] at hop
      cases hop
    | noEffectCancelled _ ho hpend _ =>
      refine absurd ⟨hst, hpend, ?_, _, rfl⟩ hok
      rw [hunknown]
      exact hop
    | noEffectInterrupted _ ho _ =>
      obtain rfl := some.inj (hunknown.symm.trans ho)
      exact ⟨rfl, inl ⟨_, rfl, rfl, rfl⟩⟩
    | confirmedCommit _ ho _ | confirmedCommitPending _ ho _ _ =>
      obtain rfl := some.inj (hunknown.symm.trans ho)
      cases hop
    | confirmedCompensated _ _ _ | manuallyReconciledAsFailed _ =>
      refine ⟨rfl, inr ?_⟩
      show (settledState s.cancellationPending).isTerminal = true
      cases s.cancellationPending <;> rfl
    | manifestDraftBuilt hs _ => rcases hs with hs | hs <;> exact nomatch hst.symm.trans hs
    | _ => rename_i hs; simp_all

/-- A billable operation that waits for a restart is restarted, or the session ends. -/
theorem Stages.restart (h : Stages X s action t) (hop : op.isBillable = true)
    (hs : AwaitsRestart op s) :
    (action = .restartInterrupted ∧ ∃ b, t.effect.billing = some (op, b)) ∨
      (t.effect.billing = none ∧ t.next.state.isTerminal = true) := by
  obtain ⟨hst, hrecovery⟩ := hs
  have hidle : s.state.operation = none := by rw [hst]; rfl
  cases h with
  | cancelCompensating hs => exact nomatch hst.symm.trans hs
  | cancelAgain ho _ _ | cancelOperation ho _ _ | interruptSaga ho _ _ _
  | interruptCancelled ho _ _ _ | interruptCheckpoint ho _ _ | interruptUnknown ho _ =>
    exact nomatch hidle.symm.trans ho
  | cancelIdle _ _ _ => exact inr ⟨rfl, rfl⟩
  | fail _ _ _ =>
    refine inr ⟨rfl, ?_⟩
    show (settledState s.cancellationPending).isTerminal = true
    cases s.cancellationPending <;> rfl
  | completePending _ _ ha =>
    rw [hst] at ha
    cases ha
  | table _ harm =>
    cases harm with
    | restartInterrupted _ hr he =>
      obtain rfl := some.inj (hrecovery.symm.trans hr)
      obtain ⟨b, _, hbilling⟩ := (effectForOperation_billing he).1 hop
      exact inl ⟨rfl, b, hbilling⟩
    | manifestDraftBuilt hs _ => rcases hs with hs | hs <;> exact nomatch hst.symm.trans hs
    | _ => rename_i hs; simp_all

/-! ### Whole runs -/

/-- The binding with which the step starts `op`, if it does. -/
def AcceptedAction.startOf (op : DiscoveryOperationKind) (l : AcceptedAction) :
    Option DiscoveryApprovalBinding :=
  if l.envelope.action.startsBillable then
    (l.transition.effect.billing.filter fun p => p.1 = op).map Prod.snd
  else none

/-- The binding with which `op` was last started along the run. -/
def lastStart (op : DiscoveryOperationKind) (tr : List AcceptedAction) :
    Option DiscoveryApprovalBinding :=
  tr.reverse.findSome? (AcceptedAction.startOf op)

theorem lastStart_snoc (op : DiscoveryOperationKind) (tr : List AcceptedAction)
    (l : AcceptedAction) : lastStart op (tr ++ [l]) = (l.startOf op).or (lastStart op tr) := by
  rw [lastStart, reverse_append, reverse_singleton, singleton_append, findSome?_cons, lastStart]
  cases l.startOf op <;> rfl

/-- **Billing history.** The binding a session keeps is the one its operation was last
    started with. -/
theorem SessionRun.billing_history (h : SessionRun X tr s) :
    ∀ op, s.boundOperation = some op → lastStart op tr = s.activeEffectApproval := by
  refine h.history (P := fun tr s =>
    ∀ op, s.boundOperation = some op → lastStart op tr = s.activeEffectApproval) ?_ ?_
  · intro s hs _ op hop
    simp [boundOperation, hs] at hop
  · intro tr m l _ hrun ih hstep op hop
    obtain ⟨staged, hstages, heff, rfl, _⟩ := hstep.cases
    rw [lastStart_snoc]
    have hnext : staged.next.boundOperation = some op := hop
    show _ = staged.next.activeEffectApproval
    cases hstages.billing_cases hrun.sound.coherent with
    | start ha he hbd hb =>
      obtain rfl := some.inj (hbd.symm.trans hnext)
      simp [startOf, ha, heff, he, hb]
    | restart ha he hbd hb hnext' hb' =>
      obtain rfl := some.inj (hnext'.symm.trans hnext)
      rw [hb', ← hb, ← ih _ hbd]
      simp [startOf, ha, ProviderDiscoveryAction.startsBillable]
    | quiet he hkeep =>
      obtain ⟨hbd, happroval⟩ := hkeep op hnext
      rw [happroval, ← ih op hbd]
      simp [startOf, heff, he]

/-- The step issues the billable operation `op`. -/
def AcceptedAction.Issues (l : AcceptedAction) (op : DiscoveryOperationKind) : Prop :=
  ∃ b, l.transition.effect.billing = some (op, b)

private theorem issue_action (h : SessionRun X tr s) (hl : l ∈ tr) (hissue : l.Issues op) :
    l.envelope.action.startsBillable = true ∨ l.envelope.action = .restartInterrupted := by
  obtain ⟨b, hissue⟩ := hissue
  obtain ⟨pre, post, rfl⟩ := append_of_mem hl
  obtain ⟨m, m', hpre, hstep, _⟩ := h.split_at
  obtain ⟨staged, hstages, heff, _, _⟩ := hstep.cases
  cases hstages.billing_cases hpre.sound.coherent with
  | start ha _ _ _ => exact inl ha
  | restart ha _ _ _ _ _ => exact inr ha
  | quiet he _ =>
    rw [heff, he] at hissue
    cases hissue

private theorem restart_binding (h : SessionRun X (pre ++ l :: post) s)
    (hact : l.envelope.action = .restartInterrupted)
    (hissue : l.transition.effect.billing = some (op, b)) : lastStart op pre = some b := by
  obtain ⟨m, m', hpre, hstep, _⟩ := h.split_at
  obtain ⟨staged, hstages, heff, _, _⟩ := hstep.cases
  rw [heff] at hissue
  cases hstages.billing_cases hpre.sound.coherent with
  | start ha _ _ _ =>
    rw [hact] at ha
    cases ha
  | restart _ he hbd hb _ _ =>
    obtain ⟨rfl, rfl⟩ := Prod.mk.inj (some.inj (he.symm.trans hissue))
    rw [hpre.billing_history _ hbd, hb]
  | quiet he _ =>
    rw [he] at hissue
    cases hissue

/-- From an operation that waits for its restart, the next issue is that restart. -/
private theorem reissue_of_awaitsRestart (hop : op.isBillable = true) (hs : AwaitsRestart op s)
    (hrun : Run X s (mid ++ l :: post) m) (hmid : ∀ x ∈ mid, ¬ x.Issues op) (hissue : l.Issues op) :
    mid = [] ∧ l.envelope.action = .restartInterrupted := by
  cases mid with
  | nil =>
    obtain ⟨_, hstep, _⟩ := cons_iff.mp hrun
    obtain ⟨_, hstages, heff, _, _⟩ := hstep.cases
    rcases hstages.restart hop hs with ⟨ha, _⟩ | ⟨he, _⟩
    · exact ⟨rfl, ha⟩
    · obtain ⟨b, hissue⟩ := hissue
      rw [heff, he] at hissue
      cases hissue
  | cons x mid =>
    obtain ⟨m', hstep, hrest⟩ := cons_iff.mp hrun
    obtain ⟨staged, hstages, heff, rfl, _⟩ := hstep.cases
    rcases hstages.restart hop hs with ⟨_, b, hb⟩ | ⟨_, hterm⟩
    · exact absurd ⟨b, heff ▸ hb⟩ (hmid x (mem_cons_self ..))
    · -- the session has ended, but the run goes on
      have hlive : (staged.sealed s).state.isTerminal = false := by
        cases mid with
        | nil => exact not_terminal hrest
        | cons y mid => exact not_terminal hrest
      exact nomatch hlive.symm.trans hterm

private theorem reissue_after_unknown (h : SessionRun X (pre ++ i :: (mid ++ l :: post)) s)
    (hi : i.envelope.action = .interrupt op .externalOutcomeUnknown) (hop : op.isBillable = true)
    (hmid : ∀ x ∈ mid, ¬ x.Issues op) (hissue : l.Issues op) :
    ∃ approvalId r, mid = [r] ∧
      r.envelope.action = .resolveUnknownOutcome approvalId .confirmedNoEffect ∧
      l.envelope.action = .restartInterrupted := by
  obtain ⟨m, m₁, hpre, hstep, hrun⟩ := h.split_at
  have hwait : AwaitsReconciliation op m₁ := by
    obtain ⟨staged, hstages, _, rfl, _⟩ := hstep.cases
    rw [hi] at hstages
    exact hstages.interrupt_unknown
  have hc₁ := (hpre.snoc hstep).sound.coherent
  cases mid with
  | nil =>
    obtain ⟨_, hstep₁, _⟩ := cons_iff.mp hrun
    obtain ⟨_, hstages, heff, _, _⟩ := hstep₁.cases
    obtain ⟨b, hissue⟩ := hissue
    rw [heff, (hstages.reconcile hop hwait (hstep₁.not_losesApproval hc₁)).1] at hissue
    cases hissue
  | cons r mid =>
    obtain ⟨m₂, hstep₁, hrest⟩ := cons_iff.mp hrun
    have hok := hstep₁.not_losesApproval hc₁
    obtain ⟨staged, hstages, _, rfl, _⟩ := hstep₁.cases
    rcases (hstages.reconcile hop hwait hok).2 with ⟨approvalId, ha, hrestart⟩ | hterm
    · rw [forall_mem_cons] at hmid
      have hrestart' : AwaitsRestart op (staged.sealed m₁) := hrestart
      obtain ⟨rfl, hl⟩ := reissue_of_awaitsRestart hop hrestart' hrest hmid.2 hissue
      exact ⟨approvalId, r, rfl, ha, hl⟩
    · have hlive : (staged.sealed m₁).state.isTerminal = false := by
        cases mid with
        | nil => exact not_terminal hrest
        | cons y mid => exact not_terminal hrest
      exact nomatch hlive.symm.trans hterm

/-- **Billable effects are authorized.** In every run:
    a billable effect is issued by one of the three starting actions or by a restart;
    a restart carries the binding its operation was last started with;
    and after the outcome of a billable operation became unknown, its next issue is a restart
    right after a reconciliation that confirmed no effect. -/
theorem billable_effects_authorized {tr : List AcceptedAction} (h : SessionRun X tr s) :
    (∀ l ∈ tr, ∀ op, l.Issues op →
      l.envelope.action.startsBillable = true ∨ l.envelope.action = .restartInterrupted) ∧
    (∀ pre l post op b, tr = pre ++ l :: post → l.envelope.action = .restartInterrupted →
      l.transition.effect.billing = some (op, b) → lastStart op pre = some b) ∧
    (∀ pre i mid l post op, tr = pre ++ i :: (mid ++ l :: post) →
      i.envelope.action = .interrupt op .externalOutcomeUnknown → op.isBillable = true →
      (∀ x ∈ mid, ¬ x.Issues op) → l.Issues op →
      ∃ approvalId r, mid = [r] ∧
        r.envelope.action = .resolveUnknownOutcome approvalId .confirmedNoEffect ∧
        l.envelope.action = .restartInterrupted) := by
  refine ⟨fun l hl op => issue_action h hl, ?_, ?_⟩
  · rintro pre l post op b rfl
    exact restart_binding h
  · rintro pre i mid l post op rfl
    exact reissue_after_unknown h

/-- An assistant draft is started, interrupted without effect and restarted. -/
def restartedAssistant : List AcceptedAction × ProviderDiscoverySession :=
  play sampleExternals sampleId sampleSha256 sampleSession
    [.begin, .knownProviderCandidatesResolved 0, .documentsFetched 1,
      .evidenceExtracted .assistantRecommended, .approveAssistant sampleId sampleSha256,
      .interrupt .buildAssistantManifestDraft .confirmedNoExternalEffect, .restartInterrupted]

theorem restartedAssistant_run :
    SessionRun sampleExternals restartedAssistant.1 restartedAssistant.2 := by
  refine ⟨_, _, _, sampleSession_new, ?_⟩
  refine play_run sampleSha256_valid (new_sound sampleSession_new) ?_ (by decide) (by decide)
  intro action hact
  simp only [mem_cons, not_mem_nil, or_false] at hact
  rcases hact with rfl | rfl | rfl | rfl | rfl | rfl | rfl
  all_goals exact playable_of (by simp [sampleSha256_valid]) (by simp)

/-- The restart of that run carries the binding of its start. -/
theorem billable_effects_authorized_restartedAssistant :
    restartedAssistant.1.length = 7 ∧
      (restartedAssistant.1.getLast?.bind fun l => l.transition.effect.billing) =
        some (.buildAssistantManifestDraft, ⟨sampleId, sampleSha256⟩) ∧
      lastStart .buildAssistantManifestDraft restartedAssistant.1.dropLast =
        some ⟨sampleId, sampleSha256⟩ := by
  have hne : restartedAssistant.1 ≠ [] := by decide
  have hlast : restartedAssistant.1 = restartedAssistant.1.dropLast ++
      restartedAssistant.1.getLast hne :: [] :=
    (dropLast_append_getLast hne).symm
  refine ⟨by decide, by decide, ?_⟩
  exact (billable_effects_authorized restartedAssistant_run).2.1 _ _ _ .buildAssistantManifestDraft
    ⟨sampleId, sampleSha256⟩ hlast rfl rfl

end LorePia.Discovery
