import LorePia.Discovery.Contract

namespace LorePia.Discovery

open Lib List AcceptedAction Or ProviderDiscoverySession

/-!
# Provider discovery — cancellation over whole runs

An accepted `Cancel` either ends the session or leaves `cancellation_pending` set, and no
step clears that flag except on the way to `Cancelled` or `Failed`.  `Cancelling` says so of
a session.

* `Stages.cancelling` — the step lemma: cancelling sessions stay so;
* `SessionRun.cancellation_history` — the flag carries the memory of a cancel and of an
    issued cancellation request;
* `cancel_excludes_ready` — after a cancel the session never becomes ready, and a run
    requests cancellation at most once.
-/

variable {X : Externals} {s : ProviderDiscoverySession}

/-- **A cancelling session**: its cancellation is pending, or it has ended otherwise than
    ready. -/
def Cancelling (s : ProviderDiscoverySession) : Prop :=
  (s.cancellationPending = true ∧ s.state ≠ .ready) ∨ s.state = .cancelled ∨ s.state = .failed

theorem Cancelling.not_ready (h : Cancelling s) : s.state ≠ .ready := by
  rcases h with ⟨_, h⟩ | h | h
  · exact h
  · rw [h]
    decide
  · rw [h]
    decide

/-- A cancelling session that still accepts actions has its cancellation pending. -/
theorem Cancelling.pending (h : Cancelling s) (hs : s.state.isTerminal = false) :
    s.cancellationPending = true := by
  rcases h with ⟨h, _⟩ | h | h
  · exact h
  · rw [h] at hs
    cases hs
  · rw [h] at hs
    cases hs

private theorem cancelling_settled {pending : Bool} (h : s.state = settledState pending) :
    Cancelling s := by
  rcases settledState_cases pending with hp | hp
  · exact inr (inr (h.trans hp))
  · exact inr (inl (h.trans hp))

/-! ### Effects -/

/-- The effect asks the host to cancel an operation. -/
def DiscoveryEffect.requestsCancellation : DiscoveryEffect → Bool
  | .requestCancellation _ => true
  | _ => false

theorem effectForOperation_requestsCancellation {effect : DiscoveryEffect}
    (h : effectForOperation s op = .ok effect) :
    effect.requestsCancellation = false := by
  cases op <;> simp only [effectForOperation, bind_ok, pure_ok, Except.ok.injEq] at h
  case buildAssistantManifestDraft | probeCapabilities | compensation =>
    obtain ⟨_, _, rfl⟩ := h
    rfl
  case atomicCommit =>
    obtain ⟨_, _, _, _, rfl⟩ := h
    rfl
  all_goals
    subst h
    rfl

/-! ### The step lemmas -/

private theorem TableArm.cancelling (h : TableArm X s action t) (hc : s.Coherent)
    (hp : s.cancellationPending = true) : Cancelling t.next := by
  cases h with
  | assistantCheckpointed hs => exact inl ⟨hp, by rw [hs]; decide⟩
  | compensationFailed hs _ _ | resumeCompensation hs _ _ =>
    exact inl ⟨hp, by show s.state ≠ .ready; rw [hs]; decide⟩
  | commitSucceeded _ hpend | confirmedCommit _ _ hpend =>
    -- the two arms that make a session ready require that no cancellation is pending
    rw [hp] at hpend
    cases hpend
  | commitFailedBeforeApply _ _ | compensationSucceeded _ _ | confirmedCompensated _ _ _
  | manuallyReconciledAsFailed _ => exact cancelling_settled rfl
  | restartInterrupted hs hr _ =>
    obtain ⟨_, _, op, hrec, _⟩ := (coherent_interrupted hs).mp hc
    obtain rfl := Option.some.inj (hrec.symm.trans hr)
    refine inl ⟨hp, ?_⟩
    cases op <;> exact fun h => nomatch h
  | noEffectCancelled _ _ _ _ => exact inr (inl rfl)
  | _ => exact inl ⟨hp, fun h => nomatch h⟩

/-- **Cancelling step.** A cancelling session stays so. -/
theorem Stages.cancelling (h : Stages X s action t) (hc : s.Coherent) (hcan : Cancelling s) :
    Cancelling t.next := by
  have hp := hcan.pending h.not_terminal
  have hready := hcan.not_ready
  cases h with
  | cancelCompensating _ | cancelOperation _ _ _ => exact inl ⟨rfl, hready⟩
  | cancelAgain _ _ _ => exact hcan
  | cancelIdle _ _ _ | interruptCancelled _ _ _ _ | completePending _ _ _ => exact inr (inl rfl)
  | interruptSaga _ _ _ _ | interruptCheckpoint _ _ _ | interruptUnknown _ _ =>
    exact inl ⟨hp, fun h => nomatch h⟩
  | fail _ _ _ => exact cancelling_settled rfl
  | table _ harm => exact harm.cancelling hc hp

/-- An accepted cancel makes the session a cancelling one. -/
theorem Stages.cancel_cancelling (h : Stages X s .cancel t) : Cancelling t.next := by
  have hready : s.state ≠ .ready := by
    intro hs
    have hterm := h.not_terminal
    rw [hs] at hterm
    cases hterm
  cases h with
  | cancelCompensating _ | cancelOperation _ _ _ => exact inl ⟨rfl, hready⟩
  | cancelAgain _ _ hp => exact inl ⟨hp, hready⟩
  | cancelIdle _ _ _ => exact inr (inl rfl)
  | completePending _ _ ha =>
    revert ha
    cases s.state <;> exact fun ha => nomatch ha
  | table _ harm => cases harm

/-- Cancellation is requested by a cancel of a session with none pending, and only so. -/
theorem Stages.requestsCancellation (h : Stages X s action t)
    (he : t.effect.requestsCancellation = true) :
    action = .cancel ∧ s.cancellationPending = false := by
  cases h with
  | cancelOperation _ _ hp => exact ⟨rfl, hp⟩
  | table _ harm =>
    cases harm with
    | restartInterrupted _ _ heff =>
      rw [effectForOperation_requestsCancellation heff] at he
      cases he
    | _ => cases he
  | _ => cases he

/-! ### Whole runs -/

/-- The step issues a cancellation request. -/
def AcceptedAction.requestsCancellation (l : AcceptedAction) : Bool :=
  l.transition.effect.requestsCancellation

/-- **Cancellation history.** Once a cancel was accepted the session is cancelling, and at
    most one cancellation was requested along the run. -/
theorem SessionRun.cancellation_history (h : SessionRun X tr s) :
    ((∃ l ∈ tr, l.envelope.action = .cancel) → Cancelling s) ∧
      (tr.filter requestsCancellation).length ≤ 1 ∧
      (tr.filter requestsCancellation ≠ [] → Cancelling s) := by
  refine h.history (P := fun tr s =>
    ((∃ l ∈ tr, l.envelope.action = .cancel) → Cancelling s) ∧
      (tr.filter requestsCancellation).length ≤ 1 ∧
      (tr.filter requestsCancellation ≠ [] → Cancelling s)) ?_ ?_
  · intro s _ _
    refine ⟨?_, Nat.zero_le 1, fun h => absurd rfl h⟩
    rintro ⟨l, hl, _⟩
    cases hl
  · rintro tr m l _ hrun ⟨hcancel, hcount, hrequested⟩ hstep
    obtain ⟨staged, hstages, heff, rfl, _⟩ := hstep.cases
    have hkeep : Cancelling m → Cancelling (staged.sealed m) :=
      fun hm => hstages.cancelling hrun.sound.coherent hm
    rw [filter_append]
    refine ⟨?_, ?_⟩
    · rintro ⟨l', hl', ha⟩
      rcases mem_append.mp hl' with hl' | hl'
      · exact hkeep (hcancel ⟨l', hl', ha⟩)
      · rw [mem_singleton] at hl'
        subst hl'
        rw [ha] at hstages
        exact hstages.cancel_cancelling
    · cases hreq : l.requestsCancellation with
      | false =>
        rw [filter_cons_of_neg (by simp [hreq]), filter_nil, append_nil]
        exact ⟨hcount, fun hne => hkeep (hrequested hne)⟩
      | true =>
        -- a request needs a session with none pending, so none was issued before
        rw [requestsCancellation, heff] at hreq
        obtain ⟨ha, hpend⟩ := hstages.requestsCancellation hreq
        have hnone : tr.filter requestsCancellation = [] := by
          by_contra hne
          have hp := (hrequested hne).pending hstages.not_terminal
          rw [hpend] at hp
          cases hp
        rw [hnone, nil_append]
        refine ⟨length_filter_le _ _, fun _ => ?_⟩
        rw [ha] at hstages
        exact hstages.cancel_cancelling

/-- **A cancelled discovery never becomes ready.** In every run, no step from an accepted
    cancel on ends in a ready session; and the whole run, hence its stay in any one operation
    state, issues at most one cancellation request. -/
theorem cancel_excludes_ready {tr : List AcceptedAction} (h : SessionRun X tr s) :
    (∀ pre l post, tr = pre ++ l :: post → l.envelope.action = .cancel →
      ∀ l' ∈ l :: post, l'.transition.session.state ≠ .ready) ∧
    (tr.filter AcceptedAction.requestsCancellation).length ≤ 1 := by
  refine ⟨?_, h.cancellation_history.2.1⟩
  rintro pre l post rfl ha l' hl'
  obtain ⟨mid, rest, hsplit⟩ := append_of_mem hl'
  rw [hsplit, ← append_assoc] at h
  obtain ⟨m, m', hpre, hstep, _⟩ := h.split_at
  have hmem : l ∈ pre ++ mid ++ [l'] := by
    cases mid with
    | nil => simp [(List.cons.inj hsplit).1]
    | cons x mid => simp [(List.cons.inj hsplit).1]
  have hcan := (hpre.snoc hstep).cancellation_history.1 ⟨l, hmem, ha⟩
  rw [hstep.target]
  exact hcan.not_ready

/-- A fetch is cancelled twice and then completes. -/
def cancelledFetch : List AcceptedAction × ProviderDiscoverySession :=
  play sampleExternals sampleId sampleSha256 sampleSession
    [.begin, .knownProviderCandidatesResolved 0, .cancel, .cancel, .documentsFetched 1]

theorem cancelledFetch_run : SessionRun sampleExternals cancelledFetch.1 cancelledFetch.2 := by
  refine ⟨_, _, _, sampleSession_new, ?_⟩
  refine play_run sampleSha256_valid (new_sound sampleSession_new) ?_ (by decide) (by decide)
  intro action hact
  simp only [mem_cons, not_mem_nil, or_false] at hact
  rcases hact with rfl | rfl | rfl | rfl | rfl
  all_goals exact playable_of (by simp) (by simp)

theorem cancel_excludes_ready_cancelledFetch :
    (∀ pre l post, cancelledFetch.1 = pre ++ l :: post → l.envelope.action = .cancel →
      ∀ l' ∈ l :: post, l'.transition.session.state ≠ .ready) ∧
    (cancelledFetch.1.filter AcceptedAction.requestsCancellation).length ≤ 1 :=
  cancel_excludes_ready cancelledFetch_run

end LorePia.Discovery
