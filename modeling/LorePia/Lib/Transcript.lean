import LorePia.Lib.Fallible
import Mathlib.Data.List.Infix

namespace LorePia.Lib

open List

/-!
# Transcripts

A computation that sends along the way and may fail: its transcript is what it sent and how
it ended.  What was sent before a failure stays sent.  A pure check is lifted into a
transcript that sends nothing.

`After before x Q` is partial correctness with the log as ghost state: if `x` runs behind the
log `before` and succeeds, `Q` holds of the whole log and the result.

* `After.bind`, `After.ite`, `after_lift`, `after_send` — the rules for a program;
* `After.forEachSend` — a loop over a list keeps what its body keeps.
-/

variable {ω ε α β σ : Type} {P : List ω → Prop} {R : List ω → Unit → Prop} {e : ε} {event : ω}
  {y : Except ε α}

/-- What a computation sent, and how it ended. -/
structure Transcript (ω ε α : Type) where
  sent : List ω
  result : Except ε α

namespace Transcript

instance : Monad (Transcript ω ε) where
  pure a := ⟨[], .ok a⟩
  bind x f :=
    match x.result with
    | .ok a => ⟨x.sent ++ (f a).sent, (f a).result⟩
    | .error e => ⟨x.sent, .error e⟩

instance : MonadLift (Except ε) (Transcript ω ε) := ⟨fun x => ⟨[], x⟩⟩

def send (event : ω) : Transcript ω ε Unit := ⟨[event], .ok ()⟩

def sendAll (events : List ω) : Transcript ω ε Unit := ⟨events, .ok ()⟩

def fail (e : ε) : Transcript ω ε α := ⟨[], .error e⟩

/-- Run a computation only if a condition holds. -/
def onlyIf (c : Prop) [Decidable c] (x : Transcript ω ε Unit) : Transcript ω ε Unit :=
  if c then x else pure ()

/-- A bind succeeds iff both halves do, and its log is theirs. -/
theorem bind_result_ok {f : α → Transcript ω ε β} :
    (x >>= f).result = .ok b ↔
      ∃ a, x.result = .ok a ∧ (f a).result = .ok b ∧ (x >>= f).sent = x.sent ++ (f a).sent := by
  cases x with
  | mk sent result =>
    cases result with
    | ok a => simp [bind]
    | error e => simp [bind]

theorem bind_result_ok_iff {f : α → Transcript ω ε β} :
    (x >>= f).result = .ok b ↔ ∃ a, x.result = .ok a ∧ (f a).result = .ok b := by
  rcases x with ⟨sent, e | a⟩
  · simp [bind]
  · simp [bind]

/-- A lifted check in front of a program: both succeed. -/
theorem lift_bind_result_ok {f : α → Transcript ω ε β} :
    (liftM y >>= f).result = .ok b ↔ ∃ a, y = .ok a ∧ (f a).result = .ok b := by
  cases y with
  | ok a =>
    constructor
    · intro h
      exact ⟨a, rfl, h⟩
    · rintro ⟨_, ha, h⟩
      cases ha
      exact h
  | error e =>
    constructor
    · intro h
      cases h
    · rintro ⟨_, ha, _⟩
      cases ha

theorem send_bind_result {f : Unit → Transcript ω ε β} :
    (send event >>= f).result = (f ()).result := rfl

theorem ok_bind (sent : List ω) (a : α) (f : α → Transcript ω ε β) :
    (⟨sent, .ok a⟩ >>= f : Transcript ω ε β) = ⟨sent ++ (f a).sent, (f a).result⟩ := rfl

theorem error_bind (sent : List ω) (e : ε) (f : α → Transcript ω ε β) :
    (⟨sent, .error e⟩ >>= f : Transcript ω ε β) = ⟨sent, .error e⟩ := rfl

theorem pure_bind (a : α) (f : α → Transcript ω ε β) :
    ((pure a : Transcript ω ε α) >>= f) = f a := rfl

theorem ok_bind_pure (sent : List ω) (a : α) (g : α → β) :
    (⟨sent, .ok a⟩ >>= fun a => pure (g a) : Transcript ω ε β) = ⟨sent, .ok (g a)⟩ := by
  rw [ok_bind]
  simp [pure]

theorem lift_ok_bind (a : α) (f : α → Transcript ω ε β) :
    ((liftM (Except.ok a : Except ε α) : Transcript ω ε α) >>= f) = f a := rfl

theorem bind_assoc (x : Transcript ω ε α) (f : α → Transcript ω ε β) {γ : Type}
    (g : β → Transcript ω ε γ) : (x >>= f) >>= g = x >>= fun a => f a >>= g := by
  rcases x with ⟨sent, e | a⟩
  · rfl
  · rw [ok_bind, ok_bind]
    rcases f a with ⟨sent', e | b⟩
    · rfl
    · rw [ok_bind, ok_bind, append_assoc]

end Transcript

/-! ### Partial correctness -/

/-- If `x` runs behind the log `before` and succeeds, `Q` holds of the log and the result. -/
def After (before : List ω) (x : Transcript ω ε α) (Q : List ω → α → Prop) : Prop :=
  ∀ a, x.result = .ok a → Q (before ++ x.sent) a

variable {before : List ω} {Q Q' : List ω → α → Prop} {S : List ω → β → Prop}

theorem After.mono (h : After before x Q) (hQ : ∀ log a, Q log a → Q' log a) :
    After before x Q' :=
  fun a ha => hQ _ _ (h a ha)

/-- **Sequencing.** The second computation runs behind the log of the first. -/
theorem After.bind {f : α → Transcript ω ε β} (h : After before x Q)
    (hf : ∀ log a, Q log a → After log (f a) S) : After before (x >>= f) S := by
  intro b hb
  obtain ⟨a, ha, hfa, hsent⟩ := Transcript.bind_result_ok.mp hb
  rw [hsent, ← append_assoc]
  exact hf _ a (h a ha) b hfa

theorem After.ite {c : Prop} [Decidable c] {y : Transcript ω ε α} (hx : c → After before x Q)
    (hy : ¬ c → After before y Q) : After before (if c then x else y) Q := by
  by_cases hc : c
  · rw [if_pos hc]
    exact hx hc
  · rw [if_neg hc]
    exact hy hc

theorem after_pure {a : α} (h : Q before a) :
    After before (pure a : Transcript ω ε α) Q := by
  rintro _ ⟨⟩
  rw [show (pure a : Transcript ω ε α).sent = [] from rfl, append_nil]
  exact h

theorem after_fail : After before (Transcript.fail e : Transcript ω ε α) Q := by
  intro a ha
  cases ha

/-- A lifted check leaves the log alone. -/
theorem after_lift (h : ∀ a, y = .ok a → Q before a) :
    After before (liftM y : Transcript ω ε α) Q := by
  intro a ha
  rw [show (liftM y : Transcript ω ε α).sent = [] from rfl, append_nil]
  exact h a ha

theorem after_send (h : R (before ++ [event]) ()) :
    After before (Transcript.send event : Transcript ω ε Unit) R := by
  rintro _ ⟨⟩
  exact h

theorem After.onlyIf {c : Prop} [Decidable c] {y : Transcript ω ε Unit} (hy : c → After before y R) (hskip : ¬ c → R before ()) :
    After before (Transcript.onlyIf c y) R :=
  After.ite hy fun hc => after_pure (hskip hc)

theorem after_sendAll {events : List ω} (h : R (before ++ events) ()) :
    After before (Transcript.sendAll events : Transcript ω ε Unit) R := by
  rintro _ ⟨⟩
  exact h

/-- A lifted check in front of a program establishes what it checked. -/
theorem After.lift_bind {f : α → Transcript ω ε β} (h : ∀ a, y = .ok a → After before (f a) S) :
    After before (liftM y >>= f) S :=
  (after_lift (Q := fun log a => log = before ∧ y = .ok a) fun _ ha => ⟨rfl, ha⟩).bind
    fun _ a ha => ha.1 ▸ h a ha.2

/-- A guard in front of a program. -/
theorem After.require_bind {c : Prop} [Decidable c] {f : Unit → Transcript ω ε β}
    (h : c → After before (f ()) S) :
    After before (liftM (require c e) >>= f) S :=
  After.lift_bind fun _ ha => h (require_ok.mp ha)

/-- A program behind what it sends first. -/
theorem After.send_bind {f : Unit → Transcript ω ε β}
    (h : After (before ++ [event]) (f ()) S) : After before (Transcript.send event >>= f) S :=
  (after_send (R := fun log _ => log = before ++ [event]) rfl).bind fun _ _ hlog => hlog ▸ h

/-! ### The log of every run -/

/-- What was sent, also where the program fails: nothing, or what follows a lifted check. -/
theorem Transcript.sent_lift_bind {f : α → Transcript ω ε β}
    (hnil : P []) (h : ∀ a, y = .ok a → P (f a).sent) : P (liftM y >>= f).sent := by
  cases y with
  | ok a => exact h a rfl
  | error e => exact hnil

theorem Transcript.sent_require_bind {c : Prop} [Decidable c]
    {f : Unit → Transcript ω ε β} (hnil : P []) (h : c → P (f ()).sent) :
    P (liftM (require c e) >>= f).sent :=
  sent_lift_bind hnil fun _ hc => h (require_ok.mp hc)

/-- Behind a program, a check sends nothing. -/
theorem Transcript.sent_bind_lift {f : α → Except ε β} :
    (x >>= fun a => (liftM (f a) : Transcript ω ε β)).sent = x.sent := by
  rcases x with ⟨sent, e | a⟩
  · rfl
  · rw [Transcript.ok_bind]
    exact append_nil sent

/-! ### Loops -/

/-- Run a step for every element of a list. -/
def forEachSend (step : α → σ → Transcript ω ε σ) : List α → σ → Transcript ω ε σ
  | [], s => pure s
  | a :: as, s => do
    let s ← step a s
    forEachSend step as s

theorem After.forEachSend {step : α → σ → Transcript ω ε σ} {I : List ω → σ → Prop}
    (hstep : ∀ log a s, I log s → After log (step a s) I) (as : List α) {s : σ}
    (h : I before s) : After before (forEachSend step as s) I := by
  induction as generalizing before s with
  | nil => exact after_pure h
  | cons a as ih => exact (hstep before a s h).bind fun _ _ h' => ih h'

end LorePia.Lib
