import LorePia.Lib.Fallible

namespace LorePia.Lib

/-!
# Programs that change a state and may fail

A method that takes `&mut self` and returns a `Result` keeps what it wrote before it failed.
`Stateful σ ε α` is such a program; `exec` runs it and returns its result together with the
state it leaves.

* `check_bind_ok`, `check_guard_ok` — peel a successful program apart, check by check;
* `ReadsOnly` / `Atomic` — a program that writes nothing, and one that writes nothing when it
  fails;
* `ReadsOnly.bind_atomic`, `Atomic.of_succeeds` — a program that first checks and then writes
  is atomic.
-/

variable {σ ε α β : Type} {y : Except ε α}

/-- A program over a state `σ` that returns an `α` or fails with an `ε`. -/
abbrev Stateful (σ ε α : Type) : Type := ExceptT ε (StateM σ) α

namespace Stateful

/-- Run a program: its result and the state it leaves. -/
def exec (x : Stateful σ ε α) (s : σ) : Except ε α × σ := StateT.run (m := Id) (ExceptT.run x) s

/-- A check that reads no state. -/
def check (y : Except ε α) : Stateful σ ε α := ExceptT.mk (pure y)

/-- Catch the outcome of a program; what it wrote stays. -/
def observe (x : Stateful σ ε α) : Stateful σ ε (Except ε α) :=
  ExceptT.mk (Except.ok <$> ExceptT.run x)

variable {x : Stateful σ ε α} {s t : σ} {e : ε}

/-! ### Running the steps of a program -/

@[simp] theorem exec_pure (a : α) (s : σ) : exec (pure a : Stateful σ ε α) s = (.ok a, s) := rfl

@[simp] theorem exec_check (y : Except ε α) (s : σ) :
    exec (check y : Stateful σ ε α) s = (y, s) := rfl

@[simp] theorem exec_get_bind (f : σ → Stateful σ ε β) (s : σ) :
    exec (get >>= f) s = exec (f s) s := rfl

@[simp] theorem exec_modify_bind (g : σ → σ) (f : PUnit → Stateful σ ε β) (s : σ) :
    exec (modify g >>= f) s = exec (f ⟨⟩) (g s) := rfl

@[simp] theorem exec_observe_bind (x : Stateful σ ε α) (f : Except ε α → Stateful σ ε β) (s : σ) :
    exec (observe x >>= f) s = exec (f (exec x s).1) (exec x s).2 := rfl

theorem exec_bind_of_ok (h : exec x s = (.ok a, t)) : exec (x >>= f) s = exec (f a) t := by
  show exec (ExceptT.bind x f) s = exec (f a) t
  unfold exec at h ⊢
  simp only [ExceptT.bind, ExceptT.run, ExceptT.mk, StateT.run, bind, StateT.bind] at h ⊢
  rw [h]
  rfl

theorem exec_bind_of_error (h : exec x s = (.error e, t)) : exec (x >>= f) s = (.error e, t) := by
  show exec (ExceptT.bind x f) s = (.error e, t)
  unfold exec at h ⊢
  simp only [ExceptT.bind, ExceptT.run, ExceptT.mk, StateT.run, bind, StateT.bind] at h ⊢
  rw [h]
  rfl

/-! ### Inversion -/

theorem bind_ok' : exec (x >>= f) s = (.ok b, t) ↔
    ∃ a m, exec x s = (.ok a, m) ∧ exec (f a) m = (.ok b, t) := by
  obtain ⟨r, m, hx⟩ : ∃ r m, exec x s = (r, m) := ⟨_, _, rfl⟩
  cases r with
  | ok a => simp [exec_bind_of_ok hx, hx]
  | error e => simp [exec_bind_of_error hx, hx]

/-- A program fails with its first half, or goes on with what that half returned. -/
theorem bind_cases (h : exec (x >>= f) s = (r, t)) :
    (∃ e, exec x s = (.error e, t) ∧ r = .error e) ∨
      ∃ a m, exec x s = (.ok a, m) ∧ exec (f a) m = (r, t) := by
  obtain ⟨r', m, hx⟩ : ∃ r m, exec x s = (r, m) := ⟨_, _, rfl⟩
  cases r' with
  | ok a =>
    rw [exec_bind_of_ok hx] at h
    exact .inr ⟨a, m, hx, h⟩
  | error e =>
    rw [exec_bind_of_error hx] at h
    obtain ⟨rfl, rfl⟩ := Prod.mk.inj h
    exact .inl ⟨e, hx, rfl⟩

/-- A program fails at a check, which writes nothing, or goes on with what was checked. -/
theorem check_bind_cases (h : exec (check y >>= f) s = (r, t)) :
    (∃ e, y = .error e ∧ r = .error e ∧ t = s) ∨ ∃ a, y = .ok a ∧ exec (f a) s = (r, t) := by
  rcases bind_cases h with ⟨e, hcheck, rfl⟩ | ⟨a, m, hcheck, h⟩
  · obtain ⟨rfl, rfl⟩ := Prod.mk.inj hcheck
    exact .inl ⟨e, rfl, rfl, rfl⟩
  · obtain ⟨rfl, rfl⟩ := Prod.mk.inj hcheck
    exact .inr ⟨a, rfl, h⟩

theorem check_ok :
    exec (check y : Stateful σ ε α) s = (.ok a, t) ↔ y = .ok a ∧ s = t := by
  rw [exec_check, Prod.mk.injEq]

theorem check_bind_ok : exec (check y >>= f) s = (.ok b, t) ↔
    ∃ a, y = .ok a ∧ exec (f a) s = (.ok b, t) := by
  simp [bind_ok', exec_check, and_assoc]

theorem check_guard_ok {c : Prop} [Decidable c] {g : Unit → Stateful σ ε β} :
    exec (check (require c e) >>= g) s = (.ok b, t) ↔ c ∧ exec (g ()) s = (.ok b, t) := by
  rw [check_bind_ok]
  constructor
  · rintro ⟨_, hc, h⟩
    exact ⟨require_ok.mp hc, h⟩
  · rintro ⟨hc, h⟩
    exact ⟨(), require_ok.mpr hc, h⟩

/-! ### What a failure leaves behind -/

/-- The program writes nothing. -/
def ReadsOnly (x : Stateful σ ε α) : Prop := ∀ s, (exec x s).2 = s

/-- The program writes nothing when it fails. -/
def Atomic (x : Stateful σ ε α) : Prop := ∀ s e t, exec x s = (.error e, t) → t = s

theorem ReadsOnly.eq (h : ReadsOnly x) {r : Except ε α} (hx : exec x s = (r, t)) : t = s := by
  have hs := h s
  rw [hx] at hs
  exact hs

theorem readsOnly_check : ReadsOnly (check y : Stateful σ ε α) := fun _ => rfl

/-- A program that always succeeds is atomic. -/
theorem Atomic.of_succeeds (h : ∀ s, ∃ a t, exec x s = (.ok a, t)) : Atomic x := by
  intro s e t hx
  obtain ⟨a, t', hok⟩ := h s
  rw [hok] at hx
  cases hx

/-- **Check, then write.** -/
theorem ReadsOnly.bind_atomic (hx : ReadsOnly x) (hf : ∀ a, Atomic (f a)) : Atomic (x >>= f) := by
  intro s e t h
  obtain ⟨r, m, hr⟩ : ∃ r m, exec x s = (r, m) := ⟨_, _, rfl⟩
  obtain rfl := hx.eq hr
  cases r with
  | ok a =>
    rw [exec_bind_of_ok hr] at h
    exact hf a _ _ _ h
  | error e' =>
    rw [exec_bind_of_error hr] at h
    cases h
    rfl

theorem atomic_check_bind (hf : ∀ a, Atomic (f a)) : Atomic (check y >>= f) :=
  readsOnly_check.bind_atomic hf

theorem atomic_get_bind {f : σ → Stateful σ ε β} (hf : ∀ s, Atomic (f s)) :
    Atomic (get >>= f) := fun s _ _ h => hf s _ _ _ h

theorem atomic_modify : Atomic (modify g : Stateful σ ε Unit) :=
  .of_succeeds fun s => ⟨(), g s, rfl⟩

theorem atomic_modify_pure :
    Atomic (modify g >>= fun _ => pure b : Stateful σ ε β) :=
  .of_succeeds fun s => ⟨b, g s, rfl⟩

end Stateful

end LorePia.Lib
