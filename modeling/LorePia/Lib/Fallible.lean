import Mathlib.Tactic.Common

namespace LorePia.Lib

/-!
# Fallible computations

Inversion lemmas for programs written in `Except`.  A guard that returns early is
`require c e`; a program is a chain of guards and binds.  The lemmas here peel such a
chain apart from the outside, so that a proof about a program obtains what each guard
established without unfolding the monad.
-/

variable {ε ε' α β : Type _} {P : ε → Prop} {a : α} {as : List α} {b : β}
  {check : α → Except ε Unit} {e : ε} {f : α → Except ε β} {o : Option α}

/-- Early return: fail with `e` unless `c` holds. -/
def require (c : Prop) [Decidable c] (e : ε) : Except ε Unit :=
  if c then .ok () else .error e

@[simp] theorem require_ok {c : Prop} [Decidable c] :
    require c e = .ok u ↔ c := by
  by_cases h : c <;> simp [require, h]

@[simp] theorem require_eq_error {c : Prop} [Decidable c] :
    require c e = .error e' ↔ ¬ c ∧ e = e' := by
  by_cases h : c <;> simp [require, h]

theorem require_true {c : Prop} [Decidable c] (h : c) (e : ε) : require c e = .ok () := by
  simp [h]

/-- A bind succeeds iff both halves do. -/
theorem bind_ok :
    (x >>= f) = .ok b ↔ ∃ a, x = .ok a ∧ f a = .ok b := by
  cases x with
  | ok a => simp [bind, Except.bind]
  | error e => simp [bind, Except.bind]

theorem then_ok (hx : x = .ok a) (hf : f a = .ok b) : (x >>= f) = .ok b :=
  bind_ok.mpr ⟨a, hx, hf⟩

/-- A bind fails iff its first half does, or its second half does on the first's result. -/
theorem bind_eq_error :
    (x >>= f) = .error e ↔ x = .error e ∨ ∃ a, x = .ok a ∧ f a = .error e := by
  cases x with
  | ok a => simp [bind, Except.bind]
  | error e => simp [bind, Except.bind]

/-- A guarded program succeeds iff the guard holds and the rest succeeds. -/
theorem guard_ok {c : Prop} [Decidable c] {f : Unit → Except ε α} :
    (require c e >>= f) = .ok a ↔ c ∧ f () = .ok a := by
  by_cases h : c <;> simp [require, h, bind, Except.bind]

theorem guarded {c : Prop} [Decidable c] {f : Unit → Except ε α} (hc : c) (h : f () = .ok a) :
    (require c e >>= f) = .ok a :=
  guard_ok.mpr ⟨hc, h⟩

/-- A program behind a check succeeds iff the check does and the rest succeeds. -/
theorem unit_bind_ok {x : Except ε Unit} {f : Unit → Except ε β} :
    (x >>= f) = .ok b ↔ x = .ok () ∧ f () = .ok b := by
  cases x <;> simp [bind, Except.bind]

/-! A program that succeeds gets past its first steps, with what they find or whatever that is. -/

section Rest

variable {γ δ : Type _} {y : α → Except ε β} {z : α → β → Except ε γ}

theorem steps₂ {f : α → β → Except ε δ} (h : (x >>= fun a => y a >>= f a) = .ok r) :
    ∃ a, x = .ok a ∧ ∃ b, y a = .ok b ∧ f a b = .ok r := by
  obtain ⟨a, ha, h⟩ := bind_ok.mp h
  obtain ⟨b, hb, h⟩ := bind_ok.mp h
  exact ⟨a, ha, b, hb, h⟩

theorem steps₃ {f : α → β → γ → Except ε δ}
    (h : (x >>= fun a => y a >>= fun b => z a b >>= f a b) = .ok r) :
    ∃ a, x = .ok a ∧ ∃ b, y a = .ok b ∧ ∃ c, z a b = .ok c ∧ f a b c = .ok r := by
  obtain ⟨a, ha, h⟩ := bind_ok.mp h
  obtain ⟨b, hb, c, hc, h⟩ := steps₂ h
  exact ⟨a, ha, b, hb, c, hc, h⟩

theorem guards₂ {c c' : Prop} [Decidable c] [Decidable c'] {f : Unit → Unit → Except ε δ}
    (h : (require c e >>= fun a => require c' e' >>= f a) = .ok r) : c ∧ c' ∧ f () () = .ok r := by
  obtain ⟨hc, h⟩ := guard_ok.mp h
  exact ⟨hc, guard_ok.mp h⟩

theorem guard_step {c : Prop} [Decidable c] {x : Unit → Except ε α} {f : Unit → α → Except ε δ}
    (h : (require c e >>= fun a => x a >>= f a) = .ok r) :
    c ∧ ∃ a, x () = .ok a ∧ f () a = .ok r := by
  obtain ⟨hc, h⟩ := guard_ok.mp h
  exact ⟨hc, bind_ok.mp h⟩

theorem step_guard {c : α → Prop} [∀ a, Decidable (c a)] {e : α → ε} {f : α → Unit → Except ε δ}
    (h : (x >>= fun a => require (c a) (e a) >>= f a) = .ok r) :
    ∃ a, x = .ok a ∧ c a ∧ f a () = .ok r := by
  obtain ⟨a, ha, h⟩ := bind_ok.mp h
  exact ⟨a, ha, guard_ok.mp h⟩

theorem last_step {x : Except ε α} {f : α → δ} (h : (x >>= fun a => pure (f a)) = .ok r) :
    ∃ a, x = .ok a ∧ f a = r := by
  obtain ⟨a, ha, h⟩ := bind_ok.mp h
  exact ⟨a, ha, Except.ok.inj h⟩

theorem rest₂ {f : α → β → Except ε δ} (h : (x >>= fun a => y a >>= f a) = .ok r) :
    ∃ a b, f a b = .ok r := by
  obtain ⟨a, _, b, _, h⟩ := steps₂ h
  exact ⟨a, b, h⟩

theorem rest₃ {f : α → β → γ → Except ε δ}
    (h : (x >>= fun a => y a >>= fun b => z a b >>= f a b) = .ok r) : ∃ a b c, f a b c = .ok r := by
  obtain ⟨a, _, b, _, c, _, h⟩ := steps₃ h
  exact ⟨a, b, c, h⟩

end Rest

@[simp] theorem ok_bind (a : α) (f : α → Except ε β) : (Except.ok a >>= f) = f a := rfl

@[simp] theorem error_bind (e : ε) (f : α → Except ε β) :
    ((Except.error e : Except ε α) >>= f) = .error e := rfl

@[simp] theorem pure_ok (a : α) : (pure a : Except ε α) = .ok a := rfl

theorem pure_inj {b : α} (h : (pure a : Except ε α) = .ok b) : a = b :=
  Except.ok.inj h

theorem of_pure_ok {P : α → Prop} {b : α} (h : (pure a : Except ε α) = .ok b) (ha : P a) : P b :=
  pure_inj h ▸ ha

@[simp] theorem throw_eq_error (e : ε) : (throw e : Except ε α) = .error e := rfl

/-- Rewording the error of a computation keeps its successes. -/
@[simp] theorem mapError_ok {x : Except ε α} :
    x.mapError g = .ok a ↔ x = .ok a := by
  cases x <;> simp [Except.mapError]

@[simp] theorem mapError_eq_error {x : Except ε α} {e : ε'} :
    x.mapError g = .error e ↔ ∃ e₀, x = .error e₀ ∧ g e₀ = e := by
  cases x <;> simp [Except.mapError]

/-- `Option::ok_or`: an absent value is the error `e`. -/
def okOr (o : Option α) (e : ε) : Except ε α :=
  match o with
  | some a => .ok a
  | none => .error e

@[simp] theorem okOr_ok : okOr o e = .ok a ↔ o = some a := by
  cases o <;> simp [okOr]

@[simp] theorem okOr_eq_error :
    okOr o e = .error e' ↔ o = none ∧ e = e' := by
  cases o <;> simp [okOr]

/-- Run a check on every element in order, stopping at the first failure. -/
def forEach (check : α → Except ε Unit) : List α → Except ε Unit
  | [] => .ok ()
  | a :: as => check a >>= fun _ => forEach check as

/-- What holds of a list's elements and of one more holds of the list that ends with it. -/
theorem forall_mem_concat {p : α → Prop} :
    (∀ b ∈ as ++ [a], p b) ↔ (∀ b ∈ as, p b) ∧ p a := by
  rw [List.forall_mem_append, List.forall_mem_singleton]

theorem forEach_ok :
    forEach check as = .ok u ↔ ∀ a ∈ as, check a = .ok () := by
  induction as with
  | nil => simp [forEach]
  | cons a as ih => rw [forEach, unit_bind_ok, ih, List.forall_mem_cons]

/-- Where a function only lets values through, it lets a list through iff it lets through every
    element. -/
theorem mapM_ok_self {f : α → Except ε α} (hf : ∀ a b, f a = .ok b → b = a) :
    as.mapM f = .ok bs ↔ bs = as ∧ ∀ a ∈ as, f a = .ok a := by
  induction as generalizing bs with
  | nil => simp [eq_comm]
  | cons a as ih =>
    rw [List.mapM_cons, List.forall_mem_cons]
    constructor
    · intro h
      obtain ⟨b, hb, hrest⟩ := bind_ok.mp h
      obtain ⟨cs, hcs, hbs⟩ := bind_ok.mp hrest
      obtain rfl := hf a b hb
      obtain ⟨rfl, has⟩ := ih.mp hcs
      exact ⟨(pure_inj hbs).symm, hb, has⟩
    · rintro ⟨rfl, ha, has⟩
      exact bind_ok.mpr ⟨a, ha, bind_ok.mpr ⟨as, ih.mpr ⟨rfl, has⟩, rfl⟩⟩

/-- Run a check on a value that may be absent. -/
def forSome (check : α → Except ε Unit) : Option α → Except ε Unit
  | none => .ok ()
  | some a => check a

@[simp] theorem forSome_ok :
    forSome check o = .ok u ↔ ∀ a, o = some a → check a = .ok () := by
  cases o with
  | none => simp [forSome]
  | some a => simp [forSome]

/-! ### Errors a program never raises -/

/-- The program raises no error that satisfies `P`. -/
def Avoids (P : ε → Prop) (x : Except ε α) : Prop := ∀ e, x = .error e → ¬ P e

theorem avoids_pure : Avoids P (pure a : Except ε α) := by
  intro e h
  cases h

theorem avoids_error (he : ¬ P e) :
    Avoids P (.error e : Except ε α) := by
  rintro _ ⟨⟩
  exact he

theorem avoids_require {c : Prop} [Decidable c] (he : ¬ P e) :
    Avoids P (require c e) := by
  intro e' h
  rw [require_eq_error] at h
  exact h.2 ▸ he

theorem avoids_okOr (ho : o.isSome = true) :
    Avoids P (okOr o e) := by
  intro e' h
  rw [okOr_eq_error] at h
  rw [h.1] at ho
  cases ho

theorem avoids_mapError {P : ε' → Prop} {x : Except ε α} (hg : ∀ e, ¬ P (g e)) :
    Avoids P (x.mapError g) := by
  intro e h
  obtain ⟨e₀, _, rfl⟩ := mapError_eq_error.mp h
  exact hg e₀

/-- A bind avoids what both its halves avoid. -/
theorem Avoids.bind (hx : Avoids P x) (hf : ∀ a, x = .ok a → Avoids P (f a)) :
    Avoids P (x >>= f) := by
  intro e h
  rcases bind_eq_error.mp h with h | ⟨a, ha, h⟩
  · exact hx e h
  · exact hf a ha e h

theorem Avoids.ite {c : Prop} [Decidable c] {x y : Except ε α}
    (hx : c → Avoids P x) (hy : ¬ c → Avoids P y) : Avoids P (if c then x else y) := by
  by_cases hc : c
  · rw [if_pos hc]
    exact hx hc
  · rw [if_neg hc]
    exact hy hc

theorem Avoids.okOr (he : ¬ P e) : Avoids P (okOr o e) := by
  intro e' h
  rw [okOr_eq_error] at h
  exact h.2 ▸ he

theorem Avoids.forEach (hcheck : ∀ a, Avoids P (check a)) : Avoids P (forEach check as) := by
  induction as with
  | nil => exact avoids_pure
  | cons a as ih => exact (hcheck a).bind fun _ _ => ih

theorem Avoids.forSome (hcheck : ∀ a, Avoids P (check a)) : Avoids P (forSome check o) := by
  cases o with
  | none => exact avoids_pure
  | some a => exact hcheck a

/-! ### Postconditions -/

/-- The program ends in a value that satisfies `Q` or in an error that satisfies `R`. -/
def Ensures (Q : α → Prop) (R : ε → Prop) : Except ε α → Prop
  | .ok a => Q a
  | .error e => R e

variable {Q Q' : α → Prop} {R R' : ε → Prop}

theorem Ensures.of_ok (h : Ensures Q R x) (hx : x = .ok a) : Q a := by
  rw [hx] at h
  exact h

theorem Ensures.of_error (h : Ensures Q R x) (hx : x = .error e) : R e := by
  rw [hx] at h
  exact h

/-- Weakening both postconditions. -/
theorem Ensures.mono (h : Ensures Q R x) (hQ : ∀ a, Q a → Q' a) (hR : ∀ e, R e → R' e) :
    Ensures Q' R' x := by
  cases x with
  | ok a => exact hQ a h
  | error e => exact hR e h

/-- **Sequencing.** The second program runs from the postcondition of the first. -/
theorem Ensures.bind {S : β → Prop} (h : Ensures Q R x)
    (hf : ∀ a, Q a → Ensures S R (f a)) : Ensures S R (x >>= f) := by
  cases x with
  | ok a => exact hf a h
  | error e => exact h

theorem Ensures.ite {c : Prop} [Decidable c] {y : Except ε α} (hx : c → Ensures Q R x)
    (hy : ¬ c → Ensures Q R y) : Ensures Q R (if c then x else y) := by
  by_cases hc : c
  · rw [if_pos hc]
    exact hx hc
  · rw [if_neg hc]
    exact hy hc

/-- A guard establishes its condition. -/
theorem ensures_require {c : Prop} [Decidable c] (he : ¬ c → R e) :
    Ensures (fun _ => c) R (require c e) := by
  by_cases hc : c
  · rw [require_true hc]
    exact hc
  · rw [require, if_neg hc]
    exact he hc

theorem ensures_okOr (he : o = none → R e) :
    Ensures (fun a => o = some a) R (okOr o e) := by
  cases o with
  | none => exact he rfl
  | some a => rfl

end LorePia.Lib
