import Mathlib.Data.List.Induction

namespace LorePia.Lib

/-!
# Executions of a labelled transition relation

`Exec step s tr t` says that the labels `tr`, taken one after another, lead from `s` to
`t`.  A label carries whatever an observer sees of a step, so a property of a run is a
property of its label list.

* `Exec.append` / `Exec.split` — cut a run at a list position;
* `Exec.split_at` — cut a run around one of its labels;
* `Exec.invariant` — a state predicate kept by every step holds at the end of a run;
* `Exec.history` — the same for a predicate that also reads the labels so far, by
  induction on the last step.
-/

variable {σ ℓ : Type _} {I : σ → Prop}

/-- The labels `tr` lead from one state to another. -/
inductive Exec (step : σ → ℓ → σ → Prop) : σ → List ℓ → σ → Prop
  | nil (s : σ) : Exec step s [] s
  | cons {s m t : σ} {l : ℓ} {tr : List ℓ} :
      step s l m → Exec step m tr t → Exec step s (l :: tr) t

/-- `t` is the end of some run from `s`. -/
def Reachable (step : σ → ℓ → σ → Prop) (s t : σ) : Prop :=
  ∃ tr, Exec step s tr t

namespace Exec

variable {step : σ → ℓ → σ → Prop}

@[simp] theorem nil_iff : Exec step s [] t ↔ s = t := by
  constructor
  · rintro ⟨⟩
    rfl
  · rintro rfl
    exact .nil s

theorem cons_iff : Exec step s (l :: tr) t ↔ ∃ m, step s l m ∧ Exec step m tr t := by
  constructor
  · rintro (_ | ⟨hstep, hrest⟩)
    exact ⟨_, hstep, hrest⟩
  · rintro ⟨m, hstep, hrest⟩
    exact .cons hstep hrest

theorem append (h : Exec step s tr m) (h' : Exec step m tr' t) : Exec step s (tr ++ tr') t := by
  induction h with
  | nil => exact h'
  | cons hstep _ ih => exact .cons hstep (ih h')

/-- A run over a concatenation passes through a state between the two halves. -/
theorem split : ∀ {tr : List ℓ} {s : σ}, Exec step s (tr ++ tr') t →
    ∃ m, Exec step s tr m ∧ Exec step m tr' t
  | [], s, h => ⟨s, .nil s, h⟩
  | l :: tr, s, h => by
    obtain ⟨m, hstep, hrest⟩ := cons_iff.mp h
    obtain ⟨m', hpre, hpost⟩ := split hrest
    exact ⟨m', .cons hstep hpre, hpost⟩

theorem append_iff : Exec step s (tr ++ tr') t ↔ ∃ m, Exec step s tr m ∧ Exec step m tr' t :=
  ⟨split, fun ⟨_, h, h'⟩ => h.append h'⟩

theorem single_iff : Exec step s [l] t ↔ step s l t := by
  simp [cons_iff]

theorem snoc (h : Exec step s tr m) (hl : step m l t) : Exec step s (tr ++ [l]) t :=
  h.append (single_iff.mpr hl)

theorem snoc_iff : Exec step s (tr ++ [l]) t ↔ ∃ m, Exec step s tr m ∧ step m l t := by
  simp [append_iff, single_iff]

/-- A run around one of its labels: what came before, the step itself, what came after. -/
theorem split_at (h : Exec step s (tr ++ l :: tr') t) :
    ∃ m m', Exec step s tr m ∧ step m l m' ∧ Exec step m' tr' t := by
  obtain ⟨m, hpre, hrest⟩ := split h
  obtain ⟨m', hstep, hpost⟩ := cons_iff.mp hrest
  exact ⟨m, m', hpre, hstep, hpost⟩

/-- A run is a run of any relation that has its steps. -/
theorem mono {step' : σ → ℓ → σ → Prop} (hstep : ∀ s l t, step s l t → step' s l t)
    (h : Exec step s tr t) : Exec step' s tr t := by
  induction h with
  | nil s => exact .nil s
  | cons hl _ ih => exact .cons (hstep _ _ _ hl) ih

/-- Where labels determine their targets, so do label lists. -/
theorem unique (hdet : ∀ {s l t t'}, step s l t → step s l t' → t = t')
    (h : Exec step s tr t) (h' : Exec step s tr m) : t = m := by
  induction h with
  | nil => exact nil_iff.mp h'
  | cons hl _ ih =>
    obtain ⟨_, hl', h'⟩ := cons_iff.mp h'
    exact ih (hdet hl' hl ▸ h')

/-- **Invariant rule.** A predicate that every step preserves holds at the end of a run. -/
theorem invariant (hstep : ∀ s l t, I s → step s l t → I t)
    (h : Exec step s tr t) (hs : I s) : I t := by
  induction h with
  | nil => exact hs
  | cons hl _ ih => exact ih (hstep _ _ _ hs hl)

/-- **Guarded invariant rule.** As `invariant`, for steps whose labels all satisfy `G`. -/
theorem invariant_of_labels {G : ℓ → Prop} (hstep : ∀ s l t, I s → G l → step s l t → I t)
    (h : Exec step s tr t) (hG : ∀ l ∈ tr, G l) (hs : I s) : I t := by
  induction h with
  | nil => exact hs
  | cons hl _ ih =>
    rw [List.forall_mem_cons] at hG
    exact ih hG.2 (hstep _ _ _ hs hG.1 hl)

/-- **History rule.** A predicate of the labels so far and the current state, true at the
    start and kept by appending a step, holds of every run. -/
theorem history {P : List ℓ → σ → Prop} (h0 : P [] s)
    (hstep : ∀ tr m l t, Exec step s tr m → P tr m → step m l t → P (tr ++ [l]) t)
    (h : Exec step s tr t) : P tr t := by
  induction tr using List.reverseRecOn generalizing t with
  | nil =>
    rw [nil_iff] at h
    exact h ▸ h0
  | append_singleton tr l ih =>
    obtain ⟨m, hpre, hl⟩ := snoc_iff.mp h
    exact hstep tr m l t hpre (ih hpre) hl

end Exec

/-- **Reachability rule.** A predicate true of the start and kept by every step holds of
    every reachable state. -/
theorem Reachable.invariant {step : σ → ℓ → σ → Prop}
    (hstep : ∀ s l t, I s → step s l t → I t) (h : Reachable step s t) (hs : I s) : I t := by
  obtain ⟨_, htr⟩ := h
  exact htr.invariant hstep hs

theorem Reachable.step {step : σ → ℓ → σ → Prop}
    (h : Reachable step s m) (hl : step m l t) : Reachable step s t := by
  obtain ⟨tr, htr⟩ := h
  exact ⟨tr ++ [l], htr.snoc hl⟩

end LorePia.Lib
