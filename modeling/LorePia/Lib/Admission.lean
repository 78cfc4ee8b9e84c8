import LorePia.Lib.Fallible
import Mathlib.Data.List.Perm.Basic

namespace LorePia.Lib

open List

/-!
# Admitting items one by one

A collection takes items one at a time, and checks each only against the items it already
holds.  Where the check is a symmetric relation, what the collection takes of a list does not
depend on the order: it takes the list exactly when its items are pairwise compatible.

* `Admission.foldlM_isOk_iff` — which lists are admitted;
* `Admission.foldlM_perm` — every order of a list is admitted, or none is.
-/

/-- A step that admits a request exactly when its item is compatible with every item held. -/
structure Admission (σ ρ α ε : Type _) where
  step : σ → ρ → Except ε σ
  /-- The item that a request brings. -/
  item : ρ → α
  held : σ → List α
  Compatible : α → α → Prop
  symm : ∀ {a b}, Compatible a b → Compatible b a
  step_ok : ∀ {s s' r}, step s r = .ok s' →
    (∀ b ∈ held s, Compatible b (item r)) ∧ held s' = held s ++ [item r]
  step_isOk : ∀ {s r}, (∀ b ∈ held s, Compatible b (item r)) → ∃ s', step s r = .ok s'

namespace Admission

variable {σ ρ α ε : Type _} {A : Admission σ ρ α ε} {s s' : σ} {requests requests' : List ρ}

/-- What an admitted list leaves held, and what is known of it. -/
theorem foldlM_ok (h : requests.foldlM A.step s = .ok s') :
    A.held s' = A.held s ++ requests.map A.item ∧ (requests.map A.item).Pairwise A.Compatible ∧
      ∀ b ∈ A.held s, ∀ a ∈ requests.map A.item, A.Compatible b a := by
  induction requests generalizing s with
  | nil =>
    cases pure_inj h
    simp
  | cons r requests ih =>
    obtain ⟨s₁, hstep, h⟩ := bind_ok.mp h
    obtain ⟨hheld, hheld₁⟩ := A.step_ok hstep
    obtain ⟨hlast, hpairs, hcross⟩ := ih h
    rw [hheld₁] at hlast hcross
    refine ⟨by rw [hlast, append_assoc, map_cons, singleton_append], ?_, ?_⟩
    · rw [map_cons, pairwise_cons]
      exact ⟨fun b hb => hcross (A.item r) (by simp) b hb, hpairs⟩
    · intro b hb
      rw [map_cons, forall_mem_cons]
      exact ⟨hheld b hb, hcross b (by simp [hb])⟩

/-- A list of pairwise compatible items, each compatible with what is held, is admitted. -/
theorem exists_foldlM_ok (hpairs : (requests.map A.item).Pairwise A.Compatible)
    (hcross : ∀ b ∈ A.held s, ∀ a ∈ requests.map A.item, A.Compatible b a) :
    ∃ s', requests.foldlM A.step s = .ok s' := by
  induction requests generalizing s with
  | nil => exact ⟨s, rfl⟩
  | cons r requests ih =>
    obtain ⟨hhead, hpairs⟩ := pairwise_cons.mp hpairs
    obtain ⟨s₁, hstep⟩ := A.step_isOk fun b hb => hcross b hb (A.item r) (by simp)
    have hheld₁ : A.held s₁ = A.held s ++ [A.item r] := (A.step_ok hstep).2
    have hcross₁ : ∀ b ∈ A.held s₁, ∀ a ∈ requests.map A.item, A.Compatible b a := by
      intro b hb a ha
      rw [hheld₁, mem_append, mem_singleton] at hb
      rcases hb with hb | rfl
      · exact hcross b hb a (mem_cons_of_mem _ ha)
      · exact hhead a ha
    obtain ⟨s', h⟩ := ih hpairs hcross₁
    exact ⟨s', by rw [foldlM_cons, hstep, ok_bind, h]⟩

/-- An empty collection admits exactly the lists of pairwise compatible items. -/
theorem foldlM_isOk_iff (hs : A.held s = []) :
    (∃ s', requests.foldlM A.step s = .ok s') ↔ (requests.map A.item).Pairwise A.Compatible := by
  constructor
  · rintro ⟨s', h⟩
    exact (foldlM_ok h).2.1
  · intro h
    exact exists_foldlM_ok h (by simp [hs])

/-- The order of a list decides nothing. -/
theorem foldlM_perm (hs : A.held s = []) (hperm : requests.Perm requests') :
    (∃ s', requests.foldlM A.step s = .ok s') ↔ ∃ s', requests'.foldlM A.step s = .ok s' := by
  rw [foldlM_isOk_iff hs, foldlM_isOk_iff hs]
  exact (hperm.map A.item).pairwise_iff fun h => A.symm h

end Admission

end LorePia.Lib
