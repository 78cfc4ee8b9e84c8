import Mathlib.Algebra.Group.Nat.Defs
import Mathlib.Tactic.Common

namespace LorePia

/-!
# Machine integers

Unsigned counters are natural numbers; where the source's width matters the operation
that observes it is written out here.  `u64Max` is `u64::MAX`, `checkedAdd` is
`u64::checked_add`, `saturatingAdd` is `u64::saturating_add`.
-/

/-- `u64::MAX`. -/
def u64Max : Nat := 2 ^ 64 - 1

/-- `u32::MAX`. -/
def u32Max : Nat := 2 ^ 32 - 1

/-- `i64::MAX`, the largest integer a database column holds. -/
def i64Max : Nat := 2 ^ 63 - 1

/-- `u64::checked_add`. -/
def checkedAdd (a b : Nat) : Option Nat := if a + b ≤ u64Max then some (a + b) else none

/-- `u64::checked_mul`. -/
def checkedMul (a b : Nat) : Option Nat := if a * b ≤ u64Max then some (a * b) else none

/-- `u64::saturating_add`. -/
def saturatingAdd (a b : Nat) : Nat := min (a + b) u64Max

@[simp] theorem checkedAdd_eq_some :
    checkedAdd a b = some c ↔ a + b ≤ u64Max ∧ a + b = c := by
  by_cases h : a + b ≤ u64Max <;> simp [checkedAdd, h]

theorem checkedAdd_of_le (h : a + b ≤ u64Max) : checkedAdd a b = some (a + b) :=
  checkedAdd_eq_some.mpr ⟨h, rfl⟩

theorem saturatingAdd_of_le (h : a + b ≤ u64Max) : saturatingAdd a b = a + b :=
  Nat.min_eq_left h

end LorePia
