import Mathlib.Data.Nat.Bitwise

namespace LorePia.Lib

open BitVec

/-!
# Blocks of bit strings

A block of `w`-bit strings holds the strings that agree with a network on its leading bits,
as an address block does.  Two blocks are nested or disjoint, and which of the two is decided
by one network: these are the rules by which a cascade of block tests is read.
-/

/-- The strings that agree with `network` on the first `length` bits. -/
structure Block (w : Nat) where
  network : BitVec w
  length : Nat

namespace Block

variable {w : Nat} {a : BitVec w} {b c : Block w}

instance instMembership : Membership (BitVec w) (Block w) where
  mem b a := a >>> (w - b.length) = b.network >>> (w - b.length)

instance decidableMem (a : BitVec w) (b : Block w) : Decidable (a ∈ b) :=
  inferInstanceAs (Decidable (a >>> (w - b.length) = b.network >>> (w - b.length)))

theorem mem_iff : a ∈ b ↔ a >>> (w - b.length) = b.network >>> (w - b.length) := Iff.rfl

/-- Membership as an equation of quotients. -/
theorem mem_iff_div :
    a ∈ b ↔ a.toNat / 2 ^ (w - b.length) = b.network.toNat / 2 ^ (w - b.length) := by
  rw [mem_iff, ← toNat_inj]
  simp only [toNat_ushiftRight, Nat.shiftRight_eq_div_pow]

/-! ### Masks -/

/-- A string with ones above position `k` reads the bits from there on. -/
theorem and_mask_eq_iff (a n : BitVec w) (k : Nat) :
    a &&& (allOnes w <<< k) = n &&& (allOnes w <<< k) ↔ a >>> k = n >>> k := by
  constructor
  · intro h
    ext i hi
    have hbit := congrArg (fun v => v.getLsbD (k + i)) h
    simp only [getLsbD_and, getLsbD_shiftLeft, getLsbD_allOnes] at hbit
    rw [← getLsbD_eq_getElem, ← getLsbD_eq_getElem, getLsbD_ushiftRight, getLsbD_ushiftRight]
    by_cases hw : k + i < w
    · have hk : ¬ k + i < k := by omega
      have hsub : k + i - k < w := by omega
      simpa only [hw, hk, hsub, decide_true, decide_false, Bool.not_false, Bool.and_true] using hbit
    · rw [getLsbD_of_ge _ _ (by omega), getLsbD_of_ge _ _ (by omega)]
  · intro h
    ext i hi
    rw [← getLsbD_eq_getElem, ← getLsbD_eq_getElem]
    simp only [getLsbD_and, getLsbD_shiftLeft, getLsbD_allOnes]
    by_cases hk : i < k
    · simp [hk]
    · have hbit := congrArg (fun v => v.getLsbD (i - k)) h
      simp only [getLsbD_ushiftRight] at hbit
      rw [show k + (i - k) = i from by omega] at hbit
      rw [hbit]

/-- The mask test of a block of nonzero length is membership in it. -/
theorem and_mask_iff_mem (b : Block w) (a : BitVec w) :
    a &&& (allOnes w <<< (w - b.length))
      = b.network &&& (allOnes w <<< (w - b.length)) ↔ a ∈ b :=
  and_mask_eq_iff a b.network (w - b.length)

/-! ### Nesting -/

/-- Strings that agree on the longer block's bits agree on the shorter block's. -/
private theorem shift_eq_of_mem (hlen : b.length ≤ c.length) (h : a ∈ c) :
    a >>> (w - b.length) = c.network >>> (w - b.length) := by
  have hsplit : w - b.length = (w - c.length) + ((w - b.length) - (w - c.length)) := by omega
  rw [hsplit, shiftRight_add, shiftRight_add, mem_iff.mp h]

/-- A block whose network lies in a shorter block lies in it. -/
theorem mem_of_mem (hlen : b.length ≤ c.length) (hnet : c.network ∈ b) (h : a ∈ c) : a ∈ b :=
  (shift_eq_of_mem hlen h).trans hnet

/-- A block whose network lies outside a shorter block is disjoint from it. -/
theorem not_mem_of_mem (hlen : b.length ≤ c.length) (hnet : c.network ∉ b) (h : a ∈ c) :
    a ∉ b :=
  fun hb => hnet ((shift_eq_of_mem hlen h).symm.trans hb)

/-- A block is disjoint from a longer one whose network lies outside it. -/
theorem not_mem_of_mem' (hlen : c.length ≤ b.length) (hnet : b.network ∉ c) (h : a ∈ c) :
    a ∉ b :=
  fun hb => not_mem_of_mem hlen hnet hb h

end Block

end LorePia.Lib
