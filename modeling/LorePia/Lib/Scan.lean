import Mathlib.Data.List.Basic

namespace LorePia.Lib

open List

/-!
# Scans over a list

A cursor moves forward while the element under it satisfies a condition, or back while the element
before it does; a needle is looked for from the front.

* `scan_le`, `not_of_getElem?_scan`, `exists_of_lt_scan` — where a scan stops, and what it passed;
* `scanBack_spec` — the same of a scan to the front, which never reads out of range;
* `findIn_eq_some` — a needle that is found stands where it was found;
* `stretch_cases` — a stretch without a separator lies on one side of it.
-/

variable {α : Type} {p : α → Bool} {l needle : List α} {a : α} {i k lo : Nat}

/-- `while i < len && p(l[i]) { i += 1 }`. -/
def scanWhile (p : α → Bool) (l : List α) (i : Nat) : Nat := i + ((l.drop i).takeWhile p).length

/-- `while lo < k && p(l[k - 1]) { k -= 1 }`; `none` for a read out of range. -/
def scanBack (p : α → Bool) (l : List α) (lo : Nat) : Nat → Option Nat
  | 0 => some 0
  | k + 1 =>
    if lo < k + 1 then
      match l[k]? with
      | none => none
      | some a => if p a then scanBack p l lo k else some (k + 1)
    else some (k + 1)

/-- Where a needle stands first. -/
def findIn [DecidableEq α] (needle : List α) : List α → Option Nat
  | [] => if needle = [] then some 0 else none
  | a :: l => if needle <+: a :: l then some 0 else (findIn needle l).map (· + 1)

/-! ### Forward -/

theorem le_scan : i ≤ scanWhile p l i := Nat.le_add_right _ _

theorem scan_le (hi : i ≤ l.length) : scanWhile p l i ≤ l.length := by
  have hlen := (List.takeWhile_prefix (l := l.drop i) p).length_le
  rw [length_drop] at hlen
  rw [scanWhile]
  omega

/-- What a scan passes, and what it stops at. -/
theorem scan_split (p : α → Bool) (l : List α) (i : Nat) :
    ∃ passed rest, l.drop i = passed ++ rest ∧ scanWhile p l i = i + passed.length ∧
      (∀ a ∈ passed, p a = true) ∧ ∀ a, rest.head? = some a → p a = false := by
  refine ⟨(l.drop i).takeWhile p, (l.drop i).dropWhile p, ?_, rfl, ?_, ?_⟩
  · exact takeWhile_append_dropWhile.symm
  · intro a ha
    exact all_eq_true.mp all_takeWhile a ha
  · intro a ha
    have hnot := head?_dropWhile_not p (l.drop i)
    rw [ha] at hnot
    exact hnot

/-- The scan passes elements that satisfy the condition. -/
theorem exists_of_lt_scan (hi : i ≤ m) (hm : m < scanWhile p l i) :
    ∃ a, l[m]? = some a ∧ p a = true := by
  obtain ⟨passed, rest, hsplit, hscan, hpassed, _⟩ := scan_split p l i
  have hlt : m - i < passed.length := by omega
  refine ⟨passed[m - i], ?_, hpassed _ (getElem_mem hlt)⟩
  have hget : (l.drop i)[m - i]? = some passed[m - i] := by
    rw [hsplit, getElem?_append_left hlt, getElem?_eq_getElem hlt]
  rw [getElem?_drop, Nat.add_sub_cancel' hi] at hget
  exact hget

/-- It stops before one that does not. -/
theorem not_of_getElem?_scan (h : l[scanWhile p l i]? = some a) : p a = false := by
  obtain ⟨passed, rest, hsplit, hscan, _, hrest⟩ := scan_split p l i
  apply hrest
  rw [hscan, ← getElem?_drop, hsplit, getElem?_append_right (Nat.le_refl _), Nat.sub_self] at h
  rw [head?_eq_getElem?, h]

/-- A scan comes as far as its condition holds. -/
theorem le_scan_of_forall
    (h : ∀ m, i ≤ m → m < k → ∃ a, l[m]? = some a ∧ p a = true) : k ≤ scanWhile p l i := by
  by_contra hlt
  obtain ⟨a, ha, hp⟩ := h (scanWhile p l i) le_scan (by omega)
  rw [not_of_getElem?_scan ha] at hp
  cases hp

/-! ### Back -/

/-- **A scan to the front** within the list never reads out of range, stays at or above its bound,
    and passes elements that satisfy the condition. -/
theorem scanBack_spec (p : α → Bool) (lo : Nat) (hk : k ≤ l.length) :
    ∃ m, scanBack p l lo k = some m ∧ m ≤ k ∧ (lo ≤ k → lo ≤ m) ∧ (k < lo → m = k) ∧
      ∀ j, m ≤ j → j < k → ∃ a, l[j]? = some a ∧ p a = true := by
  induction k with
  | zero =>
    refine ⟨0, rfl, Nat.le_refl _, fun h => h, fun _ => rfl, ?_⟩
    intro j _ hj
    omega
  | succ k ih =>
    rw [scanBack]
    by_cases hlo : lo < k + 1
    · have hget : l[k]? = some l[k] := getElem?_eq_getElem hk
      rw [if_pos hlo, hget]
      by_cases hp : p l[k] = true
      · obtain ⟨m, hm, hle, hbd, _, hpassed⟩ := ih (by omega)
        refine ⟨m, by simp only [if_pos hp, hm], by omega, fun _ => hbd (by omega), ?_, ?_⟩
        · intro hlt
          omega
        · intro j hj hlt
          rcases Nat.lt_or_ge j k with hjk | hjk
          · exact hpassed j hj hjk
          · have heq : j = k := by omega
            rw [heq]
            exact ⟨l[k], hget, hp⟩
      · refine ⟨k + 1, by simp only [if_neg hp], Nat.le_refl _, fun h => h, fun _ => rfl, ?_⟩
        intro j hj hlt
        omega
    · refine ⟨k + 1, if_neg hlo, Nat.le_refl _, fun h => h, fun _ => rfl, ?_⟩
      intro j hj hlt
      omega

/-! ### Needles -/

/-- **A needle that is found** stands there. -/
theorem findIn_eq_some [DecidableEq α] (h : findIn needle l = some k) :
    ∃ before after, l = before ++ needle ++ after ∧ before.length = k := by
  induction l generalizing k with
  | nil =>
    rw [findIn] at h
    by_cases hneedle : needle = []
    · rw [if_pos hneedle] at h
      cases h
      exact ⟨[], [], by rw [hneedle]; rfl, rfl⟩
    · rw [if_neg hneedle] at h
      cases h
  | cons a l ih =>
    rw [findIn] at h
    by_cases hneedle : needle <+: a :: l
    · rw [if_pos hneedle] at h
      cases h
      obtain ⟨after, hafter⟩ := hneedle
      exact ⟨[], after, hafter.symm, rfl⟩
    · rw [if_neg hneedle] at h
      obtain ⟨m, hm, rfl⟩ := Option.map_eq_some_iff.mp h
      obtain ⟨before, after, hl, hlen⟩ := ih hm
      refine ⟨a :: before, after, ?_, ?_⟩
      · rw [hl]
        rfl
      · rw [length_cons, hlen]

/-! ### Stretches -/

/-- **A stretch without a separator** lies on one side of it. -/
theorem stretch_cases {before stretch after front back : List α}
    (h : before ++ (stretch ++ after) = front ++ a :: back) (ha : a ∉ stretch) :
    (∃ rest, front = before ++ (stretch ++ rest)) ∨
      ∃ rest, before = front ++ a :: rest ∧ back = rest ++ (stretch ++ after) := by
  rcases append_eq_append_iff.mp h with ⟨mid, rfl, hmid⟩ | ⟨mid, rfl, hmid⟩
  · -- the stretch begins before the separator, so it ends there too
    rcases append_eq_append_iff.mp hmid with ⟨rest, rfl, _⟩ | ⟨rest, rfl, hrest⟩
    · exact .inl ⟨rest, rfl⟩
    · cases rest with
      | nil => exact .inl ⟨[], by rw [append_nil, append_nil]⟩
      | cons first rest =>
        rw [(List.cons.inj hrest).1] at ha
        exact absurd (mem_append_right _ mem_cons_self) ha
  · cases mid with
    | cons first mid =>
      obtain ⟨rfl, rfl⟩ := List.cons.inj hmid
      exact .inr ⟨mid, rfl, rfl⟩
    | nil =>
      cases stretch with
      | nil => exact .inl ⟨[], by rw [append_nil, append_nil, append_nil]⟩
      | cons first stretch =>
        rw [(List.cons.inj hmid).1] at ha
        exact absurd mem_cons_self ha

end LorePia.Lib
