import Mathlib.Data.List.Infix

namespace LorePia.Lib

open List List Nat

/-!
# Streaming search by borders

Searching a pattern `p` in a stream, one element at a time, in a state that is a number: the
length of the longest prefix of `p` that ends what was read.  `Longest p t n` says that `n`
is that number for the text `t`.

* `failureTable p` — for each prefix of `p` read whole, the longest shorter prefix that ends
    it; `failureTable_longest` says so;
* `advance` — one element: fall back along the table until the element fits, then step;
    `advance_longest` keeps `Longest`;
* `scan` — a text: stop with `none` at the first full match.  `scan_eq_none_iff` and
    `scan_eq_some_iff` say what it answers, and `scan_resume` that the prefix read last is
    all a later scan needs to know of the text before.
-/

variable {α : Type _} {p t : List α} {n m k : Nat} {b : α}

/-! ### Overlaps -/

/-- The prefix of `p` of length `n` ends `t`. -/
def Overlap (p t : List α) (n : Nat) : Prop := n ≤ p.length ∧ p.take n <:+ t

/-- `n` is the length of the longest prefix of `p` that ends `t`. -/
structure Longest (p t : List α) (n : Nat) : Prop where
  overlap : Overlap p t n
  max : ∀ k, Overlap p t k → k ≤ n

theorem overlap_zero : Overlap p t 0 := by
  refine ⟨zero_le _, ?_⟩
  exact nil_suffix

theorem Overlap.le_length (h : Overlap p t n) : n ≤ t.length := by
  have hlen := h.2.length_le
  rw [length_take, min_eq_left h.1] at hlen
  exact hlen

theorem longest_nil : Longest p [] 0 :=
  ⟨overlap_zero, fun _ hk => hk.le_length⟩

theorem Longest.unique (h : Longest p t n) (h' : Longest p t m) : n = m :=
  le_antisymm (h'.max n h.overlap) (h.max m h'.overlap)

/-- An overlap with a longer text is one element longer than an overlap with the shorter. -/
theorem overlap_concat_succ : Overlap p (t ++ [b]) (n + 1) ↔ Overlap p t n ∧ p[n]? = some b := by
  constructor
  · rintro ⟨hn, u, hu⟩
    have hlt : n < p.length := hn
    rw [← take_concat_get' p n hlt, ← append_assoc] at hu
    obtain ⟨hpre, hlast⟩ := append_inj' hu rfl
    refine ⟨⟨le_of_lt hlt, u, hpre⟩, ?_⟩
    rw [getElem?_eq_getElem hlt]
    exact congrArg some (singleton_inj.mp hlast)
  · rintro ⟨⟨_, u, hu⟩, hb⟩
    obtain ⟨hlt, hget⟩ := List.getElem?_eq_some_iff.mp hb
    refine ⟨hlt, u, ?_⟩
    rw [← take_concat_get' p n hlt, ← append_assoc, hu, hget]

/-- Below one overlap, the overlaps with a text are those with the overlap itself. -/
theorem Overlap.below (hm : Overlap p t m) (hk : k < m) :
    Overlap p t k ↔ Overlap p (p.take m).tail k := by
  have hlen : (p.take k).length = k := length_take_of_le (by have := hm.1; omega)
  have hlenm : (p.take m).length = m := length_take_of_le hm.1
  constructor
  · rintro ⟨hkp, hsuf⟩
    refine ⟨hkp, ?_⟩
    have hinner : p.take k <:+ p.take m := suffix_of_suffix_length_le hsuf hm.2 (by omega)
    cases hcons : p.take m with
    | nil =>
      rw [hcons, length_nil] at hlenm
      omega
    | cons a l =>
      rw [hcons, suffix_cons_iff] at hinner
      rcases hinner with heq | hinner
      · have hsame := congrArg length heq
        rw [hlen, ← hcons, hlenm] at hsame
        omega
      · exact hinner
  · rintro ⟨hkp, hsuf⟩
    exact ⟨hkp, (hsuf.trans (tail_suffix _)).trans hm.2⟩

/-! ### Tables of borders -/

variable {table : List Nat}

/-- The first `k` entries of the table are longest proper borders. -/
def TableUpTo (p : List α) (table : List Nat) (k : Nat) : Prop :=
  ∀ i < k, Longest p (p.take (i + 1)).tail (table.getD i 0)

theorem TableUpTo.mono (h : TableUpTo p table k) (hm : m ≤ k) : TableUpTo p table m :=
  fun i hi => h i (lt_of_lt_of_le hi hm)

theorem TableUpTo.entry_le (h : TableUpTo p table k) (hn : n < k) : table.getD n 0 ≤ n := by
  have hle := (h n hn).overlap.le_length
  rw [length_tail, length_take] at hle
  omega

section Search

variable [DecidableEq α]

/-! ### One element -/

/-- Fall back along the table until the next element of `p` is `b`, or to zero.  Every step
    shortens the prefix, so `n` steps are enough from a prefix of length `n`. -/
def fallback (p : List α) (table : List Nat) (b : α) : (fuel : Nat) → Nat → Nat
  | _, 0 => 0
  | 0, n + 1 => n + 1
  | fuel + 1, n + 1 =>
    if p[n + 1]? = some b then n + 1 else fallback p table b fuel (table.getD n 0)

/-- The state after one element. -/
def advance (p : List α) (table : List Nat) (b : α) (n : Nat) : Nat :=
  let matched := fallback p table b n n
  if p[matched]? = some b then matched + 1 else matched

/-- What falling back finds: the longest overlap that `b` can extend, or zero. -/
structure FallsBackTo (p t : List α) (b : α) (m r : Nat) : Prop where
  overlap : Overlap p t r
  le : r ≤ m
  fits : r = 0 ∨ p[r]? = some b
  longest : ∀ k ≤ m, Overlap p t k → p[k]? = some b → k ≤ r

theorem fallback_spec (htable : TableUpTo p table m) (hm : Overlap p t m) (hfuel : m ≤ fuel) :
    FallsBackTo p t b m (fallback p table b fuel m) := by
  induction fuel generalizing m with
  | zero =>
    have hzero : m = 0 := le_zero.mp hfuel
    subst hzero
    exact ⟨hm, le_refl _, .inl rfl, fun k hk _ _ => hk⟩
  | succ fuel ih =>
    cases m with
    | zero => exact ⟨hm, le_refl _, .inl rfl, fun k hk _ _ => hk⟩
    | succ m =>
      rw [fallback]
      by_cases hfit : p[m + 1]? = some b
      · rw [if_pos hfit]
        exact ⟨hm, le_refl _, .inr hfit, fun k hk _ _ => hk⟩
      · rw [if_neg hfit]
        have hent : table.getD m 0 ≤ m := htable.entry_le (lt_succ_self m)
        have hborder := htable m (lt_succ_self m)
        have hover : Overlap p t (table.getD m 0) := (hm.below (by omega)).mpr hborder.overlap
        have hrest := ih (htable.mono (by omega)) hover (by omega)
        refine ⟨hrest.overlap, le_trans hrest.le (by omega), hrest.fits, ?_⟩
        -- a longer candidate is a border of the prefix that did not fit
        intro k hk hko hkb
        have hne : k ≠ m + 1 := fun h => hfit (h ▸ hkb)
        have hko' := (hm.below (by omega)).mp hko
        exact hrest.longest k (hborder.max k hko') hko hkb

/-- **One element.** The state stays the longest overlap. -/
theorem advance_longest (htable : TableUpTo p table m) (hm : Longest p t m) :
    Longest p (t ++ [b]) (advance p table b m) := by
  have hfall : FallsBackTo p t b m (fallback p table b m m) :=
    fallback_spec htable hm.overlap (le_refl m)
  unfold advance
  by_cases hfit : p[fallback p table b m m]? = some b
  · rw [if_pos hfit]
    refine ⟨overlap_concat_succ.mpr ⟨hfall.overlap, hfit⟩, ?_⟩
    intro k hk
    cases k with
    | zero => omega
    | succ k =>
      obtain ⟨hko, hkb⟩ := overlap_concat_succ.mp hk
      exact succ_le_succ (hfall.longest k (hm.max k hko) hko hkb)
  · rw [if_neg hfit]
    have hzero : fallback p table b m m = 0 := hfall.fits.resolve_right hfit
    rw [hzero]
    refine ⟨overlap_zero, ?_⟩
    intro k hk
    cases k with
    | zero => exact le_refl 0
    | succ k =>
      obtain ⟨hko, hkb⟩ := overlap_concat_succ.mp hk
      have hle := hfall.longest k (hm.max k hko) hko hkb
      rw [hzero] at hle
      have hk0 : k = 0 := le_zero.mp hle
      rw [hzero] at hfit
      exact absurd (hk0 ▸ hkb) hfit

/-! ### The table -/

/-- One entry of the table: the state after reading the pattern from its second element. -/
def extendTable (p : List α) (acc : List Nat × Nat) (index : Nat) : List Nat × Nat :=
  let matched := match p[index]? with
    | some b => advance p acc.1 b acc.2
    | none => acc.2
  (acc.1.set index matched, matched)

/-- The table of a pattern: zeros, filled in from the second entry on. -/
def failureTable (p : List α) : List Nat :=
  ((List.range' 1 (p.length - 1)).foldl (extendTable p) (List.replicate p.length 0, 0)).1

/-- The table and the state after the first `n` entries beyond the zeroth. -/
structure TableBuilt (p : List α) (n : Nat) (acc : List Nat × Nat) : Prop where
  length : acc.1.length = p.length
  table : TableUpTo p acc.1 (n + 1)
  matched : Longest p (p.take (n + 1)).tail acc.2

theorem tableBuilt_foldl (hn : n < p.length) :
    TableBuilt p n ((range' 1 n).foldl (extendTable p) (replicate p.length 0, 0)) := by
  induction n with
  | zero =>
    have hfirst : (p.take 1).tail = [] := by cases p <;> simp
    refine ⟨length_replicate, ?_, ?_⟩
    · intro i hi
      have hi0 : i = 0 := by omega
      subst hi0
      rw [hfirst]
      have hent : (replicate p.length 0).getD 0 0 = 0 := by cases p <;> rfl
      show Longest p [] ((replicate p.length 0).getD 0 0)
      rw [hent]
      exact longest_nil
    · rw [hfirst]
      exact longest_nil
  | succ n ih =>
    have hbuilt := ih (by omega)
    rw [range'_concat, foldl_append]
    generalize hacc : (range' 1 n).foldl (extendTable p) (replicate p.length 0, 0) = acc
      at hbuilt
    have hidx : 1 + 1 * n = n + 1 := by omega
    rw [hidx, foldl_cons, foldl_nil]
    have hget : p[n + 1]? = some p[n + 1] := getElem?_eq_getElem hn
    -- reading one more element of the pattern
    have htext : (p.take (n + 1)).tail ++ [p[n + 1]] = (p.take (n + 1 + 1)).tail := by
      rw [← take_concat_get' p (n + 1) hn]
      cases hp : p.take (n + 1) with
      | nil =>
        have hlen := congrArg length hp
        rw [length_take, length_nil] at hlen
        omega
      | cons a l => rfl
    have hle : acc.2 ≤ n := by
      have hlen := hbuilt.matched.overlap.le_length
      rw [length_tail, length_take] at hlen
      omega
    have hadvance : Longest p (p.take (n + 1 + 1)).tail (advance p acc.1 p[n + 1] acc.2) := by
      rw [← htext]
      exact advance_longest (hbuilt.table.mono (by omega)) hbuilt.matched
    have hextend : extendTable p acc (n + 1) =
        (acc.1.set (n + 1) (advance p acc.1 p[n + 1] acc.2), advance p acc.1 p[n + 1] acc.2) := by
      simp only [extendTable, hget]
    rw [hextend]
    refine ⟨by rw [length_set]; exact hbuilt.length, ?_, hadvance⟩
    intro i hi
    by_cases hin : i = n + 1
    · subst hin
      have hent : (acc.1.set (n + 1) (advance p acc.1 p[n + 1] acc.2)).getD (n + 1) 0 =
          advance p acc.1 p[n + 1] acc.2 := by
        rw [getD_eq_getElem?_getD, getElem?_set_self (by rw [hbuilt.length]; exact hn)]
        rfl
      rw [hent]
      exact hadvance
    · have hent : (acc.1.set (n + 1) (advance p acc.1 p[n + 1] acc.2)).getD i 0 =
          acc.1.getD i 0 := by
        rw [getD_eq_getElem?_getD, getElem?_set_ne (Ne.symm hin), ← getD_eq_getElem?_getD]
      rw [hent]
      exact hbuilt.table i (by omega)

/-- **The failure table.** Its entries are the longest proper borders of the prefixes. -/
theorem failureTable_longest (p : List α) : TableUpTo p (failureTable p) p.length := by
  cases hp : p with
  | nil => exact fun i hi => absurd hi (not_lt_zero i)
  | cons a l =>
    have hbuilt := tableBuilt_foldl (p := a :: l) (n := l.length) (by simp)
    exact hbuilt.table

/-! ### A text -/

/-- Read a text from a state; `none` at the first full match. -/
def scan (p : List α) (table : List Nat) : Nat → List α → Option Nat
  | n, [] => some n
  | n, b :: t =>
    let matched := advance p table b n
    if matched = p.length then none else scan p table matched t

theorem scan_append (u : List α) :
    scan p table n (t ++ u) = (scan p table n t).bind fun m => scan p table m u := by
  induction t generalizing n with
  | nil => rfl
  | cons b t ih =>
    simp only [cons_append, scan]
    split
    · rfl
    · exact ih

theorem scan_from (hs : Longest p s n) (hn : n < p.length) (hno : ¬ p <:+: s) :
    (scan p (failureTable p) n t = none ↔ p <:+: s ++ t) ∧
      ∀ m, scan p (failureTable p) n t = some m → m < p.length ∧ Longest p (s ++ t) m := by
  induction t generalizing s n with
  | nil =>
    rw [append_nil, scan]
    refine ⟨⟨fun h => (nomatch h), fun h => absurd h hno⟩, ?_⟩
    rintro m ⟨⟩
    exact ⟨hn, hs⟩
  | cons b t ih =>
    have hstep : Longest p (s ++ [b]) (advance p (failureTable p) b n) :=
      advance_longest ((failureTable_longest p).mono (le_of_lt hn)) hs
    have htext : s ++ b :: t = s ++ [b] ++ t := by simp
    rw [scan, htext]
    by_cases hfull : advance p (failureTable p) b n = p.length
    · -- the pattern ends here
      have hmatch : p <:+ s ++ [b] := by
        have hsuf := hstep.overlap.2
        rw [hfull, take_length] at hsuf
        exact hsuf
      simp only [if_pos hfull]
      refine ⟨⟨fun _ => ?_, fun _ => trivial⟩, fun m h => (nomatch h)⟩
      exact hmatch.isInfix.trans (prefix_append _ _).isInfix
    · have hlt : advance p (failureTable p) b n < p.length :=
        lt_of_le_of_ne hstep.overlap.1 hfull
      have hno' : ¬ p <:+: s ++ [b] := by
        intro hocc
        rcases infix_concat_iff.mp hocc with hsuf | hocc
        · have hover : Overlap p (s ++ [b]) p.length := ⟨le_refl _, by rwa [take_length]⟩
          have hle := hstep.max _ hover
          omega
        · exact hno hocc
      simp only [if_neg hfull]
      exact ih hstep hlt hno'

/-- The scan stops exactly on the texts that contain the pattern. -/
theorem scan_eq_none_iff (hp : p ≠ []) : scan p (failureTable p) 0 t = none ↔ p <:+: t := by
  have hlen : 0 < p.length := length_pos_iff.mpr hp
  have hno : ¬ p <:+: [] := fun h => hp (infix_nil.mp h)
  have h := (scan_from (t := t) longest_nil hlen hno).1
  rwa [nil_append] at h

/-- Otherwise it answers with the longest proper prefix that ends the text. -/
theorem scan_eq_some_iff (hp : p ≠ []) :
    scan p (failureTable p) 0 t = some n ↔ ¬ p <:+: t ∧ n < p.length ∧ Longest p t n := by
  have hlen : 0 < p.length := length_pos_iff.mpr hp
  have hno : ¬ p <:+: [] := fun h => hp (infix_nil.mp h)
  have hsome := (scan_from (t := t) longest_nil hlen hno).2
  constructor
  · intro h
    refine ⟨fun hocc => ?_, hsome n h⟩
    rw [(scan_eq_none_iff hp).mpr hocc] at h
    cases h
  · rintro ⟨hocc, _, hlongest⟩
    cases h : scan p (failureTable p) 0 t with
    | none => exact absurd ((scan_eq_none_iff hp).mp h) hocc
    | some m => rw [(hsome m h).2.unique hlongest]

/-- **Resuming.** After a text without a match, a scan of the rest may start from the prefix
    that ended the text. -/
theorem scan_resume (hp : p ≠ []) (h : scan p (failureTable p) 0 t = some n) (u : List α) :
    scan p (failureTable p) 0 (p.take n ++ u) = scan p (failureTable p) 0 (t ++ u) := by
  obtain ⟨_, hn, _⟩ := (scan_eq_some_iff hp).mp h
  have hlen : (p.take n).length = n := length_take_of_le (le_of_lt hn)
  -- the prefix itself leads to the same state
  have hself : scan p (failureTable p) 0 (p.take n) = some n := by
    refine (scan_eq_some_iff hp).mpr ⟨?_, hn, ⟨le_of_lt hn, suffix_refl _⟩, ?_⟩
    · intro hocc
      have hle := hocc.length_le
      omega
    · intro k hk
      have hle := hk.le_length
      omega
  rw [scan_append, scan_append, h, hself]

end Search

end LorePia.Lib
