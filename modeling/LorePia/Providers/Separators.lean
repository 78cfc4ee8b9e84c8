import LorePia.Providers.Framing

namespace LorePia.Providers

open Lib List List Nat Option

/-!
# Providers — separators at the edge of a buffer

What the loop finds in a buffer is what it would find in the whole stream, but for the last
bytes: a separator may still be growing there.  A buffer that ends in two carriage returns is the
one where the loop decides too early, because a line feed behind them belongs to the separator.

* `findEventBoundary_stable` — what is found in a buffer is found in the stream;
* `limit_of_refused` — a buffer that is refused holds no event that would end within the limit.
-/

variable {pending future : Bytes} {found : Nat × Nat} {length : Nat} {next : UInt8} {limit : Nat}
  {separator : Bytes}

/-! ### Where the first event ends -/

/-- The first position at which a separator is recognised. -/
theorem findEventBoundary_eq_some :
    findEventBoundary pending endOfStream = some found ↔
      (∀ i < found.1, separatorAt (pending.drop i) endOfStream = none) ∧
        separatorAt (pending.drop found.1) endOfStream = some found.2 := by
  induction pending generalizing found with
  | nil =>
    have hnone : separatorAt [] endOfStream = none := by cases endOfStream <;> rfl
    simp [findEventBoundary, hnone]
  | cons byte pending ih =>
    obtain ⟨position, length⟩ := found
    rw [findEventBoundary]
    cases hat : separatorAt (byte :: pending) endOfStream with
    | some length' =>
      simp only [some.injEq, Prod.mk.injEq]
      constructor
      · rintro ⟨rfl, rfl⟩
        exact ⟨fun i hi => absurd hi (not_lt_zero i), hat⟩
      · rintro ⟨hbef, hfound⟩
        cases position with
        | zero =>
          rw [drop_zero, hat] at hfound
          exact ⟨rfl, some.inj hfound⟩
        | succ position =>
          have hfirst := hbef 0 (succ_pos position)
          rw [drop_zero, hat] at hfirst
          cases hfirst
    | none =>
      simp only [map_eq_some_iff, Prod.mk.injEq]
      constructor
      · rintro ⟨⟨inner, length'⟩, hinner, rfl, rfl⟩
        obtain ⟨hbef, hfound⟩ := ih.mp hinner
        refine ⟨fun i hi => ?_, hfound⟩
        cases i with
        | zero => exact hat
        | succ i => exact hbef i (lt_of_succ_lt_succ hi)
      · rintro ⟨hbef, hfound⟩
        cases position with
        | zero =>
          rw [drop_zero, hat] at hfound
          cases hfound
        | succ position =>
          refine ⟨(position, length), ih.mpr ⟨fun i hi => ?_, hfound⟩, rfl, rfl⟩
          exact hbef (i + 1) (succ_lt_succ hi)

theorem findEventBoundary_eq_none :
    findEventBoundary pending endOfStream = none ↔
      ∀ i, separatorAt (pending.drop i) endOfStream = none := by
  induction pending with
  | nil =>
    have hnone : separatorAt [] endOfStream = none := by cases endOfStream <;> rfl
    simp [findEventBoundary, hnone]
  | cons byte pending ih =>
    rw [findEventBoundary]
    cases hat : separatorAt (byte :: pending) endOfStream with
    | some length =>
      constructor
      · intro h
        cases h
      · intro h
        have hfirst := h 0
        rw [drop_zero, hat] at hfirst
        cases hfirst
    | none =>
      rw [map_eq_none_iff, ih]
      constructor
      · intro h i
        cases i with
        | zero => exact hat
        | succ i => exact h i
      · intro h i
        exact h (i + 1)

/-! ### Separators that grow -/

/-- A separator in the buffer ends the event, except at the edge of an open buffer. -/
theorem separatorAt_isSome (hmem : separator ∈ sseEventSeparators)
    (hfits : separator <+: pending) (hedge : endOfStream = true ∨ separator.length < pending.length) :
    separatorAt pending endOfStream ≠ none := by
  intro hnone
  obtain ⟨hopen, _, _, hlen⟩ := separatorAt_eq_none hnone separator hmem hfits
  rcases hedge with hend | hlt
  · rw [hopen] at hend
    cases hend
  · omega

/-- Where an open buffer has no separator and the stream has one, the buffer is its beginning. -/
theorem prefix_of_grown (hnone : separatorAt pending false = none)
    (hsome : separatorAt (pending ++ future) true = some length) :
    ∃ separator ∈ sseEventSeparators, separator.length = length ∧ pending <+: separator := by
  obtain ⟨separator, hmem, hlen, heq⟩ := separatorAt_eq_some hsome
  refine ⟨separator, hmem, hlen, ?_⟩
  have hsep : separator <+: pending ++ future := ⟨_, heq.symm⟩
  have hpend : pending <+: pending ++ future := prefix_append pending future
  rcases prefix_or_prefix_of_prefix hsep hpend with hfits | hgrows
  · by_cases hlt : separator.length < pending.length
    · exact absurd hnone (separatorAt_isSome hmem hfits (.inr hlt))
    · rw [hfits.eq_of_length_le (by omega)]
  · exact hgrows

/-- What is left of a separator that is not complete. -/
theorem growing_parts : ∀ separator ∈ sseEventSeparators, ∀ n < 5,
    separatorAt (separator.take n) false = none → ∀ k < 5,
      separatorAt ((separator.take n).drop k) false = none ∧
        ∃ longer ∈ sseEventSeparators, ((separator.take n).drop k).length < longer.length ∧
          ((separator.take n).drop k).isPrefixOf longer = true := by
  decide

theorem length_separator_lt : ∀ separator ∈ sseEventSeparators, separator.length < 5 := by decide

/-- The rest of a growing separator may be growing, and is not complete. -/
theorem growing (hmem : separator ∈ sseEventSeparators)
    (hgrows : pending <+: separator) (hnone : separatorAt pending false = none) (k : Nat) :
    separatorAt (pending.drop k) false = none ∧
      ∃ longer ∈ sseEventSeparators, (pending.drop k).length < longer.length ∧
        (pending.drop k).isPrefixOf longer = true := by
  have htake : pending = separator.take pending.length := prefix_iff_eq_take.mp hgrows
  have hlen := length_separator_lt separator hmem
  have hle := hgrows.length_le
  rw [htake] at hnone ⊢
  by_cases hk : k < 5
  · exact growing_parts separator hmem pending.length (by omega) hnone k hk
  · have hdrop : (separator.take pending.length).drop k = [] := by
      rw [drop_eq_nil_iff, length_take]
      omega
    rw [hdrop]
    exact ⟨rfl, [10, 10], by decide, by decide, by decide⟩

/-! ### What is found in a buffer -/

theorem separatorAt_pairReturn (h : next ≠ lineFeed) (rest : Bytes) :
    separatorAt (13 :: 10 :: 13 :: next :: rest) true = some 3 := by
  have hne : ((10 : UInt8) == next) = false := beq_eq_false_iff_ne.mpr fun heq => h heq.symm
  simp [separatorAt, sseEventSeparators, find?, isPrefixOf, hne]

theorem separatorAt_feedReturn (h : next ≠ lineFeed) (rest : Bytes) :
    separatorAt (10 :: 13 :: next :: rest) true = some 2 := by
  have hne : ((10 : UInt8) == next) = false := beq_eq_false_iff_ne.mpr fun heq => h heq.symm
  simp [separatorAt, sseEventSeparators, find?, isPrefixOf, hne]

theorem separatorAt_returns (h : next ≠ lineFeed) (rest : Bytes) :
    separatorAt (13 :: 13 :: next :: rest) true = some 2 := by
  have hne : ((10 : UInt8) == next) = false := beq_eq_false_iff_ne.mpr fun heq => h heq.symm
  simp [separatorAt, sseEventSeparators, find?, isPrefixOf, hne]

/-- The separator of a buffer is that of the stream, or a line feed follows two carriage returns
    at the edge. -/
theorem separatorAt_stable (h : separatorAt pending false = some length) (future : Bytes) :
    separatorAt (pending ++ future) true = some length ∨
      pending = [carriageReturn, carriageReturn] ∧ length = 2 ∧
        ∃ later, future = lineFeed :: later ∧ separatorAt (pending ++ future) true = some 3 := by
  obtain ⟨separator, hmem, hlen, heq⟩ := separatorAt_eq_some h
  generalize hrest : pending.drop length = rest at heq
  subst hlen heq
  simp only [sseEventSeparators, mem_cons, not_mem_nil, or_false] at hmem
  rcases hmem with rfl | rfl | rfl | rfl | rfl | rfl | rfl | rfl
  · exact .inl rfl
  · exact .inl rfl
  · exact .inl rfl
  · exact .inl rfl
  · -- the buffer goes on behind the return, and not with the feed of its separator
    cases rest with
    | nil => cases h
    | cons next rest =>
      by_cases hnext : next = lineFeed
      · subst hnext
        cases h
      · exact .inl (separatorAt_pairReturn hnext _)
  · exact .inl rfl
  · cases rest with
    | nil => cases h
    | cons next rest =>
      by_cases hnext : next = lineFeed
      · subst hnext
        cases h
      · exact .inl (separatorAt_feedReturn hnext _)
  · cases rest with
    | cons next rest =>
      by_cases hnext : next = lineFeed
      · subst hnext
        cases h
      · exact .inl (separatorAt_returns hnext _)
    | nil =>
      cases future with
      | nil => exact .inl rfl
      | cons next later =>
        by_cases hnext : next = lineFeed
        · subst hnext
          exact .inr ⟨rfl, rfl, later, rfl, rfl⟩
        · exact .inl (separatorAt_returns hnext _)

theorem pos_lt_length (h : separatorAt (pending.drop found.1) endOfStream = some length) :
    found.1 < pending.length := by
  by_contra hle
  rw [drop_eq_nil_iff.mpr (by omega)] at h
  cases endOfStream <;> cases h

theorem length_of_separatorAt (h : separatorAt (pending.drop position) endOfStream = some length)
    (hpos : position < pending.length) : position + length ≤ pending.length := by
  obtain ⟨separator, _, hlen, hsplit⟩ := separatorAt_eq_some h
  have hsum := congrArg List.length hsplit
  rw [length_append, length_drop] at hsum
  omega

/-- **What is found in a buffer** is found in the stream, unless the buffer ends between two
    carriage returns and their line feed. -/
theorem findEventBoundary_stable (h : findEventBoundary pending false = some found)
    (future : Bytes) :
    findEventBoundary (pending ++ future) true = some found ∨
      found.1 + found.2 = pending.length ∧ pending.getLast? = some carriageReturn ∧
        ∃ later, future = lineFeed :: later ∧
          findEventBoundary (pending ++ future) true = some (found.1, found.2 + 1) := by
  obtain ⟨hbef, hfound⟩ := findEventBoundary_eq_some.mp h
  have hpos := pos_lt_length hfound
  have hdrop : ∀ i ≤ found.1, (pending ++ future).drop i = pending.drop i ++ future :=
    fun i hi => drop_append_of_le_length (by omega)
  have hearlier : ∀ i < found.1, separatorAt ((pending ++ future).drop i) true = none := by
    intro i hi
    rw [hdrop i (by omega)]
    by_contra hsome
    obtain ⟨length, hlen⟩ := ne_none_iff_exists'.mp hsome
    obtain ⟨separator, hmem, _, hgrows⟩ := prefix_of_grown (hbef i hi) hlen
    have hlater := (growing hmem hgrows (hbef i hi) (found.1 - i)).1
    rw [drop_drop, show i + (found.1 - i) = found.1 by omega, hfound] at hlater
    cases hlater
  rcases separatorAt_stable hfound future with hsame | ⟨hreturns, htwo, later, hfeed, hthree⟩
  · refine .inl (findEventBoundary_eq_some.mpr ⟨hearlier, ?_⟩)
    rw [hdrop _ (le_refl _)]
    exact hsame
  · have hlen : pending.length - found.1 = 2 := by
      rw [← length_drop, hreturns]
      rfl
    refine .inr ⟨by omega, ?_, later, hfeed, findEventBoundary_eq_some.mpr ⟨hearlier, ?_⟩⟩
    · have hsplit : pending = pending.take found.1 ++ [carriageReturn, carriageReturn] := by
        rw [← hreturns, take_append_drop]
      rw [hsplit]
      simp
    · rw [hdrop _ (le_refl _), htwo]
      exact hthree

/-! ### Buffers over the limit -/

/-- The rest of a buffer over the limit may be a separator that is not complete. -/
def MayGrow (limit : Nat) (pending : Bytes) : Prop :=
  ∃ separator ∈ sseEventSeparators, (pending.drop limit).length < separator.length ∧
    (pending.drop limit).isPrefixOf separator = true

/-- **A buffer that is refused** holds no event that would end within the limit. -/
theorem limit_of_refused (hnone : findEventBoundary pending false = none)
    (hlim : limit < pending.length) (hrefused : ¬ MayGrow limit pending)
    (hfound : findEventBoundary (pending ++ future) true = some found) : limit < found.1 := by
  by_contra hle
  have hat : separatorAt (pending.drop found.1) false = none :=
    findEventBoundary_eq_none.mp hnone found.1
  have hgrown := (findEventBoundary_eq_some.mp hfound).2
  rw [drop_append_of_le_length (by omega)] at hgrown
  obtain ⟨separator, hmem, _, hgrows⟩ := prefix_of_grown hat hgrown
  have hrest := (growing hmem hgrows hat (limit - found.1)).2
  rw [drop_drop, show found.1 + (limit - found.1) = limit by omega] at hrest
  exact hrefused hrest

/-! ### Text -/

theorem isLineEnd_of_mem_separator
    (hmem : separator ∈ sseEventSeparators) (hbyte : byte ∈ separator) :
    IsLineEnd byte := by
  have hall : sseEventSeparators.all (fun separator =>
      separator.all fun byte => byte == carriageReturn || byte == lineFeed) = true := by decide
  simpa using all_eq_true.mp (all_eq_true.mp hall separator hmem) byte hbyte

/-- No text belongs to a separator. -/
theorem findEventBoundary_append_text (hnone : findEventBoundary pending true = none)
    (htext : ∀ byte ∈ chunk, ¬ IsLineEnd byte) :
    findEventBoundary (pending ++ chunk) true = none := by
  rw [findEventBoundary_eq_none]
  intro i
  by_contra hsome
  obtain ⟨length, hlen⟩ := ne_none_iff_exists'.mp hsome
  obtain ⟨separator, hmem, _, heq⟩ := separatorAt_eq_some hlen
  rw [drop_append] at heq
  have hnot : ¬ separator <+: pending.drop i := fun hfits =>
    separatorAt_isSome hmem hfits (.inl rfl) (findEventBoundary_eq_none.mp hnone i)
  have hpend : pending.drop i <+: pending.drop i ++ chunk.drop (i - pending.length) :=
    prefix_append _ _
  rcases prefix_or_prefix_of_prefix ⟨_, heq.symm⟩ hpend with hfits | ⟨rest, hrest⟩
  · exact hnot hfits
  · cases rest with
    | nil =>
      rw [append_nil] at hrest
      exact hnot (hrest ▸ prefix_rfl)
    | cons byte rest =>
      rw [← hrest, append_assoc] at heq
      have hbyte : byte ∈ chunk.drop (i - pending.length) := by
        rw [append_cancel_left heq]
        exact mem_append_left _ (mem_cons_self)
      have hend : IsLineEnd byte := isLineEnd_of_mem_separator hmem (by
        rw [← hrest]
        exact mem_append_right _ mem_cons_self)
      exact htext byte (mem_of_mem_drop hbyte) hend

/-- Behind text, no separator is growing. -/
theorem not_mayGrow_of_text (hlim : limit < pending.length)
    (hlast : pending.getLast? = some byte) (hbyte : ¬ IsLineEnd byte) :
    ¬ MayGrow limit pending := by
  rintro ⟨separator, hmem, _, hfits⟩
  have hmember : byte ∈ pending.drop limit := by
    apply mem_of_getLast?
    rw [getLast?_drop, if_neg (by omega)]
    exact hlast
  apply hbyte
  apply isLineEnd_of_mem_separator hmem
  exact ( isPrefixOf_iff_prefix.mp hfits).subset hmember

end LorePia.Providers
