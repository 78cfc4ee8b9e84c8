import LorePia.Lib.Canonical
import LorePia.Lib.Fallible
import LorePia.Lib.SortedMap

namespace LorePia.Lib

open List

/-!
# Differences of sorted maps

Two ordered maps are compared key by key, in the order of the keys, and every key whose values
differ, or that one map lacks, is described.

* `diffMaps_ok` — the descriptions are those of the changed keys, one for each, in order;
* `mem_changedKeys`, `pairwise_changedKeys` — which keys those are;
* `changedKeys_comm` — they are the same in the other direction.
-/

variable {κ ρ ε δ : Type}

namespace SortedMap

variable [LinearOrder κ] {m : SortedMap κ ρ} {entries : List (κ × ρ)}

/-- Collect entries; the later of two under one key stays. -/
def ofList (entries : List (κ × ρ)) : SortedMap κ ρ :=
  entries.foldl (fun m entry => m.insert entry.1 entry.2) .empty

/-- Where no key repeats, a collection adds the entries to what is there. -/
theorem get?_foldl_insert (hnodup : (entries.map Prod.fst).Nodup) :
    (entries.foldl (fun m entry => m.insert entry.1 entry.2) m).get? k = some v ↔
      (k, v) ∈ entries ∨ k ∉ entries.map Prod.fst ∧ m.get? k = some v := by
  induction entries generalizing m with
  | nil => simp
  | cons entry entries ih =>
    rw [map_cons, nodup_cons] at hnodup
    obtain ⟨hnew, hnodup⟩ := hnodup
    rw [foldl_cons, ih hnodup, get?_insert, map_cons, mem_cons, mem_cons]
    by_cases hk : k = entry.1
    · subst hk
      have hnot : (entry.1, v) ∉ entries := by
        intro h
        exact hnew (mem_map.mpr ⟨(entry.1, v), h, rfl⟩)
      simp only [hnot, hnew, not_false_eq_true, if_true, Option.some.injEq, true_and, false_or,
        or_false, not_true_eq_false, false_and]
      constructor
      · rintro rfl
        rfl
      · intro h
        exact (congrArg Prod.snd h).symm
    · have hne : (k, v) ≠ entry := fun h => hk (congrArg Prod.fst h)
      simp [hk, hne]

theorem get?_ofList (hnodup : (entries.map Prod.fst).Nodup) :
    (ofList entries).get? k = some v ↔ (k, v) ∈ entries := by
  rw [ofList, get?_foldl_insert hnodup]
  simp [get?, empty]

theorem mem_keys : k ∈ m.keys ↔ m.get? k ≠ none := by
  rw [keys, mem_map, ne_eq, get?_eq_none, not_forall]
  constructor
  · rintro ⟨⟨k', v⟩, hmem, rfl⟩
    exact ⟨v, not_not.mpr hmem⟩
  · rintro ⟨v, hv⟩
    exact ⟨(k, v), not_not.mp hv, rfl⟩

end SortedMap

/-! ### The comparison -/

section Comparison

variable [LinearOrder κ] [DecidableEq ρ] {describe : Option ρ → Option ρ → Except ε δ}
  {m m' : SortedMap κ ρ} {k : κ} {ks : List κ} {changes : List δ}

/-- Describe what became of one key. -/
def diffStep (describe : Option ρ → Option ρ → Except ε δ) (previous next : Option ρ) :
    Except ε (Option δ) :=
  match previous, next with
  | none, some added => some <$> describe none (some added)
  | some removed, none => some <$> describe (some removed) none
  | some previous, some next =>
    if previous ≠ next then some <$> describe (some previous) (some next) else .ok none
  | none, none => .ok none

/-- The loop over the keys of both maps. -/
def diffLoop (describe : Option ρ → Option ρ → Except ε δ) (m m' : SortedMap κ ρ) :
    List κ → Except ε (List δ)
  | [] => .ok []
  | k :: ks => do
    let change ← diffStep describe (m.get? k) (m'.get? k)
    let changes ← diffLoop describe m m' ks
    return change.toList ++ changes

/-- The keys of both maps, in order. -/
def allKeys (m m' : SortedMap κ ρ) : List κ := canonical id (m.keys ++ m'.keys)

def diffMaps (describe : Option ρ → Option ρ → Except ε δ) (m m' : SortedMap κ ρ) :
    Except ε (List δ) :=
  diffLoop describe m m' (allKeys m m')

/-! ### What it describes -/

/-- The keys whose values differ or that one map lacks. -/
def changedKeys (m m' : SortedMap κ ρ) : List κ :=
  (allKeys m m').filter fun k => m.get? k ≠ m'.get? k

/-- `change` describes what became of `k`. -/
def DescribesKey (describe : Option ρ → Option ρ → Except ε δ) (m m' : SortedMap κ ρ) (k : κ)
    (change : δ) : Prop :=
  describe (m.get? k) (m'.get? k) = .ok change

theorem diffStep_of_eq {value : Option ρ} : diffStep describe value value = .ok none := by
  cases value with
  | none => rfl
  | some value => simp [diffStep]

theorem diffStep_of_ne {previous next : Option ρ} (h : previous ≠ next) :
    diffStep describe previous next = some <$> describe previous next := by
  cases previous with
  | none =>
    cases next with
    | none => exact absurd rfl h
    | some next => rfl
  | some previous =>
    cases next with
    | none => rfl
    | some next =>
      have hne : previous ≠ next := fun heq => h (congrArg some heq)
      simp [diffStep, hne]

/-- The loop describes the keys that changed, one after the other. -/
theorem diffLoop_ok : diffLoop describe m m' ks = .ok changes ↔
    List.Forall₂ (DescribesKey describe m m') (ks.filter fun k => m.get? k ≠ m'.get? k)
      changes := by
  induction ks generalizing changes with
  | nil => rw [diffLoop, filter_nil, forall₂_nil_left_iff, Except.ok.injEq, eq_comm]
  | cons k ks ih =>
    rw [diffLoop, bind_ok]
    by_cases hk : m.get? k = m'.get? k
    · rw [filter_cons_of_neg (by simp [hk]), ← ih, hk]
      constructor
      · rintro ⟨change, hchg, hrest⟩
        rw [diffStep_of_eq] at hchg
        cases hchg
        obtain ⟨rest, hloop, rfl⟩ := last_step hrest
        exact hloop
      · intro hrest
        exact ⟨none, diffStep_of_eq, then_ok hrest rfl⟩
    · rw [filter_cons_of_pos (by simp [hk]), forall₂_cons_left_iff]
      constructor
      · rintro ⟨change, hchg, hrest⟩
        rw [diffStep_of_ne hk] at hchg
        obtain ⟨described, hdescribed, rfl⟩ := last_step hchg
        obtain ⟨rest, hloop, rfl⟩ := last_step hrest
        exact ⟨described, rest, hdescribed, ih.mp hloop, rfl⟩
      · rintro ⟨described, rest, hdescribed, hrest, rfl⟩
        refine ⟨some described, ?_, then_ok (ih.mpr hrest) rfl⟩
        rw [diffStep_of_ne hk]
        exact then_ok hdescribed rfl

/-- **Descriptions are those of the changed keys.** -/
theorem diffMaps_ok : diffMaps describe m m' = .ok changes ↔
    List.Forall₂ (DescribesKey describe m m') (changedKeys m m') changes :=
  diffLoop_ok

omit [DecidableEq ρ] in
theorem mem_allKeys : k ∈ allKeys m m' ↔ m.get? k ≠ none ∨ m'.get? k ≠ none := by
  rw [allKeys, mem_canonical, mem_append, SortedMap.mem_keys, SortedMap.mem_keys]

/-- **A key changed iff its values differ.** -/
theorem mem_changedKeys : k ∈ changedKeys m m' ↔ m.get? k ≠ m'.get? k := by
  rw [changedKeys, mem_filter, mem_allKeys, decide_eq_true_eq, and_iff_right_iff_imp]
  intro hne
  by_contra hnone
  rw [not_or, not_not, not_not] at hnone
  exact hne (hnone.1.trans hnone.2.symm)

theorem pairwise_changedKeys : (changedKeys m m').Pairwise fun a b => a < b :=
  List.Pairwise.filter _ (pairwise_lt_canonical (fun _ _ h => h : Function.Injective (id : κ → κ)))

/-- **The other direction has the same keys.** -/
theorem changedKeys_comm : changedKeys m' m = changedKeys m m' := by
  have hkeys : allKeys m' m = allKeys m m' := by
    refine (canonical_eq_iff (fun _ _ h => h : Function.Injective (id : κ → κ))).mpr fun k => ?_
    rw [mem_append, mem_append, or_comm]
  rw [changedKeys, changedKeys, hkeys]
  refine filter_congr fun k _ => ?_
  rw [Bool.eq_iff_iff, decide_eq_true_eq, decide_eq_true_eq, ne_comm]

end Comparison

/-! ### Reading descriptions in order -/

variable {α : Type} {R S : κ → δ → Prop}

/-- Where every description names its key, the names are the keys. -/
theorem map_eq_of_forall₂ {name : δ → κ} (h : List.Forall₂ R ks changes)
    (hname : ∀ k change, R k change → name change = k) : changes.map name = ks := by
  induction h with
  | nil => rfl
  | cons hhead _ ih => rw [map_cons, hname _ _ hhead, ih]

/-- Where every description has a counterpart, the list of them has one. -/
theorem exists_counterparts {flip : α → α} (h : List.Forall₂ R ks changes)
    (hflip : ∀ k change, R k change → ∃ change', S k change' ∧ view change' = flip (view change)) :
    ∃ changes', List.Forall₂ S ks changes' ∧ changes'.map view = (changes.map view).map flip := by
  induction h with
  | nil => exact ⟨[], .nil, rfl⟩
  | @cons k change ks changes hhead _ ih =>
    obtain ⟨change', hchg', hview⟩ := hflip k change hhead
    obtain ⟨changes', hchanges', hviews⟩ := ih
    refine ⟨change' :: changes', hchanges'.cons hchg', ?_⟩
    rw [map_cons, map_cons, map_cons, hview, hviews]

/-- A description in the list is one of its key. -/
theorem exists_key_of_mem (h : List.Forall₂ R ks changes) (hmem : change ∈ changes) :
    ∃ k ∈ ks, R k change := by
  induction h with
  | nil => exact absurd hmem not_mem_nil
  | cons hhead _ ih =>
    rcases mem_cons.mp hmem with rfl | hmem
    · exact ⟨_, mem_cons_self, hhead⟩
    · obtain ⟨k, hk, hR⟩ := ih hmem
      exact ⟨k, mem_cons_of_mem _ hk, hR⟩

end LorePia.Lib
