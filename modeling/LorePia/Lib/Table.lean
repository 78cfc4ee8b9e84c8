import Mathlib.Data.List.Nodup

namespace LorePia.Lib

open List

/-!
# Keyed tables

A table is its rows in insertion order, together with the proof that its key determines the
row.  The operations of a keyed table are a lookup (`find?`), an insertion that fails on a
taken key (`insert?`), an update of the row under one key (`update`), and the update and the
deletion of all rows that meet a condition (`updateWhere`, `deleteWhere`).

* `Table.find?_eq_some` — a lookup finds exactly the row with the key;
* `Table.insert?_eq_some` — an insertion succeeds iff the key is free, and appends;
* `Table.find?_update` — an update changes one row and leaves every other alone;
* `Table.find?_updateWhere`, `Table.find?_deleteWhere` — what is found after a conditional
    update or deletion;
* `Table.find?_upsert` — what is found after a row was inserted or rewritten.
-/

variable {κ ρ : Type _}

/-- Rows in insertion order, no two with the same key. -/
structure Table (κ ρ : Type _) (key : ρ → κ) where
  rows : List ρ
  unique : (rows.map key).Nodup

namespace Table

variable {key : ρ → κ} {t t' : Table κ ρ key} {k : κ} {r : ρ}

@[ext] theorem ext_rows (h : t.rows = t'.rows) : t = t' := by
  cases t
  cases t'
  cases h
  rfl

instance [DecidableEq ρ] : DecidableEq (Table κ ρ key) := fun t t' =>
  decidable_of_iff (t.rows = t'.rows) ⟨ext_rows, fun h => h ▸ rfl⟩

/-- Two rows of a table with the same key are the same row. -/
theorem eq_of_key (hr : r ∈ t.rows) (hr' : r' ∈ t.rows) (hk : key r = key r') : r = r' :=
  inj_on_of_nodup_map t.unique hr hr' hk

/-- Rows that were appended have keys of their own. -/
theorem key_ne_of_append (h : t'.rows = t.rows ++ added) (hr : r ∈ t.rows) (hr' : r' ∈ added) :
    key r ≠ key r' := by
  have huniq := t'.unique
  rw [h, map_append, nodup_append] at huniq
  exact huniq.2.2 (key r) (mem_map_of_mem hr) (key r') (mem_map_of_mem hr')

/-- Apply `f`, which keeps the key, to the rows that satisfy `p`. -/
def updateWhere (t : Table κ ρ key) (p : ρ → Bool) (f : ρ → ρ) (hf : ∀ r, key (f r) = key r) :
    Table κ ρ key where
  rows := t.rows.map fun r => if p r then f r else r
  unique := by
    have hkeys : (t.rows.map fun r => if p r then f r else r).map key = t.rows.map key := by
      rw [map_map]
      refine map_congr_left fun r _ => ?_
      by_cases hr : p r <;> simp [hr, hf]
    rw [hkeys]
    exact t.unique

/-- Remove the rows that satisfy `p`. -/
def deleteWhere (t : Table κ ρ key) (p : ρ → Bool) : Table κ ρ key where
  rows := t.rows.filter fun r => !p r
  unique := t.unique.sublist (filter_sublist.map key)

variable {f : ρ → ρ} {hf : ∀ r, key (f r) = key r}

theorem mem_updateWhere :
    r ∈ (t.updateWhere p f hf).rows ↔ ∃ x ∈ t.rows, (if p x then f x else x) = r := by
  simp [updateWhere]

theorem mem_deleteWhere : r ∈ (t.deleteWhere p).rows ↔ r ∈ t.rows ∧ p r = false := by
  simp [deleteWhere]

variable [DecidableEq κ]

/-- The table without rows. -/
def empty : Table κ ρ key := ⟨[], nodup_nil⟩

/-- The row under a key. -/
def find? (t : Table κ ρ key) (k : κ) : Option ρ := t.rows.find? fun r => key r = k

/-- A table of given rows, if their keys differ. -/
def ofRows? (rows : List ρ) : Option (Table κ ρ key) :=
  if h : (rows.map key).Nodup then some ⟨rows, h⟩ else none

/-- Append a row, unless its key is taken. -/
def insert? (t : Table κ ρ key) (r : ρ) : Option (Table κ ρ key) :=
  if h : key r ∈ t.rows.map key then none
  else some ⟨t.rows ++ [r], by
    rw [map_append, map_singleton]
    exact t.unique.append (nodup_singleton _) (by simpa using h)⟩

/-- Replace the row under the key of `r` by `r`. -/
def update (t : Table κ ρ key) (r : ρ) : Table κ ρ key where
  rows := t.rows.map fun x => if key x = key r then r else x
  unique := by
    have hkeys : (t.rows.map fun x => if key x = key r then r else x).map key = t.rows.map key := by
      rw [map_map]
      refine map_congr_left fun x _ => ?_
      by_cases hx : key x = key r <;> simp [hx]
    rw [hkeys]
    exact t.unique

theorem find?_eq_some : t.find? k = some r ↔ r ∈ t.rows ∧ key r = k := by
  constructor
  · intro h
    exact ⟨mem_of_find?_eq_some h, by simpa using find?_some h⟩
  · rintro ⟨hmem, rfl⟩
    obtain ⟨x, hx⟩ := Option.isSome_iff_exists.mp
      (find?_isSome (p := fun x => decide (key x = key r)).mpr ⟨r, hmem, by simp⟩)
    have hkey : key x = key r := by simpa using find?_some hx
    rw [find?, hx, eq_of_key (mem_of_find?_eq_some hx) hmem hkey]

/-- What is found in a table is found in one with more rows. -/
theorem find?_of_subset (hrows : t.rows ⊆ t'.rows) (h : t.find? k = some r) :
    t'.find? k = some r := by
  obtain ⟨hr, hkey⟩ := find?_eq_some.mp h
  exact find?_eq_some.mpr ⟨hrows hr, hkey⟩

theorem find?_eq_none : t.find? k = none ↔ ∀ r ∈ t.rows, key r ≠ k := by
  simp [find?]

/-- One row has the key of a row. -/
theorem filter_key (hr : r ∈ t.rows) : (t.rows.filter fun x => key x = key r) = [r] := by
  have hnodup : (t.rows.filter fun x => key x = key r).Nodup :=
    (List.Nodup.of_map key t.unique).filter _
  have hperm : (t.rows.filter fun x => key x = key r).Perm [r] := by
    rw [perm_ext_iff_of_nodup hnodup (nodup_singleton r)]
    intro x
    rw [mem_filter, decide_eq_true_eq, mem_singleton]
    constructor
    · rintro ⟨hx, hkey⟩
      exact eq_of_key hx hr hkey
    · rintro rfl
      exact ⟨hr, rfl⟩
  exact perm_singleton.mp hperm

/-- A condition that only the key of a row meets holds of one row. -/
theorem countP_eq_one (hr : r ∈ t.rows) (hp : p r = true)
    (honly : ∀ x ∈ t.rows, p x = true → key x = key r) : t.rows.countP p = 1 := by
  have hsame : t.rows.filter p = t.rows.filter fun x => key x = key r := by
    refine filter_congr fun x hx => ?_
    rw [Bool.eq_iff_iff, decide_eq_true_eq]
    constructor
    · exact honly x hx
    · intro hkey
      obtain rfl := eq_of_key hx hr hkey
      exact hp
  rw [countP_eq_length_filter, hsame, filter_key hr, length_singleton]

theorem ofRows?_eq_some {rows : List ρ} (h : (rows.map key).Nodup) :
    ofRows? rows = some (⟨rows, h⟩ : Table κ ρ key) :=
  dif_pos h

theorem insert?_eq_some :
    t.insert? r = some t' ↔ (∀ x ∈ t.rows, key x ≠ key r) ∧ t'.rows = t.rows ++ [r] := by
  by_cases h : key r ∈ t.rows.map key
  · rw [insert?, dif_pos h]
    obtain ⟨x, hx, hk⟩ := mem_map.mp h
    refine ⟨fun hn => (nomatch hn), fun hn => absurd hk (hn.1 x hx)⟩
  · rw [insert?, dif_neg h, Option.some.injEq]
    constructor
    · rintro rfl
      exact ⟨fun x hx hk => h (mem_map.mpr ⟨x, hx, hk⟩), rfl⟩
    · rintro ⟨_, hrows⟩
      exact ext_rows hrows.symm

/-- An update is seen under its own key and nowhere else. -/
theorem find?_update (hmem : (t.find? (key r)).isSome = true) :
    (t.update r).find? k = if key r = k then some r else t.find? k := by
  obtain ⟨old, hold⟩ := Option.isSome_iff_exists.mp hmem
  obtain ⟨holdMem, holdKey⟩ := find?_eq_some.mp hold
  by_cases hk : key r = k
  · rw [if_pos hk, find?_eq_some]
    exact ⟨mem_map.mpr ⟨old, holdMem, if_pos holdKey⟩, hk⟩
  · rw [if_neg hk]
    -- a row other than the updated one is in the one table iff it is in the other
    refine Option.ext fun x => ?_
    simp only [find?_eq_some, update, mem_map]
    constructor
    · rintro ⟨⟨y, hy, hyx⟩, hx⟩
      by_cases hyk : key y = key r
      · rw [if_pos hyk] at hyx
        exact absurd (hyx ▸ hx) hk
      · rw [if_neg hyk] at hyx
        exact ⟨hyx ▸ hy, hx⟩
    · rintro ⟨hxm, hx⟩
      have hxr : key x ≠ key r := fun h => hk (h.symm.trans hx)
      exact ⟨⟨x, hxm, if_neg hxr⟩, hx⟩

/-- Of two updates under one key the second counts. -/
theorem update_update (hk : key r = key r') : (t.update r).update r' = t.update r' := by
  apply ext_rows
  simp only [update, map_map]
  refine map_congr_left fun x _ => ?_
  by_cases hx : key x = key r
  · simp [hx, hk]
  · have hx' : key x ≠ key r' := hk ▸ hx
    simp [hx, hx']

/-- Where only one row meets the condition, the conditional update is an update. -/
theorem updateWhere_eq_update (hr : r ∈ t.rows) (hp : p r = true)
    (honly : ∀ x, p x = true → key x = key r) : t.updateWhere p f hf = t.update (f r) := by
  apply ext_rows
  refine map_congr_left fun x hx => ?_
  by_cases hpx : p x = true
  · obtain rfl := eq_of_key hx hr (honly x hpx)
    simp [hp, hf]
  · have hkey : key x ≠ key (f r) := fun h => hpx (eq_of_key hx hr (h.trans (hf r)) ▸ hp)
    simp [hpx, hkey]

theorem mem_update : r' ∈ (t.update r).rows ↔
    ∃ x ∈ t.rows, (if key x = key r then r else x) = r' := by
  simp [update]

theorem find?_updateWhere :
    (t.updateWhere p f hf).find? k = (t.find? k).map fun r => if p r then f r else r := by
  refine Option.ext fun r => ?_
  simp only [find?_eq_some, mem_updateWhere, Option.map_eq_some_iff]
  have hkey : ∀ x, key (if p x then f x else x) = key x := by
    intro x
    by_cases hx : p x <;> simp [hx, hf]
  constructor
  · rintro ⟨⟨x, hx, rfl⟩, hk⟩
    exact ⟨x, ⟨hx, (hkey x).symm.trans hk⟩, rfl⟩
  · rintro ⟨x, ⟨hx, hk⟩, rfl⟩
    exact ⟨⟨x, hx, rfl⟩, (hkey x).trans hk⟩

/-- Insert a row, or rewrite by `f` the row that has its key. -/
def upsert (t : Table κ ρ key) (r : ρ) (f : ρ → ρ) (hf : ∀ r, key (f r) = key r) :
    Table κ ρ key :=
  (t.insert? r).getD (t.updateWhere (fun x => key x = key r) f hf)

section

variable (hfree : t.find? (key r) = none)
include hfree

/-- A row whose key is free is inserted. -/
theorem insert?_ne_none : t.insert? r ≠ none := by
  rw [insert?, dif_neg]
  · exact Option.some_ne_none _
  · intro hmem
    obtain ⟨x, hx, hkey⟩ := mem_map.mp hmem
    exact find?_eq_none.mp hfree x hx hkey

/-- Under a free key an upsert appends. -/
theorem rows_upsert_of_free :
    (t.upsert r f hf).rows = t.rows ++ [r] := by
  cases hinsert : t.insert? r with
  | some t' =>
    rw [upsert, hinsert, Option.getD_some]
    exact (insert?_eq_some.mp hinsert).2
  | none => exact absurd hinsert (insert?_ne_none hfree)

theorem isSome_find?_upsert_of_free
    (h : (t.find? k).isSome = true) : ((t.upsert r f hf).find? k).isSome = true := by
  obtain ⟨x, hx⟩ := Option.isSome_iff_exists.mp h
  rw [find?_of_subset (rows_upsert_of_free hfree ▸ subset_append_left _ _) hx]
  rfl

theorem all_rows_upsert_of_free :
    (t.upsert r f hf).rows.all p = (t.rows.all p && p r) := by
  rw [rows_upsert_of_free hfree, all_append, all_cons, all_nil, Bool.and_true]

end

theorem find?_upsert : (t.upsert r f hf).find? k =
    if key r = k then some ((t.find? k).elim r f) else t.find? k := by
  cases hinsert : t.insert? r with
  | some t' =>
    have hnone : t.find? (key r) = none := find?_eq_none.mpr (insert?_eq_some.mp hinsert).1
    rw [find?, rows_upsert_of_free hnone, find?_append]
    by_cases hk : key r = k
    · subst hk
      show ((t.find? (key r)).or _) = _
      rw [hnone]
      simp
    · rw [if_neg hk]
      show (t.find? k).or _ = _
      simp [hk]
  | none =>
    rw [upsert, hinsert, Option.getD_none, find?_updateWhere]
    by_cases hk : key r = k
    · subst hk
      -- the key is taken, or the row would have been inserted
      cases hfind : t.find? (key r) with
      | some x => simp [(find?_eq_some.mp hfind).2]
      | none => exact absurd hinsert (insert?_ne_none hfind)
    · rw [if_neg hk]
      cases hfind : t.find? k with
      | none => rfl
      | some x =>
        have hx : key x ≠ key r := fun h => hk (h.symm.trans (find?_eq_some.mp hfind).2)
        simp [hx]

theorem find?_deleteWhere : (t.deleteWhere p).find? k = (t.find? k).filter fun r => !p r := by
  refine Option.ext fun r => ?_
  rw [Option.filter_eq_some_iff, find?_eq_some, find?_eq_some, mem_deleteWhere]
  simp [and_right_comm]

end Table

end LorePia.Lib
