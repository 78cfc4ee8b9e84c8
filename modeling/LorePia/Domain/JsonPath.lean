import LorePia.Domain.Json
import LorePia.Lib.Fallible
import Mathlib.Data.List.Infix
import Mathlib.Data.String.Basic

namespace LorePia.Json

open Lib List Json List Option

/-!
# Paths in a JSON tree

A path is a list of keys.  `place` sets a value at a path that is free, and makes the objects on
the way that are not there; what it can meet is decided by what is on the path before.

* `place_isOk_iff` — which paths are free;
* `valueAt_place_below`, `valueAt_place_above`, `valueAt_place_beside` — what is where
  afterwards, at every path;
* `place_comm` — two paths, neither of which begins with the other, in either order;
* `placeAll_isOk_iff`, `placeAll_perm` — so a list of them, in any order.
-/

variable {before behind : List String} {entry : String × Json} {fields : List (String × Json)}

/-! ### Entries -/

/-- The value under a key of an object's fields. -/
def lookup (key : String) (fields : List (String × Json)) : Option Json :=
  (fields.find? fun entry => entry.1 = key).map Prod.snd

theorem lookup_cons (key : String) (entry : String × Json) (fields : List (String × Json)) :
    lookup key (entry :: fields) = if entry.1 = key then some entry.2 else lookup key fields := by
  by_cases h : entry.1 = key <;> simp [lookup, h]

theorem lookup_insertEntry (key key' : String) (value : Json) (fields : List (String × Json)) :
    lookup key' (insertEntry key value fields) =
      if key = key' then some value else lookup key' fields := by
  induction fields with
  | nil => rw [insertEntry, lookup_cons]
  | cons entry fields ih =>
    rw [insertEntry]
    by_cases heq : key = entry.1
    · rw [if_pos heq, lookup_cons, lookup_cons, ← heq]
      by_cases hkey : key = key'
      · rw [if_pos hkey, if_pos hkey]
      · rw [if_neg hkey, if_neg hkey, if_neg hkey]
    · rw [if_neg heq]
      by_cases hlt : key < entry.1
      · rw [if_pos hlt, lookup_cons]
      · rw [if_neg hlt, lookup_cons, lookup_cons, ih]
        by_cases hent : entry.1 = key'
        · rw [if_pos hent, if_pos hent, if_neg (fun hkey => heq (hkey.trans hent.symm))]
        · rw [if_neg hent, if_neg hent]

/-- The later value of one key stays. -/
theorem insertEntry_same (key : String) (value value' : Json) (fields : List (String × Json)) :
    insertEntry key value (insertEntry key value' fields) = insertEntry key value fields := by
  induction fields with
  | nil => simp [insertEntry]
  | cons entry fields ih =>
    by_cases heq : key = entry.1
    · simp [heq, insertEntry]
    · by_cases hlt : key < entry.1
      · simp [heq, hlt, insertEntry]
      · simp [heq, hlt, insertEntry, ih]

theorem insertEntry_of_lt (value : Json) (fields : List (String × Json)) (h : key < entry.1) :
    insertEntry key value (entry :: fields) = (key, value) :: entry :: fields := by
  rw [insertEntry, if_neg (ne_of_lt h), if_pos h]

theorem insertEntry_of_gt (value : Json) (fields : List (String × Json)) (h : entry.1 < key) :
    insertEntry key value (entry :: fields) = entry :: insertEntry key value fields := by
  rw [insertEntry, if_neg (ne_of_gt h), if_neg (lt_asymm h)]

theorem insertEntry_of_eq (value : Json) (fields : List (String × Json)) (h : entry.1 = key) :
    insertEntry key value (entry :: fields) = (key, value) :: fields := by
  rw [insertEntry, if_pos h.symm]

/-- Two keys, the smaller one first. -/
theorem insertEntry_comm_of_lt (hlt : key < key') (value value' : Json)
    (fields : List (String × Json)) :
    insertEntry key value (insertEntry key' value' fields) =
      insertEntry key' value' (insertEntry key value fields) := by
  have hbef : ∀ rest : List (String × Json),
      insertEntry key value ((key', value') :: rest) = (key, value) :: (key', value') :: rest :=
    fun rest => insertEntry_of_lt value rest hlt
  have hbehind : ∀ rest : List (String × Json), insertEntry key' value' ((key, value) :: rest) =
        (key, value) :: insertEntry key' value' rest :=
    fun rest => insertEntry_of_gt value' rest hlt
  induction fields with
  | nil =>
    show insertEntry key value [(key', value')] = insertEntry key' value' [(key, value)]
    rw [hbef, hbehind]
    rfl
  | cons entry fields ih =>
    rcases lt_trichotomy entry.1 key with hent | hent | hent
    · have hent' := hent.trans hlt
      rw [insertEntry_of_gt _ _ hent', insertEntry_of_gt _ _ hent,
        insertEntry_of_gt _ _ hent, insertEntry_of_gt _ _ hent', ih]
    · have hent' : entry.1 < key' := hent ▸ hlt
      rw [insertEntry_of_gt _ _ hent', insertEntry_of_eq _ _ hent,
        insertEntry_of_eq _ _ hent, hbehind]
    · rw [insertEntry_of_lt value fields hent, hbehind]
      rcases lt_trichotomy entry.1 key' with hent' | hent' | hent'
      · rw [insertEntry_of_gt _ _ hent', insertEntry_of_lt _ _ hent]
      · rw [insertEntry_of_eq _ _ hent', hbef]
      · rw [insertEntry_of_lt _ _ hent', hbef]

theorem insertEntry_comm (hne : key ≠ key') (value value' : Json) (fields : List (String × Json)) :
    insertEntry key value (insertEntry key' value' fields) =
      insertEntry key' value' (insertEntry key value fields) := by
  rcases lt_or_gt_of_ne hne with hlt | hgt
  · exact insertEntry_comm_of_lt hlt value value' fields
  · exact (insertEntry_comm_of_lt hgt value' value fields).symm

/-! ### Values at a path -/

/-- The value at a path, where there is one. -/
def valueAt (value : Json) : List String → Option Json
  | [] => some value
  | key :: path => (value.get? key).bind fun child => child.valueAt path

@[simp] theorem valueAt_nil (value : Json) : value.valueAt [] = some value := rfl

theorem valueAt_object (fields : List (String × Json)) (key : String) (path : List String) :
    (object fields).valueAt (key :: path) =
      (lookup key fields).bind fun child => child.valueAt path := rfl

/-- Below what is no object there is nothing. -/
theorem valueAt_empty (h : path ≠ []) : (object []).valueAt path = none := by
  cases path with
  | nil => exact absurd rfl h
  | cons key path => rfl

/-! ### Placing a value -/

/-- How a path is not free. -/
inductive PathConflict
  | crosses
  | occupied

/-- The child under a key, or the object that is made there. -/
def childOrNew (key : String) (fields : List (String × Json)) : Json :=
  (lookup key fields).getD (.object [])

/-- Set a value at a path that is free. -/
def place : List String → Json → Json → Except PathConflict Json
  | [], _, body => .ok body
  | [leaf], value, body => do
    let fields ← okOr body.asObject? .crosses
    require ((lookup leaf fields).isNone = true) .occupied
    return .object (insertEntry leaf value fields)
  | key :: next :: path, value, body => do
    let fields ← okOr body.asObject? .crosses
    let child ← place (next :: path) value (childOrNew key fields)
    return .object (insertEntry key child fields)

variable {path path' : List String} {value body : Json} {key next : String}

theorem asObject?_eq_some (h : body.asObject? = some fields) :
    body = .object fields := by
  cases body with
  | object found => rw [some.inj h]
  | null | bool | number | string | array => cases h

/-- What becomes of the child under the first key. -/
def setChild (path : List String) (value : Json) (child : Option Json) :
    Except PathConflict Json :=
  match path with
  | [] => do
    require (child.isNone = true) .occupied
    return value
  | path => place path value (child.getD (.object []))

theorem setChild_nil_ok :
    setChild [] value child = .ok value' ↔ child = none ∧ value' = value := by
  constructor
  · intro h
    obtain ⟨hfree, h⟩ := guard_ok.mp h
    exact ⟨isNone_iff_eq_none.mp hfree, (pure_inj h).symm⟩
  · rintro ⟨rfl, rfl⟩
    rfl

/-- **One step of a path**: the object is there, and the child is set. -/
theorem place_cons_ok :
    place (key :: path) value body = .ok body' ↔ ∃ fields child, body = .object fields ∧
      setChild path value (lookup key fields) = .ok child ∧
      body' = .object (insertEntry key child fields) := by
  cases path with
  | nil =>
    rw [place]
    constructor
    · intro h
      obtain ⟨fields, hfields, hfree, h⟩ := step_guard h
      exact ⟨fields, value, asObject?_eq_some (okOr_ok.mp hfields),
        setChild_nil_ok.mpr ⟨isNone_iff_eq_none.mp hfree, rfl⟩,
        (pure_inj h).symm⟩
    · rintro ⟨fields, child, rfl, hchild, rfl⟩
      obtain ⟨hfree, rfl⟩ := setChild_nil_ok.mp hchild
      rw [asObject?, okOr, ok_bind, hfree]
      rfl
  | cons next path =>
    rw [place]
    constructor
    · intro h
      obtain ⟨fields, hfields, child, hchild, h⟩ := steps₂ h
      exact ⟨fields, child, asObject?_eq_some (okOr_ok.mp hfields), hchild, (pure_inj h).symm⟩
    · rintro ⟨fields, child, rfl, hchild, rfl⟩
      replace hchild : place (next :: path) value (childOrNew key fields) = .ok child := hchild
      rw [asObject?, okOr, ok_bind, hchild]
      rfl

/-! ### Which paths are free -/

/-- Nothing is at a path, and what is on the way to it are objects. -/
structure Free (path : List String) (body : Json) : Prop where
  clear : ∀ before behind, path = before ++ behind → behind ≠ [] → ∀ value,
    body.valueAt before = some value → value.isObject = true
  absent : body.valueAt path = none

theorem free_empty (h : path ≠ []) : Free path (.object []) where
  clear := by
    intro before behind _ _ value hvalue
    by_cases hbef : before = []
    · rw [hbef, valueAt_nil] at hvalue
      rw [← some.inj hvalue]
      rfl
    · rw [valueAt_empty hbef] at hvalue
      cases hvalue
  absent := valueAt_empty h

theorem free_leaf :
    Free [leaf] (.object fields) ↔ lookup leaf fields = none := by
  constructor
  · intro h
    have habsent := h.absent
    rw [valueAt_object] at habsent
    cases hchild : lookup leaf fields with
    | none => rfl
    | some child =>
      rw [hchild] at habsent
      cases habsent
  · intro h
    refine ⟨?_, by rw [valueAt_object, h]; rfl⟩
    intro before behind hpath hbehind value hvalue
    have hbef : before = [] := by
      cases before with
      | nil => rfl
      | cons key before =>
        have hrest := (cons.inj hpath).2
        exact absurd (append_eq_nil_iff.mp hrest.symm).2 hbehind
    rw [hbef, valueAt_nil] at hvalue
    rw [← some.inj hvalue]
    rfl

theorem free_cons (hne : path ≠ []) :
    Free (key :: path) (.object fields) ↔ Free path (childOrNew key fields) := by
  constructor
  · intro h
    cases hchild : lookup key fields with
    | none =>
      rw [childOrNew, hchild]
      exact free_empty hne
    | some child =>
      rw [childOrNew, hchild]
      have hsame : ∀ path, (object fields).valueAt (key :: path) = child.valueAt path := by
        intro path
        rw [valueAt_object, hchild]
        rfl
      refine ⟨fun before behind hpath hbehind value hvalue => ?_, ?_⟩
      · exact h.clear (key :: before) behind (by rw [hpath]; rfl) hbehind value
          ((hsame before).trans hvalue)
      · exact (hsame path).symm.trans h.absent
  · intro h
    have hsame : ∀ path', path' ≠ [] →
        (object fields).valueAt (key :: path') = (childOrNew key fields).valueAt path' := by
      intro path' hpath'
      rw [valueAt_object, childOrNew]
      cases lookup key fields with
      | none => exact (valueAt_empty hpath').symm
      | some child => rfl
    refine ⟨fun before behind hpath hbehind value hvalue => ?_, ?_⟩
    · cases before with
      | nil =>
        rw [← some.inj hvalue]
        rfl
      | cons found before =>
        obtain ⟨rfl, hrest⟩ := cons.inj hpath
        by_cases hbef : before = []
        · rw [hbef, valueAt_object] at hvalue
          refine h.clear [] path rfl hne value ?_
          rw [valueAt_nil, childOrNew]
          cases hchild : lookup key fields with
          | none =>
            rw [hchild] at hvalue
            cases hvalue
          | some child =>
            rw [hchild] at hvalue
            exact hvalue
        · exact h.clear before behind hrest hbehind value ((hsame before hbef).symm.trans hvalue)
    · rw [hsame path hne]
      exact h.absent

theorem Free.isObject (h : Free (key :: path) body) : ∃ fields, body = .object fields := by
  have hobject := h.clear [] (key :: path) rfl (cons_ne_nil _ _) body rfl
  obtain ⟨fields, hfields⟩ := isSome_iff_exists.mp hobject
  exact ⟨fields, asObject?_eq_some hfields⟩

/-- **Which paths are free** for a value. -/
theorem place_isOk_iff (hne : path ≠ []) :
    (∃ body', place path value body = .ok body') ↔ Free path body := by
  induction path generalizing body with
  | nil => exact absurd rfl hne
  | cons key path ih =>
    cases path with
    | nil =>
      constructor
      · rintro ⟨body', h⟩
        obtain ⟨fields, child, rfl, hchild, rfl⟩ := place_cons_ok.mp h
        exact free_leaf.mpr (setChild_nil_ok.mp hchild).1
      · intro h
        obtain ⟨fields, rfl⟩ := h.isObject
        exact ⟨_, place_cons_ok.mpr ⟨fields, value, rfl,
          setChild_nil_ok.mpr ⟨free_leaf.mp h, rfl⟩, rfl⟩⟩
    | cons next path =>
      have hnext : next :: path ≠ [] := cons_ne_nil _ _
      constructor
      · rintro ⟨body', h⟩
        obtain ⟨fields, child, rfl, hchild, rfl⟩ := place_cons_ok.mp h
        exact (free_cons hnext).mpr ((ih hnext).mp ⟨child, hchild⟩)
      · intro h
        obtain ⟨fields, rfl⟩ := h.isObject
        obtain ⟨child, hchild⟩ := (ih hnext).mpr ((free_cons hnext).mp h)
        exact ⟨_, place_cons_ok.mpr ⟨fields, child, rfl, hchild, rfl⟩⟩

/-! ### What is where afterwards -/

/-- The value is where it was placed, with what is below it. -/
theorem valueAt_place_below (hne : path ≠ []) (h : place path value body = .ok body')
    (rest : List String) : body'.valueAt (path ++ rest) = value.valueAt rest := by
  induction path generalizing body body' with
  | nil => exact absurd rfl hne
  | cons key path ih =>
    obtain ⟨fields, child, rfl, hchild, rfl⟩ := place_cons_ok.mp h
    rw [cons_append, valueAt_object, lookup_insertEntry, if_pos rfl, bind_some]
    cases path with
    | nil => rw [(setChild_nil_ok.mp hchild).2, nil_append]
    | cons next path => exact ih (cons_ne_nil _ _) hchild

/-- What is on the way is an object. -/
theorem valueAt_place_above (hpath : path = before ++ behind)
    (hbehind : behind ≠ []) (h : place path value body = .ok body') :
    ∃ value', body'.valueAt before = some value' ∧ value'.isObject = true := by
  induction path generalizing before body body' with
  | nil => exact absurd (append_eq_nil_iff.mp hpath.symm).2 hbehind
  | cons key path ih =>
    obtain ⟨fields, child, rfl, hchild, rfl⟩ := place_cons_ok.mp h
    cases before with
    | nil => exact ⟨_, rfl, rfl⟩
    | cons found before =>
      obtain ⟨rfl, hrest⟩ := cons.inj hpath
      rw [valueAt_object, lookup_insertEntry, if_pos rfl, bind_some]
      cases path with
      | nil => exact absurd (append_eq_nil_iff.mp hrest.symm).2 hbehind
      | cons next path => exact ih hrest hchild

/-- Neither path begins with the other. -/
def Apart (path path' : List String) : Prop := ¬ path <+: path' ∧ ¬ path' <+: path

instance decidableApart (path path' : List String) : Decidable (Apart path path') :=
  inferInstanceAs (Decidable (¬ path <+: path' ∧ ¬ path' <+: path))

theorem Apart.symm (h : Apart path path') : Apart path' path := ⟨h.2, h.1⟩

theorem Apart.left_ne_nil (h : Apart path path') : path ≠ [] := by
  rintro rfl
  exact h.1 nil_prefix

theorem Apart.of_cons (h : Apart (key :: path) (key :: path')) : Apart path path' :=
  ⟨fun hpre => h.1 ((prefix_cons_inj key).mpr hpre),
    fun hpre => h.2 ((prefix_cons_inj key).mpr hpre)⟩

/-- What is not on the path stays. -/
theorem valueAt_place_beside (hapart : Apart path path') (h : place path value body = .ok body') :
    body'.valueAt path' = body.valueAt path' := by
  induction path generalizing path' body body' with
  | nil => exact absurd rfl hapart.left_ne_nil
  | cons key path ih =>
    obtain ⟨fields, child, rfl, hchild, rfl⟩ := place_cons_ok.mp h
    cases path' with
    | nil => exact absurd rfl hapart.symm.left_ne_nil
    | cons found path' =>
      rw [valueAt_object, valueAt_object, lookup_insertEntry]
      by_cases hkey : key = found
      · subst hkey
        have hbelow := hapart.of_cons
        rw [if_pos rfl, bind_some]
        cases path with
        | nil => exact absurd rfl hbelow.left_ne_nil
        | cons next path =>
          rw [ih hbelow hchild]
          cases lookup key fields with
          | none => exact valueAt_empty hbelow.symm.left_ne_nil
          | some child => rfl
      · rw [if_neg hkey]

/-- **Two paths apart**, in either order. -/
theorem place_comm (hapart : Apart path path') (h : place path value body = .ok between)
    (h' : place path' value' between = .ok body') :
    ∃ between', place path' value' body = .ok between' ∧ place path value between' = .ok body' := by
  induction path generalizing path' body between body' with
  | nil => exact absurd rfl hapart.left_ne_nil
  | cons key path ih =>
    cases path' with
    | nil => exact absurd rfl hapart.symm.left_ne_nil
    | cons key' path' =>
      obtain ⟨fields, child, rfl, hchild, rfl⟩ := place_cons_ok.mp h
      obtain ⟨fields', child', hfields, hchild', rfl⟩ := place_cons_ok.mp h'
      obtain rfl := object.inj hfields
      rw [lookup_insertEntry] at hchild'
      by_cases hkey : key = key'
      · subst hkey
        have hbelow := hapart.of_cons
        rw [if_pos rfl] at hchild'
        cases path with
        | nil => exact absurd rfl hbelow.left_ne_nil
        | cons next path =>
          cases path' with
          | nil => exact absurd rfl hbelow.symm.left_ne_nil
          | cons next' path' =>
            obtain ⟨between, hfirst, hsnd⟩ := ih hbelow hchild hchild'
            refine ⟨_, place_cons_ok.mpr ⟨fields, between, rfl, hfirst, rfl⟩,
              place_cons_ok.mpr ⟨_, child', rfl, ?_, ?_⟩⟩
            · rw [lookup_insertEntry, if_pos rfl]
              exact hsnd
            · rw [insertEntry_same, insertEntry_same]
      · rw [if_neg hkey] at hchild'
        refine ⟨_, place_cons_ok.mpr ⟨fields, child', rfl, hchild', rfl⟩,
          place_cons_ok.mpr ⟨_, child, rfl, ?_, ?_⟩⟩
        · rw [lookup_insertEntry, if_neg (fun heq => hkey heq.symm)]
          exact hchild
        · rw [insertEntry_comm hkey]

/-! ### Several values -/

/-- Set values at several paths, one after the other. -/
def placeAll (patches : List (List String × Json)) (body : Json) : Except PathConflict Json :=
  patches.foldlM (fun body patch => place patch.1 patch.2 body) body

variable {patches : List (List String × Json)} {patch : List String × Json}

theorem placeAll_cons_ok :
    placeAll (patch :: patches) body = .ok body' ↔
      ∃ between, place patch.1 patch.2 body = .ok between ∧
        placeAll patches between = .ok body' := by
  exact bind_ok

/-- A path apart is as free as before. -/
theorem free_place_iff (hapart : Apart path path') (h : place path value body = .ok body') :
    Free path' body' ↔ Free path' body := by
  have hne : path ≠ [] := hapart.left_ne_nil
  have habsent : body'.valueAt path' = body.valueAt path' := valueAt_place_beside hapart h
  -- where the paths part, everything is as before; until there, both go through objects
  have hway : ∀ before behind, path' = before ++ behind → behind ≠ [] →
      body'.valueAt before = body.valueAt before ∨
        (∀ value, body.valueAt before = some value → value.isObject = true) ∧
          ∃ value, body'.valueAt before = some value ∧ value.isObject = true := by
    intro before behind hpath' hbehind
    by_cases hpre : before <+: path
    · right
      obtain ⟨rest, rfl⟩ := hpre
      have hrest : rest ≠ [] := by
        rintro rfl
        refine hapart.1 ?_
        rw [append_nil, hpath']
        exact prefix_append _ _
      have hfree := (place_isOk_iff hne).mp ⟨body', h⟩
      exact ⟨hfree.clear before rest rfl hrest, valueAt_place_above rfl hrest h⟩
    · left
      refine valueAt_place_beside ⟨fun hbelow => hapart.1 ?_, hpre⟩ h
      rw [hpath']
      exact hbelow.trans (prefix_append _ _)
  constructor
  · intro hfree
    refine ⟨fun before behind hpath' hbehind value hvalue => ?_, habsent.symm.trans hfree.absent⟩
    rcases hway before behind hpath' hbehind with hsame | ⟨hobjects, _⟩
    · exact hfree.clear before behind hpath' hbehind value (hsame.trans hvalue)
    · exact hobjects value hvalue
  · intro hfree
    refine ⟨fun before behind hpath' hbehind value hvalue => ?_, habsent.trans hfree.absent⟩
    rcases hway before behind hpath' hbehind with hsame | ⟨_, found, hfound, hobject⟩
    · exact hfree.clear before behind hpath' hbehind value (hsame.symm.trans hvalue)
    · rw [hfound] at hvalue
      rw [← some.inj hvalue]
      exact hobject

/-- Paths that are pairwise apart. -/
abbrev ApartPaths (patches : List (List String × Json)) : Prop :=
  patches.Pairwise fun patch patch' => Apart patch.1 patch'.1

/-- **When the values can be set**: every path is free before. -/
theorem placeAll_isOk_iff (hne : ∀ patch ∈ patches, patch.1 ≠ []) (hapart : ApartPaths patches) :
    (∃ body', placeAll patches body = .ok body') ↔ ∀ patch ∈ patches, Free patch.1 body := by
  induction patches generalizing body with
  | nil => exact iff_of_true ⟨body, rfl⟩ (forall_mem_nil _)
  | cons patch patches ih =>
    rw [forall_mem_cons] at hne ⊢
    replace hapart := pairwise_cons.mp hapart
    constructor
    · rintro ⟨body', h⟩
      obtain ⟨between, hfirst, hrest⟩ := placeAll_cons_ok.mp h
      refine ⟨(place_isOk_iff hne.1).mp ⟨between, hfirst⟩, fun other hmem => ?_⟩
      exact (free_place_iff (hapart.1 other hmem) hfirst).mp
        ((ih hne.2 hapart.2).mp ⟨body', hrest⟩ other hmem)
    · rintro ⟨hfree, hothers⟩
      obtain ⟨between, hfirst⟩ := (place_isOk_iff hne.1).mpr hfree
      obtain ⟨body', hrest⟩ := (ih hne.2 hapart.2).mpr fun other hmem =>
        (free_place_iff (hapart.1 other hmem) hfirst).mpr (hothers other hmem)
      exact ⟨body', placeAll_cons_ok.mpr ⟨between, hfirst, hrest⟩⟩

/-- What is on none of the paths stays. -/
theorem valueAt_placeAll_beside (hapart : ∀ patch ∈ patches, Apart patch.1 path)
    (h : placeAll patches body = .ok body') : body'.valueAt path = body.valueAt path := by
  induction patches generalizing body with
  | nil =>
    cases h
    rfl
  | cons patch patches ih =>
    rw [forall_mem_cons] at hapart
    obtain ⟨between, hfirst, hrest⟩ := placeAll_cons_ok.mp h
    rw [ih hapart.2 hrest, valueAt_place_beside hapart.1 hfirst]

theorem Apart.below (h : Apart path path') (rest : List String) : Apart path (path' ++ rest) := by
  refine ⟨fun hpre => ?_, fun hpre => h.2 ((prefix_append _ _).trans hpre)⟩
  rcases prefix_or_prefix_of_prefix hpre (prefix_append path' rest) with hle | hge
  · exact h.1 hle
  · exact h.2 hge

/-- Every value is where it was placed. -/
theorem valueAt_placeAll_below (hne : ∀ patch ∈ patches, patch.1 ≠ []) (hapart : ApartPaths patches)
    (h : placeAll patches body = .ok body') (hmem : patch ∈ patches) (rest : List String) :
    body'.valueAt (patch.1 ++ rest) = patch.2.valueAt rest := by
  induction patches generalizing body with
  | nil => cases hmem
  | cons first patches ih =>
    rw [forall_mem_cons] at hne
    replace hapart := pairwise_cons.mp hapart
    obtain ⟨between, hfirst, hrest⟩ := placeAll_cons_ok.mp h
    rcases mem_cons.mp hmem with rfl | hmem
    · have hbeside : ∀ other ∈ patches, Apart other.1 (patch.1 ++ rest) :=
        fun other hoth => (hapart.1 other hoth).symm.below rest
      rw [valueAt_placeAll_beside hbeside hrest, valueAt_place_below hne.1 hfirst]
    · exact ih hne.2 hapart.2 hrest hmem

/-- An object that is on the way to none of the values, or to some, is an object afterwards. -/
theorem isObject_placeAll (hway : ∀ patch ∈ patches, ¬ patch.1 <+: before)
    (hobject : ∃ value, body.valueAt before = some value ∧ value.isObject = true)
    (h : placeAll patches body = .ok body') :
    ∃ value, body'.valueAt before = some value ∧ value.isObject = true := by
  induction patches generalizing body with
  | nil =>
    cases h
    exact hobject
  | cons patch patches ih =>
    rw [forall_mem_cons] at hway
    obtain ⟨between, hfirst, hrest⟩ := placeAll_cons_ok.mp h
    refine ih hway.2 ?_ hrest
    by_cases hpre : before <+: patch.1
    · obtain ⟨behind, hpath⟩ := hpre
      have hbehind : behind ≠ [] := by
        rintro rfl
        refine hway.1 ?_
        rw [← hpath, append_nil]
      exact valueAt_place_above hpath.symm hbehind hfirst
    · rw [valueAt_place_beside ⟨hway.1, hpre⟩ hfirst]
      exact hobject

/-- What is on the way to a value is an object. -/
theorem valueAt_placeAll_above (hapart : ApartPaths patches)
    (h : placeAll patches body = .ok body') (hmem : patch ∈ patches)
    (hpath : patch.1 = before ++ behind) (hbehind : behind ≠ []) :
    ∃ value, body'.valueAt before = some value ∧ value.isObject = true := by
  induction patches generalizing body with
  | nil => cases hmem
  | cons first patches ih =>
    replace hapart := pairwise_cons.mp hapart
    obtain ⟨between, hfirst, hrest⟩ := placeAll_cons_ok.mp h
    rcases mem_cons.mp hmem with rfl | hmem
    · refine isObject_placeAll (fun other hoth hpre => ?_)
        (valueAt_place_above hpath hbehind hfirst) hrest
      refine (hapart.1 other hoth).2 (hpre.trans ?_)
      rw [hpath]
      exact prefix_append _ _
    · exact ih hapart.2 hrest hmem

/-- **Any order** of the values. -/
theorem placeAll_perm (hperm : patches.Perm patches') (hapart : ApartPaths patches)
    (h : placeAll patches body = .ok body') : placeAll patches' body = .ok body' := by
  induction hperm generalizing body with
  | nil => exact h
  | cons patch _ ih =>
    obtain ⟨between, hfirst, hrest⟩ := placeAll_cons_ok.mp h
    exact placeAll_cons_ok.mpr ⟨between, hfirst, ih (pairwise_cons.mp hapart).2 hrest⟩
  | swap patch patch' patches =>
    obtain ⟨between, hfirst, hrest⟩ := placeAll_cons_ok.mp h
    obtain ⟨between', hsnd, hrest⟩ := placeAll_cons_ok.mp hrest
    have htwo := (pairwise_cons.mp hapart).1 patch mem_cons_self
    obtain ⟨other, hfirst', hsnd'⟩ := place_comm htwo hfirst hsnd
    exact placeAll_cons_ok.mpr ⟨other, hfirst', placeAll_cons_ok.mpr ⟨between', hsnd', hrest⟩⟩
  | trans hperm _ ih ih' => exact ih' ((hperm.pairwise_iff fun h => h.symm).mp hapart) (ih hapart h)

end LorePia.Json
