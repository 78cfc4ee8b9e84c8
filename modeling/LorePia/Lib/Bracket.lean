import Mathlib.Data.List.Induction
import Mathlib.Data.List.Nodup
import Mathlib.Order.BooleanAlgebra.Set

namespace LorePia.Lib

open List

/-!
# Bracketed calls in an event sequence

A sequence of events mentions calls by a key: a call is opened, something happens within it,
it is closed.  The life cycle of one key is a three-phase machine, and a sequence is *tracked*
by a phase for each key if the machine accepts the marks of every key and ends there.

* `phaseOf_eq_fresh`, `phaseOf_eq_active`, `phaseOf_eq_done` — what the marks of a key look
    like in each phase;
* `Tracked.snoc`, `Tracked.skip` — the step rules: one more event of a key, or of none;
* `WellBracketed` — every key unused, or opened once and closed once after all that happened
    within it;
* `Ledger` — the books of a program over its open and its used keys, with a rule for each mark.
-/

variable {marks : List Mark} {phase : Phase}

/-- What an event does to the call it mentions. -/
inductive Mark
  | opened
  | within
  | closed
deriving DecidableEq

/-- The life cycle of a key. -/
inductive Phase
  | fresh
  | active
  | done
deriving DecidableEq

def Phase.next : Phase → Mark → Option Phase
  | .fresh, .opened => some .active
  | .active, .within => some .active
  | .active, .closed => some .done
  | _, _ => none

/-- The phase after a list of marks, if the life cycle allows them. -/
def phaseOf (marks : List Mark) : Option Phase :=
  marks.foldlM Phase.next .fresh

theorem phaseOf_snoc (marks : List Mark) (mark : Mark) :
    phaseOf (marks ++ [mark]) = (phaseOf marks).bind fun phase => phase.next mark := by
  simp [phaseOf, foldlM_append]

theorem phaseOf_eq_fresh : phaseOf marks = some .fresh ↔ marks = [] := by
  constructor
  · intro h
    induction marks using List.reverseRecOn with
    | nil => rfl
    | append_singleton marks mark _ =>
      rw [phaseOf_snoc, Option.bind_eq_some_iff] at h
      obtain ⟨phase, _, hnext⟩ := h
      cases phase <;> cases mark <;> simp [Phase.next] at hnext
  · rintro rfl
    rfl

theorem phaseOf_active_replicate (n : Nat) :
    phaseOf (.opened :: List.replicate n .within) = some .active := by
  induction n with
  | zero => rfl
  | succ n ih =>
    rw [replicate_succ', ← cons_append, phaseOf_snoc, ih]
    rfl

theorem phaseOf_eq_active :
    phaseOf marks = some .active ↔ ∃ n, marks = .opened :: List.replicate n .within := by
  constructor
  · intro h
    induction marks using List.reverseRecOn with
    | nil => cases h
    | append_singleton marks mark ih =>
      rw [phaseOf_snoc, Option.bind_eq_some_iff] at h
      obtain ⟨phase, hphase, hnext⟩ := h
      cases phase <;> cases mark <;> simp [Phase.next] at hnext
      · rw [phaseOf_eq_fresh] at hphase
        exact ⟨0, by rw [hphase]; rfl⟩
      · obtain ⟨n, rfl⟩ := ih hphase
        exact ⟨n + 1, by rw [replicate_succ', cons_append]⟩
  · rintro ⟨n, rfl⟩
    exact phaseOf_active_replicate n

theorem phaseOf_eq_done :
    phaseOf marks = some .done ↔
      ∃ n, marks = .opened :: (List.replicate n .within ++ [.closed]) := by
  constructor
  · intro h
    induction marks using List.reverseRecOn with
    | nil => cases h
    | append_singleton marks mark _ =>
      rw [phaseOf_snoc, Option.bind_eq_some_iff] at h
      obtain ⟨phase, hphase, hnext⟩ := h
      cases phase <;> cases mark <;> simp [Phase.next] at hnext
      obtain ⟨n, rfl⟩ := phaseOf_eq_active.mp hphase
      exact ⟨n, by rw [cons_append]⟩
  · rintro ⟨n, rfl⟩
    rw [← cons_append, phaseOf_snoc, phaseOf_active_replicate]
    rfl

/-! ### Keyed sequences -/

section Keyed

variable {ε κ : Type _} [DecidableEq κ] {view : ε → Option (κ × Mark)} {events : List ε}

/-- The mark an event leaves at a key. -/
def markAt (view : ε → Option (κ × Mark)) (key : κ) (event : ε) : Option Mark :=
  (view event).bind fun seen => if seen.1 = key then some seen.2 else none

/-- The marks a sequence leaves at a key. -/
def marksOf (view : ε → Option (κ × Mark)) (key : κ) (events : List ε) : List Mark :=
  events.filterMap (markAt view key)

@[simp] theorem marksOf_append (key : κ) (before after : List ε) :
    marksOf view key (before ++ after) = marksOf view key before ++ marksOf view key after := by
  simp [marksOf]

/-- The sequence allows the life cycle of every key, and leaves each in the phase given. -/
def Tracked (view : ε → Option (κ × Mark)) (events : List ε) (phases : κ → Phase) : Prop :=
  ∀ key, phaseOf (marksOf view key events) = some (phases key)

/-- Every key is unused, or opened once and closed once. -/
def WellBracketed (view : ε → Option (κ × Mark)) (events : List ε) : Prop :=
  ∀ key, marksOf view key events = [] ∨
    ∃ n, marksOf view key events = .opened :: (List.replicate n .within ++ [.closed])

theorem tracked_nil : Tracked view [] fun _ => .fresh := fun _ => rfl

theorem Tracked.congr (h : Tracked view events phases) (hsame : ∀ key, phases' key = phases key) :
    Tracked view events phases' := by
  intro key
  rw [hsame key]
  exact h key

/-- An event of no key changes no phase. -/
theorem Tracked.skip (h : Tracked view events phases) (hview : view event = none) :
    Tracked view (events ++ [event]) phases := by
  intro key
  have hmark : marksOf view key [event] = [] := by simp [marksOf, markAt, hview]
  rw [marksOf_append, hmark, append_nil]
  exact h key

theorem phaseOf_marksOf_snoc
    (h : phaseOf (marksOf view key events) = some phase) (hview : view event = some (key, mark)) :
    phaseOf (marksOf view key (events ++ [event])) = phase.next mark := by
  have hmark : marksOf view key [event] = [mark] := by simp [marksOf, markAt, hview]
  rw [marksOf_append, hmark, phaseOf_snoc, h]
  rfl

/-- An event of a key moves that key along its life cycle, and no other. -/
theorem Tracked.snoc (h : Tracked view events phases) (hview : view event = some (key, mark))
    (hnext : (phases key).next mark = some phase) :
    Tracked view (events ++ [event]) (Function.update phases key phase) := by
  intro other
  by_cases hkey : other = key
  · subst hkey
    rw [Function.update_self, phaseOf_marksOf_snoc (h other) hview, hnext]
  · have hmark : marksOf view other [event] = [] := by
      simp [marksOf, markAt, hview, Ne.symm hkey]
    rw [marksOf_append, hmark, append_nil, Function.update_of_ne hkey]
    exact h other

/-- A tracked beginning of a tracked sequence allows the event in between. -/
theorem Tracked.next_of_append {after : List ε} (h : Tracked view events phases)
    (h' : Tracked view (events ++ event :: after) phases') (hview : view event = some (key, mark)) :
    ∃ phase, (phases key).next mark = some phase := by
  have hall := h' key
  rw [append_cons, marksOf_append, phaseOf, foldlM_append] at hall
  obtain ⟨phase, hphase, _⟩ := Option.bind_eq_some_iff.mp hall
  refine ⟨phase, ?_⟩
  rw [← phaseOf_marksOf_snoc (h key) hview]
  exact hphase

theorem wellBracketed_iff :
    WellBracketed view events ↔
      ∃ phases : κ → Phase, Tracked view events phases ∧ ∀ key, phases key ≠ .active := by
  constructor
  · intro h
    refine ⟨fun key => if marksOf view key events = [] then .fresh else .done, ?_, ?_⟩
    · intro key
      rcases h key with hnil | ⟨n, hdone⟩
      · simp only [hnil, if_true]
        rfl
      · have hne : marksOf view key events ≠ [] := by simp [hdone]
        simp only [hne, if_false]
        exact phaseOf_eq_done.mpr ⟨n, hdone⟩
    · intro key
      by_cases hnil : marksOf view key events = [] <;> simp [hnil]
  · rintro ⟨phases, htracked, hidle⟩ key
    have hphase := htracked key
    cases hkey : phases key with
    | fresh => exact .inl (phaseOf_eq_fresh.mp (hkey ▸ hphase))
    | active => exact absurd hkey (hidle key)
    | done => exact .inr (phaseOf_eq_done.mp (hkey ▸ hphase))

/-- The keys that a sequence opens, in order. -/
def openedKeys (view : ε → Option (κ × Mark)) (events : List ε) : List κ :=
  events.filterMap fun event => (view event).bind fun seen =>
    if seen.2 = .opened then some seen.1 else none

omit [DecidableEq κ] in
@[simp] theorem openedKeys_append (before after : List ε) :
    openedKeys view (before ++ after) = openedKeys view before ++ openedKeys view after := by
  simp [openedKeys]

/-- A key is opened as often as the sequence leaves the mark. -/
theorem count_openedKeys (key : κ) (events : List ε) :
    (openedKeys view events).count key = (marksOf view key events).count .opened := by
  induction events with
  | nil => rfl
  | cons event events ih =>
    rw [← singleton_append, openedKeys_append, marksOf_append, count_append, count_append, ih]
    congr 1
    cases hview : view event with
    | none => simp [openedKeys, marksOf, markAt, hview]
    | some seen =>
      obtain ⟨seenKey, mark⟩ := seen
      by_cases hkey : seenKey = key <;> by_cases hmark : mark = .opened <;>
        simp [openedKeys, marksOf, markAt, hview, hkey, hmark]

/-- In a well-bracketed sequence no key is opened twice. -/
theorem WellBracketed.nodup_openedKeys (h : WellBracketed view events) :
    (openedKeys view events).Nodup := by
  rw [nodup_iff_count_le_one]
  intro key
  rw [count_openedKeys]
  rcases h key with hnil | ⟨n, hmarks⟩
  · rw [hnil]
    exact Nat.zero_le 1
  · rw [hmarks]
    simp [count_replicate]

/-! ### Ledgers

The books of a program that keeps the keys it has used and those that are still open. -/

/-- `used` are the keys that occur, `active` those among them that are open. -/
structure Ledger (view : ε → Option (κ × Mark)) (events : List ε) (active used : Set κ) : Prop where
  subset : active ⊆ used
  fresh : ∀ key ∉ used, phaseOf (marksOf view key events) = some .fresh
  opened : ∀ key ∈ active, phaseOf (marksOf view key events) = some .active
  closed : ∀ key ∈ used, key ∉ active → phaseOf (marksOf view key events) = some .done

namespace Ledger

variable {active used : Set κ} {key : κ}

theorem nil : Ledger view [] ∅ ∅ where
  subset := subset_rfl
  fresh _ _ := rfl
  opened _ h := h.elim
  closed _ h := h.elim

theorem phase_of_ne {other : κ} (hview : view event = some (key, mark)) (hne : other ≠ key) :
    phaseOf (marksOf view other (events ++ [event])) = phaseOf (marksOf view other events) := by
  have hmark : marksOf view other [event] = [] := by simp [marksOf, markAt, hview, Ne.symm hne]
  rw [marksOf_append, hmark, append_nil]

section

variable (h : Ledger view events active used)
include h

/-- An event of no key. -/
theorem skip (hview : view event = none) :
    Ledger view (events ++ [event]) active used := by
  have hsame : ∀ key, marksOf view key (events ++ [event]) = marksOf view key events := by
    intro key
    simp [marksOf, markAt, hview]
  refine ⟨h.subset, ?_, ?_, ?_⟩
  · intro key hkey
    rw [hsame]
    exact h.fresh key hkey
  · intro key hkey
    rw [hsame]
    exact h.opened key hkey
  · intro key hused hactv
    rw [hsame]
    exact h.closed key hused hactv

/-- A key that was not used is opened. -/
theorem start (hview : view event = some (key, .opened)) (hfresh : key ∉ used) :
    Ledger view (events ++ [event]) (insert key active) (insert key used) := by
  refine ⟨Set.insert_subset_insert h.subset, ?_, ?_, ?_⟩
  · intro other hoth
    rw [Set.mem_insert_iff, not_or] at hoth
    rw [phase_of_ne hview hoth.1]
    exact h.fresh other hoth.2
  · intro other hoth
    rcases Set.mem_insert_iff.mp hoth with rfl | hactv
    · rw [phaseOf_marksOf_snoc (h.fresh other hfresh) hview]
      rfl
    · have hne : other ≠ key := fun heq => hfresh (heq ▸ h.subset hactv)
      rw [phase_of_ne hview hne]
      exact h.opened other hactv
  · intro other hused hactv
    rw [Set.mem_insert_iff, not_or] at hactv
    rw [phase_of_ne hview hactv.1]
    exact h.closed other (hused.resolve_left hactv.1) hactv.2

/-- Something happens within an open key. -/
theorem inside (hview : view event = some (key, .within))
    (hactv : key ∈ active) : Ledger view (events ++ [event]) active used := by
  refine ⟨h.subset, ?_, ?_, ?_⟩
  · intro other hoth
    have hne : other ≠ key := fun heq => hoth (heq ▸ h.subset hactv)
    rw [phase_of_ne hview hne]
    exact h.fresh other hoth
  · intro other hoth
    by_cases hkey : other = key
    · subst hkey
      rw [phaseOf_marksOf_snoc (h.opened other hoth) hview]
      rfl
    · rw [phase_of_ne hview hkey]
      exact h.opened other hoth
  · intro other hused hoth
    have hne : other ≠ key := fun heq => hoth (heq ▸ hactv)
    rw [phase_of_ne hview hne]
    exact h.closed other hused hoth

/-- Several things happen within an open key. -/
theorem insideAll {inner : List ε} (hactv : key ∈ active)
    (hinner : ∀ event ∈ inner, view event = some (key, .within)) :
    Ledger view (events ++ inner) active used := by
  induction inner generalizing events with
  | nil =>
    rw [append_nil]
    exact h
  | cons event inner ih =>
    rw [append_cons]
    refine ih (h.inside (hinner event mem_cons_self) hactv) fun other hoth => ?_
    exact hinner other (mem_cons_of_mem event hoth)

/-- An open key is closed. -/
theorem finish (hview : view event = some (key, .closed))
    (hactv : key ∈ active) : Ledger view (events ++ [event]) (active \ {key}) used := by
  refine ⟨fun other hoth => h.subset hoth.1, ?_, ?_, ?_⟩
  · intro other hoth
    have hne : other ≠ key := fun heq => hoth (heq ▸ h.subset hactv)
    rw [phase_of_ne hview hne]
    exact h.fresh other hoth
  · rintro other ⟨hoth, hne⟩
    rw [phase_of_ne hview hne]
    exact h.opened other hoth
  · intro other hused hoth
    by_cases hkey : other = key
    · subst hkey
      rw [phaseOf_marksOf_snoc (h.opened other hactv) hview]
      rfl
    · rw [phase_of_ne hview hkey]
      exact h.closed other hused fun hin => hoth ⟨hin, hkey⟩

/-- A key is opened, used once and closed at one go. -/
theorem whole {inner : ε} (hopening : view opening = some (key, .opened))
    (hinner : view inner = some (key, .within)) (hclosing : view closing = some (key, .closed))
    (hfresh : key ∉ used) :
    Ledger view (events ++ [opening] ++ [inner] ++ [closing]) active (insert key used) := by
  have hdone := ((h.start hopening hfresh).inside hinner (Set.mem_insert key active)).finish
    hclosing (Set.mem_insert key active)
  rw [Set.insert_sdiff_self_of_notMem fun hin => hfresh (h.subset hin)] at hdone
  exact hdone

end

/-- Nothing is open. -/
theorem wellBracketed (h : Ledger view events ∅ used) : WellBracketed view events := by
  intro key
  by_cases hused : key ∈ used
  · exact .inr (phaseOf_eq_done.mp (h.closed key hused (Set.notMem_empty key)))
  · exact .inl (phaseOf_eq_fresh.mp (h.fresh key hused))

end Ledger

end Keyed

end LorePia.Lib
