import LorePia.Catalog.Coherence
import LorePia.Catalog.Service
import Mathlib.Data.List.MinMax

namespace LorePia.Catalog

open Lib List CatalogServiceError VerifiedCatalogUpdate

/-!
# When the active catalog is available

In every state that accepted imports and rollbacks reach, the stored updates verify again and the
active snapshot loads, so the operational view depends on the entries that count alone.

* `Sound` — the invariant, kept by `Imported.sound` and `RolledBack.sound`;
* `operational_isOk_iff` — the operational view succeeds iff the entries that count are coherent;
* `operational_available_iff` — where no clock goes back, it succeeds iff every model that counts
  still has a manifest that counts and the parameters that count are still valid together.
-/

variable {update : VerifiedCatalogUpdate} {envelope : Bytes} {revisions : List Nat}
  {active : KeptSnapshot} {target : KeptSnapshot} {activatedAt : Int}
  {guard : StoredCatalogRevisionGuard} {payload : CatalogPayload}

/-! ### What verification and loading establish -/

variable {E : CatalogEngine} {state state' : CatalogState}

/-- What a verified update is known for. -/
structure Verifies (E : CatalogEngine) (guard : StoredCatalogRevisionGuard) (now : Int)
    (update : VerifiedCatalogUpdate) : Prop where
  structured : validatePayloadStructure E update.payload = .ok ()
  issued : update.payload.issuedAt ≤ update.payload.effectiveAt
  effective : update.payload.effectiveAt ≤ now
  revision : guard.highestAcceptedRevision < update.payload.revision
  issuedAfter : ∀ issuedAt ∈ guard.latestIssuedAt, issuedAt ≤ update.payload.issuedAt
  nextGuard : update.nextRevisionGuard = ⟨update.payload.revision, some update.payload.issuedAt⟩

theorem issued_le_effective
    (h : validatePayloadStructure E payload = .ok ()) : payload.issuedAt ≤ payload.effectiveAt := by
  obtain ⟨_, _, _, h⟩ := rest₃ h
  obtain ⟨_, _, h⟩ := rest₂ h
  obtain ⟨_, horder, _⟩ := bind_ok.mp h
  exact (require_ok.mp horder).1

theorem verifyManualCatalogImport_ok
    (h : verifyManualCatalogImport E envelope guard now = .ok update) :
    Verifies E guard now update := by
  obtain ⟨opened, _, _, hstructure, h⟩ := steps₂ h
  obtain ⟨_, hwindow, _, hrev, h⟩ := steps₂ h
  cases pure_inj h
  obtain ⟨_, heffective, _⟩ := guards₂ hwindow
  obtain ⟨hhigher, hissued⟩ := require_ok.mp hrev
  exact
    { structured := hstructure
      issued := issued_le_effective hstructure
      effective := heffective
      revision := hhigher
      issuedAfter := hissued
      nextGuard := rfl }

theorem verifyAccepted_concat {updates : List AcceptedUpdate} {update : AcceptedUpdate}
    (h : verifyAccepted E guard updates = .ok verified)
    (hupdate : verifyManualCatalogImport E update.envelope
      ((verified.getLast?.map VerifiedCatalogUpdate.nextRevisionGuard).getD guard)
      update.acceptedAt = .ok update.verified) :
    verifyAccepted E guard (updates ++ [update]) = .ok (verified ++ [update.verified]) := by
  induction updates generalizing guard verified with
  | nil =>
    cases pure_inj h
    rw [nil_append, verifyAccepted]
    exact then_ok (mapError_ok.mpr hupdate) (guarded rfl rfl)
  | cons first updates ih =>
    obtain ⟨firstVerified, hfirst, hsame, h⟩ := step_guard h
    obtain ⟨rest, hrest, rfl⟩ := last_step h
    have hguard : ((firstVerified :: rest).getLast?.map
          nextRevisionGuard).getD guard =
        (rest.getLast?.map nextRevisionGuard).getD
          firstVerified.nextRevisionGuard := by
      rw [getLast?_cons]
      cases rest.getLast? <;> rfl
    rw [hguard] at hupdate
    rw [cons_append, verifyAccepted]
    exact then_ok hfirst (guarded hsame (then_ok (ih hrest hupdate) rfl))

/-- The updates a chain selects. -/
def selected (accepted : List VerifiedCatalogUpdate) (revisions : List Nat) :
    List VerifiedCatalogUpdate :=
  revisions.filterMap fun revision =>
    accepted.find? fun update => update.payload.revision == revision

theorem exists_accepted {accepted : List VerifiedCatalogUpdate}
    (h : ∃ update ∈ accepted, update.payload.revision = revision) :
    ∃ found, (accepted.find? fun update => update.payload.revision == revision) = some found := by
  obtain ⟨update, hmem, hrev⟩ := h
  exact Option.isSome_iff_exists.mp (find?_isSome.mpr ⟨update, hmem, beq_iff_eq.mpr hrev⟩)

theorem selectVerifiedUpdates_ok {accepted : List VerifiedCatalogUpdate} :
    selectVerifiedUpdates accepted revisions = .ok updates ↔
      (∀ revision ∈ revisions, ∃ update ∈ accepted, update.payload.revision = revision) ∧
        updates = selected accepted revisions := by
  induction revisions generalizing updates with
  | nil => simp [selectVerifiedUpdates, selected, eq_comm]
  | cons revision revisions ih =>
    rw [selectVerifiedUpdates, mapM_cons, bind_ok]
    simp only [okOr_ok, bind_ok, forall_mem_cons]
    constructor
    · rintro ⟨update, hfind, rest, hrest, h⟩
      cases pure_inj h
      obtain ⟨hall, rfl⟩ := ih.mp hrest
      refine ⟨⟨⟨update, mem_of_find?_eq_some hfind, ?_⟩, hall⟩, ?_⟩
      · simpa using find?_some hfind
      · rw [selected, selected, filterMap_cons, hfind]
    · rintro ⟨⟨hfirst, hall⟩, rfl⟩
      obtain ⟨found, hfind⟩ := exists_accepted hfirst
      refine ⟨found, hfind, selected accepted revisions, ih.mpr ⟨hall, rfl⟩, ?_⟩
      rw [selected, selected, filterMap_cons, hfind]
      rfl

/-! ### The invariant -/

/-- What is known of a stored snapshot. -/
structure KeptSound (E : CatalogEngine) (accepted : List VerifiedCatalogUpdate)
    (kept : KeptSnapshot) : Prop where
  valid : validateRevisionSnapshot E.validators kept.snapshot = .ok ()
  bundled : bundledBaselineSnapshot E = .ok kept.bundled
  chain : ∀ revision ∈ kept.signedRevisionChain,
    ∃ update ∈ accepted, update.payload.revision = revision
  layers : validateLayers E.validators (bundledLayer E ::
    (selected accepted kept.signedRevisionChain).map VerifiedCatalogUpdate.layer) = .ok ()
  issued : ∀ update ∈ selected accepted kept.signedRevisionChain,
    update.payload.issuedAt ≤ kept.snapshot.capturedAt

def CatalogState.accepted (state : CatalogState) : List VerifiedCatalogUpdate :=
  state.updates.map AcceptedUpdate.verified

structure Sound (E : CatalogEngine) (state : CatalogState) : Prop where
  reloads : verifyAccepted E ⟨0, none⟩ state.updates = .ok state.accepted
  guard : lastGuard state.accepted = state.guard
  ascending : state.accepted.Pairwise fun a b => a.payload.revision < b.payload.revision
  highest : ∀ update ∈ state.accepted, update.payload.revision ≤ state.guard.highestAcceptedRevision
  issued : ∀ update ∈ state.accepted,
    ∃ issuedAt ∈ state.guard.latestIssuedAt, update.payload.issuedAt ≤ issuedAt
  structured : ∀ update ∈ state.accepted, validatePayloadStructure E update.payload = .ok ()
  fresh : state.active = none → state = .empty
  activeKept : ∀ revision ∈ state.active,
    ∃ kept ∈ state.snapshots, kept.snapshot.revision = revision
  kept : ∀ kept ∈ state.snapshots, KeptSound E state.accepted kept
  distinct : (state.snapshots.map fun kept => kept.snapshot.revision).Nodup

theorem sound_empty : Sound E .empty where
  reloads := rfl
  guard := rfl
  ascending := .nil
  highest := by simp [CatalogState.accepted, CatalogState.empty]
  issued := by simp [CatalogState.accepted, CatalogState.empty]
  structured := by simp [CatalogState.accepted, CatalogState.empty]
  fresh := fun _ => rfl
  activeKept := by simp [CatalogState.empty]
  kept := by simp [CatalogState.empty]
  distinct := nodup_nil

/-! ### Loading a sound state -/

theorem CatalogState.snapshot?_eq_some {kept : KeptSnapshot}
    (hdist : (state.snapshots.map fun kept => kept.snapshot.revision).Nodup) :
    state.snapshot? revision = some kept ↔
      kept ∈ state.snapshots ∧ kept.snapshot.revision = revision := by
  constructor
  · intro h
    exact ⟨mem_of_find?_eq_some h, by simpa using find?_some h⟩
  · rintro ⟨hmem, hrev⟩
    have hsome : (state.snapshot? revision).isSome :=
      find?_isSome.mpr ⟨kept, hmem, beq_iff_eq.mpr hrev⟩
    obtain ⟨found, hfind⟩ := Option.isSome_iff_exists.mp hsome
    have hfound : found.snapshot.revision = revision := by simpa using find?_some hfind
    rw [hfind, inj_on_of_nodup_map hdist (mem_of_find?_eq_some hfind) hmem (hfound.trans hrev.symm)]

section Loading

variable (hsound : Sound E state)
include hsound

theorem loadVerifiedUpdates_eq : loadVerifiedUpdates E state = .ok state.accepted := by
  have hsrt : sortedUpdates state = state.updates := by
    refine mergeSort_of_pairwise ?_
    have hascending := hsound.ascending
    rw [CatalogState.accepted, pairwise_map] at hascending
    exact hascending.imp fun hlt => decide_eq_true hlt.le
  have hnodup : (state.accepted.map fun update => update.payload.revision).Nodup :=
    pairwise_map.mpr (hsound.ascending.imp fun hlt => ne_of_lt hlt)
  rw [loadVerifiedUpdates, hsrt, hsound.reloads]
  exact guarded hnodup (guarded hsound.guard rfl)

/-- The active snapshot loads, and is the one the invariant speaks of. -/
theorem loadActiveCatalog_ok (h : loadActiveCatalog E state = .ok active) :
    KeptSound E state.accepted active ∧
      ((state = .empty ∧ active.snapshot.capturedAt = bundledCatalogVerifiedAt ∧
          active.snapshot.revision = 1 ∧ active.signedRevisionChain = []) ∨
        active ∈ state.snapshots ∧ state.active = some active.snapshot.revision) := by
  cases hactv : state.active with
  | some revision =>
    rw [loadActiveCatalog, hactv] at h
    obtain ⟨kept, hfind, h⟩ := bind_ok.mp h
    obtain ⟨_, _, h⟩ := rest₂ h
    cases pure_inj h
    obtain ⟨hmem, hrev⟩ :=
      (CatalogState.snapshot?_eq_some hsound.distinct).mp (okOr_ok.mp hfind)
    exact ⟨hsound.kept _ hmem, .inr ⟨hmem, congrArg some hrev.symm⟩⟩
  | none =>
    have hempty := hsound.fresh hactv
    subst hempty
    obtain ⟨_, snapshot, hbase, h⟩ := guard_step h
    rw [mapError_ok] at hbase
    cases pure_inj h
    have hbundled := hbase
    obtain ⟨merged, hmerge, hbase⟩ := bind_ok.mp hbase
    obtain ⟨layer, hlayer, _⟩ := bind_ok.mp hmerge
    obtain ⟨_, _, hval, _⟩ := guard_step hlayer
    obtain ⟨_, _, hsnap, hbase⟩ := guard_step hbase
    cases pure_inj hbase
    refine ⟨?_, .inl ⟨rfl, rfl, rfl, rfl⟩⟩
    exact
      { valid := hsnap
        bundled := hbundled
        chain := fun _ hmem => absurd hmem not_mem_nil
        layers := hval
        issued := fun _ hmem => absurd hmem not_mem_nil }

/-- With the compiled baseline, an active snapshot loads. -/
theorem loadActiveCatalog_isOk (hbase : ∃ snapshot, bundledBaselineSnapshot E = .ok snapshot) :
    ∃ active, loadActiveCatalog E state = .ok active := by
  cases hactv : state.active with
  | some revision =>
    obtain ⟨kept, hmem, hrev⟩ := hsound.activeKept revision hactv
    have hfind := (CatalogState.snapshot?_eq_some hsound.distinct).mpr ⟨hmem, hrev⟩
    have hkept := hsound.kept kept hmem
    refine ⟨kept, ?_⟩
    rw [loadActiveCatalog, hactv]
    exact bind_ok.mpr ⟨kept, okOr_ok.mpr hfind, bind_ok.mpr ⟨(), mapError_ok.mpr hkept.valid,
        bind_ok.mpr ⟨(), bind_ok.mpr ⟨_, mapError_ok.mpr hkept.bundled, require_ok.mpr rfl⟩, rfl⟩⟩⟩
  | none =>
    obtain ⟨snapshot, hbase⟩ := hbase
    have hempty := hsound.fresh hactv
    subst hempty
    exact ⟨_, guarded ⟨rfl, rfl, rfl⟩ (then_ok (mapError_ok.mpr hbase) rfl)⟩

end Loading

/-! ### Views -/

/-- The layers of a list of updates above the compiled one. -/
def layersOf (E : CatalogEngine) (updates : List VerifiedCatalogUpdate) : List CatalogLayer :=
  bundledLayer E :: updates.map VerifiedCatalogUpdate.layer

variable {now : Int} {revision : Nat} {capturedAt : Int}
  {reject : CatalogErrorKind → CatalogServiceError}

theorem bundledCatalogBaseline_eq (hbase : ∃ snapshot, bundledBaselineSnapshot E = .ok snapshot) :
    bundledCatalogBaseline E = .ok (bundledLayer E) := by
  obtain ⟨snapshot, hbase⟩ := hbase
  obtain ⟨_, hmerge, _⟩ := bind_ok.mp hbase
  obtain ⟨layer, hlayer, _⟩ := bind_ok.mp hmerge
  have hbundled := hlayer
  obtain ⟨_, _, hlayer⟩ := rest₂ hlayer
  cases pure_inj hlayer
  exact hbundled

theorem viewAt_ok (h : viewAt E now updates revision capturedAt reject = .ok view) :
    mergeCatalogLayers now .default E.validators (layersOf E updates) = .ok view.1 ∧
      CatalogRevisionSnapshot.fromMerged E.validators revision capturedAt view.1 = .ok view.2 := by
  obtain ⟨merged, hmerge, snapshot, hsnap, h⟩ := steps₂ h
  cases pure_inj h
  obtain ⟨layer, hlayer, hmerge⟩ := bind_ok.mp (mapError_ok.mp hmerge)
  obtain ⟨_, _, hlayer⟩ := rest₂ hlayer
  cases pure_inj hlayer
  exact ⟨hmerge, mapError_ok.mp hsnap⟩

/-- A view exists iff the entries that count are coherent. -/
theorem viewAt_isOk_iff (hbase : ∃ snapshot, bundledBaselineSnapshot E = .ok snapshot)
    (hval : validateLayers E.validators (layersOf E updates) = .ok ()) (hrev : revision ≠ 0) :
    (∃ view, viewAt E now updates revision capturedAt reject = .ok view) ↔
      Coherent E.validators now capturedAt (layersOf E updates) := by
  have hiff : (∃ catalog,
      mergeCatalogLayers now .default E.validators (layersOf E updates) = .ok catalog ∧
        ∃ snapshot, CatalogRevisionSnapshot.fromMerged E.validators revision capturedAt catalog =
          .ok snapshot) ↔ Coherent E.validators now capturedAt (layersOf E updates) :=
    snapshot_isOk_iff_coherent hval hrev
  rw [← hiff]
  constructor
  · rintro ⟨view, h⟩
    obtain ⟨hmerge, hsnap⟩ := viewAt_ok h
    exact ⟨view.1, hmerge, view.2, hsnap⟩
  · rintro ⟨merged, hmerge, snapshot, hsnap⟩
    have hbundled : mergeWithBundledCatalog E updates now = .ok merged :=
      then_ok (bundledCatalogBaseline_eq hbase) hmerge
    exact ⟨(merged, snapshot), then_ok (mapError_ok.mpr hbundled)
      (then_ok (mapError_ok.mpr hsnap) rfl)⟩

/-- What a successful view knows of its snapshot. -/
theorem fromMerged_ok {catalog : MergedCatalog} {snapshot : CatalogRevisionSnapshot}
    (h : CatalogRevisionSnapshot.fromMerged E.validators revision capturedAt catalog =
      .ok snapshot) :
    snapshot.revision = revision ∧ snapshot.capturedAt = capturedAt ∧ revision ≠ 0 ∧
      validateRevisionSnapshot E.validators snapshot = .ok () := by
  obtain ⟨hrev, _, hval, h⟩ := guard_step h
  cases pure_inj h
  exact ⟨rfl, rfl, hrev, hval⟩

/-! ### Imports -/

/-- What a candidate is known for. -/
structure Candidate (E : CatalogEngine) (state : CatalogState) (envelope : Bytes)
    (validationTime capturedAt : Int) (candidate : CatalogImportCandidate) : Prop where
  verified : verifyManualCatalogImport E envelope state.guard validationTime = .ok candidate.verified
  active : loadActiveCatalog E state = .ok candidate.active
  revision : nextLocalRevision state = .ok candidate.snapshot.revision
  captured : candidate.snapshot.capturedAt = capturedAt
  view : ∃ merged, viewAt E validationTime
    (selected state.accepted candidate.active.signedRevisionChain ++ [candidate.verified])
    candidate.snapshot.revision capturedAt CatalogServiceError.request =
      .ok (merged, candidate.snapshot)

theorem buildCatalogImportCandidate_ok (hsound : Sound E state) {stored : List ProviderTemplate}
    (h : buildCatalogImportCandidate E state stored envelope validationTime capturedAt =
      .ok candidate) :
    Candidate E state envelope validationTime capturedAt candidate := by
  obtain ⟨accepted, hload, h⟩ := bind_ok.mp h
  rw [loadVerifiedUpdates_eq hsound] at hload
  cases hload
  obtain ⟨verified, hver, active, hactv, updates, hselect, h⟩ := steps₃ h
  obtain ⟨revision, hrev, ⟨merged, snapshot⟩, hview, _, _, h⟩ := steps₃ h
  cases pure_inj h
  obtain ⟨_, rfl⟩ := selectVerifiedUpdates_ok.mp hselect
  obtain ⟨hsame, hcapt, _, _⟩ := fromMerged_ok (viewAt_ok hview).2
  refine
    { verified := mapError_ok.mp hver
      active := hactv
      revision := ?_
      captured := hcapt
      view := ⟨merged, ?_⟩ }
  · rw [hrev]
    exact congrArg Except.ok hsame.symm
  · show viewAt E validationTime _ snapshot.revision _ _ = _
    rw [hsame]
    exact hview

/-- What an accepted import is known for. -/
structure Imported (E : CatalogEngine) (state : CatalogState) (call : CatalogImport)
    (state' : CatalogState) (candidate : CatalogImportCandidate) : Prop where
  review : Verifies E state.guard call.preparedAt candidate.verified
  built : Candidate E state call.envelope call.activatedAt call.preparedAt candidate
  ordered : call.preparedAt ≤ call.activatedAt
  result : state' = state.withImport candidate call.envelope call.activatedAt

theorem activateImport_ok (hsound : Sound E state) (h : activateImport E state call = .ok state') :
    ∃ candidate, Imported E state call state' candidate := by
  obtain ⟨review, hreview, _, h⟩ := step_guard h
  obtain ⟨hord, candidate, hcandidate, h⟩ := guard_step h
  obtain ⟨⟨hsame, _⟩, h⟩ := guard_ok.mp h
  cases pure_inj h
  have hver := (buildCatalogImportCandidate_ok hsound hreview).verified
  rw [← hsame] at hver
  exact ⟨candidate,
    { review := verifyManualCatalogImport_ok hver
      built := buildCatalogImportCandidate_ok hsound hcandidate
      ordered := hord
      result := rfl }⟩

theorem accepted_withImport :
    (state.withImport candidate envelope activatedAt).accepted =
      state.accepted ++ [candidate.verified] := by
  simp [CatalogState.accepted, CatalogState.withImport]

theorem mem_selected {accepted : List VerifiedCatalogUpdate} (h : update ∈ selected accepted revisions) :
    update ∈ accepted := by
  obtain ⟨revision, _, hfind⟩ := mem_filterMap.mp h
  exact mem_of_find?_eq_some hfind

/-- A new update does not change what an old chain selects. -/
theorem selected_append {accepted : List VerifiedCatalogUpdate}
    (h : ∀ revision ∈ revisions, ∃ update ∈ accepted, update.payload.revision = revision) :
    selected (accepted ++ [update]) revisions = selected accepted revisions := by
  refine filterMap_congr fun revision hrev => ?_
  obtain ⟨found, hfind⟩ := exists_accepted (h revision hrev)
  rw [find?_append, hfind, Option.some_or]

/-- A chain that goes on with the new update selects it last. -/
theorem selected_concat {accepted : List VerifiedCatalogUpdate}
    (h : ∀ revision ∈ revisions, ∃ update ∈ accepted, update.payload.revision = revision)
    (hnew : ∀ old ∈ accepted, old.payload.revision < update.payload.revision) :
    selected (accepted ++ [update]) (revisions ++ [update.payload.revision]) =
      selected accepted revisions ++ [update] := by
  have hfind : (accepted ++ [update]).find?
      (fun other => other.payload.revision == update.payload.revision) = some update := by
    have hnone : accepted.find? (fun other => other.payload.revision == update.payload.revision) =
        none := by
      rw [List.find?_eq_none]
      intro old hold heq
      exact absurd (beq_iff_eq.mp heq) (hnew old hold).ne
    rw [find?_append, hnone]
    simp
  rw [← selected_append h, selected, selected, filterMap_append, filterMap_cons, hfind]
  rfl

theorem KeptSound.mono {accepted : List VerifiedCatalogUpdate} {kept : KeptSnapshot}
    (h : KeptSound E accepted kept) (update : VerifiedCatalogUpdate) :
    KeptSound E (accepted ++ [update]) kept where
  valid := h.valid
  bundled := h.bundled
  chain := fun revision hrev => by
    obtain ⟨found, hmem, hfound⟩ := h.chain revision hrev
    exact ⟨found, mem_append_left _ hmem, hfound⟩
  layers := by
    rw [selected_append h.chain]
    exact h.layers
  issued := by
    rw [selected_append h.chain]
    exact h.issued

theorem nextLocalRevision_ok (h : nextLocalRevision state = .ok revision) :
    (state.snapshots = [] → revision = 2) ∧
      ∀ kept ∈ state.snapshots, kept.snapshot.revision < revision := by
  obtain ⟨_, h⟩ := guard_ok.mp h
  cases pure_inj h
  refine ⟨fun hempty => by rw [if_pos hempty], fun kept hkept => ?_⟩
  have hle : kept.snapshot.revision ≤
      (state.snapshots.map fun kept => kept.snapshot.revision).foldr max 0 :=
    le_max_of_le' 0 (mem_map_of_mem hkept) le_rfl
  rw [if_neg (ne_nil_of_mem hkept)]
  exact Nat.lt_succ_of_le hle

/-- The snapshot an import commits. -/
def CatalogImportCandidate.kept (candidate : CatalogImportCandidate) : KeptSnapshot where
  snapshot := candidate.snapshot
  bundled := candidate.active.bundled
  signedRevisionChain :=
    candidate.active.signedRevisionChain ++ [candidate.verified.payload.revision]

/-- The snapshots after an import: the new one, the old ones, and at first the baseline. -/
theorem mem_snapshots_withImport {kept : KeptSnapshot}
    (h : kept ∈ (state.withImport candidate envelope activatedAt).snapshots) :
    kept ∈ state.snapshots ∨ kept = candidate.active ∨ kept = candidate.kept := by
  simp only [CatalogState.withImport, mem_append, mem_singleton] at h
  rcases h with (h | h) | h
  · exact .inl h
  · split at h
    · exact .inr (.inl (mem_singleton.mp h))
    · cases h
  · exact .inr (.inr h)

section Importing

variable (hsound : Sound E state) {call : CatalogImport} {candidate : CatalogImportCandidate}
  (h : Imported E state call state' candidate)
include hsound h

theorem Imported.below : ∀ old ∈ state.accepted,
    old.payload.revision < candidate.verified.payload.revision :=
  fun old hold => (hsound.highest old hold).trans_lt h.review.revision

/-- The new snapshot is sound. -/
theorem Imported.kept : KeptSound E (state.accepted ++ [candidate.verified]) candidate.kept := by
  obtain ⟨hactv, _⟩ := loadActiveCatalog_ok hsound h.built.active
  obtain ⟨merged, hview⟩ := h.built.view
  obtain ⟨hmerge, hsnap⟩ := viewAt_ok hview
  have hsel := selected_concat hactv.chain (h.below hsound)
  refine
    { valid := (fromMerged_ok hsnap).2.2.2
      bundled := hactv.bundled
      chain := ?_
      layers := ?_
      issued := ?_ }
  · refine forall_mem_concat.mpr ⟨fun revision hrev => ?_, ?_⟩
    · obtain ⟨update, hmem, hsame⟩ := hactv.chain revision hrev
      exact ⟨update, mem_append_left _ hmem, hsame⟩
    · exact ⟨candidate.verified, mem_concat_self, rfl⟩
  · show validateLayers E.validators (layersOf E (selected (state.accepted ++ [candidate.verified])
      (candidate.active.signedRevisionChain ++ [candidate.verified.payload.revision]))) = .ok ()
    rw [hsel]
    exact (merge_isOk_iff.mp ⟨merged, hmerge⟩).1
  · -- an update is issued no later than the next one, and that before it was prepared
    have hnew : candidate.verified.payload.issuedAt ≤ candidate.snapshot.capturedAt := by
      rw [h.built.captured]
      exact h.review.issued.trans h.review.effective
    refine hsel.symm ▸ forall_mem_concat.mpr ⟨fun update hold => ?_, hnew⟩
    obtain ⟨issuedAt, hguard, hle⟩ := hsound.issued update (mem_selected hold)
    exact (hle.trans (h.review.issuedAfter issuedAt hguard)).trans hnew

/-- The snapshots have distinct revisions. -/
theorem Imported.distinct :
    (state'.snapshots.map fun kept => kept.snapshot.revision).Nodup := by
  obtain ⟨_, hwhere⟩ := loadActiveCatalog_ok hsound h.built.active
  obtain ⟨hsnd, hnewer⟩ := nextLocalRevision_ok h.built.revision
  rw [h.result]
  rcases hwhere with ⟨rfl, _, hfirst, _⟩ | ⟨_, hactv⟩
  · have hrev : candidate.snapshot.revision = 2 := hsnd rfl
    simp [CatalogState.withImport, CatalogState.empty, hrev, hfirst]
  · simp only [CatalogState.withImport, hactv, reduceCtorEq, if_false, append_nil,
      map_append, map_cons, map_nil]
    rw [nodup_append]
    refine ⟨hsound.distinct, nodup_singleton _, ?_⟩
    intro revision hmem new hnew heq
    obtain ⟨kept, hkept, rfl⟩ := mem_map.mp hmem
    rw [mem_singleton.mp hnew] at heq
    exact absurd heq (hnewer kept hkept).ne

/-- **Invariant, import.** An accepted import leaves a sound state. -/
theorem Imported.sound : Sound E state' := by
  have hres := h.result
  have hacc : state'.accepted = state.accepted ++ [candidate.verified] := by
    rw [hres, accepted_withImport]
  have hguard : state'.guard =
      ⟨candidate.verified.payload.revision, some candidate.verified.payload.issuedAt⟩ := by
    rw [hres]
    exact h.review.nextGuard
  refine
    { reloads := ?_
      guard := ?_
      ascending := ?_
      highest := ?_
      issued := ?_
      structured := ?_
      fresh := fun hnone => ?_
      activeKept := fun revision hrev => ?_
      kept := fun kept hkept => ?_
      distinct := h.distinct hsound }
  · rw [hacc, hres]
    refine verifyAccepted_concat hsound.reloads ?_
    have hver := h.built.verified
    rw [← hsound.guard] at hver
    exact hver
  · rw [hacc, lastGuard, getLast?_concat, hguard]
    exact h.review.nextGuard
  · rw [hacc, pairwise_append]
    exact ⟨hsound.ascending, pairwise_singleton _ _, fun old hold =>
      forall_mem_singleton.mpr (h.below hsound old hold)⟩
  · rw [hacc, hguard]
    exact forall_mem_concat.mpr ⟨fun update hold => (h.below hsound update hold).le, le_refl _⟩
  · rw [hacc, hguard]
    refine forall_mem_concat.mpr ⟨fun update hold => ⟨_, rfl, ?_⟩, _, rfl, le_refl _⟩
    obtain ⟨issuedAt, hlatest, hle⟩ := hsound.issued update hold
    exact hle.trans (h.review.issuedAfter issuedAt hlatest)
  · rw [hacc]
    exact forall_mem_concat.mpr ⟨hsound.structured, h.review.structured⟩
  · rw [hres] at hnone
    cases hnone
  · rw [hres] at hrev ⊢
    cases hrev
    exact ⟨candidate.kept, by simp [CatalogState.withImport, CatalogImportCandidate.kept], rfl⟩
  · rw [hacc]
    rw [hres] at hkept
    rcases mem_snapshots_withImport hkept with hold | rfl | rfl
    · exact (hsound.kept kept hold).mono candidate.verified
    · exact (loadActiveCatalog_ok hsound h.built.active).1.mono candidate.verified
    · exact h.kept hsound

end Importing

/-! ### Rollbacks -/

/-- What an accepted rollback is known for. -/
structure RolledBack (E : CatalogEngine) (state : CatalogState) (call : CatalogRollback)
    (state' : CatalogState) (target : KeptSnapshot) : Prop where
  mem : target ∈ state.snapshots
  view : ∃ merged, viewAt E call.activatedAt (selected state.accepted target.signedRevisionChain)
    target.snapshot.revision target.snapshot.capturedAt CatalogServiceError.request =
      .ok (merged, target.snapshot)
  result : state' = { state with active := some target.snapshot.revision }

theorem reviewRollback_ok (hsound : Sound E state)
    (h : reviewRollback E state targetRevision now = .ok target) :
    target ∈ state.snapshots ∧ ∃ merged,
      viewAt E now (selected state.accepted target.signedRevisionChain) target.snapshot.revision
        target.snapshot.capturedAt request = .ok (merged, target.snapshot) := by
  obtain ⟨accepted, hload, h⟩ := bind_ok.mp h
  rw [loadVerifiedUpdates_eq hsound] at hload
  cases hload
  obtain ⟨active, hactv, found, hfound, _, hoperational, h⟩ := steps₃ h
  obtain ⟨hdifferent, h⟩ := guard_ok.mp h
  cases pure_inj h
  have hmem : target ∈ state.snapshots := by
    rw [loadCatalogRevision] at hfound
    split at hfound
    · -- the baseline of an empty history is active itself
      rw [hactv] at hfound
      cases hfound
      exact absurd rfl hdifferent
    · obtain ⟨kept, hfind, hfound⟩ := bind_ok.mp hfound
      obtain ⟨_, _, hfound⟩ := rest₂ hfound
      cases pure_inj hfound
      exact ((CatalogState.snapshot?_eq_some hsound.distinct).mp (okOr_ok.mp hfind)).1
  obtain ⟨updates, hselect, ⟨merged, view⟩, hview, hcompared⟩ := steps₂ hoperational
  obtain ⟨_, rfl⟩ := selectVerifiedUpdates_ok.mp hselect
  have hsame : view = target.snapshot := require_ok.mp hcompared
  rw [hsame] at hview
  exact ⟨hmem, merged, hview⟩

theorem activateRollback_ok (hsound : Sound E state) {call : CatalogRollback}
    (h : activateRollback E state call = .ok state') :
    ∃ target, RolledBack E state call state' target := by
  obtain ⟨_, _, target, htgt, h⟩ := steps₂ h
  obtain ⟨_, h⟩ := guard_ok.mp h
  cases pure_inj h
  obtain ⟨hmem, hview⟩ := reviewRollback_ok hsound htgt
  exact ⟨target, ⟨hmem, hview, rfl⟩⟩

/-- **Invariant, rollback.** An accepted rollback leaves a sound state. -/
theorem RolledBack.sound (hsound : Sound E state) {call : CatalogRollback}
    (h : RolledBack E state call state' target) : Sound E state' := by
  obtain ⟨hmem, _, rfl⟩ := h
  exact
    { hsound with
      fresh := fun hnone => by cases hnone
      activeKept := fun revision hrev => by
        cases hrev
        exact ⟨target, hmem, rfl⟩ }

theorem Reached.sound (h : Reached E commands state) :
    Sound E state := by
  induction h with
  | empty => exact sound_empty
  | step command _ hperf ih =>
    cases command with
    | «import» call =>
      obtain ⟨candidate, himported⟩ := activateImport_ok ih hperf
      exact himported.sound ih
    | rollback call =>
      obtain ⟨target, hrolledBack⟩ := activateRollback_ok ih hperf
      exact hrolledBack.sound ih

/-! ### The operational view -/

/-- The layers of the active catalog. -/
def CatalogState.activeLayers (E : CatalogEngine) (state : CatalogState) : List CatalogLayer :=
  layersOf E (selected state.accepted
    (((state.active.bind state.snapshot?).map KeptSnapshot.signedRevisionChain).getD []))

/-- When the active catalog was captured; the baseline at its own date. -/
def CatalogState.activeCapturedAt (state : CatalogState) : Int :=
  ((state.active.bind state.snapshot?).map fun kept => kept.snapshot.capturedAt).getD
    bundledCatalogVerifiedAt

theorem activeLayers_of_mem (hsound : Sound E state)
    (hmem : active ∈ state.snapshots) (hactv : state.active = some active.snapshot.revision) :
    state.activeLayers E = layersOf E (selected state.accepted active.signedRevisionChain) ∧
      state.activeCapturedAt = active.snapshot.capturedAt := by
  have hfind := (CatalogState.snapshot?_eq_some hsound.distinct).mpr ⟨hmem, rfl⟩
  rw [CatalogState.activeLayers, CatalogState.activeCapturedAt, hactv, Option.bind_some, hfind]
  exact ⟨rfl, rfl⟩

theorem activeLayers_eq (hsound : Sound E state) (h : loadActiveCatalog E state = .ok active) :
    state.activeLayers E = layersOf E (selected state.accepted active.signedRevisionChain) ∧
      state.activeCapturedAt = active.snapshot.capturedAt := by
  obtain ⟨_, ⟨rfl, hcapt, _, hchain⟩ | ⟨hmem, hactv⟩⟩ := loadActiveCatalog_ok hsound h
  · rw [hchain, hcapt]
    exact ⟨rfl, rfl⟩
  · exact activeLayers_of_mem hsound hmem hactv

/-- In a sound state the operational view succeeds iff the entries that count are coherent. -/
theorem operational_isOk_iff (hsound : Sound E state)
    (hbase : ∃ snapshot, bundledBaselineSnapshot E = .ok snapshot) :
    (∃ projection, operationalProviderCatalogProjectionAt E now state = .ok projection) ↔
      Coherent E.validators now state.activeCapturedAt (state.activeLayers E) := by
  obtain ⟨active, hactv⟩ := loadActiveCatalog_isOk hsound hbase
  obtain ⟨hkept, _⟩ := loadActiveCatalog_ok hsound hactv
  obtain ⟨hlayers, hcapt⟩ := activeLayers_eq hsound hactv
  have hrev : active.snapshot.revision ≠ 0 :=
    (guard_ok.mp hkept.valid).1.2.1
  have hselect := selectVerifiedUpdates_ok.mpr ⟨hkept.chain, rfl⟩
  have hiff : (∃ view, viewAt E now (selected state.accepted active.signedRevisionChain)
      active.snapshot.revision active.snapshot.capturedAt internal = .ok view) ↔
      Coherent E.validators now active.snapshot.capturedAt
        (layersOf E (selected state.accepted active.signedRevisionChain)) :=
    viewAt_isOk_iff hbase hkept.layers hrev
  rw [hlayers, hcapt, ← hiff]
  constructor
  · rintro ⟨projection, h⟩
    obtain ⟨_, hload, h⟩ := bind_ok.mp h
    rw [loadVerifiedUpdates_eq hsound] at hload
    cases hload
    obtain ⟨_, hload, h⟩ := bind_ok.mp h
    rw [hactv] at hload
    cases hload
    obtain ⟨_, hload, h⟩ := bind_ok.mp h
    rw [hselect] at hload
    cases hload
    obtain ⟨view, hview, _⟩ := bind_ok.mp h
    exact ⟨view, hview⟩
  · rintro ⟨view, hview⟩
    exact ⟨_, then_ok (loadVerifiedUpdates_eq hsound) (then_ok hactv (then_ok hselect
      (then_ok hview rfl)))⟩

/-! ### Steady clocks -/

/-- The moment of the last activation; before the first one, the date of the baseline. -/
def lastMoment (commands : List CatalogCommand) : Int :=
  (commands.head?.map CatalogCommand.activatedAt).getD bundledCatalogVerifiedAt

/-- What is known besides where no clock goes back. -/
structure Steady (E : CatalogEngine) (commands : List CatalogCommand) (state : CatalogState) :
    Prop where
  bundled : bundledCatalogVerifiedAt ≤ lastMoment commands
  effective : ∀ update ∈ state.accepted, update.payload.effectiveAt ≤ lastMoment commands
  captured : ∀ kept ∈ state.snapshots, bundledCatalogVerifiedAt ≤ kept.snapshot.capturedAt
  coherent : Coherent E.validators (lastMoment commands) state.activeCapturedAt
    (state.activeLayers E)

theorem steady_empty (hbase : ∃ snapshot, bundledBaselineSnapshot E = .ok snapshot) :
    Steady E [] .empty where
  bundled := le_refl _
  effective := by simp [CatalogState.accepted, CatalogState.empty]
  captured := by simp [CatalogState.empty]
  coherent := by
    obtain ⟨snapshot, h⟩ := hbase
    obtain ⟨merged, hmerge, hsnap⟩ := bind_ok.mp h
    obtain ⟨layer, hlayer, hmerge⟩ := bind_ok.mp hmerge
    rw [bundledCatalogBaseline_eq ⟨snapshot, h⟩] at hlayer
    cases hlayer
    exact (snapshot_isOk_iff_coherent (merge_isOk_iff.mp ⟨merged, hmerge⟩).1 one_ne_zero).mp
      ⟨merged, hmerge, snapshot, hsnap⟩

section SteadySteps

variable (hbase : ∃ snapshot, bundledBaselineSnapshot E = .ok snapshot)
  {commands : List CatalogCommand} (hsound : Sound E state) (hsteady : Steady E commands state)
include hbase hsound hsteady

theorem Imported.steady (h : Imported E state call state' candidate)
    (hprepared : bundledCatalogVerifiedAt ≤ call.preparedAt)
    (hlater : lastMoment commands ≤ call.activatedAt) :
    Steady E (.import call :: commands) state' := by
  have hsound' := h.sound hsound
  have hacc : state'.accepted = state.accepted ++ [candidate.verified] := by
    rw [h.result, accepted_withImport]
  have hmem : candidate.kept ∈ state'.snapshots := by
    simp [h.result, CatalogState.withImport, CatalogImportCandidate.kept]
  have hactv : state'.active = some candidate.kept.snapshot.revision := by
    rw [h.result]
    rfl
  obtain ⟨hlayers, hcapt⟩ := activeLayers_of_mem hsound' hmem hactv
  obtain ⟨hactvSound, _⟩ := loadActiveCatalog_ok hsound h.built.active
  refine
    { bundled := hsteady.bundled.trans hlater
      effective := ?_
      captured := fun kept hkept => ?_
      coherent := ?_ }
  · rw [hacc]
    exact forall_mem_concat.mpr ⟨fun update hold => (hsteady.effective update hold).trans hlater,
      h.review.effective.trans h.ordered⟩
  · rw [h.result] at hkept
    rcases mem_snapshots_withImport hkept with hold | rfl | rfl
    · exact hsteady.captured kept hold
    · rcases (loadActiveCatalog_ok hsound h.built.active).2 with ⟨_, hfirst, _⟩ | ⟨hold, _⟩
      · rw [hfirst]
      · exact hsteady.captured _ hold
    · show bundledCatalogVerifiedAt ≤ candidate.snapshot.capturedAt
      rw [h.built.captured]
      exact hprepared
  · have hsel : selected state'.accepted candidate.kept.signedRevisionChain =
        selected state.accepted candidate.active.signedRevisionChain ++ [candidate.verified] := by
      rw [hacc]
      exact selected_concat hactvSound.chain (h.below hsound)
    have hval := (hsound'.kept candidate.kept hmem).layers
    have hrev : candidate.snapshot.revision ≠ 0 :=
      (guard_ok.mp (hsound'.kept candidate.kept hmem).valid).1.2.1
    obtain ⟨merged, hview⟩ := h.built.view
    rw [hlayers, hcapt, hsel]
    rw [hsel] at hval
    have hcapture : candidate.kept.snapshot.capturedAt = call.preparedAt := h.built.captured
    rw [hcapture]
    exact (viewAt_isOk_iff hbase hval hrev).mp ⟨_, hview⟩

theorem RolledBack.steady {call : CatalogRollback} (h : RolledBack E state call state' target)
    (hlater : lastMoment commands ≤ call.activatedAt) :
    Steady E (.rollback call :: commands) state' := by
  have hsound' := h.sound hsound
  have hkept := hsound.kept target h.mem
  have hrev : target.snapshot.revision ≠ 0 := (guard_ok.mp hkept.valid).1.2.1
  obtain ⟨hmem, ⟨merged, hview⟩, rfl⟩ := h
  obtain ⟨hlayers, hcapt⟩ := activeLayers_of_mem hsound' hmem rfl
  refine
    { bundled := hsteady.bundled.trans hlater
      effective := fun update hupdate => (hsteady.effective update hupdate).trans hlater
      captured := hsteady.captured
      coherent := ?_ }
  rw [hlayers, hcapt]
  exact (viewAt_isOk_iff hbase hkept.layers hrev).mp ⟨_, hview⟩

end SteadySteps

theorem Reached.steady (hbase : ∃ snapshot, bundledBaselineSnapshot E = .ok snapshot) (h : Reached E commands state) (hclock : SteadyClock commands) :
    Steady E commands state := by
  induction h with
  | empty => exact steady_empty hbase
  | @step commands state state' command hreached hperf ih =>
    obtain ⟨hprepared, hactivated, hlater, hclock⟩ := hclock
    have hsteady := ih hclock
    have hlast : lastMoment commands ≤ command.activatedAt := by
      cases commands with
      | nil => exact hactivated
      | cons before commands => exact hlater before rfl
    cases command with
    | «import» call =>
      obtain ⟨candidate, himported⟩ := activateImport_ok hreached.sound hperf
      exact himported.steady hbase hreached.sound hsteady hprepared hlast
    | rollback call =>
      obtain ⟨target, hrolledBack⟩ := activateRollback_ok hreached.sound hperf
      exact hrolledBack.steady hbase hreached.sound hsteady hlast

/-! ### Availability -/

/-- The entries of a signed payload were verified when it was issued, give or take the skew. -/
theorem verifiedAt_le_issued (h : validatePayloadStructure E payload = .ok ()) :
    (∀ entry ∈ payload.manifests, entry.verifiedAt ≤ payload.issuedAt + clockSkew) ∧
      ∀ entry ∈ payload.models, entry.verifiedAt ≤ payload.issuedAt + clockSkew := by
  obtain ⟨_, _, _, h⟩ := rest₃ h
  obtain ⟨_, _, _, h⟩ := rest₃ h
  obtain ⟨_, hmans, hmods⟩ := bind_ok.mp h
  refine ⟨fun entry hent => ?_, fun entry hent => ?_⟩
  · have hchecked := (forEachUnique_ok.mp hmans).2.2 entry hent
    exact (guard_ok.mp hchecked).1.2.2.1
  · have hchecked := (forEachUnique_ok.mp hmods).2.2 entry hent
    exact (guard_ok.mp hchecked).1.2.2.2.2.2.1

section Available

variable (hbase : ∃ snapshot, bundledBaselineSnapshot E = .ok snapshot)
  {commands : List CatalogCommand} (hsound : Sound E state) (hsteady : Steady E commands state)
include hbase hsound hsteady

theorem activeLayers_verified : ∀ layer ∈ state.activeLayers E,
    (∀ entry ∈ layer.manifests, entry.verifiedAt ≤ state.activeCapturedAt + clockSkew) ∧
      ∀ entry ∈ layer.models, entry.verifiedAt ≤ state.activeCapturedAt + clockSkew := by
  obtain ⟨active, hactv⟩ := loadActiveCatalog_isOk hsound hbase
  obtain ⟨hkept, hwhere⟩ := loadActiveCatalog_ok hsound hactv
  obtain ⟨hlayers, hcapt⟩ := activeLayers_eq hsound hactv
  rw [hlayers, hcapt]
  intro layer hlayer
  rcases mem_cons.mp hlayer with rfl | hsigned
  · have hskew : (0 : Int) ≤ clockSkew := by decide
    have hdate : bundledCatalogVerifiedAt ≤ active.snapshot.capturedAt := by
      rcases hwhere with ⟨_, hfirst, _⟩ | ⟨hmem, _⟩
      · rw [hfirst]
      · exact hsteady.captured active hmem
    have hbd : bundledCatalogVerifiedAt ≤ active.snapshot.capturedAt + clockSkew := by omega
    refine ⟨fun entry hent => ?_, fun entry hent => ?_⟩
    · obtain ⟨_, _, rfl⟩ := mem_map.mp hent
      exact hbd
    · obtain ⟨_, _, rfl⟩ := mem_map.mp hent
      exact hbd
  · obtain ⟨update, hupdate, rfl⟩ := mem_map.mp hsigned
    have hissued := hkept.issued update hupdate
    obtain ⟨hmans, hmods⟩ :=
      verifiedAt_le_issued (hsound.structured update (mem_selected hupdate))
    refine ⟨fun entry hent => ?_, fun entry hent => ?_⟩
    · have hent := hmans entry hent
      omega
    · have hent := hmods entry hent
      omega

end Available

/-- The layers that count now were effective at the last activation. -/
theorem Reached.settled (h : Reached E commands state) (hsteady : Steady E commands state)
    (hnow : ∀ command ∈ commands.head?, command.activatedAt ≤ now) :
    Settled now (lastMoment commands) (state.activeLayers E) := by
  intro layer hlayer hlive
  have heffectiveNow : layer.effectiveAt ≤ now := by
    rw [CatalogLayer.isLive, Bool.and_eq_true, decide_eq_true_eq] at hlive
    exact hlive.1
  rcases mem_cons.mp hlayer with rfl | hsigned
  · refine ⟨hsteady.bundled, ?_⟩
    cases h with
    | empty => exact heffectiveNow
    | step command => exact hnow command rfl
  · obtain ⟨update, hupdate, rfl⟩ := mem_map.mp hsigned
    have hacc := mem_selected hupdate
    refine ⟨hsteady.effective update hacc, ?_⟩
    cases h with
    | empty => cases hacc
    | step command => exact hnow command rfl

/-- **Availability.** In every state that accepted imports and rollbacks reach, the operational
    view succeeds at a moment iff the entries that count at it are coherent.  Where no clock was
    before the compiled baseline and none went back, it succeeds, at every moment since the last
    activation, iff every model that counts has a manifest that counts and the parameters that
    count for a model are valid together. -/
theorem operational_available_iff (E : CatalogEngine)
    (hbase : ∃ snapshot, bundledBaselineSnapshot E = .ok snapshot)
    {commands : List CatalogCommand} {state : CatalogState} (h : Reached E commands state) :
    (∀ now, (∃ projection, operationalProviderCatalogProjectionAt E now state = .ok projection) ↔
      Coherent E.validators now state.activeCapturedAt (state.activeLayers E)) ∧
    (SteadyClock commands → ∀ now, (∀ command ∈ commands.head?, command.activatedAt ≤ now) →
      ((∃ projection, operationalProviderCatalogProjectionAt E now state = .ok projection) ↔
        TemplatesPresent now (state.activeLayers E) ∧
          ParametersValid E.validators now (state.activeLayers E))) := by
  refine ⟨fun now => operational_isOk_iff h.sound hbase, fun hclock now hnow => ?_⟩
  have hsteady := h.steady hbase hclock
  have hver := activeLayers_verified hbase h.sound hsteady
  rw [operational_isOk_iff h.sound hbase]
  exact hsteady.coherent.later_iff (h.settled hsteady hnow)
    (fun layer hlayer => (hver layer hlayer).1)
    (fun layer hlayer => (hver layer hlayer).2)

/-! ### A model that outlives its manifest -/

/-- The templates that are compiled in, without their fields and parameters. -/
def sampleTemplates : List ProviderTemplate :=
  [("openai-responses-v1", "OpenAI", ApiFamily.openAiResponses),
    ("openai-chat-compatible-v1", "Custom OpenAI-compatible Chat", .openAiChatCompletions),
    ("anthropic-messages-v1", "Anthropic", .anthropicMessages),
    ("gemini-generate-content-v1", "Google Gemini", .geminiGenerateContent),
    ("openrouter-v1", "OpenRouter", .openAiChatCompletions),
    ("ollama-native-v1", "Ollama", .ollamaNative)].map fun (id, displayName, apiFamily) =>
    { id := id
      displayName := displayName
      manifestVersion := 2
      source := .builtIn
      apiFamily := apiFamily
      connectionFields := []
      defaultManifest := ⟨apiFamily, "\x7b\x7d"⟩ }

def sampleSha256 : String := "0123456789abcdef0123456789abcdef0123456789abcdef0123456789abcdef"

/-- A payload whose manifest expires before its model. -/
def samplePayload : CatalogPayload where
  schemaVersion := 1
  catalogId := catalogId
  revision := 1
  issuedAt := bundledCatalogVerifiedAt + 1
  effectiveAt := bundledCatalogVerifiedAt + 1
  expiresAt := bundledCatalogVerifiedAt + 100
  manifests := [
    { template :=
        { id := "acme-v1"
          displayName := "Acme"
          manifestVersion := 1
          source := .signedCatalog
          apiFamily := .ollamaNative
          connectionFields := []
          defaultManifest := ⟨.ollamaNative, "\x7b\x7d"⟩ }
      verifiedAt := 1
      expiresAt := some (bundledCatalogVerifiedAt + 10)
      sources := [sampleSource] }]
  models := [
    { sampleModel ⟨.toolCalling, .boolean true⟩ none with
      id := "acme-large"
      providerTemplateId := "acme-v1" }]

/-- A crate that reads the addresses of the baseline and of the sample source, and an envelope that
    holds the payload. -/
def sampleEngine : CatalogEngine where
  validators :=
    { sampleValidators with
      url :=
        { parse := fun value =>
            if value = sampleSource.url.val then sampleValidators.url.parse value
            else .ok ⟨"https", some "catalog.lorepia.invalid", "", none, "/bundled", none, none,
              "https://catalog.lorepia.invalid"⟩ } }
  openEnvelope := fun envelope =>
    if envelope = [123, 125] then .ok ⟨"lorepia-catalog-2026-01", sampleSha256, samplePayload⟩
    else .error .invalidSource
  manifestHash := fun _ => sampleSha256
  modelHash := fun _ => sampleSha256
  builtInTemplates := sampleTemplates.map fun template => (template, [])

def sampleVerified : VerifiedCatalogUpdate where
  signingKeyId := "lorepia-catalog-2026-01"
  payloadSha256 := sampleSha256
  payload := samplePayload
  nextRevisionGuard := ⟨1, some samplePayload.issuedAt⟩

theorem sampleSha256_isLowerHex : isLowerHexSha256 sampleSha256 = true := by
  decide

/-- The crate reads the address of every source. -/
theorem sources_sampleEngine (hsha256 : source.contentSha256 = sampleSha256)
    (hmoment : source.verifiedAt ≤ moment + clockSkew) :
    validateSourcesAt sampleEngine.validators [source] moment = .ok () := by
  have hval : source.isValid sampleEngine.validators = true := by
    rw [CatalogSource.isValid, hsha256, sampleSha256_isLowerHex, Bool.and_true]
    by_cases hurl : source.url.val = sampleSource.url.val
    · rw [hurl]
      decide
    · rw [show sampleEngine.validators.url.parse source.url.val = _ from if_neg hurl]
      rfl
  refine bind_ok.mpr ⟨(), guarded (by simp [maxSources]) ?_, ?_⟩
  · exact require_ok.mpr ⟨by simp [hval], nodup_singleton _⟩
  · exact require_ok.mpr (by simpa using hmoment)

theorem le_add_clockSkew (moment : Int) : moment ≤ moment + clockSkew := by
  have hskew : (0 : Int) ≤ clockSkew := by decide
  omega

theorem bundledLayer_sampleEngine :
    validateLayer sampleEngine.validators (bundledLayer sampleEngine) = .ok () := by
  have hsound : ∀ template ∈ sampleTemplates, template.isSound ∧ template.source = .builtIn := by
    decide
  have hnames : ∀ template ∈ sampleTemplates,
      isCatalogIdentifier ("builtin:" ++ template.id ++ ":family-default") maxModelEntryIdBytes ∧
        isCatalogIdentifier template.id maxModelEntryIdBytes ∧ template.manifestVersion ≠ 0 := by
    decide
  refine guarded (by decide) (bind_ok.mpr ⟨(), ?_, ?_⟩)
  · refine forEachUnique_ok.mpr ⟨by decide, fun _ _ => not_mem_nil, ?_⟩
    refine forall_mem_map.mpr fun _ hpair => ?_
    obtain ⟨template, htmpl, rfl⟩ := mem_map.mp hpair
    obtain ⟨hisSound, hsrc⟩ := hsound template htmpl
    refine guarded ⟨hisSound, hsrc, le_add_clockSkew _, ?_, rfl⟩ ?_
    · intro expiry hexpiry
      cases hexpiry
    · refine guarded rfl (guarded rfl ?_)
      exact sources_sampleEngine rfl (le_add_clockSkew _)
  · refine forEachUnique_ok.mpr ⟨by decide, fun _ _ => not_mem_nil, ?_⟩
    refine forall_mem_map.mpr fun _ hpair => ?_
    obtain ⟨template, htmpl, rfl⟩ := mem_map.mp hpair
    obtain ⟨hid, htmplId, hvers⟩ := hnames template htmpl
    refine guarded ⟨hid, htmplId, hvers, le_add_clockSkew _, ?_, rfl⟩ ?_
    · intro expiry hexpiry
      cases hexpiry
    · refine guarded rfl (then_ok rfl ?_)
      refine guarded rfl ?_
      exact sources_sampleEngine rfl (le_add_clockSkew _)

theorem sampleEngine_layers : validateLayers sampleEngine.validators
    (layersOf sampleEngine [sampleVerified]) = .ok () := by
  refine (validateLayers_ok _).mpr ⟨by decide, ?_⟩
  intro layer hlayer
  rcases mem_cons.mp hlayer with rfl | hsigned
  · exact bundledLayer_sampleEngine
  · obtain rfl := mem_singleton.mp hsigned
    decide

theorem sampleEngine_bundled : bundledCatalogBaseline sampleEngine = .ok (bundledLayer sampleEngine) := by
  have hlayer : validateLayer sampleEngine.validators (bundledLayer sampleEngine) = .ok () :=
    ((validateLayers_ok _).mp sampleEngine_layers).2 _ mem_cons_self
  have hval : validateLayers sampleEngine.validators [bundledLayer sampleEngine] = .ok () :=
    (validateLayers_ok _).mpr ⟨nodup_singleton _, by simpa using hlayer⟩
  exact guarded rfl (then_ok hval rfl)

/-- Layers in order whose entries have distinct identifiers are coherent, if no parameters are
    rejected. -/
theorem coherent_of_distinct
    (hord : orderedLayers layers = layers)
    (hmans : layers.flatMap (CatalogLayer.liveManifests now) = manifests)
    (hmods : layers.flatMap (CatalogLayer.liveModels now) = models)
    (hparams : ∀ apiFamily parameters, V.modelParameters apiFamily parameters = true)
    (hmanIds : (manifests.map fun entry => entry.template.id).Nodup)
    (hmodIds : (models.map CatalogModelEntry.id).Nodup)
    (htmpls : ∀ model ∈ models,
      model.providerTemplateId ∈ manifests.map fun entry => entry.template.id)
    (hlengths : manifests.length ≤ maxCatalogManifests ∧ models.length ≤ maxCatalogModels)
    (hver : (∀ entry ∈ manifests, entry.verifiedAt ≤ capturedAt) ∧
      ∀ entry ∈ models, entry.verifiedAt ≤ capturedAt) :
    Coherent V now capturedAt layers := by
  subst hmans hmods
  have hentries : ∀ {ε : Type} (live : CatalogLayer → List ε),
      (contributions layers live).map Prod.snd = layers.flatMap live := by
    intro ε live
    rw [contributions, hord, map_flatMap]
    simp
  have hmem : ∀ {ε : Type} {live : CatalogLayer → List ε},
      ∀ contribution ∈ contributions layers live, contribution.2 ∈ layers.flatMap live :=
    fun contribution h => hentries _ ▸ mem_map_of_mem h
  have hkeys : ∀ {ε κ : Type} (live : CatalogLayer → List ε) (key : ε → κ),
      ((contributions layers live).map fun contribution => key contribution.2) =
        (layers.flatMap live).map key := by
    intro ε κ live key
    rw [← hentries, map_map]
    rfl
  have hids := hkeys (CatalogLayer.liveManifests now) fun entry => entry.template.id
  have hids' := hkeys (CatalogLayer.liveModels now) CatalogModelEntry.id
  have hskew := le_add_clockSkew capturedAt
  refine
    { agree := ⟨?_, ?_⟩
      templates := ?_
      parameters := fun model _ => hparams _ _
      limits := ⟨?_, ?_⟩
      verified := ⟨fun layer entry h => ?_, fun layer entry h => ?_⟩ }
  · rw [← hids] at hmanIds
    exact (pairwise_map.mp hmanIds).imp fun hne heq => absurd heq hne
  · rw [← hids'] at hmodIds
    exact (pairwise_map.mp hmodIds).imp fun hne heq => absurd heq hne
  · intro model hmod
    have hid := htmpls _ (hmem model hmod)
    rw [← hids] at hid
    exact mem_map.mp hid
  · rw [hids]
    refine (dedup_sublist _).length_le.trans ?_
    rw [length_map]
    exact hlengths.1
  · rw [hids']
    refine (dedup_sublist _).length_le.trans ?_
    rw [length_map]
    exact hlengths.2
  · have hle := hver.1 entry (hmem _ h.mem)
    omega
  · have hle := hver.2 entry (hmem _ h.mem)
    omega

theorem orderedLayers_sampleEngine : orderedLayers (layersOf sampleEngine [sampleVerified]) =
    layersOf sampleEngine [sampleVerified] := by
  rw [orderedLayers]
  refine mergeSort_of_pairwise ?_
  decide

theorem sampleEngine_baseline :
    ∃ snapshot, bundledBaselineSnapshot sampleEngine = .ok snapshot := by
  obtain ⟨_, _, hval, _⟩ := guard_step sampleEngine_bundled
  have hcoh : Coherent sampleEngine.validators bundledCatalogVerifiedAt
      bundledCatalogVerifiedAt (layersOf sampleEngine []) :=
    coherent_of_distinct (mergeSort_singleton _) rfl rfl (fun _ _ => rfl) (by decide)
      (by decide) (by decide) (by decide) (by decide)
  obtain ⟨merged, hmerge, snapshot, hsnap⟩ :=
    (snapshot_isOk_iff_coherent hval Nat.one_ne_zero).mpr hcoh
  exact ⟨snapshot, then_ok (then_ok sampleEngine_bundled hmerge) hsnap⟩

/-- While the manifest counts, the signed entries are coherent with the baseline. -/
theorem sampleEngine_coherent : Coherent sampleEngine.validators (bundledCatalogVerifiedAt + 5)
    (bundledCatalogVerifiedAt + 5) (layersOf sampleEngine [sampleVerified]) :=
  coherent_of_distinct orderedLayers_sampleEngine rfl rfl (fun _ _ => rfl) (by decide)
    (by decide) (by decide) (by decide) (by decide)

/-- The import is prepared and activated while the manifest counts. -/
def sampleImport : CatalogImport where
  envelope := [123, 125]
  preparedAt := bundledCatalogVerifiedAt + 5
  templatesThen := []
  activatedAt := bundledCatalogVerifiedAt + 5
  templatesNow := []

/-- Templates with distinct names do not reuse a version. -/
theorem registerTemplates_isOk (hnodup : (templates.map ProviderTemplate.id).Nodup)
    (hnew : ∀ template ∈ templates, ∀ previous ∈ existing, previous.id ≠ template.id) :
    ∃ registered, registerTemplates existing message templates = .ok registered := by
  induction templates generalizing existing with
  | nil => exact ⟨existing, rfl⟩
  | cons template templates ih =>
    rw [map_cons, nodup_cons] at hnodup
    rw [forall_mem_cons] at hnew
    have hrest : ∀ later ∈ templates, ∀ previous ∈ template :: existing, previous.id ≠ later.id := by
      intro later hlater previous hprev
      rcases mem_cons.mp hprev with rfl | hold
      · intro heq
        exact hnodup.1 (heq ▸ mem_map_of_mem hlater)
      · exact hnew.2 later hlater previous hold
    obtain ⟨registered, hreg⟩ := ih hnodup.2 hrest
    refine ⟨registered, guarded ?_ hreg⟩
    rw [all_eq_true]
    intro previous hprev
    simp [hnew.1 previous hprev]

theorem sampleEngine_candidate : ∃ candidate,
    buildCatalogImportCandidate sampleEngine .empty [] [123, 125] (bundledCatalogVerifiedAt + 5)
      (bundledCatalogVerifiedAt + 5) = .ok candidate ∧ candidate.verified = sampleVerified := by
  obtain ⟨active, hactv⟩ := loadActiveCatalog_isOk sound_empty sampleEngine_baseline
  obtain ⟨_, ⟨_, _, _, hchain⟩ | ⟨hmem, _⟩⟩ := loadActiveCatalog_ok sound_empty hactv
  · obtain ⟨merged, hmerged, snapshot, hsnap⟩ :=
      (snapshot_isOk_iff_coherent sampleEngine_layers (Nat.succ_ne_zero 1)).mpr sampleEngine_coherent
    have hmerge : mergeWithBundledCatalog sampleEngine [sampleVerified]
        (bundledCatalogVerifiedAt + 5) = .ok merged :=
      then_ok sampleEngine_bundled hmerged
    have hver : verifyManualCatalogImport sampleEngine [123, 125] CatalogState.empty.guard
        (bundledCatalogVerifiedAt + 5) = .ok sampleVerified := by
      decide
    have hselect : selectVerifiedUpdates [] active.signedRevisionChain = .ok [] := by
      rw [hchain]
      rfl
    have hids := (fromMerged_ok hsnap).2.2.2
    obtain ⟨_, _, hids, _⟩ := guard_step hids
    obtain ⟨registered, hreg⟩ : ∃ registered, registerTemplates []
        ("signed catalog reuses an immutable provider template version with different content")
        (snapshot.manifests.map CatalogManifestEntry.template) = .ok registered := by
      refine registerTemplates_isOk ?_ fun _ _ _ hmem => absurd hmem not_mem_nil
      rw [map_map]
      exact (forEachUnique_ok.mp hids).1
    refine ⟨⟨sampleVerified, active, snapshot⟩, ?_, rfl⟩
    refine then_ok (loadVerifiedUpdates_eq sound_empty) (then_ok (mapError_ok.mpr hver)
      (then_ok hactv (then_ok hselect (then_ok rfl (bind_ok.mpr ⟨(merged, snapshot), ?_, ?_⟩)))))
    · exact then_ok (mapError_ok.mpr hmerge) (then_ok (mapError_ok.mpr hsnap) rfl)
    · refine bind_ok.mpr ⟨(), ?_, rfl⟩
      exact then_ok rfl (then_ok hreg rfl)
  · cases hmem

/-- The import is accepted, and its layer is active above the baseline. -/
theorem sampleEngine_reached : ∃ state, Reached sampleEngine [.import sampleImport] state ∧
    state.activeLayers sampleEngine = layersOf sampleEngine [sampleVerified] := by
  obtain ⟨candidate, hcandidate, hver⟩ := sampleEngine_candidate
  have hperf : activateImport sampleEngine .empty sampleImport =
      .ok (CatalogState.empty.withImport candidate [123, 125] (bundledCatalogVerifiedAt + 5)) := by
    refine then_ok hcandidate (guarded ?_ (guarded (le_refl _) (then_ok hcandidate
      (guarded ⟨rfl, rfl⟩ rfl))))
    rw [hver]
    decide
  refine ⟨_, .step (.import sampleImport) .empty hperf, ?_⟩
  have hsound := (Reached.step (.import sampleImport) .empty hperf).sound
  have hactv := (buildCatalogImportCandidate_ok sound_empty hcandidate).active
  obtain ⟨_, ⟨_, _, _, hchain⟩ | ⟨hmem, _⟩⟩ := loadActiveCatalog_ok sound_empty hactv
  · have hkept : candidate.kept ∈ (CatalogState.empty.withImport candidate [123, 125]
        (bundledCatalogVerifiedAt + 5)).snapshots :=
      mem_concat_self
    obtain ⟨hlayers, _⟩ := activeLayers_of_mem hsound hkept rfl
    rw [hlayers, accepted_withImport, CatalogImportCandidate.kept, hchain, hver]
    rfl
  · cases hmem

theorem sampleEngine_steady : SteadyClock [.import sampleImport] := by
  refine ⟨?_, ?_, ?_, trivial⟩
  · show bundledCatalogVerifiedAt ≤ bundledCatalogVerifiedAt + 5
    omega
  · show bundledCatalogVerifiedAt ≤ bundledCatalogVerifiedAt + 5
    omega
  · intro before hbef
    cases hbef

/-- After the sample import the view depends, at any later time, on the two conditions. -/
theorem operational_available_iff_sample : ∃ state, Reached sampleEngine [.import sampleImport] state ∧
    ((∃ projection, operationalProviderCatalogProjectionAt sampleEngine
        (bundledCatalogVerifiedAt + 9) state = .ok projection) ↔
      TemplatesPresent (bundledCatalogVerifiedAt + 9) (state.activeLayers sampleEngine) ∧
        ParametersValid sampleEngine.validators (bundledCatalogVerifiedAt + 9)
          (state.activeLayers sampleEngine)) := by
  obtain ⟨state, hreached, _⟩ := sampleEngine_reached
  refine ⟨state, hreached, (operational_available_iff sampleEngine sampleEngine_baseline
    hreached).2 sampleEngine_steady (bundledCatalogVerifiedAt + 9) ?_⟩
  intro command hcommand
  cases hcommand
  show bundledCatalogVerifiedAt + 5 ≤ bundledCatalogVerifiedAt + 9
  omega

/-- Seven ticks after its activation, with every clock steady, the sample catalog is unavailable:
    its model is left without a manifest. -/
theorem outlivedManifest_unavailable :
    ¬ ∀ commands state, Reached sampleEngine commands state → SteadyClock commands →
      ∀ now, (∀ command ∈ commands.head?, command.activatedAt ≤ now) → ∃ projection,
          operationalProviderCatalogProjectionAt sampleEngine now state = .ok projection := by
  intro hall
  obtain ⟨state, hreached, hlayers⟩ := sampleEngine_reached
  have hprojection := hall _ _ hreached sampleEngine_steady (bundledCatalogVerifiedAt + 12) (by
    intro command hcommand
    cases hcommand
    show bundledCatalogVerifiedAt + 5 ≤ bundledCatalogVerifiedAt + 12
    omega)
  rw [operational_isOk_iff hreached.sound sampleEngine_baseline, hlayers] at hprojection
  have hsigned : sampleVerified.layer ∈ layersOf sampleEngine [sampleVerified] :=
    mem_cons_of_mem _ mem_cons_self
  have hmods : sampleVerified.layer.liveModels (bundledCatalogVerifiedAt + 12) =
      samplePayload.models := by
    decide
  have hmod : (sampleVerified.layer, { sampleModel ⟨.toolCalling, .boolean true⟩ none with
      id := "acme-large"
      providerTemplateId := "acme-v1" }) ∈ contributions (layersOf sampleEngine [sampleVerified])
        (CatalogLayer.liveModels (bundledCatalogVerifiedAt + 12)) := by
    refine mem_contributions.mpr ⟨hsigned, ?_⟩
    rw [hmods]
    exact mem_cons_self
  obtain ⟨manifest, hman, hid⟩ := hprojection.templates _ hmod
  obtain ⟨hlayer, hlive⟩ := mem_contributions.mp hman
  rcases mem_cons.mp hlayer with hbundled | hlayer
  · have hnames : ∀ entry ∈ (bundledLayer sampleEngine).manifests, entry.template.id ≠ "acme-v1" := by
      decide
    rw [hbundled] at hlive
    exact hnames _ ((liveManifests_sublist _).subset hlive) hid
  · have hnone : sampleVerified.layer.liveManifests (bundledCatalogVerifiedAt + 12) = [] := by
      decide
    rw [mem_singleton.mp hlayer, hnone] at hlive
    cases hlive

end LorePia.Catalog
