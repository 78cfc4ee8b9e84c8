import LorePia.Catalog.History

namespace LorePia.Catalog

open Lib List Option Table
open DiscoveryStore (SqliteError)

/-!
# The catalog history — what a call does

One lemma for each statement and helper of the two transactions, and from these the effect of a
call that succeeds (`Imports`, `RollsBack`).  The proofs about runs use the effects only.
-/

variable {commit : CatalogImportCommit} {state : StoredCatalogState} {current : StoredCatalogState}
  {localRevision stateVersion : Nat} {snapshot : NewCatalogSnapshot} {update : SignedUpdateRow}

variable {X : CatalogExternals} {store store' : HistoryStore}

/-! ### Statements -/

@[simp] theorem execute_ok {α : Type} {statement : Except SqliteError α} {a : α} :
    execute statement = .ok a ↔ statement = .ok a :=
  mapError_ok

theorem toI64_ok {value n : Nat} (h : toI64 value reason = .ok n) :
    n = value := by
  obtain ⟨_, h⟩ := guard_ok.mp h
  exact (pure_inj h).symm

theorem insertEnvelopeRow_ok {row : SignedUpdateRow}
    (h : store.insertEnvelopeRow X row = .ok store') :
    ∃ envelopes, envelopes.rows = store.envelopes.rows ++ [row] ∧
      store' = { store with envelopes } := by
  obtain ⟨_, _, h⟩ := rest₂ h
  obtain ⟨envelopes, hinsert, _, h⟩ := step_guard h
  rw [okOr_ok, insert?_eq_some] at hinsert
  exact ⟨envelopes, hinsert.2, (pure_inj h).symm⟩

theorem insertSnapshotRow_ok {row : SnapshotRow} (h : store.insertSnapshotRow X row = .ok store') :
    ∃ snapshots, snapshots.rows = store.snapshots.rows ++ [row] ∧
      store' = { store with snapshots } := by
  obtain ⟨_, snapshots, hinsert, h⟩ := guard_step h
  obtain ⟨_, h⟩ := guard_ok.mp h
  rw [okOr_ok, insert?_eq_some] at hinsert
  refine ⟨snapshots, hinsert.2, ?_⟩
  split at h
  · exact (pure_inj h).symm
  · obtain ⟨_, h⟩ := guard_ok.mp h
    exact (pure_inj h).symm

theorem insertLinkRow_ok {row : ChainLinkRow} (h : store.insertLinkRow row = .ok store') :
    ∃ links, links.rows = store.links.rows ++ [row] ∧ store' = { store with links } := by
  obtain ⟨_, _, _, h⟩ := rest₃ h
  obtain ⟨_, _, h⟩ := rest₂ h
  obtain ⟨links, hinsert, h⟩ := bind_ok.mp h
  obtain ⟨_, _, _, h⟩ := rest₃ h
  rw [okOr_ok, insert?_eq_some] at hinsert
  exact ⟨links, hinsert.2, (pure_inj h).symm⟩

theorem updateStateAndGuard_ok {row : StateRow}
    (h : store.updateStateAndGuard X row = .ok store') : store' = { store with state := row } := by
  obtain ⟨_, _, _, h⟩ := rest₃ h
  obtain ⟨_, _, _, h⟩ := rest₃ h
  exact (pure_inj h).symm

theorem updateState_ok {row : StateRow} (h : store.updateState X row = .ok store') :
    store' = { store with state := row } := by
  obtain ⟨_, _, h⟩ := rest₂ h
  exact (pure_inj h).symm

theorem insertActivationRow_ok {row : ActivationRow}
    (h : store.insertActivationRow X row = .ok store') :
    ∃ activations, activations.rows = store.activations.rows ++ [row] ∧
      store' = { store with activations } := by
  obtain ⟨_, activations, hinsert, h⟩ := guard_step h
  obtain ⟨_, _, _, h⟩ := rest₃ h
  rw [okOr_ok, insert?_eq_some] at hinsert
  exact ⟨activations, hinsert.2, (pure_inj h).symm⟩

/-! ### Loading -/

theorem loadCatalogState_ok
    (h : loadCatalogState store = .ok state) : state.stateVersion = store.state.stateVersion ∧
      state.active = store.state.active ∧ state.guard = store.state.guard ∧
      state.snapshotCount = store.snapshots.rows.length := by
  obtain ⟨_, _, h⟩ := rest₂ h
  cases pure_inj h
  exact ⟨rfl, rfl, rfl, rfl⟩

theorem storedUpdate_ok {row : SignedUpdateRow}
    (h : storedUpdate X row = .ok update) : update = row := by
  obtain ⟨_, _, _, h⟩ := rest₃ h
  exact (pure_inj h).symm

theorem loadCatalogUpdateByRevision_ok {revision : Nat}
    (h : loadCatalogUpdateByRevision X store revision = .ok (some update)) :
    update ∈ store.envelopes.rows ∧ update.catalogRevision = revision := by
  obtain ⟨_, hrev, h⟩ := bind_ok.mp h
  cases toI64_ok hrev
  split at h
  case h_1 => cases pure_inj h
  case h_2 row hfind =>
    obtain ⟨_, hstored, h⟩ := bind_ok.mp h
    cases pure_inj h
    cases storedUpdate_ok hstored
    exact ⟨mem_of_find?_eq_some hfind, by simpa using find?_some hfind⟩

theorem storedSnapshot_ok {row snapshot : SnapshotRow}
    (h : storedSnapshot X store row = .ok snapshot) : snapshot = row := by
  obtain ⟨_, _, _, h⟩ := rest₃ h
  obtain ⟨_, _, _, h⟩ := rest₃ h
  exact (pure_inj h).symm

theorem loadCatalogSnapshot_ok {snapshot : SnapshotRow}
    (h : loadCatalogSnapshot X store localRevision = .ok (some snapshot)) :
    store.snapshots.find? localRevision = some snapshot := by
  obtain ⟨_, hrev, h⟩ := bind_ok.mp h
  cases toI64_ok hrev
  split at h
  case h_1 => cases pure_inj h
  case h_2 row hfind =>
    obtain ⟨_, hstored, h⟩ := bind_ok.mp h
    cases pure_inj h
    cases storedSnapshot_ok hstored
    exact hfind

theorem requireExpectedState_ok {expected : CatalogStateExpectation}
    (h : requireExpectedState current expected = .ok u) :
    current.stateVersion = expected.stateVersion ∧ current.active = expected.active ∧
      current.guard = expected.guard :=
  require_ok.mp h

/-! ### Imports -/

/-- The row of a new snapshot. -/
def NewCatalogSnapshot.row (snapshot : NewCatalogSnapshot) (source : CatalogSnapshotSource) :
    SnapshotRow where
  localRevision := snapshot.localRevision
  snapshotSchemaVersion := snapshot.snapshotSchemaVersion
  snapshotJson := snapshot.snapshotJson
  snapshotSha256 := snapshot.snapshotSha256
  bundledRevision := snapshot.bundledRevision
  bundledSha256 := snapshot.bundledSha256
  signedRevisionChain := snapshot.signedRevisionChain
  source := source
  capturedAt := snapshot.capturedAt

/-- The signed revisions of the active snapshot. -/
def HistoryStore.chainOf (store : HistoryStore) (active : Option StoredCatalogActiveSnapshot) :
    List Nat :=
  ((active.bind fun active => store.snapshots.find? active.localRevision).map
    SnapshotRow.signedRevisionChain).getD []

theorem insertSignedUpdate_ok {update : NewSignedCatalogUpdate}
    (h : insertSignedUpdate X update store = .ok store') :
    ∃ envelopes, envelopes.rows = store.envelopes.rows ++ [update] ∧
      store' = { store with envelopes } := by
  obtain ⟨_, _, h⟩ := bind_ok.mp h
  exact insertEnvelopeRow_ok (execute_ok.mp h)

theorem insertSnapshot_ok {source : CatalogSnapshotSource}
    (h : insertSnapshot X snapshot source store = .ok store') :
    ∃ snapshots, snapshots.rows = store.snapshots.rows ++ [snapshot.row source] ∧
      store' = { store with snapshots } := by
  cases source with
  | bundledBaseline =>
    obtain ⟨_, _, h⟩ := rest₂ h
    exact insertSnapshotRow_ok (execute_ok.mp h)
  | signedImport envelopeId catalogRevision =>
    obtain ⟨_, _, _, h⟩ := rest₃ h
    exact insertSnapshotRow_ok (execute_ok.mp h)

/-- Every link of an inserted chain refers to an envelope. -/
theorem insertSnapshotChain_ok {ordinal : Nat} {revisions : List Nat}
    (h : insertSnapshotChain X localRevision ordinal revisions store = .ok store') :
    ∃ links, store.links.rows <+: links.rows ∧ store' = { store with links } ∧
      ∀ revision ∈ revisions, ∃ update ∈ store.envelopes.rows,
        update.catalogRevision = revision := by
  induction revisions generalizing localRevision ordinal store with
  | nil =>
    obtain rfl := Except.ok.inj h
    exact ⟨_, prefix_rfl, rfl, fun _ hmem => by cases hmem⟩
  | cons revision revisions ih =>
    obtain ⟨loaded, hloaded, update, hupdate, h⟩ := steps₂ h
    obtain ⟨_, _, _, h⟩ := rest₃ h
    obtain ⟨_, hlink, h⟩ := bind_ok.mp h
    obtain ⟨links₁, hrows, rfl⟩ := insertLinkRow_ok (execute_ok.mp hlink)
    obtain ⟨links, hlinks, rfl, hrest⟩ := ih h
    rw [okOr_ok.mp hupdate] at hloaded
    refine ⟨links, ?_, rfl, ?_⟩
    · have hfirst : store.links.rows <+: links₁.rows := hrows ▸ prefix_append _ _
      exact hfirst.trans hlinks
    · rw [forall_mem_cons]
      exact ⟨⟨update, loadCatalogUpdateByRevision_ok hloaded⟩, hrest⟩

/-- What an import starts from. -/
structure Based (store : HistoryStore) (commit : CatalogImportCommit)
    (base : Option ImportBase) : Prop where
  chain : (base.map ImportBase.signedRevisionChain).getD [] = store.chainOf store.state.active
  active : ∀ active ∈ store.state.active, base.map ImportBase.active = some active
  fresh : store.state.active = none → store.snapshots.rows = []
  source : store.state.active = none → base.map ImportBase.active =
    commit.initialBaseline.map fun baseline => ⟨baseline.localRevision, baseline.snapshotSha256⟩
  baseline : ∀ baseline ∈ commit.initialBaseline, store.state.active = none ∧
    baseline.signedRevisionChain = []

theorem validateSnapshot_ok (h : validateSnapshot X snapshot baseline = .ok u) :
    isRevisionChain snapshot.signedRevisionChain = true ∧
      (baseline = true → snapshot.signedRevisionChain = []) := by
  obtain ⟨_, _, h⟩ := rest₂ h
  obtain ⟨_, _, h⟩ := rest₂ h
  obtain ⟨_, hchain, hbaseline, h⟩ := step_guard h
  refine ⟨require_ok.mp hchain, fun htrue => ?_⟩
  by_contra hne
  exact hbaseline ⟨htrue, .inl hne⟩

theorem prepareImportBase_ok (hactv : current.active = store.state.active)
    (hcount : current.snapshotCount = store.snapshots.rows.length)
    (h : prepareImportBase X store current commit.initialBaseline (maximumLocalRevision store) =
      .ok base) : Based store commit base := by
  unfold prepareImportBase at h
  rw [hactv] at h
  split at h
  case h_1 => cases h
  case h_2 active hstored hnone =>
    obtain ⟨loaded, hloaded, snapshot, hsnap, h⟩ := steps₂ h
    obtain ⟨_, h⟩ := guard_ok.mp h
    cases pure_inj h
    rw [okOr_ok.mp hsnap] at hloaded
    refine ⟨?_, fun other hoth => ?_, fun hcontra => ?_, fun hcontra => ?_, fun _ hbaseline => ?_⟩
    · rw [hstored, HistoryStore.chainOf, bind_some, loadCatalogSnapshot_ok hloaded]
      rfl
    · rw [hstored, mem_some_iff] at hoth
      rw [← hoth]
      rfl
    · rw [hstored] at hcontra
      cases hcontra
    · rw [hstored] at hcontra
      cases hcontra
    · rw [hnone] at hbaseline
      cases hbaseline
  case h_3 baseline hstored hsome =>
    obtain ⟨hempty, _, hval, h⟩ := guard_step h
    cases pure_inj h
    refine ⟨?_, fun other hoth => ?_, fun _ => ?_, fun _ => ?_, fun other hoth => ?_⟩
    · rw [hstored]
      rfl
    · rw [hstored] at hoth
      cases hoth
    · exact eq_nil_of_length_eq_zero (hcount.symm.trans hempty.1)
    · rw [hsome]
      rfl
    · rw [hsome, mem_some_iff] at hoth
      rw [← hoth]
      exact ⟨hstored, (validateSnapshot_ok hval).2 rfl⟩
  case h_4 hstored hnone =>
    obtain ⟨hempty, h⟩ := guard_ok.mp h
    cases pure_inj h
    refine ⟨?_, fun other hoth => ?_, fun _ => ?_, fun _ => ?_, fun _ hbaseline => ?_⟩
    · rw [hstored]
      rfl
    · rw [hstored] at hoth
      cases hoth
    · exact eq_nil_of_length_eq_zero (hcount.symm.trans hempty.1)
    · rw [hnone]
      rfl
    · rw [hnone] at hbaseline
      cases hbaseline

/-- The rows of the snapshots an import adds. -/
def CatalogImportCommit.snapshotRows (commit : CatalogImportCommit) : List SnapshotRow :=
  (commit.initialBaseline.toList.map fun baseline => baseline.row .bundledBaseline) ++
    [commit.snapshot.row (.signedImport commit.update.id commit.update.catalogRevision)]

/-- What the audit records of an import. -/
structure RecordsImport (commit : CatalogImportCommit) (row : ActivationRow) : Prop where
  stateVersion : row.stateVersion = commit.expected.stateVersion + 1
  kind : row.kind = .import
  toSnapshot : row.toSnapshot = ⟨commit.snapshot.localRevision, commit.snapshot.snapshotSha256⟩
  envelope : row.sourceEnvelopeId = some commit.update.id
  revision : row.signedCatalogRevision = some commit.update.catalogRevision

/-- The effect of an import. -/
structure Imports (commit : CatalogImportCommit) (store store' : HistoryStore) : Prop where
  expected : store.state.stateVersion = commit.expected.stateVersion ∧
    store.state.active = commit.expected.active ∧ store.state.guard = commit.expected.guard
  advances : commit.expected.guard.highestAcceptedRevision < commit.update.catalogRevision ∧
    commit.nextGuard = ⟨commit.update.catalogRevision, some commit.update.issuedAt⟩ ∧
    ∀ previous ∈ commit.expected.guard.latestIssuedAt, previous ≤ commit.update.issuedAt
  newest : (commit.initialBaseline.map NewCatalogSnapshot.localRevision).getD
    (maximumLocalRevision store) < commit.snapshot.localRevision
  chain : commit.snapshot.signedRevisionChain =
    store.chainOf store.state.active ++ [commit.update.catalogRevision]
  chainValid : isRevisionChain commit.snapshot.signedRevisionChain = true
  chainStored : ∀ revision ∈ commit.snapshot.signedRevisionChain,
    ∃ update ∈ store'.envelopes.rows, update.catalogRevision = revision
  fresh : store.state.active = none → store.snapshots.rows = []
  baseline : ∀ baseline ∈ commit.initialBaseline, store.state.active = none ∧
    baseline.signedRevisionChain = []
  envelopes : store'.envelopes.rows = store.envelopes.rows ++ [commit.update]
  snapshots : store'.snapshots.rows = store.snapshots.rows ++ commit.snapshotRows
  links : store.links.rows <+: store'.links.rows
  state : store'.state.stateVersion = commit.expected.stateVersion + 1 ∧
    store'.state.active = some ⟨commit.snapshot.localRevision, commit.snapshot.snapshotSha256⟩ ∧
    store'.state.guard = commit.nextGuard
  activation : ∃ row, store'.activations.rows = store.activations.rows ++ [row] ∧
    RecordsImport commit row ∧
    (∀ active ∈ store.state.active, row.fromSnapshot = some active) ∧
    (store.state.active = none → row.fromSnapshot =
      commit.initialBaseline.map fun baseline => ⟨baseline.localRevision, baseline.snapshotSha256⟩)

theorem updateStateForImport_ok (h : updateStateForImport X commit nextVersion store = .ok store') :
    store' = { store with state :=
      { stateVersion := nextVersion
        active := some ⟨commit.snapshot.localRevision, commit.snapshot.snapshotSha256⟩
        guard := commit.nextGuard
        updatedAt := commit.activatedAt } } := by
  obtain ⟨_, _, _, h⟩ := rest₃ h
  obtain ⟨_, _, _, h⟩ := rest₃ h
  exact updateStateAndGuard_ok (execute_ok.mp h)

theorem insertImportAudit_ok {fromSnapshot : Option StoredCatalogActiveSnapshot}
    (h : insertImportAudit X commit stateVersion fromSnapshot store = .ok store') :
    ∃ activations row, activations.rows = store.activations.rows ++ [row] ∧
      store' = { store with activations } ∧ row.stateVersion = stateVersion ∧
      row.fromSnapshot = fromSnapshot ∧ row.kind = .import ∧
      row.toSnapshot = ⟨commit.snapshot.localRevision, commit.snapshot.snapshotSha256⟩ ∧
      row.sourceEnvelopeId = some commit.update.id ∧
      row.signedCatalogRevision = some commit.update.catalogRevision := by
  obtain ⟨_, _, h⟩ := rest₂ h
  obtain ⟨_, _, h⟩ := rest₂ h
  obtain ⟨activations, hrows, rfl⟩ := insertActivationRow_ok (execute_ok.mp h)
  exact ⟨activations, _, hrows, rfl, rfl, rfl, rfl, rfl, rfl, rfl⟩

/-- The baseline of an import, if it brings one, becomes a snapshot. -/
theorem insertBaseline_ok (h : insertBaseline X baseline store = .ok store') :
    ∃ snapshots, snapshots.rows = store.snapshots.rows ++
        (baseline.toList.map fun baseline => baseline.row .bundledBaseline) ∧
      store' = { store with snapshots } := by
  cases baseline with
  | none =>
    obtain rfl := Except.ok.inj h
    exact ⟨_, (append_nil _).symm, rfl⟩
  | some baseline =>
    have hinsert : insertSnapshot X baseline .bundledBaseline store = .ok store' := h
    obtain ⟨snapshots, hrows, hstore⟩ := insertSnapshot_ok hinsert
    exact ⟨snapshots, hrows, hstore⟩

/-- **Import.** -/
theorem commitCatalogImport_ok (h : commitCatalogImport X commit store = .ok (state, store')) :
    Imports commit store store' := by
  obtain ⟨_, _, h⟩ := rest₂ h
  obtain ⟨_, hsnap, _, hguard, current, hcur, h⟩ := steps₃ h
  obtain ⟨_, hexp, base, hbase, _, hextends, h⟩ := steps₃ h
  obtain ⟨_, _, s₁, hupdate, s₂, hbaseline, h⟩ := steps₃ h
  obtain ⟨s₃, hrow, s₄, hchain, next, hnext, h⟩ := steps₃ h
  obtain ⟨s₅, hst, s₆, haudit, _, _, h⟩ := steps₃ h
  cases pure_inj h
  -- what was checked
  obtain ⟨hvers, hactv, hcurGuard, hcount⟩ := loadCatalogState_ok hcur
  obtain ⟨heVers, heActv, heGuard⟩ := requireExpectedState_ok hexp
  have hbased := prepareImportBase_ok hactv hcount hbase
  have hadvance := require_ok.mp hguard
  obtain ⟨hnewest, hextension, _⟩ := guards₂ hextends
  rw [okOr_ok, checkedAdd_eq_some] at hnext
  obtain ⟨-, rfl⟩ := hnext
  -- what was written
  obtain ⟨envelopes, henvelopes, rfl⟩ := insertSignedUpdate_ok hupdate
  obtain ⟨snapshots₁, hsnapshots₁, rfl⟩ := insertBaseline_ok hbaseline
  obtain ⟨snapshots₂, hsnapshots₂, rfl⟩ := insertSnapshot_ok hrow
  obtain ⟨links, hlinks, rfl, hstored⟩ := insertSnapshotChain_ok hchain
  cases updateStateForImport_ok hst
  obtain ⟨activations, row, hacts, rfl, hrowVers, hfrom, hkind, hto, henvelope,
    hrev⟩ := insertImportAudit_ok haudit
  refine {
    expected := ⟨hvers.symm.trans heVers, hactv.symm.trans heActv, hcurGuard.symm.trans heGuard⟩
    advances := ?_
    newest := hnewest
    chain := hbased.chain ▸ hextension
    chainValid := (validateSnapshot_ok hsnap).1
    chainStored := hstored
    fresh := hbased.fresh
    baseline := hbased.baseline
    envelopes := henvelopes
    snapshots := ?_
    links := hlinks
    state := ⟨rfl, rfl, rfl⟩
    activation := ⟨row, hacts, ⟨hrowVers, hkind, hto, henvelope, hrev⟩, ?_, ?_⟩ }
  · simp only [not_or, not_le, not_not] at hadvance
    obtain ⟨hrev, hnextRev, hissued, hlater⟩ := hadvance
    refine ⟨hrev, ?_, fun previous hprev => ?_⟩
    · rw [← hnextRev, ← hissued]
    · rw [hprev, any_some, decide_eq_true_eq] at hlater
      exact Int.not_lt.mp hlater
  · show snapshots₂.rows = _
    rw [hsnapshots₂, hsnapshots₁, append_assoc]
    rfl
  · intro active hmem
    rw [hfrom]
    exact hbased.active active hmem
  · intro hnone
    rw [hfrom]
    exact hbased.source hnone

/-! ### Rollbacks -/

/-- The effect of a rollback. -/
structure RollsBack (commit : CatalogRollbackCommit) (store store' : HistoryStore) : Prop where
  expected : store.state.stateVersion = commit.expected.stateVersion ∧
    store.state.active = commit.expected.active ∧ store.state.guard = commit.expected.guard
  target : ∃ row ∈ store.snapshots.rows, row.localRevision = commit.targetLocalRevision ∧
    row.snapshotSha256 = commit.targetSnapshotSha256
  envelopes : store'.envelopes = store.envelopes
  snapshots : store'.snapshots = store.snapshots
  links : store'.links = store.links
  state : store'.state.stateVersion = commit.expected.stateVersion + 1 ∧
    store'.state.active = some ⟨commit.targetLocalRevision, commit.targetSnapshotSha256⟩ ∧
    store'.state.guard = store.state.guard
  activation : ∃ row, store'.activations.rows = store.activations.rows ++ [row] ∧
    row.stateVersion = commit.expected.stateVersion + 1 ∧ row.kind = .rollback ∧
    (∃ active ∈ store.state.active, row.fromSnapshot = some active) ∧
    row.toSnapshot = ⟨commit.targetLocalRevision, commit.targetSnapshotSha256⟩

theorem updateStateForRollback_ok {commit : CatalogRollbackCommit}
    (h : updateStateForRollback X commit nextVersion store = .ok store') :
    store' = { store with state := { store.state with
      stateVersion := nextVersion
      active := some ⟨commit.targetLocalRevision, commit.targetSnapshotSha256⟩
      updatedAt := commit.activatedAt } } := by
  obtain ⟨_, _, _, h⟩ := rest₃ h
  obtain ⟨_, _, _, h⟩ := rest₃ h
  exact updateState_ok (execute_ok.mp h)

theorem insertRollbackAudit_ok {commit : CatalogRollbackCommit}
    {fromSnapshot : StoredCatalogActiveSnapshot} {target : SnapshotRow}
    (h : insertRollbackAudit X commit stateVersion fromSnapshot target store = .ok store') :
    ∃ activations row, activations.rows = store.activations.rows ++ [row] ∧
      store' = { store with activations } ∧ row.stateVersion = stateVersion ∧
      row.fromSnapshot = some fromSnapshot ∧ row.kind = .rollback ∧
      row.toSnapshot = ⟨target.localRevision, target.snapshotSha256⟩ := by
  obtain ⟨_, _, _, h⟩ := rest₃ h
  obtain ⟨activations, hrows, rfl⟩ := insertActivationRow_ok (execute_ok.mp h)
  exact ⟨activations, _, hrows, rfl, rfl, rfl, rfl, rfl⟩

/-- **Rollback.** -/
theorem activateCatalogRollback_ok {commit : CatalogRollbackCommit}
    (h : activateCatalogRollback X commit store = .ok (state, store')) :
    RollsBack commit store store' := by
  obtain ⟨_, _, h⟩ := rest₂ h
  obtain ⟨current, hcur, _, hexp, active, hfrom, h⟩ := steps₃ h
  obtain ⟨_, h⟩ := guard_ok.mp h
  obtain ⟨loaded, hloaded, target, htgt, h⟩ := steps₂ h
  obtain ⟨hsha, h⟩ := guard_ok.mp h
  obtain ⟨_, _, h⟩ := rest₂ h
  obtain ⟨next, hnext, s₁, hst, s₂, haudit, h⟩ := steps₃ h
  obtain ⟨_, _, h⟩ := rest₂ h
  cases pure_inj h
  obtain ⟨hvers, hactv, hcurGuard, -⟩ := loadCatalogState_ok hcur
  obtain ⟨heVers, heActv, heGuard⟩ := requireExpectedState_ok hexp
  rw [okOr_ok] at hfrom htgt
  rw [htgt] at hloaded
  obtain ⟨hmem, hrev⟩ := find?_eq_some.mp (loadCatalogSnapshot_ok hloaded)
  rw [okOr_ok, checkedAdd_eq_some] at hnext
  obtain ⟨-, rfl⟩ := hnext
  cases updateStateForRollback_ok hst
  obtain ⟨activations, row, hacts, rfl, hrowVers, hrowFrom, hkind, hto⟩ :=
    insertRollbackAudit_ok haudit
  exact {
    expected := ⟨hvers.symm.trans heVers, hactv.symm.trans heActv, hcurGuard.symm.trans heGuard⟩
    target := ⟨target, hmem, hrev, hsha⟩
    envelopes := rfl
    snapshots := rfl
    links := rfl
    state := ⟨rfl, rfl, rfl⟩
    activation := ⟨row, hacts, hrowVers, hkind, ⟨active, hactv ▸ hfrom, hrowFrom⟩,
      by rw [hto, hrev, hsha]⟩ }

end LorePia.Catalog
