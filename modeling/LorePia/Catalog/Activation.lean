import LorePia.Catalog.Effects
import Mathlib.Data.List.Chain
import Mathlib.Data.List.MinMax

namespace LorePia.Catalog

open Lib List

/-!
# The catalog history — the activation log

The audit numbers the activations from `1` and links each to the one before it, and the pointer
is the end of this log (`ActivationLog`).  An import extends the chain of signed revisions of the
snapshot it starts from, also after a rollback, while the revision guard only advances.

* `ActivationLog.importing`, `ActivationLog.rollingBack` — what one call preserves;
* `runCalls_log` — what every run preserves;
* `catalog_activation_log` — the log of a reachable store, and what a further call does to it.
-/

variable {commit : CatalogImportCommit}

variable {X : CatalogExternals} {store store' : HistoryStore}

/-- The row of a snapshot that a pointer names. -/
def SnapshotRow.Names (row : SnapshotRow) (active : StoredCatalogActiveSnapshot) : Prop :=
  row.localRevision = active.localRevision ∧ row.snapshotSha256 = active.snapshotSha256

def HistoryStore.Holds (store : HistoryStore) (active : StoredCatalogActiveSnapshot) : Prop :=
  ∃ row ∈ store.snapshots.rows, row.Names active

/-- The activations and what they activate. -/
structure ActivationLog (store : HistoryStore) : Prop where
  count : store.state.stateVersion = store.activations.rows.length
  versions : store.activations.rows.map ActivationRow.stateVersion =
    List.range' 1 store.activations.rows.length
  linked : store.activations.rows.IsChain fun older newer =>
    newer.fromSnapshot = some older.toSnapshot
  active : store.state.active = store.activations.rows.getLast?.map ActivationRow.toSnapshot
  recorded : ∀ activation ∈ store.activations.rows, store.Holds activation.toSnapshot ∧
    ∀ active ∈ activation.fromSnapshot, store.Holds active
  increasing : store.snapshots.rows.Pairwise fun older newer =>
    older.localRevision < newer.localRevision
  chains : ∀ row ∈ store.snapshots.rows, row.signedRevisionChain.IsChain (· < ·) ∧
    ∀ revision ∈ row.signedRevisionChain, ∃ update ∈ store.envelopes.rows,
      update.catalogRevision = revision
  imports : ∀ activation ∈ store.activations.rows, activation.kind = .import →
    ∃ row ∈ store.snapshots.rows, ∃ id revision, row.Names activation.toSnapshot ∧
      row.source = .signedImport id revision ∧ activation.sourceEnvelopeId = some id ∧
      activation.signedCatalogRevision = some revision ∧
      row.signedRevisionChain = store.chainOf activation.fromSnapshot ++ [revision]
  imported : ∀ row ∈ store.snapshots.rows, row.source ≠ .bundledBaseline →
    ∃ activation ∈ store.activations.rows, activation.kind = .import ∧
      row.Names activation.toSnapshot

/-- The chain of the snapshot that a pointer names. -/
theorem chainOf_eq {row : SnapshotRow} {active : StoredCatalogActiveSnapshot}
    (hrow : row ∈ store.snapshots.rows) (hnames : row.Names active) :
    store.chainOf (some active) = row.signedRevisionChain := by
  have hfind : store.snapshots.find? active.localRevision = some row :=
    Table.find?_eq_some.mpr ⟨hrow, hnames.1⟩
  rw [HistoryStore.chainOf, Option.bind_some, hfind]
  rfl

theorem HistoryStore.Holds.mono {active : StoredCatalogActiveSnapshot}
    (h : store.Holds active) (hrows : store.snapshots.rows ⊆ store'.snapshots.rows) :
    store'.Holds active := by
  obtain ⟨row, hrow, hnames⟩ := h
  exact ⟨row, hrows hrow, hnames⟩

/-- A chain that is stored stays the same. -/
theorem chainOf_mono {active : Option StoredCatalogActiveSnapshot}
    (h : ∀ snapshot ∈ active, store.Holds snapshot)
    (hrows : store.snapshots.rows ⊆ store'.snapshots.rows) :
    store'.chainOf active = store.chainOf active := by
  cases active with
  | none => rfl
  | some snapshot =>
    obtain ⟨row, hrow, hnames⟩ := h snapshot rfl
    rw [chainOf_eq hrow hnames, chainOf_eq (hrows hrow) hnames]

theorem le_maximumLocalRevision {row : SnapshotRow} (hrow : row ∈ store.snapshots.rows) :
    row.localRevision ≤ maximumLocalRevision store :=
  le_max_of_le' 0 (mem_map_of_mem hrow) le_rfl

theorem activationLog_empty : ActivationLog .empty where
  count := rfl
  versions := rfl
  linked := .nil
  active := rfl
  recorded _ hmem := by cases hmem
  increasing := .nil
  chains _ hmem := by cases hmem
  imports _ hmem := by cases hmem
  imported _ hmem := by cases hmem

/-- The pointer of a log is stored. -/
theorem ActivationLog.holds_active (h : ActivationLog store) :
    ∀ active ∈ store.state.active, store.Holds active := by
  intro active hactv
  rw [h.active, Option.mem_def, Option.map_eq_some_iff] at hactv
  obtain ⟨last, hlast, rfl⟩ := hactv
  exact (h.recorded last (mem_of_getLast? hlast)).1

/-! ### An activation at the end of the log -/

section Append

variable {row : ActivationRow}

theorem ActivationLog.versions_append (h : ActivationLog store)
    (hvers : row.stateVersion = store.state.stateVersion + 1) :
    (store.activations.rows ++ [row]).map ActivationRow.stateVersion =
      List.range' 1 (store.activations.rows ++ [row]).length := by
  rw [map_append, h.versions, length_append, length_singleton,
    range'_1_concat, map_singleton, hvers, h.count, Nat.add_comm]

theorem ActivationLog.linked_append (h : ActivationLog store)
    (hfrom : ∀ active ∈ store.state.active, row.fromSnapshot = some active) :
    (store.activations.rows ++ [row]).IsChain fun older newer =>
      newer.fromSnapshot = some older.toSnapshot := by
  rw [isChain_append]
  refine ⟨h.linked, isChain_singleton row, fun last hlast newer hnewer => ?_⟩
  rw [head?_cons, Option.mem_some_iff] at hnewer
  rw [← hnewer]
  refine hfrom _ ?_
  rw [h.active, Option.mem_def, hlast]
  rfl

end Append

/-! ### Steps -/

theorem mem_snapshotRows {row : SnapshotRow} :
    row ∈ commit.snapshotRows ↔ (∃ baseline ∈ commit.initialBaseline,
        row = baseline.row .bundledBaseline) ∨
      row = commit.snapshot.row (.signedImport commit.update.id commit.update.catalogRevision) := by
  rw [CatalogImportCommit.snapshotRows, mem_append, mem_singleton, mem_map]
  simp only [Option.mem_toList, Option.mem_def, eq_comm]

/-- What an import stores comes after everything that is stored. -/
theorem Imports.newer (h : Imports commit store store')
    {row : SnapshotRow} (hrow : row ∈ store.snapshots.rows) :
    commit.initialBaseline = none ∧ row.localRevision < commit.snapshot.localRevision := by
  have hnewest := h.newest
  cases hbase : commit.initialBaseline with
  | none =>
    rw [hbase] at hnewest
    exact ⟨rfl, (le_maximumLocalRevision hrow).trans_lt hnewest⟩
  | some baseline =>
    rw [h.fresh (h.baseline baseline hbase).1] at hrow
    cases hrow

theorem Imports.increasing (h : Imports commit store store')
    (hold : store.snapshots.rows.Pairwise fun older newer =>
      older.localRevision < newer.localRevision) :
    store'.snapshots.rows.Pairwise fun older newer =>
      older.localRevision < newer.localRevision := by
  rw [h.snapshots, pairwise_append]
  refine ⟨hold, ?_, fun older holder newer hnewer => ?_⟩
  · have hnewest := h.newest
    rw [CatalogImportCommit.snapshotRows]
    cases hbase : commit.initialBaseline with
    | none => exact pairwise_singleton _ _
    | some baseline =>
      rw [hbase] at hnewest
      refine pairwise_cons.mpr ⟨fun other hoth => ?_, pairwise_singleton _ _⟩
      rw [mem_singleton.mp hoth]
      exact hnewest
  · obtain ⟨hnone, hlt⟩ := h.newer holder
    rcases mem_snapshotRows.mp hnewer with ⟨baseline, hbase, -⟩ | rfl
    · rw [hnone] at hbase
      cases hbase
    · exact hlt

/-- The snapshot an import starts from: the active one, or the baseline it brings. -/
theorem Imports.holds_from (h : Imports commit store store')
    (hlog : ActivationLog store) {row : ActivationRow}
    (hactv : ∀ active ∈ store.state.active, row.fromSnapshot = some active)
    (hnone : store.state.active = none → row.fromSnapshot = commit.initialBaseline.map
      fun baseline => ⟨baseline.localRevision, baseline.snapshotSha256⟩) :
    (∀ active ∈ row.fromSnapshot, store'.Holds active) ∧
      store'.chainOf row.fromSnapshot = store.chainOf store.state.active := by
  have hrows : store.snapshots.rows ⊆ store'.snapshots.rows := by
    rw [h.snapshots]
    exact subset_append_left _ _
  cases hst : store.state.active with
  | some active =>
    rw [hactv active hst]
    have hholds := hlog.holds_active active hst
    constructor
    · intro other hoth
      rw [← Option.some.inj hoth]
      exact hholds.mono hrows
    · refine chainOf_mono (fun other hoth => ?_) hrows
      rw [← Option.some.inj hoth]
      exact hholds
  | none =>
    rw [hnone hst]
    cases hbase : commit.initialBaseline with
    | none => exact ⟨fun _ hmem => (by cases hmem), rfl⟩
    | some baseline =>
      have hmem : baseline.row .bundledBaseline ∈ store'.snapshots.rows := by
        rw [h.snapshots]
        exact mem_append_right _ (mem_snapshotRows.mpr (.inl ⟨baseline, hbase, rfl⟩))
      constructor
      · intro other hoth
        rw [← Option.some.inj hoth]
        exact ⟨_, hmem, rfl, rfl⟩
      · rw [Option.map_some, chainOf_eq hmem ⟨rfl, rfl⟩]
        exact (h.baseline baseline hbase).2

/-- **Import.** An import adds to the log. -/
theorem ActivationLog.importing (hlog : ActivationLog store)
    (h : Imports commit store store') : ActivationLog store' := by
  obtain ⟨row, hacts, hrecords, hactv, hnone⟩ := h.activation
  obtain ⟨hvers, hpointer, -⟩ := h.state
  obtain ⟨hholds, hchain⟩ := h.holds_from hlog hactv hnone
  have hsnapshots : store.snapshots.rows ⊆ store'.snapshots.rows := by
    rw [h.snapshots]
    exact subset_append_left _ _
  have henvelopes : store.envelopes.rows ⊆ store'.envelopes.rows := by
    rw [h.envelopes]
    exact subset_append_left _ _
  have hnew : commit.snapshot.row (.signedImport commit.update.id commit.update.catalogRevision) ∈
      store'.snapshots.rows := by
    rw [h.snapshots]
    exact mem_append_right _ (mem_snapshotRows.mpr (.inr rfl))
  have hnames : (commit.snapshot.row (.signedImport commit.update.id
      commit.update.catalogRevision)).Names row.toSnapshot := by
    rw [hrecords.toSnapshot]
    exact ⟨rfl, rfl⟩
  have hrowMem : row ∈ store'.activations.rows := by
    rw [hacts]
    exact mem_concat_self
  refine {
    count := ?_
    versions := ?_
    linked := ?_
    active := ?_
    recorded := fun activation hmem => ?_
    increasing := h.increasing hlog.increasing
    chains := fun snapshot hmem => ?_
    imports := fun activation hmem hkind => ?_
    imported := fun snapshot hmem hsrc => ?_ }
  · rw [hvers, hacts, length_append, ← hlog.count, h.expected.1]
    rfl
  · rw [hacts]
    exact hlog.versions_append (by rw [hrecords.stateVersion, h.expected.1])
  · rw [hacts]
    exact hlog.linked_append hactv
  · rw [hpointer, hacts, getLast?_append, getLast?_singleton, Option.some_or,
      Option.map_some, hrecords.toSnapshot]
  · rw [hacts, mem_append, mem_singleton] at hmem
    rcases hmem with hmem | rfl
    · obtain ⟨hto, hfrom⟩ := hlog.recorded activation hmem
      exact ⟨hto.mono hsnapshots, fun active hactv => (hfrom active hactv).mono hsnapshots⟩
    · exact ⟨⟨_, hnew, hnames⟩, hholds⟩
  · rw [h.snapshots, mem_append] at hmem
    rcases hmem with hmem | hmem
    · obtain ⟨hincreasing, hstored⟩ := hlog.chains snapshot hmem
      refine ⟨hincreasing, fun revision hrevision => ?_⟩
      obtain ⟨update, hupdate, hsame⟩ := hstored revision hrevision
      exact ⟨update, henvelopes hupdate, hsame⟩
    · rcases mem_snapshotRows.mp hmem with ⟨baseline, hbase, rfl⟩ | rfl
      · have hempty := (h.baseline baseline hbase).2
        refine ⟨?_, fun revision hrevision => ?_⟩
        · show baseline.signedRevisionChain.IsChain _
          rw [hempty]
          exact .nil
        · have hrevision : revision ∈ baseline.signedRevisionChain := hrevision
          rw [hempty] at hrevision
          cases hrevision
      · have hval := h.chainValid
        rw [isRevisionChain, Bool.and_eq_true, decide_eq_true_eq] at hval
        exact ⟨hval.2, h.chainStored⟩
  · rw [hacts, mem_append, mem_singleton] at hmem
    rcases hmem with hmem | rfl
    · obtain ⟨snapshot, hsnap, id, revision, hsame, hsrc, hid, hrevision, hextends⟩ :=
        hlog.imports activation hmem hkind
      refine ⟨snapshot, hsnapshots hsnap, id, revision, hsame, hsrc, hid, hrevision, ?_⟩
      rw [hextends, chainOf_mono (hlog.recorded activation hmem).2 hsnapshots]
    · refine ⟨_, hnew, commit.update.id, commit.update.catalogRevision, hnames, rfl,
        hrecords.envelope, hrecords.revision, ?_⟩
      show commit.snapshot.signedRevisionChain = _
      rw [h.chain, hchain]
  · rw [h.snapshots, mem_append] at hmem
    rcases hmem with hmem | hmem
    · obtain ⟨activation, hactivation, hkind, hsame⟩ := hlog.imported snapshot hmem hsrc
      refine ⟨activation, ?_, hkind, hsame⟩
      rw [hacts]
      exact mem_append_left _ hactivation
    · rcases mem_snapshotRows.mp hmem with ⟨baseline, _, rfl⟩ | rfl
      · exact absurd rfl hsrc
      · exact ⟨row, hrowMem, hrecords.kind, hnames⟩

/-- **Rollback.** A rollback adds to the log and leaves the snapshots alone. -/
theorem ActivationLog.rollingBack {commit : CatalogRollbackCommit} (hlog : ActivationLog store)
    (h : RollsBack commit store store') : ActivationLog store' := by
  obtain ⟨row, hacts, hrowVers, hkind, ⟨active, hactv, hfrom⟩, hto⟩ := h.activation
  obtain ⟨hvers, hpointer, -⟩ := h.state
  obtain ⟨target, htgt, hrevision, hsha⟩ := h.target
  have hsame : ∀ {active}, store.Holds active → store'.Holds active := fun hholds =>
    hholds.mono (h.snapshots ▸ List.Subset.refl _)
  have hfromActv : ∀ other ∈ store.state.active, row.fromSnapshot = some other := by
    intro other hoth
    rw [hfrom, ← Option.mem_def.mp hactv]
    exact hoth
  refine {
    count := ?_
    versions := ?_
    linked := ?_
    active := ?_
    recorded := fun activation hmem => ?_
    increasing := h.snapshots ▸ hlog.increasing
    chains := fun snapshot hmem => ?_
    imports := fun activation hmem himport => ?_
    imported := fun snapshot hmem hsrc => ?_ }
  · rw [hvers, hacts, length_append, ← hlog.count, h.expected.1]
    rfl
  · rw [hacts]
    exact hlog.versions_append (by rw [hrowVers, h.expected.1])
  · rw [hacts]
    exact hlog.linked_append hfromActv
  · rw [hpointer, hacts, getLast?_append, getLast?_singleton, Option.some_or, Option.map_some, hto]
  · rw [hacts, mem_append, mem_singleton] at hmem
    rcases hmem with hmem | rfl
    · obtain ⟨hto, hfrom⟩ := hlog.recorded activation hmem
      exact ⟨hsame hto, fun other hoth => hsame (hfrom other hoth)⟩
    · refine ⟨hsame ⟨target, htgt, ?_⟩, fun other hoth => hsame ?_⟩
      · rw [hto]
        exact ⟨hrevision, hsha⟩
      · rw [hfrom] at hoth
        cases hoth
        exact hlog.holds_active active hactv
  · rw [h.snapshots] at hmem
    rw [h.envelopes]
    exact hlog.chains snapshot hmem
  · rw [hacts, mem_append, mem_singleton] at hmem
    rcases hmem with hmem | rfl
    · obtain ⟨snapshot, hsnap, id, revision, hnames, hsrc, hid, hrev, hextends⟩ :=
        hlog.imports activation hmem himport
      refine ⟨snapshot, h.snapshots ▸ hsnap, id, revision, hnames, hsrc, hid, hrev, ?_⟩
      have hrows : store.snapshots.rows ⊆ store'.snapshots.rows := h.snapshots ▸ List.Subset.refl _
      rw [hextends, chainOf_mono (hlog.recorded activation hmem).2 hrows]
    · rw [hkind] at himport
      cases himport
  · rw [h.snapshots] at hmem
    obtain ⟨activation, hactivation, himport, hnames⟩ := hlog.imported snapshot hmem hsrc
    refine ⟨activation, ?_, himport, hnames⟩
    rw [hacts]
    exact mem_append_left _ hactivation

/-! ### Runs -/

theorem CatalogCall.run_log (call : CatalogCall) (hlog : ActivationLog store) :
    ActivationLog (call.run X store) := by
  unfold CatalogCall.run
  split
  case h_1 state store' hperf =>
    cases call with
    | «import» commit => exact hlog.importing (commitCatalogImport_ok hperf)
    | rollback commit => exact hlog.rollingBack (activateCatalogRollback_ok hperf)
  case h_2 => exact hlog

theorem runCalls_log (calls : List CatalogCall) (hlog : ActivationLog store) :
    ActivationLog (runCalls X calls store) := by
  induction calls generalizing store with
  | nil => exact hlog
  | cons call calls ih => exact ih (call.run_log hlog)

/-- What a call does to a store: nothing that is stored changes, the guard advances with
    every import and with no rollback, and a call with a wrong expectation fails. -/
structure Advances (X : CatalogExternals) (store : HistoryStore) (call : CatalogCall)
    (store' : HistoryStore) : Prop where
  envelopes : store.envelopes.rows <+: store'.envelopes.rows
  snapshots : store.snapshots.rows <+: store'.snapshots.rows
  links : store.links.rows <+: store'.links.rows
  activations : store.activations.rows <+: store'.activations.rows
  issued : ∀ before ∈ store.state.guard.latestIssuedAt,
    ∃ after ∈ store'.state.guard.latestIssuedAt, before ≤ after
  «import» : ∀ commit state, call = .import commit → call.perform X store = .ok (state, store') →
    store.state.guard.highestAcceptedRevision < store'.state.guard.highestAcceptedRevision ∧
    (∀ row ∈ store.snapshots.rows, row.localRevision < commit.snapshot.localRevision) ∧
    ∃ row ∈ store'.snapshots.rows,
      row.Names ⟨commit.snapshot.localRevision, commit.snapshot.snapshotSha256⟩ ∧
      row.signedRevisionChain = store.chainOf store.state.active ++ [commit.update.catalogRevision]
  rollback : ∀ commit, call = .rollback commit → store'.state.guard = store.state.guard
  conflict : ¬ (store.state.stateVersion = call.expected.stateVersion ∧
      store.state.active = call.expected.active ∧ store.state.guard = call.expected.guard) →
    (∃ error, call.perform X store = .error error) ∧ store' = store

/-- A call that fails changes nothing. -/
theorem advances_refl {call : CatalogCall} {error : CatalogStorageError}
    (h : call.perform X store = .error error) : Advances X store call store where
  envelopes := prefix_rfl
  snapshots := prefix_rfl
  links := prefix_rfl
  activations := prefix_rfl
  issued before hbef := ⟨before, hbef, Int.le_refl before⟩
  «import» _ _ _ hok := by
    rw [h] at hok
    cases hok
  rollback _ _ := rfl
  conflict _ := ⟨⟨error, h⟩, rfl⟩

theorem Imports.toAdvances (h : Imports commit store store') :
    Advances X store (.import commit) store' where
  envelopes := h.envelopes ▸ prefix_append _ _
  snapshots := h.snapshots ▸ prefix_append _ _
  links := h.links
  activations := by
    obtain ⟨row, hacts, -⟩ := h.activation
    rw [hacts]
    exact prefix_append _ _
  issued before hbef := by
    obtain ⟨-, hnext, hlater⟩ := h.advances
    rw [h.expected.2.2] at hbef
    refine ⟨commit.update.issuedAt, ?_, hlater before hbef⟩
    rw [h.state.2.2, hnext]
    rfl
  «import» other _ hcall _ := by
    obtain ⟨hrevision, hnext, -⟩ := h.advances
    cases hcall
    have hnew : commit.snapshot.row (.signedImport commit.update.id
        commit.update.catalogRevision) ∈ store'.snapshots.rows := by
      rw [h.snapshots]
      exact mem_append_right _ (mem_snapshotRows.mpr (.inr rfl))
    refine ⟨?_, fun row hrow => (h.newer hrow).2, _, hnew, ⟨rfl, rfl⟩, h.chain⟩
    rw [h.state.2.2, hnext, h.expected.2.2]
    exact hrevision
  rollback _ hcall := by cases hcall
  conflict hmismatch := absurd h.expected hmismatch

theorem RollsBack.toAdvances {commit : CatalogRollbackCommit} (h : RollsBack commit store store') :
    Advances X store (.rollback commit) store' where
  envelopes := by rw [h.envelopes]
  snapshots := by rw [h.snapshots]
  links := by rw [h.links]
  activations := by
    obtain ⟨row, hacts, -⟩ := h.activation
    rw [hacts]
    exact prefix_append _ _
  issued before hbef := ⟨before, h.state.2.2 ▸ hbef, Int.le_refl before⟩
  «import» _ _ hcall := by cases hcall
  rollback _ _ := h.state.2.2
  conflict hmismatch := absurd h.expected hmismatch

/-- **Activation log.** In every reachable store the activations are a linked log that the
    pointer ends, and every further call, whatever its expectation, only adds to what is
    stored. -/
theorem catalog_activation_log (X : CatalogExternals) (calls : List CatalogCall) :
    ActivationLog (runCalls X calls .empty) ∧
      ∀ call : CatalogCall, Advances X (runCalls X calls .empty) call
        (call.run X (runCalls X calls .empty)) := by
  refine ⟨runCalls_log calls activationLog_empty, fun call => ?_⟩
  unfold CatalogCall.run
  split
  case h_1 state store' hperf =>
    cases call with
    | «import» commit => exact (commitCatalogImport_ok hperf).toAdvances
    | rollback commit => exact (activateCatalogRollback_ok hperf).toAdvances
  case h_2 error herr => exact advances_refl herr

end LorePia.Catalog
