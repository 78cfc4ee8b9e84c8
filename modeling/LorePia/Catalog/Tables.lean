import LorePia.DiscoveryStore.Tables

namespace LorePia.Catalog

open Lib
open DiscoveryStore (SqliteError SqliteJson sqlChars sqlLength sqlTrim isSqlDigest isJsonObject
  nullOr)

/-!
# The catalog history — tables and statements

The five tables of the signed catalog history: the accepted envelopes, the merged snapshots
with their chains of signed revisions, the pointer to the active snapshot with the revision
guard, and the audit of activations.  A statement fails with `SqliteError` when it breaks a
check, a key, a foreign key or a trigger.  No statement of the module deletes a row, and the
only one it updates is the pointer.

A time is a count of nanoseconds.  Its column is the text `format_time` writes, which
`parse_stored_time` reads back, so a row keeps the time and only the comparisons of the
database go through the text.  The chain of a snapshot is kept the same way.
-/

/-! ### What comes from outside -/

/-- What the module takes from crates and from the database: the JSON functions of the database,
    its reading of bytes as text, the digest, the JSON parser, and the texts of times. -/
structure CatalogExternals where
  sqlite : SqliteJson
  castText : Bytes → String
  sha256Hex : Bytes → String
  parseJson : Bytes → Option Json
  parseTime : String → Option Int
  formatTime : Int → String

/-! ### Rows -/

structure StoredCatalogActiveSnapshot where
  localRevision : Nat
  snapshotSha256 : String
deriving DecidableEq

structure StoredCatalogRevisionGuard where
  highestAcceptedRevision : Nat
  latestIssuedAt : Option Int
deriving DecidableEq

/-- A row of `provider_catalog_signed_envelopes`. -/
structure SignedUpdateRow where
  id : String
  catalogId : String
  catalogSchemaVersion : Nat
  catalogRevision : Nat
  envelopeVersion : Nat
  signingKeyId : String
  envelope : Bytes
  envelopeSha256 : String
  payloadJson : String
  payloadSha256 : String
  issuedAt : Int
  effectiveAt : Int
  expiresAt : Int
  acceptedAt : Int

inductive CatalogSnapshotSource
  | bundledBaseline
  | signedImport (envelopeId : String) (catalogRevision : Nat)

/-- A row of `provider_catalog_snapshots`; the three source columns are the source they
    spell. -/
structure SnapshotRow where
  localRevision : Nat
  snapshotSchemaVersion : Nat
  snapshotJson : String
  snapshotSha256 : String
  bundledRevision : Nat
  bundledSha256 : String
  signedRevisionChain : List Nat
  source : CatalogSnapshotSource
  capturedAt : Int

/-- A row of `provider_catalog_snapshot_envelopes`. -/
structure ChainLinkRow where
  localRevision : Nat
  ordinal : Nat
  envelopeId : String
  catalogRevision : Nat
  payloadSha256 : String

/-- The row of `provider_catalog_state`. -/
structure StateRow where
  stateVersion : Nat
  active : Option StoredCatalogActiveSnapshot
  guard : StoredCatalogRevisionGuard
  updatedAt : Int

inductive CatalogActivationKind
  | «import»
  | rollback

/-- A row of `provider_catalog_activation_audit`. -/
structure ActivationRow where
  actionId : String
  stateVersion : Nat
  kind : CatalogActivationKind
  fromSnapshot : Option StoredCatalogActiveSnapshot
  toSnapshot : StoredCatalogActiveSnapshot
  sourceEnvelopeId : Option String
  signedCatalogRevision : Option Nat
  signingKeyId : Option String
  diffJson : String
  diffSha256 : String
  rollbackPlanJson : Option String
  planSha256 : Option String
  activatedAt : Int

structure HistoryStore where
  envelopes : Table String SignedUpdateRow SignedUpdateRow.id
  snapshots : Table Nat SnapshotRow SnapshotRow.localRevision
  links : Table (Nat × Nat) ChainLinkRow fun row => (row.localRevision, row.ordinal)
  state : StateRow
  activations : Table String ActivationRow ActivationRow.actionId

/-- The tables as the migration leaves them. -/
def HistoryStore.empty : HistoryStore where
  envelopes := .empty
  snapshots := .empty
  links := .empty
  state :=
    { stateVersion := 0
      active := none
      guard := { highestAcceptedRevision := 0, latestIssuedAt := none }
      updatedAt := 0 }
  activations := .empty

/-! ### Checks -/

/-- `length(text) BETWEEN 1 AND 160 AND text = trim(text) AND instr(text, char(0)) = 0`. -/
def isSqlCatalogId (text : String) : Bool :=
  1 ≤ sqlLength text && sqlLength text ≤ 160 && text == sqlTrim text && !text.toList.contains '\x00'

/-- `length(text) BETWEEN 20 AND 35 AND text = trim(text)`. -/
def isSqlTime (text : String) : Bool :=
  20 ≤ sqlLength text && sqlLength text ≤ 35 && text == sqlTrim text

/-- `length(text) BETWEEN 1 AND 64 AND text = trim(text) AND text NOT GLOB '*[^a-z0-9-]*'`. -/
def isSqlKeyId (text : String) : Bool :=
  1 ≤ sqlLength text && sqlLength text ≤ 64 && text == sqlTrim text &&
    (sqlChars text).all fun c => ('a' ≤ c && c ≤ 'z') || ('0' ≤ c && c ≤ '9') || c == '-'

/-- `serde_json::to_string` of a list of integers. -/
def chainJson (chain : List Nat) : String := "[" ++ ",".intercalate (chain.map toString) ++ "]"

variable (X : CatalogExternals)

def SignedUpdateRow.checks (row : SignedUpdateRow) : Bool :=
  isSqlCatalogId row.id && isSqlCatalogId row.catalogId &&
  0 < row.catalogSchemaVersion && 0 < row.catalogRevision && 0 < row.envelopeVersion &&
  isSqlKeyId row.signingKeyId &&
  isJsonObject X.sqlite (X.castText row.envelope) && row.envelope.length ≤ 2097152 &&
  isSqlDigest row.envelopeSha256 &&
  isJsonObject X.sqlite row.payloadJson && byteLen row.payloadJson ≤ 1048576 &&
  isSqlDigest row.payloadSha256 &&
  isSqlTime (X.formatTime row.issuedAt) &&
  isSqlTime (X.formatTime row.effectiveAt) &&
  X.formatTime row.issuedAt ≤ X.formatTime row.effectiveAt &&
  isSqlTime (X.formatTime row.expiresAt) &&
  X.formatTime row.effectiveAt < X.formatTime row.expiresAt &&
  isSqlTime (X.formatTime row.acceptedAt)

def CatalogSnapshotSource.checks : CatalogSnapshotSource → Bool
  | .bundledBaseline => true
  | .signedImport _ catalogRevision => 0 < catalogRevision

def SnapshotRow.checks (row : SnapshotRow) : Bool :=
  0 < row.localRevision && 0 < row.snapshotSchemaVersion &&
  isJsonObject X.sqlite row.snapshotJson && byteLen row.snapshotJson ≤ 2097152 &&
  isSqlDigest row.snapshotSha256 &&
  0 < row.bundledRevision && isSqlDigest row.bundledSha256 &&
  X.sqlite.valid (chainJson row.signedRevisionChain) &&
  X.sqlite.type (chainJson row.signedRevisionChain) "$" == some "array" &&
  byteLen (chainJson row.signedRevisionChain) ≤ 131072 &&
  isSqlTime (X.formatTime row.capturedAt) &&
  row.source.checks

def ChainLinkRow.checks (row : ChainLinkRow) : Bool :=
  0 < row.catalogRevision && isSqlDigest row.payloadSha256

def StoredCatalogActiveSnapshot.checks (active : StoredCatalogActiveSnapshot) : Bool :=
  0 < active.localRevision && isSqlDigest active.snapshotSha256

def StateRow.checks (row : StateRow) : Bool :=
  isSqlTime (X.formatTime row.updatedAt) &&
  row.active.all StoredCatalogActiveSnapshot.checks &&
  (row.guard.highestAcceptedRevision == 0) == row.guard.latestIssuedAt.isNone &&
  row.guard.latestIssuedAt.all fun time => isSqlTime (X.formatTime time)

def ActivationRow.checks (row : ActivationRow) : Bool :=
  isSqlCatalogId row.actionId && 0 < row.stateVersion && row.toSnapshot.checks &&
  isJsonObject X.sqlite row.diffJson && byteLen row.diffJson ≤ 2097152 &&
  isSqlDigest row.diffSha256 &&
  nullOr (fun json => isJsonObject X.sqlite json && byteLen json ≤ 1048576) row.rollbackPlanJson &&
  nullOr isSqlDigest row.planSha256 &&
  isSqlTime (X.formatTime row.activatedAt) &&
  row.fromSnapshot.all StoredCatalogActiveSnapshot.checks &&
  match row.kind with
  | .import => row.sourceEnvelopeId.isSome && row.signedCatalogRevision.any (0 < ·) &&
      row.signingKeyId.any (fun key => 1 ≤ sqlLength key && sqlLength key ≤ 64) &&
      row.rollbackPlanJson.isNone && row.planSha256.isNone
  | .rollback => row.sourceEnvelopeId.isNone && row.signedCatalogRevision.isNone &&
      row.signingKeyId.isNone && row.rollbackPlanJson.isSome && row.planSha256.isSome

/-! ### Statements -/

namespace HistoryStore

variable (store : HistoryStore)

/-- The foreign key to `provider_catalog_signed_envelopes(id, catalog_revision)`. -/
def hasEnvelope (id : String) (catalogRevision : Nat) : Bool :=
  (store.envelopes.find? id).any fun row => row.catalogRevision == catalogRevision

/-- The foreign key to `provider_catalog_snapshots(local_revision, snapshot_sha256)`. -/
def hasSnapshot (snapshot : StoredCatalogActiveSnapshot) : Bool :=
  (store.snapshots.find? snapshot.localRevision).any fun row =>
    row.snapshotSha256 == snapshot.snapshotSha256

/-- With `provider_catalog_signed_envelopes_revision_guard`. -/
def insertEnvelopeRow (row : SignedUpdateRow) : Except SqliteError HistoryStore := do
  require (store.state.guard.highestAcceptedRevision < row.catalogRevision) .triggerAbort
  require (row.checks X) .checkConstraint
  let envelopes ← okOr (store.envelopes.insert? row) .uniqueConstraint
  require (store.envelopes.rows.all fun old => old.catalogRevision != row.catalogRevision &&
    old.envelopeSha256 != row.envelopeSha256 && old.payloadSha256 != row.payloadSha256)
    .uniqueConstraint
  return { store with envelopes }

def insertSnapshotRow (row : SnapshotRow) : Except SqliteError HistoryStore := do
  require (row.checks X) .checkConstraint
  let snapshots ← okOr (store.snapshots.insert? row) .uniqueConstraint
  require (store.snapshots.rows.all fun old => old.snapshotSha256 != row.snapshotSha256)
    .uniqueConstraint
  match row.source with
  | .bundledBaseline => return { store with snapshots }
  | .signedImport envelopeId catalogRevision => do
    require (store.hasEnvelope envelopeId catalogRevision) .foreignKeyConstraint
    return { store with snapshots }

/-- The links of a snapshot, in their order. -/
def linksOf (localRevision : Nat) : List ChainLinkRow :=
  (store.links.rows.filter fun row => row.localRevision == localRevision).mergeSort
    fun a b => a.ordinal ≤ b.ordinal

/-- With `provider_catalog_snapshot_envelopes_append_only` and
    `provider_catalog_snapshot_envelopes_history_sealed`. -/
def insertLinkRow (row : ChainLinkRow) : Except SqliteError HistoryStore := do
  require (row.ordinal = (store.linksOf row.localRevision).length) .triggerAbort
  require ((store.linksOf row.localRevision).getLast?.all fun last =>
    decide (last.catalogRevision < row.catalogRevision)) .triggerAbort
  require (store.state.active.all fun active => active.localRevision != row.localRevision)
    .triggerAbort
  require (store.activations.rows.all fun activation =>
    (activation.fromSnapshot.all fun fromSnapshot => fromSnapshot.localRevision != row.localRevision) &&
      activation.toSnapshot.localRevision != row.localRevision) .triggerAbort
  require row.checks .checkConstraint
  let links ← okOr (store.links.insert? row) .uniqueConstraint
  require ((store.linksOf row.localRevision).all fun old =>
    old.catalogRevision != row.catalogRevision) .uniqueConstraint
  require (store.snapshots.find? row.localRevision).isSome .foreignKeyConstraint
  require ((store.envelopes.find? row.envelopeId).any fun envelope =>
    envelope.catalogRevision == row.catalogRevision &&
      envelope.payloadSha256 == row.payloadSha256) .foreignKeyConstraint
  return { store with links }

/-- `MAX(catalog_revision)` over the envelopes, `0` without one. -/
def maximumCatalogRevision : Nat :=
  (store.envelopes.rows.map SignedUpdateRow.catalogRevision).foldr max 0

/-- The update of the pointer with its guard, with `provider_catalog_state_guard_monotonic` and
    `provider_catalog_state_guard_matches_history`. -/
def updateStateAndGuard (row : StateRow) : Except SqliteError HistoryStore := do
  require (store.state.guard.highestAcceptedRevision ≤ row.guard.highestAcceptedRevision)
    .triggerAbort
  require (store.state.guard.latestIssuedAt.all fun old => row.guard.latestIssuedAt.any fun new =>
    decide (X.formatTime old ≤ X.formatTime new)) .triggerAbort
  require (row.guard.highestAcceptedRevision = store.maximumCatalogRevision) .triggerAbort
  require (row.guard.highestAcceptedRevision = 0 ∨ (store.envelopes.rows.all fun envelope =>
    envelope.catalogRevision != row.guard.highestAcceptedRevision ||
      row.guard.latestIssuedAt.all fun time =>
        X.formatTime time == X.formatTime envelope.issuedAt)) .triggerAbort
  require (row.checks X) .checkConstraint
  require (row.active.all store.hasSnapshot) .foreignKeyConstraint
  return { store with state := row }

/-- The update of the pointer alone. -/
def updateState (row : StateRow) : Except SqliteError HistoryStore := do
  require (row.checks X) .checkConstraint
  require (row.active.all store.hasSnapshot) .foreignKeyConstraint
  return { store with state := row }

def insertActivationRow (row : ActivationRow) : Except SqliteError HistoryStore := do
  require (row.checks X) .checkConstraint
  let activations ← okOr (store.activations.insert? row) .uniqueConstraint
  require (store.activations.rows.all fun old => old.stateVersion != row.stateVersion)
    .uniqueConstraint
  require (row.fromSnapshot.all store.hasSnapshot && store.hasSnapshot row.toSnapshot) .foreignKeyConstraint
  require (row.sourceEnvelopeId.all fun id => row.signedCatalogRevision.all fun revision =>
    store.hasEnvelope id revision) .foreignKeyConstraint
  return { store with activations }

end HistoryStore

end LorePia.Catalog
