import LorePia.Assistant.Types
import LorePia.Catalog.Merged
import LorePia.Catalog.Payload
import LorePia.Lib.MapDiff

namespace LorePia.Catalog

open Lib List

/-!
# The catalog — differences of snapshots

A review of an import or of a rollback shows what changes between two snapshots: one entry for
each manifest and each model that differs, with the sections that do.  Values are compared by
their canonical JSON, which is finer than the source only on the two zeros of a parameter bound.

* `mem_changedManifestSections`, `mem_changedModelSections` — when a section is listed;
* `manifestShown`, `modelShown_iff` — every part in which two valid manifests differ has a section
  that is listed, and so has every part of a model but its template;
* `diffSnapshots_complete_iff` — a review is complete iff no model changes its template.
-/

variable {snapshot : CatalogRevisionSnapshot} {entry : CatalogModelEntry} {id : String}
  {new old : CatalogManifestEntry}

/-! ### The difference of two snapshots -/

inductive CatalogChangeKind
  | added
  | updated
  | removed
deriving DecidableEq

inductive ManifestChangedSection
  | displayName
  | manifestVersion
  | connectionFields
  | apiFamily
  | sources
  | origin
  | authentication
  | endpoints
  | decoders
  | parameters
  | freshness
deriving DecidableEq

inductive ModelChangedSection
  | modelMatch
  | apiFamily
  | metadataVersion
  | capabilities
  | parameters
  | lifecycle
  | sources
  | freshness
deriving DecidableEq

structure ManifestDiffDto where
  providerTemplateId : String
  change : CatalogChangeKind
  previousManifestVersion : Option Nat
  nextManifestVersion : Option Nat
  previousSha256 : Option String
  nextSha256 : Option String
  changedSections : List ManifestChangedSection
deriving DecidableEq

structure ModelMetadataDiffDto where
  modelEntryId : String
  providerTemplateId : String
  change : CatalogChangeKind
  previousMetadataVersion : Option Nat
  nextMetadataVersion : Option Nat
  previousSha256 : Option String
  nextSha256 : Option String
  changedSections : List ModelChangedSection
deriving DecidableEq

structure CatalogDiffDto where
  diffSchemaVersion : Nat
  fromRevision : Nat
  toRevision : Nat
  manifestChanges : List ManifestDiffDto
  modelChanges : List ModelMetadataDiffDto
deriving DecidableEq

/-- What the canonical JSON of a manifest says, with nothing left out. -/
structure ManifestReading where
  value : ProviderManifest → Assistant.ProviderManifest
  injective : Function.Injective value
  apiFamily : ∀ manifest, (value manifest).apiFamily = manifest.apiFamily

/-- The validators, of which that of a manifest is taken past its schema version, and the
    canonical hashes. -/
structure DiffEngine where
  reading : ManifestReading
  validators : CatalogValidators
  manifestHash : CatalogManifestEntry → Except CatalogErrorKind String
  modelHash : CatalogModelEntry → Except CatalogErrorKind String

def supportedSchemaVersion : Nat := 1

def catalogDiffSchemaVersion : Nat := 1

variable (D : DiffEngine)

/-- `validate_manifest` checks the schema version first. -/
def DiffEngine.snapshotValidators : CatalogValidators :=
  { D.validators with
    manifest := fun manifest =>
      (D.reading.value manifest).schemaVersion == supportedSchemaVersion &&
        D.validators.manifest manifest }

def pushIfChanged {α : Type} (values : List α) (changed : Prop) [Decidable changed] (value : α) :
    List α :=
  if changed then values ++ [value] else values

/-- The last case, of two missing entries, is unreachable in the source. -/
def changeKind (previous next : Bool) : CatalogChangeKind :=
  match previous, next with
  | false, true => .added
  | true, false => .removed
  | true, true => .updated
  | false, false => .updated

def changedManifestSections (previous next : CatalogManifestEntry) :
    List ManifestChangedSection :=
  let previousTemplate := previous.template
  let nextTemplate := next.template
  let previousManifest := D.reading.value previousTemplate.defaultManifest
  let nextManifest := D.reading.value nextTemplate.defaultManifest
  let changed := []
  let changed := pushIfChanged changed
    (previousTemplate.displayName ≠ nextTemplate.displayName) .displayName
  let changed := pushIfChanged changed
    (previousTemplate.manifestVersion ≠ nextTemplate.manifestVersion) .manifestVersion
  let changed := pushIfChanged changed
    (previousTemplate.connectionFields ≠ nextTemplate.connectionFields) .connectionFields
  let changed := pushIfChanged changed
    (previousTemplate.apiFamily ≠ nextTemplate.apiFamily) .apiFamily
  let changed := pushIfChanged changed
    (previous.sources ≠ next.sources ∨ previousTemplate.source ≠ nextTemplate.source ∨
      previousManifest.sources ≠ nextManifest.sources) .sources
  let changed := pushIfChanged changed
    (previousManifest.defaultApiOrigin ≠ nextManifest.defaultApiOrigin) .origin
  let changed := pushIfChanged changed
    (previousManifest.auth ≠ nextManifest.auth) .authentication
  let changed := pushIfChanged changed
    (previousManifest.endpoints ≠ nextManifest.endpoints) .endpoints
  let changed := pushIfChanged changed
    (previousManifest.decoders ≠ nextManifest.decoders) .decoders
  let changed := pushIfChanged changed
    (previousManifest.parameters ≠ nextManifest.parameters) .parameters
  pushIfChanged changed
    (previous.verifiedAt ≠ next.verifiedAt ∨ previous.expiresAt ≠ next.expiresAt) .freshness

def allManifestSections : List ManifestChangedSection :=
  [.displayName, .manifestVersion, .connectionFields, .apiFamily, .sources, .origin,
    .authentication, .endpoints, .decoders, .parameters, .freshness]

def manifestDiff (previous next : Option CatalogManifestEntry) :
    Except CatalogErrorKind ManifestDiffDto := do
  let identity ← okOr (next.or previous) .historyConflict
  let changedSections := match previous, next with
    | some previous, some next => changedManifestSections D previous next
    | _, _ => allManifestSections
  let previousSha256 ← previous.mapM D.manifestHash
  let nextSha256 ← next.mapM D.manifestHash
  return {
    providerTemplateId := identity.template.id
    change := changeKind previous.isSome next.isSome
    previousManifestVersion := previous.map fun entry => entry.template.manifestVersion
    nextManifestVersion := next.map fun entry => entry.template.manifestVersion
    previousSha256
    nextSha256
    changedSections }

def changedModelSections (previous next : CatalogModelEntry) : List ModelChangedSection :=
  let changed := []
  let changed := pushIfChanged changed (previous.modelMatch ≠ next.modelMatch) .modelMatch
  let changed := pushIfChanged changed (previous.apiFamily ≠ next.apiFamily) .apiFamily
  let changed := pushIfChanged changed
    (previous.metadataVersion ≠ next.metadataVersion) .metadataVersion
  let changed := pushIfChanged changed (previous.capabilities ≠ next.capabilities) .capabilities
  let changed := pushIfChanged changed (previous.parameters ≠ next.parameters) .parameters
  let changed := pushIfChanged changed (previous.lifecycle ≠ next.lifecycle) .lifecycle
  let changed := pushIfChanged changed (previous.sources ≠ next.sources) .sources
  pushIfChanged changed
    (previous.verifiedAt ≠ next.verifiedAt ∨ previous.expiresAt ≠ next.expiresAt) .freshness

def allModelSections : List ModelChangedSection :=
  [.modelMatch, .apiFamily, .metadataVersion, .capabilities, .parameters, .lifecycle, .sources,
    .freshness]

def modelDiff (previous next : Option CatalogModelEntry) :
    Except CatalogErrorKind ModelMetadataDiffDto := do
  let identity ← okOr (next.or previous) .historyConflict
  let changedSections := match previous, next with
    | some previous, some next => changedModelSections previous next
    | _, _ => allModelSections
  let previousSha256 ← previous.mapM D.modelHash
  let nextSha256 ← next.mapM D.modelHash
  return {
    modelEntryId := identity.id
    providerTemplateId := identity.providerTemplateId
    change := changeKind previous.isSome next.isSome
    previousMetadataVersion := previous.map CatalogModelEntry.metadataVersion
    nextMetadataVersion := next.map CatalogModelEntry.metadataVersion
    previousSha256
    nextSha256
    changedSections }

def CatalogRevisionSnapshot.manifestMap (snapshot : CatalogRevisionSnapshot) :
    SortedMap String CatalogManifestEntry :=
  .ofList (snapshot.manifests.map fun entry => (entry.template.id, entry))

def CatalogRevisionSnapshot.modelMap (snapshot : CatalogRevisionSnapshot) :
    SortedMap String CatalogModelEntry :=
  .ofList (snapshot.models.map fun entry => (entry.id, entry))

/-- `diff_manifests` and `diff_models` are the two comparisons of maps. -/
def diffSnapshots (previous next : CatalogRevisionSnapshot) :
    Except CatalogErrorKind CatalogDiffDto := do
  validateRevisionSnapshot D.snapshotValidators previous
  validateRevisionSnapshot D.snapshotValidators next
  let manifestChanges ← diffMaps (manifestDiff D) previous.manifestMap next.manifestMap
  let modelChanges ← diffMaps (modelDiff D) previous.modelMap next.modelMap
  return {
    diffSchemaVersion := catalogDiffSchemaVersion
    fromRevision := previous.revision
    toRevision := next.revision
    manifestChanges
    modelChanges }

/-! ### Sections -/

variable {D}

@[simp] theorem mem_pushIfChanged {α : Type} {values : List α} {changed : Prop}
    [Decidable changed] {value x : α} :
    x ∈ pushIfChanged values changed value ↔ x ∈ values ∨ changed ∧ x = value := by
  by_cases h : changed
  · simp [pushIfChanged, h]
  · simp [pushIfChanged, h]

/-- When a section says that two manifests differ. -/
def ManifestChangedSection.Says (D : DiffEngine) (previous next : CatalogManifestEntry) :
    ManifestChangedSection → Prop
  | .displayName => previous.template.displayName ≠ next.template.displayName
  | .manifestVersion => previous.template.manifestVersion ≠ next.template.manifestVersion
  | .connectionFields => previous.template.connectionFields ≠ next.template.connectionFields
  | .apiFamily => previous.template.apiFamily ≠ next.template.apiFamily
  | .sources => previous.sources ≠ next.sources ∨
      previous.template.source ≠ next.template.source ∨
      (D.reading.value previous.template.defaultManifest).sources ≠
        (D.reading.value next.template.defaultManifest).sources
  | .origin => (D.reading.value previous.template.defaultManifest).defaultApiOrigin ≠
      (D.reading.value next.template.defaultManifest).defaultApiOrigin
  | .authentication => (D.reading.value previous.template.defaultManifest).auth ≠
      (D.reading.value next.template.defaultManifest).auth
  | .endpoints => (D.reading.value previous.template.defaultManifest).endpoints ≠
      (D.reading.value next.template.defaultManifest).endpoints
  | .decoders => (D.reading.value previous.template.defaultManifest).decoders ≠
      (D.reading.value next.template.defaultManifest).decoders
  | .parameters => (D.reading.value previous.template.defaultManifest).parameters ≠
      (D.reading.value next.template.defaultManifest).parameters
  | .freshness => previous.verifiedAt ≠ next.verifiedAt ∨ previous.expiresAt ≠ next.expiresAt

theorem mem_changedManifestSections {previous next : CatalogManifestEntry} :
    changed ∈ changedManifestSections D previous next ↔ changed.Says D previous next := by
  simp only [changedManifestSections, mem_pushIfChanged, not_mem_nil, false_or]
  cases changed <;> simp [ManifestChangedSection.Says]

/-- When a section says that two models differ. -/
def ModelChangedSection.Says (previous next : CatalogModelEntry) : ModelChangedSection → Prop
  | .modelMatch => previous.modelMatch ≠ next.modelMatch
  | .apiFamily => previous.apiFamily ≠ next.apiFamily
  | .metadataVersion => previous.metadataVersion ≠ next.metadataVersion
  | .capabilities => previous.capabilities ≠ next.capabilities
  | .parameters => previous.parameters ≠ next.parameters
  | .lifecycle => previous.lifecycle ≠ next.lifecycle
  | .sources => previous.sources ≠ next.sources
  | .freshness => previous.verifiedAt ≠ next.verifiedAt ∨ previous.expiresAt ≠ next.expiresAt

theorem mem_changedModelSections {previous next : CatalogModelEntry} :
    changed ∈ changedModelSections previous next ↔ changed.Says previous next := by
  simp only [changedModelSections, mem_pushIfChanged, not_mem_nil, false_or]
  cases changed <;> simp [ModelChangedSection.Says]

/-! ### Both sides of an entry -/

/-- What an entry of a difference says of the two sides. -/
@[ext] structure Sides where
  id : String
  change : CatalogChangeKind
  previousVersion : Option Nat
  nextVersion : Option Nat
  previousSha256 : Option String
  nextSha256 : Option String
deriving DecidableEq

def ManifestDiffDto.sides (change : ManifestDiffDto) : Sides where
  id := change.providerTemplateId
  change := change.change
  previousVersion := change.previousManifestVersion
  nextVersion := change.nextManifestVersion
  previousSha256 := change.previousSha256
  nextSha256 := change.nextSha256

def ModelMetadataDiffDto.sides (change : ModelMetadataDiffDto) : Sides where
  id := change.modelEntryId
  change := change.change
  previousVersion := change.previousMetadataVersion
  nextVersion := change.nextMetadataVersion
  previousSha256 := change.previousSha256
  nextSha256 := change.nextSha256

def CatalogChangeKind.swapped : CatalogChangeKind → CatalogChangeKind
  | .added => .removed
  | .updated => .updated
  | .removed => .added

def Sides.swapped (sides : Sides) : Sides where
  id := sides.id
  change := sides.change.swapped
  previousVersion := sides.nextVersion
  nextVersion := sides.previousVersion
  previousSha256 := sides.nextSha256
  nextSha256 := sides.previousSha256

/-- The entries are in order, they are of the identifiers whose values differ, and they say what
    became of each. -/
structure Lists {ρ : Type} (previous next : String → Option ρ) (entries : List Sides) :
    Prop where
  ascending : entries.Pairwise fun a b => a.id < b.id
  exact : ∀ id, id ∈ entries.map Sides.id ↔ previous id ≠ next id
  added : ∀ sides ∈ entries, sides.change = .added ↔ previous sides.id = none
  removed : ∀ sides ∈ entries, sides.change = .removed ↔ next sides.id = none

/-- A description that reads an identifier, a version and a hash off the two sides. -/
structure Sided {ρ δ : Type} (key : ρ → String) (version : ρ → Nat)
    (hash : ρ → Except CatalogErrorKind String)
    (describe : Option ρ → Option ρ → Except CatalogErrorKind δ) (sides : δ → Sides) : Prop where
  spec : ∀ previous next change, describe previous next = .ok change →
    ∃ identity, next.or previous = some identity ∧
      previous.mapM hash = .ok (sides change).previousSha256 ∧
      next.mapM hash = .ok (sides change).nextSha256 ∧
      (sides change).id = key identity ∧
      (sides change).change = changeKind previous.isSome next.isSome ∧
      (sides change).previousVersion = previous.map version ∧
      (sides change).nextVersion = next.map version
  total : ∀ previous next identity previousSha256 nextSha256, next.or previous = some identity →
    previous.mapM hash = .ok previousSha256 → next.mapM hash = .ok nextSha256 →
    ∃ change, describe previous next = .ok change

section Sided

variable {ρ δ : Type} {key : ρ → String} {hash : ρ → Except CatalogErrorKind String}
  {sides : δ → Sides} {m m' : SortedMap String ρ}

theorem changeKind_swapped (previous next : Bool) :
    changeKind next previous = (changeKind previous next).swapped := by
  cases previous <;> cases next <;> rfl

/-- The entry under a key has it on either side. -/
theorem key_of_or (hm : ∀ k a, m.get? k = some a → key a = k)
    (hm' : ∀ k a, m'.get? k = some a → key a = k) {identity : ρ}
    (h : (m'.get? k).or (m.get? k) = some identity) : key identity = k := by
  rcases Option.or_eq_some_iff.mp h with hnext | ⟨_, hprev⟩
  · exact hm' k identity hnext
  · exact hm k identity hprev

theorem Sided.id_of_describes (hsided : Sided key version hash describe sides)
    (hm : ∀ k a, m.get? k = some a → key a = k) (hm' : ∀ k a, m'.get? k = some a → key a = k)
    (h : DescribesKey describe m m' k change) :
    (sides change).id = k := by
  obtain ⟨identity, hident, _, _, hid, _⟩ := hsided.spec _ _ _ h
  exact hid.trans (key_of_or hm hm' hident)

variable [DecidableEq ρ]

/-- **The entries of a difference.** -/
theorem Sided.lists (hsided : Sided key version hash describe sides)
    (hm : ∀ k a, m.get? k = some a → key a = k) (hm' : ∀ k a, m'.get? k = some a → key a = k)
    (h : diffMaps describe m m' = .ok changes) : Lists m.get? m'.get? (changes.map sides) := by
  have hall := diffMaps_ok.mp h
  have hids : (changes.map sides).map Sides.id = changedKeys m m' := by
    rw [map_map]
    exact map_eq_of_forall₂ hall fun k change hchg => hsided.id_of_describes hm hm' hchg
  have hkind : ∀ entry ∈ changes.map sides,
      entry.change = changeKind (m.get? entry.id).isSome (m'.get? entry.id).isSome ∧
        m.get? entry.id ≠ m'.get? entry.id := by
    refine forall_mem_map.mpr fun change hchg => ?_
    obtain ⟨k, hk, hdesc⟩ := exists_key_of_mem hall hchg
    rw [hsided.id_of_describes hm hm' hdesc]
    obtain ⟨_, _, _, _, _, hkind, _⟩ := hsided.spec _ _ _ hdesc
    exact ⟨hkind, mem_changedKeys.mp hk⟩
  refine {
    ascending := ?_
    exact := ?_
    added := ?_
    removed := ?_ }
  · rw [← pairwise_map (f := Sides.id) (R := fun a b => a < b), hids]
    exact pairwise_changedKeys
  · intro id
    rw [hids, mem_changedKeys]
  · intro entry hent
    obtain ⟨hchg, hne⟩ := hkind entry hent
    rw [hchg]
    cases hprev : m.get? entry.id with
    | none =>
      cases hnext : m'.get? entry.id with
      | none => exact absurd (hprev.trans hnext.symm) hne
      | some next => simp [changeKind]
    | some previous => cases m'.get? entry.id <;> simp [changeKind]
  · intro entry hent
    obtain ⟨hchg, hne⟩ := hkind entry hent
    rw [hchg]
    cases hnext : m'.get? entry.id with
    | none =>
      cases hprev : m.get? entry.id with
      | none => exact absurd (hprev.trans hnext.symm) hne
      | some previous => simp [changeKind]
    | some next => cases m.get? entry.id <;> simp [changeKind]

/-- **The other direction.** It describes the same identifiers with the sides exchanged. -/
theorem Sided.reversed (hsided : Sided key version hash describe sides)
    (hm : ∀ k a, m.get? k = some a → key a = k) (hm' : ∀ k a, m'.get? k = some a → key a = k)
    (h : diffMaps describe m m' = .ok changes) :
    ∃ back, diffMaps describe m' m = .ok back ∧
      back.map sides = (changes.map sides).map Sides.swapped := by
  have hflip : ∀ k change, DescribesKey describe m m' k change →
      ∃ change', DescribesKey describe m' m k change' ∧ sides change' = (sides change).swapped := by
    intro k change hchg
    obtain ⟨identity, hident, hprev, hnext, hid, hkind, hvers, hvers'⟩ := hsided.spec _ _ _ hchg
    have hsome : ((m.get? k).or (m'.get? k)).isSome = true := by
      rw [Option.isSome_or, Bool.or_comm, ← Option.isSome_or, hident]
      rfl
    obtain ⟨other, hoth⟩ := Option.isSome_iff_exists.mp hsome
    obtain ⟨change', hchg'⟩ := hsided.total _ _ _ _ _ hoth hnext hprev
    obtain ⟨_, hident', hprev', hnext', hid', hkind', hvers₁, hvers₂⟩ := hsided.spec _ _ _ hchg'
    refine ⟨change', hchg', ?_⟩
    apply Sides.ext
    · exact (hsided.id_of_describes hm' hm hchg').trans (hsided.id_of_describes hm hm' hchg).symm
    · show (sides change').change = (sides change).change.swapped
      rw [hkind', hkind, changeKind_swapped]
    · exact hvers₁.trans hvers'.symm
    · exact hvers₂.trans hvers.symm
    · exact Except.ok.inj (hprev'.symm.trans hnext)
    · exact Except.ok.inj (hnext'.symm.trans hprev)
  obtain ⟨back, hback, hviews⟩ := exists_counterparts (diffMaps_ok.mp h) hflip
  refine ⟨back, diffMaps_ok.mpr ?_, hviews⟩
  rw [changedKeys_comm]
  exact hback

end Sided

theorem manifestDiff_sided : Sided (fun entry => entry.template.id)
    (fun entry => entry.template.manifestVersion) D.manifestHash (manifestDiff D)
    ManifestDiffDto.sides where
  spec := by
    intro previous next change h
    obtain ⟨identity, hident, previousSha256, hprev, nextSha256, hnext, h⟩ := steps₃ h
    rw [← pure_inj h]
    exact ⟨identity, okOr_ok.mp hident, hprev, hnext, rfl, rfl, rfl, rfl⟩
  total := by
    intro previous next identity previousSha256 nextSha256 hident hprev hnext
    exact ⟨_, then_ok (okOr_ok.mpr hident) (then_ok hprev (then_ok hnext rfl))⟩

theorem modelDiff_sided : Sided CatalogModelEntry.id CatalogModelEntry.metadataVersion D.modelHash
    (modelDiff D) ModelMetadataDiffDto.sides where
  spec := by
    intro previous next change h
    obtain ⟨identity, hident, previousSha256, hprev, nextSha256, hnext, h⟩ := steps₃ h
    rw [← pure_inj h]
    exact ⟨identity, okOr_ok.mp hident, hprev, hnext, rfl, rfl, rfl, rfl⟩
  total := by
    intro previous next identity previousSha256 nextSha256 hident hprev hnext
    exact ⟨_, then_ok (okOr_ok.mpr hident) (then_ok hprev (then_ok hnext rfl))⟩

/-! ### Parts -/

/-- The parts of a manifest entry, its identifier apart. -/
inductive ManifestPart
  | displayName
  | manifestVersion
  | templateSource
  | templateApiFamily
  | connectionFields
  | schemaVersion
  | apiFamily
  | manifestSources
  | defaultApiOrigin
  | auth
  | endpoints
  | decoders
  | parameters
  | sources
  | verifiedAt
  | expiresAt

def ManifestPart.Differs (D : DiffEngine) (previous next : CatalogManifestEntry) :
    ManifestPart → Prop
  | .displayName => previous.template.displayName ≠ next.template.displayName
  | .manifestVersion => previous.template.manifestVersion ≠ next.template.manifestVersion
  | .templateSource => previous.template.source ≠ next.template.source
  | .templateApiFamily => previous.template.apiFamily ≠ next.template.apiFamily
  | .connectionFields => previous.template.connectionFields ≠ next.template.connectionFields
  | .schemaVersion => (D.reading.value previous.template.defaultManifest).schemaVersion ≠
      (D.reading.value next.template.defaultManifest).schemaVersion
  | .apiFamily => (D.reading.value previous.template.defaultManifest).apiFamily ≠
      (D.reading.value next.template.defaultManifest).apiFamily
  | .manifestSources => (D.reading.value previous.template.defaultManifest).sources ≠
      (D.reading.value next.template.defaultManifest).sources
  | .defaultApiOrigin => (D.reading.value previous.template.defaultManifest).defaultApiOrigin ≠
      (D.reading.value next.template.defaultManifest).defaultApiOrigin
  | .auth => (D.reading.value previous.template.defaultManifest).auth ≠
      (D.reading.value next.template.defaultManifest).auth
  | .endpoints => (D.reading.value previous.template.defaultManifest).endpoints ≠
      (D.reading.value next.template.defaultManifest).endpoints
  | .decoders => (D.reading.value previous.template.defaultManifest).decoders ≠
      (D.reading.value next.template.defaultManifest).decoders
  | .parameters => (D.reading.value previous.template.defaultManifest).parameters ≠
      (D.reading.value next.template.defaultManifest).parameters
  | .sources => previous.sources ≠ next.sources
  | .verifiedAt => previous.verifiedAt ≠ next.verifiedAt
  | .expiresAt => previous.expiresAt ≠ next.expiresAt

/-- The section that shows a part; none shows the schema version. -/
def ManifestPart.shownBy : ManifestPart → Option ManifestChangedSection
  | .displayName => some .displayName
  | .manifestVersion => some .manifestVersion
  | .templateSource | .manifestSources | .sources => some .sources
  | .templateApiFamily | .apiFamily => some .apiFamily
  | .connectionFields => some .connectionFields
  | .schemaVersion => none
  | .defaultApiOrigin => some .origin
  | .auth => some .authentication
  | .endpoints => some .endpoints
  | .decoders => some .decoders
  | .parameters => some .parameters
  | .verifiedAt | .expiresAt => some .freshness

/-- The parts of a model entry, its identifier apart. -/
inductive ModelPart
  | providerTemplateId
  | modelMatch
  | apiFamily
  | metadataVersion
  | capabilities
  | parameters
  | lifecycle
  | sources
  | verifiedAt
  | expiresAt

def ModelPart.Differs (previous next : CatalogModelEntry) : ModelPart → Prop
  | .providerTemplateId => previous.providerTemplateId ≠ next.providerTemplateId
  | .modelMatch => previous.modelMatch ≠ next.modelMatch
  | .apiFamily => previous.apiFamily ≠ next.apiFamily
  | .metadataVersion => previous.metadataVersion ≠ next.metadataVersion
  | .capabilities => previous.capabilities ≠ next.capabilities
  | .parameters => previous.parameters ≠ next.parameters
  | .lifecycle => previous.lifecycle ≠ next.lifecycle
  | .sources => previous.sources ≠ next.sources
  | .verifiedAt => previous.verifiedAt ≠ next.verifiedAt
  | .expiresAt => previous.expiresAt ≠ next.expiresAt

/-- The section that shows a part; none shows the template. -/
def ModelPart.shownBy : ModelPart → Option ModelChangedSection
  | .providerTemplateId => none
  | .modelMatch => some .modelMatch
  | .apiFamily => some .apiFamily
  | .metadataVersion => some .metadataVersion
  | .capabilities => some .capabilities
  | .parameters => some .parameters
  | .lifecycle => some .lifecycle
  | .sources => some .sources
  | .verifiedAt | .expiresAt => some .freshness

/-- Every part in which the entries differ has its section listed. -/
def ManifestShown (D : DiffEngine) (previous next : CatalogManifestEntry)
    (sections : List ManifestChangedSection) : Prop :=
  ∀ part : ManifestPart, part.Differs D previous next →
    ∃ section_ ∈ part.shownBy, section_ ∈ sections

def ModelShown (previous next : CatalogModelEntry) (sections : List ModelChangedSection) : Prop :=
  ∀ part : ModelPart, part.Differs previous next → ∃ section_ ∈ part.shownBy, section_ ∈ sections

attribute [ext] Assistant.ProviderManifest ProviderTemplate CatalogManifestEntry CatalogModelEntry

/-- Two entries for one template that agree in all parts are equal. -/
theorem exists_manifestPart {previous next : CatalogManifestEntry} (hne : previous ≠ next)
    (hid : previous.template.id = next.template.id) :
    ∃ part : ManifestPart, part.Differs D previous next := by
  by_contra hnone
  have hsame : ∀ part : ManifestPart, ¬ part.Differs D previous next :=
    fun part hdiff => hnone ⟨part, hdiff⟩
  have hman : previous.template.defaultManifest = next.template.defaultManifest := by
    apply D.reading.injective
    apply Assistant.ProviderManifest.ext
    · exact not_not.mp (hsame .schemaVersion)
    · exact not_not.mp (hsame .apiFamily)
    · exact not_not.mp (hsame .manifestSources)
    · exact not_not.mp (hsame .defaultApiOrigin)
    · exact not_not.mp (hsame .auth)
    · exact not_not.mp (hsame .endpoints)
    · exact not_not.mp (hsame .decoders)
    · exact not_not.mp (hsame .parameters)
  have htmpl : previous.template = next.template := by
    apply ProviderTemplate.ext
    · exact hid
    · exact not_not.mp (hsame .displayName)
    · exact not_not.mp (hsame .manifestVersion)
    · exact not_not.mp (hsame .templateSource)
    · exact not_not.mp (hsame .templateApiFamily)
    · exact not_not.mp (hsame .connectionFields)
    · exact hman
  apply hne
  apply CatalogManifestEntry.ext
  · exact htmpl
  · exact not_not.mp (hsame .verifiedAt)
  · exact not_not.mp (hsame .expiresAt)
  · exact not_not.mp (hsame .sources)

theorem exists_modelPart {previous next : CatalogModelEntry} (hne : previous ≠ next)
    (hid : previous.id = next.id) : ∃ part : ModelPart, part.Differs previous next := by
  by_contra hnone
  have hsame : ∀ part : ModelPart, ¬ part.Differs previous next :=
    fun part hdiff => hnone ⟨part, hdiff⟩
  apply hne
  apply CatalogModelEntry.ext
  · exact hid
  · exact not_not.mp (hsame .providerTemplateId)
  · exact not_not.mp (hsame .modelMatch)
  · exact not_not.mp (hsame .apiFamily)
  · exact not_not.mp (hsame .metadataVersion)
  · exact not_not.mp (hsame .capabilities)
  · exact not_not.mp (hsame .parameters)
  · exact not_not.mp (hsame .lifecycle)
  · exact not_not.mp (hsame .sources)
  · exact not_not.mp (hsame .verifiedAt)
  · exact not_not.mp (hsame .expiresAt)

/-- What a snapshot's validation says of a manifest that a review reads. -/
structure ManifestValid (D : DiffEngine) (entry : CatalogManifestEntry) : Prop where
  schemaVersion :
    (D.reading.value entry.template.defaultManifest).schemaVersion = supportedSchemaVersion
  apiFamily : entry.template.apiFamily = entry.template.defaultManifest.apiFamily

/-- **Every part of a valid manifest is shown.** The schema version is one for all, and the API
    family of the manifest is that of its template. -/
theorem manifestShown {previous next : CatalogManifestEntry} (hprev : ManifestValid D previous)
    (hnext : ManifestValid D next) :
    ManifestShown D previous next (changedManifestSections D previous next) := by
  intro part hdiff
  cases part with
  | schemaVersion => exact absurd (hprev.schemaVersion.trans hnext.schemaVersion.symm) hdiff
  | apiFamily =>
    refine ⟨.apiFamily, rfl, mem_changedManifestSections.mpr ?_⟩
    intro hsame
    apply hdiff
    rw [D.reading.apiFamily, D.reading.apiFamily, ← hprev.apiFamily, ← hnext.apiFamily, hsame]
  | displayName => exact ⟨.displayName, rfl, mem_changedManifestSections.mpr hdiff⟩
  | manifestVersion => exact ⟨.manifestVersion, rfl, mem_changedManifestSections.mpr hdiff⟩
  | templateSource => exact ⟨.sources, rfl, mem_changedManifestSections.mpr (.inr (.inl hdiff))⟩
  | templateApiFamily => exact ⟨.apiFamily, rfl, mem_changedManifestSections.mpr hdiff⟩
  | connectionFields => exact ⟨.connectionFields, rfl, mem_changedManifestSections.mpr hdiff⟩
  | manifestSources => exact ⟨.sources, rfl, mem_changedManifestSections.mpr (.inr (.inr hdiff))⟩
  | defaultApiOrigin => exact ⟨.origin, rfl, mem_changedManifestSections.mpr hdiff⟩
  | auth => exact ⟨.authentication, rfl, mem_changedManifestSections.mpr hdiff⟩
  | endpoints => exact ⟨.endpoints, rfl, mem_changedManifestSections.mpr hdiff⟩
  | decoders => exact ⟨.decoders, rfl, mem_changedManifestSections.mpr hdiff⟩
  | parameters => exact ⟨.parameters, rfl, mem_changedManifestSections.mpr hdiff⟩
  | sources => exact ⟨.sources, rfl, mem_changedManifestSections.mpr (.inl hdiff)⟩
  | verifiedAt => exact ⟨.freshness, rfl, mem_changedManifestSections.mpr (.inl hdiff)⟩
  | expiresAt => exact ⟨.freshness, rfl, mem_changedManifestSections.mpr (.inr hdiff)⟩

/-- **A model is shown iff its template stays.** -/
theorem modelShown_iff {previous next : CatalogModelEntry} :
    ModelShown previous next (changedModelSections previous next) ↔
      previous.providerTemplateId = next.providerTemplateId := by
  constructor
  · intro hshown
    by_contra hne
    obtain ⟨_, hnone, _⟩ := hshown .providerTemplateId hne
    cases hnone
  · intro hsame part hdiff
    cases part with
    | providerTemplateId => exact absurd hsame hdiff
    | modelMatch => exact ⟨.modelMatch, rfl, mem_changedModelSections.mpr hdiff⟩
    | apiFamily => exact ⟨.apiFamily, rfl, mem_changedModelSections.mpr hdiff⟩
    | metadataVersion => exact ⟨.metadataVersion, rfl, mem_changedModelSections.mpr hdiff⟩
    | capabilities => exact ⟨.capabilities, rfl, mem_changedModelSections.mpr hdiff⟩
    | parameters => exact ⟨.parameters, rfl, mem_changedModelSections.mpr hdiff⟩
    | lifecycle => exact ⟨.lifecycle, rfl, mem_changedModelSections.mpr hdiff⟩
    | sources => exact ⟨.sources, rfl, mem_changedModelSections.mpr hdiff⟩
    | verifiedAt => exact ⟨.freshness, rfl, mem_changedModelSections.mpr (.inl hdiff)⟩
    | expiresAt => exact ⟨.freshness, rfl, mem_changedModelSections.mpr (.inr hdiff)⟩

/-! ### Snapshots -/

def CatalogRevisionSnapshot.manifest? (snapshot : CatalogRevisionSnapshot) (id : String) :
    Option CatalogManifestEntry :=
  snapshot.manifests.find? fun entry => entry.template.id = id

def CatalogRevisionSnapshot.model? (snapshot : CatalogRevisionSnapshot) (id : String) :
    Option CatalogModelEntry :=
  snapshot.models.find? fun entry => entry.id = id

/-- What a review relies on in a snapshot. -/
structure SnapshotValid (D : DiffEngine) (snapshot : CatalogRevisionSnapshot) : Prop where
  manifests : (snapshot.manifests.map fun entry => entry.template.id).Nodup
  models : (snapshot.models.map CatalogModelEntry.id).Nodup
  manifest : ∀ entry ∈ snapshot.manifests, ManifestValid D entry

theorem snapshotValid_of_validate
    (h : validateRevisionSnapshot D.snapshotValidators snapshot = .ok u) :
    SnapshotValid D snapshot := by
  obtain ⟨_, _, hmans, hmods⟩ := guard_step h
  obtain ⟨hnodup, _, hmans⟩ := forEachUnique_ok.mp hmans
  obtain ⟨hnodupMods, _, _⟩ := forEachUnique_ok.mp hmods
  refine ⟨hnodup, hnodupMods, ?_⟩
  intro entry hent
  obtain ⟨⟨hsound, _⟩, h⟩ := guard_ok.mp (hmans entry hent)
  obtain ⟨_, hman, _⟩ := guards₂ h
  have hman : ((D.reading.value entry.template.defaultManifest).schemaVersion ==
      supportedSchemaVersion && D.validators.manifest entry.template.defaultManifest) = true :=
    hman
  rw [Bool.and_eq_true, beq_iff_eq] at hman
  rw [ProviderTemplate.isSound, Bool.and_eq_true, beq_iff_eq] at hsound
  exact ⟨hman.1, hsound.2⟩

/-- Collecting entries by a key that none repeats keeps them all. -/
theorem get?_ofList_map {ρ : Type} {key : ρ → String} {entries : List ρ}
    (hnodup : (entries.map key).Nodup) (id : String) :
    (SortedMap.ofList (entries.map fun entry => (key entry, entry))).get? id =
      entries.find? fun entry => key entry = id := by
  have hkeys : ((entries.map fun entry => (key entry, entry)).map Prod.fst).Nodup := by
    rw [map_map]
    exact hnodup
  ext entry
  rw [SortedMap.get?_ofList hkeys]
  have hfind := Table.find?_eq_some (t := ⟨entries, hnodup⟩) (k := id) (r := entry)
  rw [Table.find?] at hfind
  rw [hfind, mem_map]
  constructor
  · rintro ⟨_, hent, heq⟩
    cases heq
    exact ⟨hent, rfl⟩
  · rintro ⟨hent, rfl⟩
    exact ⟨entry, hent, rfl⟩

theorem SnapshotValid.get?_manifestMap
    (h : SnapshotValid D snapshot) : snapshot.manifestMap.get? = snapshot.manifest? :=
  funext fun id => get?_ofList_map h.manifests id

theorem SnapshotValid.get?_modelMap
    (h : SnapshotValid D snapshot) : snapshot.modelMap.get? = snapshot.model? :=
  funext fun id => get?_ofList_map h.models id

theorem SnapshotValid.model?_of_mem
    (h : SnapshotValid D snapshot) (hent : entry ∈ snapshot.models) :
    snapshot.model? entry.id = some entry :=
  Table.find?_eq_some (t := ⟨snapshot.models, h.models⟩).mpr ⟨hent, rfl⟩

theorem manifest?_eq_some {entry : CatalogManifestEntry} (h : snapshot.manifest? id = some entry) :
    entry ∈ snapshot.manifests ∧ entry.template.id = id :=
  ⟨mem_of_find?_eq_some h, by simpa using find?_some h⟩

theorem model?_eq_some (h : snapshot.model? id = some entry) :
    entry ∈ snapshot.models ∧ entry.id = id :=
  ⟨mem_of_find?_eq_some h, by simpa using find?_some h⟩

/-! ### Reviews -/

/-- What a review must say: the right entries for manifests and for models, for every updated
    entry some section and the sections of all parts that differ, and the same the other way
    round. -/
structure ReviewComplete (D : DiffEngine) (previous next : CatalogRevisionSnapshot)
    (diff : CatalogDiffDto) : Prop where
  manifests : Lists previous.manifest? next.manifest?
    (diff.manifestChanges.map ManifestDiffDto.sides)
  models : Lists previous.model? next.model? (diff.modelChanges.map ModelMetadataDiffDto.sides)
  manifestSections : ∀ change ∈ diff.manifestChanges, ∀ old new,
    previous.manifest? change.providerTemplateId = some old →
    next.manifest? change.providerTemplateId = some new →
    change.changedSections ≠ [] ∧ ManifestShown D old new change.changedSections
  modelSections : ∀ change ∈ diff.modelChanges, ∀ old new,
    previous.model? change.modelEntryId = some old →
    next.model? change.modelEntryId = some new →
    change.changedSections ≠ [] ∧ ModelShown old new change.changedSections
  reversed : ∃ back, diffSnapshots D next previous = .ok back ∧
    back.manifestChanges.map ManifestDiffDto.sides =
      (diff.manifestChanges.map ManifestDiffDto.sides).map Sides.swapped ∧
    back.modelChanges.map ModelMetadataDiffDto.sides =
      (diff.modelChanges.map ModelMetadataDiffDto.sides).map Sides.swapped ∧
    back.fromRevision = diff.toRevision ∧ back.toRevision = diff.fromRevision

variable {previous next : CatalogRevisionSnapshot} {diff : CatalogDiffDto}

theorem diffSnapshots_ok : diffSnapshots D previous next = .ok diff ↔
    validateRevisionSnapshot D.snapshotValidators previous = .ok () ∧
    validateRevisionSnapshot D.snapshotValidators next = .ok () ∧
    ∃ manifestChanges modelChanges,
      diffMaps (manifestDiff D) previous.manifestMap next.manifestMap = .ok manifestChanges ∧
      diffMaps (modelDiff D) previous.modelMap next.modelMap = .ok modelChanges ∧
      diff = { diffSchemaVersion := catalogDiffSchemaVersion, fromRevision := previous.revision,
               toRevision := next.revision, manifestChanges, modelChanges } := by
  constructor
  · intro h
    obtain ⟨_, hprev, _, hnext, h⟩ := steps₂ h
    obtain ⟨manifestChanges, hmans, modelChanges, hmods, h⟩ := steps₂ h
    exact ⟨hprev, hnext, manifestChanges, modelChanges, hmans, hmods, (pure_inj h).symm⟩
  · rintro ⟨hprev, hnext, manifestChanges, modelChanges, hmans, hmods, rfl⟩
    exact then_ok hprev (then_ok hnext (then_ok hmans (then_ok hmods rfl)))

/-- The sections of an updated manifest. -/
theorem manifestDiff_changedSections (h : manifestDiff D (some old) (some new) = .ok change) :
    change.changedSections = changedManifestSections D old new := by
  obtain ⟨_, _, _, h⟩ := rest₃ h
  rw [← pure_inj h]

theorem modelDiff_changedSections {old new : CatalogModelEntry}
    (h : modelDiff D (some old) (some new) = .ok change) :
    change.changedSections = changedModelSections old new := by
  obtain ⟨_, _, _, h⟩ := rest₃ h
  rw [← pure_inj h]

/-- Where all parts that differ are shown, and some part differs, a section is listed. -/
theorem ne_nil_of_shown {sections : List ManifestChangedSection}
    (h : ManifestShown D old new sections) (hpart : ∃ part : ManifestPart, part.Differs D old new) :
    sections ≠ [] := by
  obtain ⟨part, hdiff⟩ := hpart
  obtain ⟨_, _, hmem⟩ := h part hdiff
  exact ne_nil_of_mem hmem

theorem ne_nil_of_modelShown {sections : List ModelChangedSection} {old new : CatalogModelEntry}
    (h : ModelShown old new sections) (hpart : ∃ part : ModelPart, part.Differs old new) :
    sections ≠ [] := by
  obtain ⟨part, hdiff⟩ := hpart
  obtain ⟨_, _, hmem⟩ := h part hdiff
  exact ne_nil_of_mem hmem

/-- **When a review is complete.** The difference of two snapshots says all it must iff no model
    that both have changes its template, which no section shows. -/
theorem diffSnapshots_complete_iff (h : diffSnapshots D previous next = .ok diff) :
    ReviewComplete D previous next diff ↔
      ∀ old ∈ previous.models, ∀ new ∈ next.models, old.id = new.id →
        old.providerTemplateId = new.providerTemplateId := by
  obtain ⟨hvalPrev, hvalNext, manifestChanges, modelChanges, hmans, hmods, rfl⟩ :=
    diffSnapshots_ok.mp h
  have hprev := snapshotValid_of_validate hvalPrev
  have hnext := snapshotValid_of_validate hvalNext
  -- the maps hold the entries under their identifiers
  have hmanKey : ∀ {snapshot : CatalogRevisionSnapshot}, SnapshotValid D snapshot →
      ∀ k entry, snapshot.manifestMap.get? k = some entry → entry.template.id = k := by
    intro snapshot hval k entry hent
    rw [hval.get?_manifestMap] at hent
    exact (manifest?_eq_some hent).2
  have hmodKey : ∀ {snapshot : CatalogRevisionSnapshot}, SnapshotValid D snapshot →
      ∀ k entry, snapshot.modelMap.get? k = some entry → entry.id = k := by
    intro snapshot hval k entry hent
    rw [hval.get?_modelMap] at hent
    exact (model?_eq_some hent).2
  have hmanLists := manifestDiff_sided.lists (hmanKey hprev) (hmanKey hnext) hmans
  have hmodLists := modelDiff_sided.lists (hmodKey hprev) (hmodKey hnext) hmods
  rw [hprev.get?_manifestMap, hnext.get?_manifestMap] at hmanLists
  rw [hprev.get?_modelMap, hnext.get?_modelMap] at hmodLists
  -- the sections of an updated model
  have hsections : ∀ change ∈ modelChanges, ∀ old new,
      previous.model? change.modelEntryId = some old →
      next.model? change.modelEntryId = some new →
      change.changedSections = changedModelSections old new ∧ old ≠ new := by
    intro change hchg old new hold hnew
    obtain ⟨k, hk, hdesc⟩ := exists_key_of_mem (diffMaps_ok.mp hmods) hchg
    have hid : change.modelEntryId = k :=
      modelDiff_sided.id_of_describes (hmodKey hprev) (hmodKey hnext) hdesc
    have hne := mem_changedKeys.mp hk
    rw [DescribesKey, hprev.get?_modelMap, hnext.get?_modelMap, ← hid, hold, hnew] at hdesc
    rw [hprev.get?_modelMap, hnext.get?_modelMap, ← hid, hold, hnew] at hne
    exact ⟨modelDiff_changedSections hdesc, fun heq => hne (congrArg some heq)⟩
  constructor
  · intro hcompl old hold new hnew hid
    by_contra hdiff
    have hold? := hprev.model?_of_mem hold
    have hnew? := hnext.model?_of_mem hnew
    rw [← hid] at hnew?
    -- the identifier is among those of the entries, and its entry does not show the template
    have hne : previous.model? old.id ≠ next.model? old.id := by
      rw [hold?, hnew?]
      rintro heq
      exact hdiff (congrArg CatalogModelEntry.providerTemplateId (Option.some.inj heq))
    obtain ⟨sides, hsides, hsidesId⟩ := mem_map.mp ((hmodLists.exact old.id).mpr hne)
    obtain ⟨change, hchg, rfl⟩ := mem_map.mp hsides
    have hchgId : change.modelEntryId = old.id := hsidesId
    rw [← hchgId] at hold? hnew?
    have hshown := (hcompl.modelSections change hchg old new hold? hnew?).2
    rw [(hsections change hchg old new hold? hnew?).1] at hshown
    exact hdiff (modelShown_iff.mp hshown)
  · intro htmpls
    refine {
      manifests := hmanLists
      models := hmodLists
      manifestSections := ?_
      modelSections := ?_
      reversed := ?_ }
    · intro change hchg old new hold hnew
      obtain ⟨k, hk, hdesc⟩ := exists_key_of_mem (diffMaps_ok.mp hmans) hchg
      have hid : change.providerTemplateId = k :=
        manifestDiff_sided.id_of_describes (hmanKey hprev) (hmanKey hnext) hdesc
      have hne := mem_changedKeys.mp hk
      rw [DescribesKey, hprev.get?_manifestMap, hnext.get?_manifestMap, ← hid, hold, hnew]
        at hdesc
      rw [hprev.get?_manifestMap, hnext.get?_manifestMap, ← hid, hold, hnew] at hne
      obtain ⟨holdMem, holdId⟩ := manifest?_eq_some hold
      obtain ⟨hnewMem, hnewId⟩ := manifest?_eq_some hnew
      have hshown := manifestShown (hprev.manifest old holdMem) (hnext.manifest new hnewMem)
      rw [manifestDiff_changedSections hdesc]
      refine ⟨ne_nil_of_shown hshown (exists_manifestPart ?_ ?_), hshown⟩
      · exact fun heq => hne (congrArg some heq)
      · exact holdId.trans hnewId.symm
    · intro change hchg old new hold hnew
      obtain ⟨heq, hne⟩ := hsections change hchg old new hold hnew
      obtain ⟨holdMem, holdId⟩ := model?_eq_some hold
      obtain ⟨hnewMem, hnewId⟩ := model?_eq_some hnew
      have hid : old.id = new.id := holdId.trans hnewId.symm
      have hshown := modelShown_iff.mpr (htmpls old holdMem new hnewMem hid)
      rw [heq]
      exact ⟨ne_nil_of_modelShown hshown (exists_modelPart hne hid), hshown⟩
    · obtain ⟨backManifests, hbackMans, hmanSides⟩ :=
        manifestDiff_sided.reversed (hmanKey hprev) (hmanKey hnext) hmans
      obtain ⟨backModels, hbackMods, hmodSides⟩ :=
        modelDiff_sided.reversed (hmodKey hprev) (hmodKey hnext) hmods
      exact ⟨_, diffSnapshots_ok.mpr ⟨hvalNext, hvalPrev, backManifests, backModels,
        hbackMans, hbackMods, rfl⟩, hmanSides, hmodSides, rfl, rfl⟩

/-! ### A model that moves to another template -/

/-- A manifest whose text is the address of its only source. -/
def sampleReading : ManifestReading where
  value := fun manifest =>
    { schemaVersion := 1
      apiFamily := manifest.apiFamily
      sources := [⟨.officialDocumentation, ⟨manifest.json⟩, none⟩]
      defaultApiOrigin := none
      auth := .none
      endpoints := ⟨none, ⟨.post, ⟨"/api/chat"⟩⟩⟩
      decoders := ⟨.ollamaJsonV1, some .ollamaJsonlV1⟩
      parameters := [] }
  injective := by
    intro a b h
    have hfam : a.apiFamily = b.apiFamily := congrArg Assistant.ProviderManifest.apiFamily h
    have hsources := congrArg Assistant.ProviderManifest.sources h
    have hjson : a.json = b.json := by simpa using hsources
    cases a
    cases b
    simp_all
  apiFamily := fun _ => rfl

def sampleDiffEngine : DiffEngine where
  reading := sampleReading
  validators := sampleValidators
  manifestHash := fun _ => .ok "0123456789abcdef0123456789abcdef0123456789abcdef0123456789abcdef"
  modelHash := fun _ => .ok "0123456789abcdef0123456789abcdef0123456789abcdef0123456789abcdef"

/-- An entry for the template `id`. -/
def sampleManifest (id displayName : String) : CatalogManifestEntry where
  template :=
    { id := id
      displayName := displayName
      manifestVersion := 1
      source := .builtIn
      apiFamily := .ollamaNative
      connectionFields := []
      defaultManifest := ⟨.ollamaNative, "https://example.com/models"⟩ }
  verifiedAt := 1
  expiresAt := none
  sources := [sampleSource]

def movedModel : CatalogModelEntry :=
  { sampleModel ⟨.streaming, .boolean true⟩ none with providerTemplateId := "acme" }

/-- Two templates, and one model of the template `templateId`. -/
def sampleSnapshot (revision : Nat) (templateId displayName : String) :
    CatalogRevisionSnapshot where
  snapshotSchemaVersion := 1
  revision := revision
  capturedAt := 2
  manifests := [sampleManifest "acme" displayName, sampleManifest "other" "Other"]
  models := [{ movedModel with providerTemplateId := templateId }]

/-- The review of a new name for a template. -/
def sampleDiff : CatalogDiffDto where
  diffSchemaVersion := 1
  fromRevision := 1
  toRevision := 2
  manifestChanges := [
    { providerTemplateId := "acme"
      change := .updated
      previousManifestVersion := some 1
      nextManifestVersion := some 1
      previousSha256 := some "0123456789abcdef0123456789abcdef0123456789abcdef0123456789abcdef"
      nextSha256 := some "0123456789abcdef0123456789abcdef0123456789abcdef0123456789abcdef"
      changedSections := [.displayName] }]
  modelChanges := []

theorem diffSnapshots_complete_iff_sampleDiff :
    ReviewComplete sampleDiffEngine (sampleSnapshot 1 "acme" "Acme")
        (sampleSnapshot 2 "acme" "Acme Cloud") sampleDiff ↔
      ∀ old ∈ (sampleSnapshot 1 "acme" "Acme").models,
        ∀ new ∈ (sampleSnapshot 2 "acme" "Acme Cloud").models, old.id = new.id →
          old.providerTemplateId = new.providerTemplateId :=
  diffSnapshots_complete_iff (D := sampleDiffEngine) (by decide)

/-- The review of a model that moves to the template `other`. -/
def sampleMove : CatalogDiffDto where
  diffSchemaVersion := 1
  fromRevision := 1
  toRevision := 2
  manifestChanges := []
  modelChanges := [
    { modelEntryId := "model"
      providerTemplateId := "other"
      change := .updated
      previousMetadataVersion := some 1
      nextMetadataVersion := some 1
      previousSha256 := some "0123456789abcdef0123456789abcdef0123456789abcdef0123456789abcdef"
      nextSha256 := some "0123456789abcdef0123456789abcdef0123456789abcdef0123456789abcdef"
      changedSections := [] }]

/-- The model is listed as updated, in no section. -/
theorem movedModel_without_sections :
    diffSnapshots sampleDiffEngine (sampleSnapshot 1 "acme" "Acme")
        (sampleSnapshot 2 "other" "Acme") = .ok sampleMove ∧
      ¬ ReviewComplete sampleDiffEngine (sampleSnapshot 1 "acme" "Acme")
        (sampleSnapshot 2 "other" "Acme") sampleMove := by
  refine ⟨by decide, ?_⟩
  intro hcompl
  have hsections := hcompl.modelSections _ (mem_singleton_self _) movedModel
    { movedModel with providerTemplateId := "other" } (by decide) (by decide)
  exact hsections.1 rfl

end LorePia.Catalog
