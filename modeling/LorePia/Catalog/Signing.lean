import LorePia.Catalog.Availability

namespace LorePia.Catalog

open Lib List

/-!
# The catalog — signed payloads and their layers

The verifier of a signed payload and the merge of its layer validate the same entries with two
validators.  They differ in two places: the verifier tells manifests apart by template and
version, the merge by template; and the verifier measures the sources of an entry against the
time the payload was issued, the merge against the time the entry was verified.

* `validateLayerManifest_iff`, `validateLayerModel_iff` — what is left to check of an entry;
* `validateLayers_layer_iff` — which payloads that verify can be merged.
-/

variable {E : CatalogEngine}

def maxKeyIdBytes : Nat := 64

/-- `validate_key_id`. -/
def isKeyId (value : String) : Bool :=
  value != "" && byteLen value ≤ maxKeyIdBytes &&
    value.toList.all fun c => ('a' ≤ c && c ≤ 'z') || ('0' ≤ c && c ≤ '9') || c == '-'

/-- What the merge demands of a signed payload beyond what the verifier demands. -/
structure CatalogPayload.Mergeable (payload : CatalogPayload) : Prop where
  templates : (payload.manifests.map fun entry => entry.template.id).Nodup
  manifestSources : ∀ entry ∈ payload.manifests, ∀ source ∈ entry.sources,
    source.verifiedAt ≤ entry.verifiedAt + clockSkew
  modelSources : ∀ entry ∈ payload.models, ∀ source ∈ entry.sources,
    source.verifiedAt ≤ entry.verifiedAt + clockSkew

instance (payload : CatalogPayload) : Decidable payload.Mergeable :=
  decidable_of_iff (_ ∧ _ ∧ _) ⟨fun h => ⟨h.1, h.2.1, h.2.2⟩,
    fun h => ⟨h.templates, h.manifestSources, h.modelSources⟩⟩

/-! ### The identifier of a layer -/

/-- The decimal text of a 64-bit number has at most 20 bytes, all of them digits. -/
theorem toString_u64 (hn : n ≤ u64Max) :
    byteLen (toString n) ≤ 20 ∧ ∀ c ∈ (toString n).toList, c.isDigit = true := by
  have hdigits : ∀ c ∈ (toString n).toList, c.isDigit = true := by
    intro c hc
    rw [Nat.toString_eq_repr, Nat.toList_repr] at hc
    exact Nat.isDigit_of_mem_toDigits (by omega) (by omega) hc
  have hascii : ∀ c ∈ (toString n).toList, c.val ≤ 127 := by
    intro c hc
    have hdigit := hdigits c hc
    simp only [Char.isDigit, Bool.and_eq_true, decide_eq_true_eq] at hdigit
    exact UInt32.le_trans hdigit.2 (by decide)
  refine ⟨?_, hdigits⟩
  rw [byteLen_of_ascii hascii, charCount, Nat.toString_eq_repr, String.length_toList,
    Nat.length_repr_le_iff (by omega)]
  simp only [u64Max] at hn
  omega

/-- The characters of identifiers. -/
def isIdentifierChar (c : Char) : Bool :=
  isAsciiAlphanumeric c || c ∈ ['-', '_', '.', ':', '/']

theorem isIdentifierChar_of_isDigit (h : c.isDigit = true) :
    isIdentifierChar c = true := by
  simp only [Char.isDigit, Bool.and_eq_true, decide_eq_true_eq] at h
  have hdigit : ('0' ≤ c && c ≤ '9') = true := by
    simp only [Bool.and_eq_true, decide_eq_true_eq]
    exact h
  rw [isIdentifierChar, isAsciiAlphanumeric, hdigit]
  simp

theorem isIdentifierChar_of_isKeyId {value : String} (h : isKeyId value = true) :
    ∀ c ∈ value.toList, isIdentifierChar c = true := by
  intro c hc
  rw [isKeyId, Bool.and_eq_true, all_eq_true] at h
  have hchar := h.2 c hc
  simp only [Bool.or_eq_true, beq_iff_eq] at hchar
  rcases hchar with (hlower | hdigit) | rfl
  · rw [isIdentifierChar, isAsciiAlphanumeric, hlower]
    rfl
  · rw [isIdentifierChar, isAsciiAlphanumeric, hdigit]
    simp
  · rfl

/-- The identifier of the layer of a verified update is one. -/
theorem isCatalogIdentifier_layer {update : VerifiedCatalogUpdate}
    (hkey : isKeyId update.signingKeyId = true) (hrev : update.payload.revision ≤ u64Max) :
    isCatalogIdentifier update.layer.id maxModelEntryIdBytes = true := by
  obtain ⟨hlen, hdigits⟩ := toString_u64 hrev
  have hkeyLen : byteLen update.signingKeyId ≤ 64 := by
    rw [isKeyId, Bool.and_eq_true, Bool.and_eq_true] at hkey
    exact of_decide_eq_true hkey.1.2
  have hkeyChars := isIdentifierChar_of_isKeyId hkey
  have hsigned : byteLen "signed:" = 7 := by decide
  have hcolon : byteLen ":" = 1 := by decide
  show isCatalogIdentifier ("signed:" ++ update.signingKeyId ++ ":" ++
    toString update.payload.revision) maxModelEntryIdBytes = true
  rw [isCatalogIdentifier, Bool.and_eq_true, Bool.and_eq_true]
  refine ⟨⟨?_, ?_⟩, ?_⟩
  · rw [bne_iff_ne, ne_eq, ← asBytes_eq_nil]
    intro hnil
    have hzero := congrArg List.length hnil
    simp only [asBytes_append, length_append, length_nil] at hzero
    have hpos : (asBytes "signed:").length = 7 := hsigned
    omega
  · apply decide_eq_true
    rw [byteLen_append, byteLen_append, byteLen_append, maxModelEntryIdBytes]
    omega
  · show (List.all _ isIdentifierChar) = true
    simp only [String.toList_append, all_append, Bool.and_eq_true]
    refine ⟨⟨⟨by decide, ?_⟩, by decide⟩, ?_⟩
    · exact all_eq_true.mpr hkeyChars
    · exact all_eq_true.mpr fun c hc => isIdentifierChar_of_isDigit (hdigits c hc)

/-! ### Entries -/

theorem validateSourcesAt_ok :
    validateSourcesAt V sources moment = .ok u ↔ validateCatalogSourceBasics V sources = .ok () ∧
      ∀ source ∈ sources, source.verifiedAt ≤ moment + clockSkew := by
  rw [validateSourcesAt, unit_bind_ok, require_ok]

variable {update : VerifiedCatalogUpdate}

/-- A manifest entry that was verified passes the merge iff its sources are timely. -/
theorem validateLayerManifest_iff (h : validateManifestEntry E entry update.payload = .ok ())
    (htime : update.payload.issuedAt ≤ update.payload.effectiveAt) :
    validateLayerManifest E.validators entry update.layer = .ok () ↔
      ∀ source ∈ entry.sources, source.verifiedAt ≤ entry.verifiedAt + clockSkew := by
  obtain ⟨⟨hsound, hsrc, hver, hexpiry, houtlives⟩, hfields, h⟩ := guards₂ h
  obtain ⟨hman, hsources⟩ := guard_ok.mp h
  obtain ⟨hbasics, _⟩ := validateSourcesAt_ok.mp hsources
  have hlayer : entry.verifiedAt ≤ update.layer.effectiveAt + clockSkew :=
    le_trans hver (Int.add_le_add_right htime _)
  rw [validateLayerManifest, guard_ok, guard_ok, guard_ok, validateSourcesAt_ok]
  constructor
  · rintro ⟨_, _, _, _, htimes⟩
    exact htimes
  · intro htimes
    exact ⟨⟨hsound, hsrc, hlayer, hexpiry, houtlives⟩, hfields, hman, hbasics, htimes⟩

/-- A model entry that was verified passes the merge iff its sources are timely. -/
theorem validateLayerModel_iff (h : validateModelEntry E entry update.payload = .ok ())
    (htime : update.payload.issuedAt ≤ update.payload.effectiveAt) :
    validateLayerModel E.validators entry update.layer = .ok () ↔
      ∀ source ∈ entry.sources, source.verifiedAt ≤ entry.verifiedAt + clockSkew := by
  obtain ⟨⟨hid, htmpl, hvers, _, _, hver, hexpiry, houtlives⟩, h⟩ := guard_ok.mp h
  obtain ⟨hmatch, h⟩ := unit_bind_ok.mp h
  obtain ⟨hcaps, h⟩ := unit_bind_ok.mp h
  obtain ⟨hparams, hsources⟩ := unit_bind_ok.mp h
  obtain ⟨hbasics, _⟩ := validateSourcesAt_ok.mp hsources
  have hlayer : entry.verifiedAt ≤ update.layer.effectiveAt + clockSkew :=
    le_trans hver (Int.add_le_add_right htime _)
  rw [validateLayerModel, guard_ok, unit_bind_ok, unit_bind_ok, unit_bind_ok, validateSourcesAt_ok]
  constructor
  · rintro ⟨_, _, _, _, _, htimes⟩
    exact htimes
  · intro htimes
    exact ⟨⟨hid, htmpl, hvers, hlayer, hexpiry, houtlives⟩, hmatch, hcaps, hparams, hbasics, htimes⟩

/-! ### Payloads -/

/-- What the verifier has established of the entries of a payload. -/
theorem validatePayloadStructure_ok (h : validatePayloadStructure E payload = .ok u) :
    payload.revision ≠ 0 ∧ payload.issuedAt ≤ payload.effectiveAt ∧
      payload.effectiveAt < payload.expiresAt ∧
      (∀ entry ∈ payload.manifests, validateManifestEntry E entry payload = .ok ()) ∧
      (payload.models.map CatalogModelEntry.id).Nodup ∧
      ∀ entry ∈ payload.models, validateModelEntry E entry payload = .ok () := by
  obtain ⟨_, _, h⟩ := rest₂ h
  obtain ⟨hrev, h⟩ := guard_ok.mp h
  obtain ⟨_, _, h⟩ := rest₂ h
  obtain ⟨_, htime, _, hmans, hmods⟩ := steps₂ h
  obtain ⟨hissued, heffective, _⟩ := require_ok.mp htime
  obtain ⟨_, _, hmans⟩ := forEachUnique_ok.mp hmans
  obtain ⟨hnodup, _, hmods⟩ := forEachUnique_ok.mp hmods
  exact ⟨hrev, hissued, heffective, hmans, hnodup, hmods⟩

/-- **Which signed payloads can be merged.** Where a payload verifies, its layer passes the merge
    iff its templates differ and no source is later than its entry's verification allows. -/
theorem validateLayers_layer_iff (hkey : isKeyId update.signingKeyId = true)
    (hrev : update.payload.revision ≤ u64Max)
    (h : validatePayloadStructure E update.payload = .ok ()) :
    validateLayers E.validators [update.layer] = .ok () ↔ update.payload.Mergeable := by
  obtain ⟨hpositive, hissued, heffective, hmans, hnodup, hmods⟩ :=
    validatePayloadStructure_ok h
  rw [validateLayers_ok, forall_mem_singleton, validateLayer, guard_ok,
    unit_bind_ok, forEachUnique_ok, forEachUnique_ok]
  constructor
  · rintro ⟨_, _, ⟨htmpls, _, hpassMans⟩, _, _, hpassMods⟩
    exact {
      templates := htmpls
      manifestSources := fun entry hent =>
        (validateLayerManifest_iff (hmans entry hent) hissued).mp (hpassMans entry hent)
      modelSources := fun entry hent =>
        (validateLayerModel_iff (hmods entry hent) hissued).mp (hpassMods entry hent) }
  · intro hmergeable
    have hexpiry : ∀ expiry ∈ update.layer.expiresAt, update.layer.effectiveAt < expiry := by
      rintro expiry ⟨⟩
      exact heffective
    refine ⟨nodup_singleton _, ⟨isCatalogIdentifier_layer hkey hrev, hpositive, hexpiry⟩,
      ⟨hmergeable.templates, fun _ _ => not_mem_nil, fun entry hent => ?_⟩, hnodup,
      fun _ _ => not_mem_nil, fun entry hent => ?_⟩
    · exact (validateLayerManifest_iff (hmans entry hent) hissued).mpr
        (hmergeable.manifestSources entry hent)
    · exact (validateLayerModel_iff (hmods entry hent) hissued).mpr
        (hmergeable.modelSources entry hent)

/-! ### A payload that verifies and cannot be merged -/

/-- The sample payload with a second version of its template. -/
def twoVersions : CatalogPayload where
  schemaVersion := samplePayload.schemaVersion
  catalogId := samplePayload.catalogId
  revision := samplePayload.revision
  issuedAt := samplePayload.issuedAt
  effectiveAt := samplePayload.effectiveAt
  expiresAt := samplePayload.expiresAt
  manifests := samplePayload.manifests ++ samplePayload.manifests.map fun entry =>
    { entry with template := { entry.template with manifestVersion := 2 } }
  models := samplePayload.models

theorem validateLayers_layer_iff_samplePayload :
    validateLayers sampleEngine.validators [sampleVerified.layer] = .ok () ↔
      samplePayload.Mergeable :=
  validateLayers_layer_iff (by decide) (by decide) (by decide)

theorem twoVersions_not_merged :
    validatePayloadStructure sampleEngine twoVersions = .ok () ∧
      validateLayers sampleEngine.validators [{ sampleVerified with payload := twoVersions }.layer] =
        .error .duplicateEntry :=
  ⟨by decide, by decide⟩

end LorePia.Catalog
