import LorePia.Assistant.Restore
import LorePia.Lib.Table

namespace LorePia.Assistant

open Lib List
open Discovery (EvidenceId)

/-!
# Setup assistant — what an accepted draft rests on

Every part of an accepted manifest is mapped to evidence that claims it, its sources are items of
the evidence, and the conflicts of the evidence are reported as they are.

* `checkMappings_ok`, `validateConflict_ok` — what the checks let through;
* `validateDraft_grounded` — an accepted draft.
-/

variable {X : DraftExternals} {evidence : List RedactedAssistantEvidence} {field : DraftField}
  {draft : AssistantManifestDraft} {manifest : ProviderManifest} {value : String} {id : EvidenceId}

/-- An item of the evidence claims a value for a field. -/
def Claimed (evidence : List RedactedAssistantEvidence) (id : EvidenceId) (field : DraftField)
    (value : String) : Prop :=
  ∃ item ∈ evidence, item.id = id ∧ ⟨field, value⟩ ∈ item.claims

/-- The parts of a manifest: the field of each, and the text that claims of it have. -/
inductive PartOf (X : DraftExternals) (manifest : ProviderManifest) :
    DraftField → Option String → Prop
  | apiFamily : PartOf X manifest .apiFamily (some (apiFamilyWireName manifest.apiFamily))
  | auth : PartOf X manifest .auth (X.authJson manifest.auth)
  | generateEndpoint : PartOf X manifest .generateEndpoint
      (some (endpointValue manifest.endpoints.generate.method manifest.endpoints.generate.path.val))
  | responseDecoder :
      PartOf X manifest .responseDecoder (some (decoderWireName manifest.decoders.response))
  | defaultApiOrigin {origin : CanonicalOrigin} (h : manifest.defaultApiOrigin = some origin) :
      PartOf X manifest .defaultApiOrigin (some origin.val)
  | modelsEndpoint {endpoint : EndpointSpec} (h : manifest.endpoints.models = some endpoint) :
      PartOf X manifest .modelsEndpoint (some (endpointValue endpoint.method endpoint.path.val))
  | streamingDecoder {decoder : DecoderId} (h : manifest.decoders.streaming = some decoder) :
      PartOf X manifest .streamingDecoder (some (decoderWireName decoder))
  | parameter {parameter : ParameterSpec} (h : parameter ∈ manifest.parameters) :
      PartOf X manifest (.parameter parameter.id) (X.parameterJson parameter)

/-- A mapping cites items that claim its field, one of them with the value of the manifest. -/
def Supported (X : DraftExternals) (manifest : ProviderManifest)
    (evidence : List RedactedAssistantEvidence) (mapping : FieldEvidenceMapping) : Prop :=
  (∀ id ∈ mapping.evidenceIds, ∃ value, Claimed evidence id mapping.field value) ∧
    ∃ id ∈ mapping.evidenceIds, ∃ value, PartOf X manifest mapping.field (some value) ∧
      Claimed evidence id mapping.field value

/-- What an accepted draft rests on. -/
structure Grounded (X : DraftExternals) (evidence : List RedactedAssistantEvidence)
    (draft : AssistantManifestDraft) (unresolved : List DraftField) : Prop where
  mapped : ∀ field value, PartOf X draft.manifest field value → ∃ mapping,
    (draft.evidenceMappings.filter fun other => other.field = field) = [mapping] ∧
      (∀ id ∈ mapping.evidenceIds, ∃ claimed, Claimed evidence id field claimed) ∧
      ∃ id ∈ mapping.evidenceIds, ∃ claimed, value = some claimed ∧ Claimed evidence id field claimed
  sources : ∀ source ∈ draft.manifest.sources, ∃ item ∈ evidence, ∃ hash,
    source.contentSha256 = some hash ∧ item.sourceUrl = source.url.val ∧
      toAsciiLowercase item.contentSha256 = toAsciiLowercase hash ∧
      evidenceKindSupportsSourceKind item.kind source.kind = true
  once : (draft.conflicts.map EvidenceConflict.field).Nodup
  reported : ∀ field, field ∈ draft.conflicts.map EvidenceConflict.field ↔
    ∃ item ∈ evidence, ∃ item' ∈ evidence, item ≠ item' ∧ ∃ value value', value ≠ value' ∧
      ⟨field, value⟩ ∈ item.claims ∧ ⟨field, value'⟩ ∈ item'.claims
  listed : ∀ conflict ∈ draft.conflicts, conflict.evidenceIds.Nodup ∧
    ∀ id, id ∈ conflict.evidenceIds ↔ ∃ value, Claimed evidence id conflict.field value
  resolved : ∀ conflict ∈ draft.conflicts, ∀ selected rationale,
    conflict.disposition = .resolved selected rationale →
      ∃ value, Claimed evidence selected conflict.field value ∧
        PartOf X draft.manifest conflict.field (some value)
  unresolved : ∀ field, field ∈ unresolved ↔ ∃ conflict ∈ draft.conflicts,
    conflict.field = field ∧ conflict.disposition = .unresolved

/-! ### Parts -/

theorem field_mem_of_partOf {value : Option String} (h : PartOf X manifest field value) :
    field ∈ expectedDraftFields manifest := by
  cases h with
  | parameter h => exact mem_append_right _ (mem_map_of_mem h)
  | _ => simp_all [expectedDraftFields]

theorem partOf_of_draftFieldValue (h : draftFieldValue X manifest field = some value) :
    PartOf X manifest field (some value) := by
  cases field with
  | parameter id =>
    obtain ⟨parameter, hfind, hjson⟩ := Option.bind_eq_some_iff.mp h
    obtain rfl : parameter.id = id := by simpa using find?_some hfind
    rw [← hjson]
    exact .parameter (mem_of_find?_eq_some hfind)
  | defaultApiOrigin =>
    obtain ⟨_, horig, rfl⟩ := Option.map_eq_some_iff.mp h
    exact .defaultApiOrigin horig
  | modelsEndpoint =>
    obtain ⟨_, hmods, rfl⟩ := Option.map_eq_some_iff.mp h
    exact .modelsEndpoint hmods
  | streamingDecoder =>
    obtain ⟨_, hstream, rfl⟩ := Option.map_eq_some_iff.mp h
    exact .streamingDecoder hstream
  | auth =>
    rw [← h]
    exact .auth
  | apiFamily => exact h ▸ .apiFamily
  | generateEndpoint => exact h ▸ .generateEndpoint
  | responseDecoder => exact h ▸ .responseDecoder

/-- The value of a field is that of its part, as long as no parameter id repeats. -/
theorem draftFieldValue_of_partOf {value : Option String}
    (hids : (manifest.parameters.map ParameterSpec.id).Nodup)
    (h : PartOf X manifest field value) : draftFieldValue X manifest field = value := by
  cases h with
  | @parameter parameter h =>
    let t : Table ParameterId ParameterSpec ParameterSpec.id := ⟨manifest.parameters, hids⟩
    have hfind : t.find? parameter.id = some parameter := Table.find?_eq_some.mpr ⟨h, rfl⟩
    exact congrArg (Option.bind · X.parameterJson) hfind
  | _ => simp_all [draftFieldValue]

/-! ### Mappings -/

theorem checkCitations_ok (h : checkCitations evidence field value seen ids = .ok matching) :
    (∀ id ∈ ids, ∃ claimed, Claimed evidence id field claimed) ∧
      (matching = true → ∃ id ∈ ids, Claimed evidence id field value) := by
  induction ids generalizing seen matching with
  | nil =>
    cases h
    exact ⟨forall_mem_nil _, fun h => by cases h⟩
  | cons id ids ih =>
    obtain ⟨-, h⟩ := guard_ok.mp h
    obtain ⟨item, hitem, claim, hclaim, others, hothers, h⟩ := steps₃ h
    obtain rfl := pure_inj h
    obtain ⟨hall, hsome⟩ := ih hothers
    have hfind := okOr_ok.mp hitem
    have hmem := mem_of_find?_eq_some (okOr_ok.mp hclaim)
    obtain rfl : claim.field = field := by simpa using find?_some (okOr_ok.mp hclaim)
    have hclaimed : Claimed evidence id claim.field claim.normalizedValue :=
      ⟨item, mem_reverse.mp (mem_of_find?_eq_some hfind), by simpa using find?_some hfind, hmem⟩
    refine ⟨forall_mem_cons.mpr ⟨⟨_, hclaimed⟩, hall⟩, fun hmatching => ?_⟩
    rw [Bool.or_eq_true, beq_iff_eq] at hmatching
    rcases hmatching with heq | hothers
    · exact ⟨id, mem_cons_self, heq ▸ hclaimed⟩
    · obtain ⟨other, hother, hvalue⟩ := hsome hothers
      exact ⟨other, mem_cons_of_mem id hother, hvalue⟩

/-- **Mappings.** They have different fields, and each is supported. -/
theorem checkMappings_ok (h : checkMappings X manifest evidence seen mappings = .ok mapped) :
    (mappings.map FieldEvidenceMapping.field).Nodup ∧
      (∀ mapping ∈ mappings, mapping.field ∉ seen ∧ Supported X manifest evidence mapping) ∧
      ∀ field ∈ mapped, field ∈ seen ∨ field ∈ mappings.map FieldEvidenceMapping.field := by
  induction mappings generalizing seen with
  | nil =>
    cases h
    exact ⟨nodup_nil, forall_mem_nil _, fun _ => .inl⟩
  | cons mapping mappings ih =>
    obtain ⟨hnew, -, h⟩ := guards₂ h
    obtain ⟨value, hvalue, matching, hcited, h⟩ := steps₂ h
    obtain ⟨hmatching, h⟩ := guard_ok.mp h
    obtain ⟨hnodup, hall, hmapped⟩ := ih h
    obtain ⟨hclaimed, hsome⟩ := checkCitations_ok hcited
    obtain ⟨id, hid, hmatch⟩ := hsome hmatching
    refine ⟨nodup_cons.mpr ⟨fun hmem => ?_, hnodup⟩, ?_, fun field hfield => ?_⟩
    · obtain ⟨other, hother, heq⟩ := mem_map.mp hmem
      exact (hall other hother).1 (heq ▸ mem_cons_self)
    · refine forall_mem_cons.mpr ⟨⟨hnew, hclaimed, id, hid, value,
        partOf_of_draftFieldValue (okOr_ok.mp hvalue), hmatch⟩, fun other hother => ?_⟩
      obtain ⟨hseen, hsupported⟩ := hall other hother
      exact ⟨fun h => hseen (mem_cons_of_mem _ h), hsupported⟩
    · rcases hmapped field hfield with hseen | hmem
      · exact (mem_cons.mp hseen).elim (fun heq => .inr (heq ▸ mem_cons_self)) .inl
      · exact .inr (mem_cons_of_mem _ hmem)

/-! ### Conflicts -/

/-- The claims of a field, as `claimedValues` gathers them. -/
theorem mem_claims : (value, id) ∈ (evidence.flatMap fun item =>
    (item.claims.filter fun claim => claim.field = field).map fun claim =>
      (claim.normalizedValue, item.id)) ↔ Claimed evidence id field value := by
  simp only [Claimed, mem_flatMap, mem_map, mem_filter, decide_eq_true_eq, Prod.mk.injEq]
  constructor
  · rintro ⟨item, hitem, claim, ⟨hclaim, rfl⟩, rfl, rfl⟩
    exact ⟨item, hitem, rfl, hclaim⟩
  · rintro ⟨item, hitem, rfl, hclaim⟩
    exact ⟨item, hitem, _, ⟨hclaim, rfl⟩, rfl, rfl⟩

theorem mem_claimedValues (h : entry ∈ claimedValues evidence field) :
    id ∈ entry.2 ↔ Claimed evidence id field entry.1 := by
  obtain ⟨value, -, rfl⟩ := mem_map.mp h
  rw [← mem_claims]
  simp [mem_map, mem_filter]

theorem exists_mem_claimedValues :
    (∃ entry ∈ claimedValues evidence field, entry.1 = value) ↔
      ∃ id, Claimed evidence id field value := by
  simp only [← mem_claims, claimedValues, mem_map, mem_canonical, Prod.exists, exists_eq_right,
    exists_exists_and_eq_and]
  constructor
  · rintro ⟨_, id, h, rfl⟩
    exact ⟨id, h⟩
  · rintro ⟨id, h⟩
    exact ⟨_, id, h, rfl⟩

theorem mem_claimants : id ∈ (claimedValues evidence field).flatMap Prod.snd ↔
    ∃ value, Claimed evidence id field value := by
  rw [mem_flatMap]
  constructor
  · rintro ⟨entry, hentry, hid⟩
    exact ⟨entry.1, (mem_claimedValues hentry).mp hid⟩
  · rintro ⟨value, hclaimed⟩
    obtain ⟨entry, hentry, rfl⟩ := exists_mem_claimedValues.mpr ⟨id, hclaimed⟩
    exact ⟨entry, hentry, (mem_claimedValues hentry).mpr hclaimed⟩

theorem one_lt_length_iff {α : Type} {l : List α} (h : l.Nodup) :
    1 < l.length ↔ ∃ a b, a ≠ b ∧ a ∈ l ∧ b ∈ l := by
  match l with
  | [] => simp
  | [a] => simp
  | a :: b :: l =>
    have hne : a ≠ b := fun heq => (nodup_cons.mp h).1 (heq ▸ mem_cons_self)
    exact iff_of_true (by simp) ⟨a, b, hne, by simp, by simp⟩

/-- A conflict is detected where two values are claimed. -/
theorem mem_detectedConflicts : field ∈ detectedConflicts evidence ↔ ∃ value value',
    value ≠ value' ∧ (∃ id, Claimed evidence id field value) ∧
      ∃ id, Claimed evidence id field value' := by
  have hnodup : ((claimedValues evidence field).map Prod.fst).Nodup := by
    rw [claimedValues, map_map]
    exact (pairwise_lt_canonical Function.injective_id).map _ fun _ _ hlt => hlt.ne
  simp only [← exists_mem_claimedValues, ← mem_map]
  rw [← one_lt_length_iff hnodup, length_map, detectedConflicts, mem_filter, decide_eq_true_eq,
    mem_dedup, and_iff_right_iff_imp]
  intro hlen
  obtain ⟨entry, hentry⟩ := exists_mem_of_length_pos (Nat.zero_lt_of_lt hlen)
  obtain ⟨_, item, hitem, -, hclaim⟩ := exists_mem_claimedValues.mp ⟨entry, hentry, rfl⟩
  exact mem_flatMap.mpr ⟨item, hitem, mem_map_of_mem hclaim⟩

/-- **Conflicts.** A report lists the items that claim the field; a resolved one selects an item
    that claims the value of the manifest. -/
theorem validateConflict_ok (hnodup : (draft.conflicts.map EvidenceConflict.field).Nodup)
    (hmem : conflict ∈ draft.conflicts)
    (h : validateConflict X draft evidence conflict.field = .ok u) :
    (conflict.evidenceIds.Nodup ∧
      ∀ id, id ∈ conflict.evidenceIds ↔ ∃ value, Claimed evidence id conflict.field value) ∧
    ∀ selected rationale, conflict.disposition = .resolved selected rationale →
      ∃ value, Claimed evidence selected conflict.field value ∧
        PartOf X draft.manifest conflict.field (some value) := by
  let t : Table DraftField EvidenceConflict EvidenceConflict.field := ⟨draft.conflicts, hnodup⟩
  have hfind : t.find? conflict.field = some conflict := Table.find?_eq_some.mpr ⟨hmem, rfl⟩
  obtain ⟨report, hreport, h⟩ := bind_ok.mp h
  cases (okOr_ok.mp hreport).symm.trans hfind
  obtain ⟨⟨hlisted, hall, hids⟩, h⟩ := guard_ok.mp h
  refine ⟨⟨hids, fun id => ⟨fun hid => mem_claimants.mp (hlisted id hid),
    fun hid => hall id (mem_claimants.mpr hid)⟩⟩, fun selected rationale hdisposition => ?_⟩
  rw [hdisposition] at h
  obtain ⟨hsel, h⟩ := guard_ok.mp h
  have hvalue := require_ok.mp h
  obtain ⟨entry, hentry, hid⟩ := mem_flatMap.mp hsel
  cases hfirst : (claimedValues evidence conflict.field).find? fun entry => selected ∈ entry.2 with
  | none => exact absurd hid (by simpa using List.find?_eq_none.mp hfirst entry hentry)
  | some first =>
    rw [hfirst] at hvalue
    refine ⟨first.1, ?_, partOf_of_draftFieldValue hvalue.symm⟩
    exact (mem_claimedValues (mem_of_find?_eq_some hfirst)).mp (by simpa using find?_some hfirst)

/-! ### Drafts -/

/-- **Accepted drafts** rest on the evidence. -/
theorem validateDraft_grounded {families : List ApiFamily} {review : AssistantDraftReview}
    (hbuilt : ∀ item ∈ evidence, item.Built X.toRedactionExternals)
    (hids : (draft.manifest.parameters.map ParameterSpec.id).Nodup)
    (h : validateDraft X families evidence draft = .ok review) :
    review.draft = draft ∧ Grounded X evidence draft review.unresolvedConflicts := by
  obtain ⟨-, h⟩ := guard_ok.mp h
  obtain ⟨_, -, _, hsources, _, hmappings, h⟩ := steps₃ h
  obtain ⟨_, hconflicts, _, -, _, -, h⟩ := steps₃ h
  cases pure_inj h
  obtain ⟨_, hsources⟩ := guard_ok.mp hsources
  obtain ⟨mapped, hmapped, hexpected⟩ := bind_ok.mp hmappings
  obtain ⟨hfields, hsupported, hfrom⟩ := checkMappings_ok hmapped
  obtain ⟨hreported, hall, hconflicts⟩ := guards₂ hconflicts
  obtain ⟨hdetected, hconflicts⟩ := guard_ok.mp hconflicts
  have hreport : ∀ conflict ∈ draft.conflicts, _ := fun conflict hmem =>
    validateConflict_ok hreported hmem
      (forEach_ok.mp hconflicts conflict.field (hdetected _ (mem_map_of_mem hmem)))
  refine ⟨rfl, ?_, ?_, hreported, ?_, fun conflict hmem => (hreport conflict hmem).1,
    fun conflict hmem => (hreport conflict hmem).2, ?_⟩
  · intro field value hpart
    have hmem := hfrom field (require_ok.mp hexpected field (field_mem_of_partOf hpart))
    obtain ⟨mapping, hmapping, rfl⟩ := mem_map.mp (hmem.resolve_left not_mem_nil)
    obtain ⟨-, hcited, id, hid, claimed, hclaimedPart, hclaimed⟩ := hsupported mapping hmapping
    refine ⟨mapping, Table.filter_key (t := ⟨draft.evidenceMappings, hfields⟩) hmapping, hcited,
      id, hid, claimed, ?_, hclaimed⟩
    rw [← draftFieldValue_of_partOf hids hpart, draftFieldValue_of_partOf hids hclaimedPart]
  · intro source hsource
    obtain ⟨hash, hhash, hany⟩ := bind_ok.mp (forEach_ok.mp hsources source hsource)
    obtain ⟨item, hitem, hmatch⟩ := any_eq_true.mp (require_ok.mp hany)
    simp only [Bool.and_eq_true, beq_iff_eq] at hmatch
    exact ⟨item, hitem, hash, okOr_ok.mp hhash, hmatch.1.1, hmatch.1.2, hmatch.2⟩
  · intro field
    have hsame : field ∈ draft.conflicts.map EvidenceConflict.field ↔
        field ∈ detectedConflicts evidence := ⟨hdetected field, hall field⟩
    rw [hsame, mem_detectedConflicts]
    constructor
    · rintro ⟨value, value', hne, ⟨_, item, hitem, -, hclaim⟩, _, item', hitem', -, hclaim'⟩
      refine ⟨item, hitem, item', hitem', ?_, value, value', hne, hclaim, hclaim'⟩
      rintro rfl
      obtain ⟨input, hnew⟩ := hbuilt item hitem
      obtain ⟨_, _, _, _, _, _, hunique, rfl⟩ := evidence_new_ok.mp hnew
      exact hne (congrArg EvidenceClaim.normalizedValue
        (inj_on_of_nodup_map hunique hclaim hclaim' rfl))
    · rintro ⟨item, hitem, item', hitem', -, value, value', hne, hclaim, hclaim'⟩
      exact ⟨value, value', hne, ⟨_, item, hitem, rfl, hclaim⟩, _, item', hitem', rfl, hclaim'⟩
  · intro field
    simp only [unresolvedConflicts, mem_map, mem_filter, decide_eq_true_eq]
    constructor
    · rintro ⟨conflict, ⟨hmem, hdisposition⟩, hfield⟩
      exact ⟨conflict, hmem, hfield, hdisposition⟩
    · rintro ⟨conflict, hmem, hfield, hdisposition⟩
      exact ⟨conflict, ⟨hmem, hdisposition⟩, hfield⟩

/-! ### A draft about one document -/

/-- The fields of a manifest without optional parts, and their values. -/
def groundedClaims : List EvidenceClaim :=
  [⟨.apiFamily, "openai_responses"⟩, ⟨.auth, "\x7b\x7d"⟩, ⟨.generateEndpoint, "POST /v1/responses"⟩,
    ⟨.responseDecoder, "open_ai_json_v1"⟩]

def groundedItem : RedactedAssistantEvidence :=
  { sampleItem sampleUrlText with claims := groundedClaims }

def groundedDraft : AssistantManifestDraft where
  manifest :=
    { schemaVersion := 1
      apiFamily := .openAiResponses
      sources := [⟨.officialSite, ⟨sampleUrlText⟩, some sampleHash⟩]
      defaultApiOrigin := none
      auth := .none
      endpoints := ⟨none, .post, ⟨"/v1/responses"⟩⟩
      decoders := ⟨.openAiJsonV1, none⟩
      parameters := [] }
  evidenceMappings := groundedClaims.map fun claim => ⟨claim.field, [groundedItem.id], "seen"⟩
  conflicts := []
  unresolvedQuestions := []
  confidence := groundedClaims.map fun claim => ⟨claim.field, .high, "seen"⟩
  summary := "seen"

theorem validateDraft_grounded_sample : ∃ review,
    validateDraft sampleExternals.toDraftExternals [.openAiResponses] [groundedItem] groundedDraft =
      .ok review ∧
    Grounded sampleExternals.toDraftExternals [groundedItem] groundedDraft
      review.unresolvedConflicts := by
  have hbuilt : groundedItem.Built sampleExternals.toRedactionExternals :=
    ⟨{ sampleInput sampleUrlText with claims := groundedClaims }, by decide⟩
  have hreview : validateDraft sampleExternals.toDraftExternals [.openAiResponses] [groundedItem]
      groundedDraft = .ok ⟨groundedDraft, [], .default⟩ := rfl
  have hids : (groundedDraft.manifest.parameters.map ParameterSpec.id).Nodup := nodup_nil
  exact ⟨_, hreview, (validateDraft_grounded (forall_mem_singleton.mpr hbuilt) hids hreview).2⟩

end LorePia.Assistant
