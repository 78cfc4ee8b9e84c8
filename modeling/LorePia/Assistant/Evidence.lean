import LorePia.Assistant.Engine
import Mathlib.Algebra.BigOperators.Group.List.Basic
import Mathlib.Tactic.IntervalCases

namespace LorePia.Assistant

open Lib List

/-!
# Evidence that survives a restore

`validateSnapshotEvidence` builds an item again from its own fields.  What was built once is built
again, unless the URL crate lengthened its URL beyond the bound or one of its claims is none:

* `validateSnapshotEvidence_ok` — exactly when a built item passes;
* `assistantEvidenceBytes_eq_some` — the total is the sum, as long as it fits;
* `evidenceOrigins_ok` — the origins of a list of evidence.
-/

variable {R : RedactionExternals} {item : RedactedAssistantEvidence}
  {evidence : List RedactedAssistantEvidence} {hash : String} {total : Nat}

/-! ### Hashes -/

def hexDigits : List Char := "0123456789abcdefABCDEF".toList

theorem mem_hexDigits (h : isAsciiHexdigit c = true) : c ∈ hexDigits := by
  have hval : c = Char.ofNat c.toNat := (Char.ofNat_toNat c).symm
  have hrange : 48 ≤ c.toNat ∧ c.toNat ≤ 57 ∨ 97 ≤ c.toNat ∧ c.toNat ≤ 102 ∨
      65 ≤ c.toNat ∧ c.toNat ≤ 70 := by
    rw [isAsciiHexdigit, Bool.or_eq_true, Bool.or_eq_true, Char.isDigit] at h
    simp only [Bool.and_eq_true, decide_eq_true_eq] at h
    rcases h with (h | h) | h
    · exact .inl h
    · exact .inr (.inl h)
    · exact .inr (.inr h)
  rw [hval]
  generalize c.toNat = n at hrange
  rcases hrange with ⟨hlow, hhigh⟩ | ⟨hlow, hhigh⟩ | ⟨hlow, hhigh⟩ <;> interval_cases n <;> decide

/-- A hexadecimal digit and its lowercase form. -/
theorem toLower_hexdigit (h : isAsciiHexdigit c = true) :
    isAsciiHexdigit c.toLower = true ∧ c.toLower.toLower = c.toLower ∧
      c.toLower.utf8Size = c.utf8Size := by
  have hall : (hexDigits.all fun c => isAsciiHexdigit c.toLower && c.toLower.toLower == c.toLower &&
      c.toLower.utf8Size == c.utf8Size) = true := by decide
  have hc := all_eq_true.mp hall c (mem_hexDigits h)
  simpa [and_assoc] using hc

theorem all_hexdigit_toAsciiLowercase (h : hash.toList.all isAsciiHexdigit = true) :
    (toAsciiLowercase hash).toList.all isAsciiHexdigit = true := by
  rw [all_eq_true] at h ⊢
  rw [toAsciiLowercase, String.toList_ofList]
  refine forall_mem_map.mpr fun d hd => ?_
  exact (toLower_hexdigit (h d hd)).1

theorem toAsciiLowercase_idem (h : hash.toList.all isAsciiHexdigit = true) :
    toAsciiLowercase (toAsciiLowercase hash) = toAsciiLowercase hash := by
  rw [all_eq_true] at h
  apply String.toList_injective
  rw [toAsciiLowercase, toAsciiLowercase, String.toList_ofList, String.toList_ofList, map_map]
  exact map_congr_left fun c hc => (toLower_hexdigit (h c hc)).2.1

theorem byteLen_toAsciiLowercase (h : hash.toList.all isAsciiHexdigit = true) :
    byteLen (toAsciiLowercase hash) = byteLen hash := by
  rw [all_eq_true] at h
  rw [byteLen, byteLen, asBytes, asBytes, toAsciiLowercase, String.toList_ofList]
  generalize hash.toList = cs at h
  induction cs with
  | nil => rfl
  | cons c cs ih =>
    rw [forall_mem_cons] at h
    rw [map_cons, flatMap_cons, flatMap_cons, length_append,
      length_append, ih h.2, String.length_utf8EncodeChar, String.length_utf8EncodeChar,
      (toLower_hexdigit h.1).2.2]

/-! ### Items -/

/-- The item was built by `RedactedAssistantEvidence::new`. -/
def RedactedAssistantEvidence.Built (R : RedactionExternals) (item : RedactedAssistantEvidence) :
    Prop :=
  ∃ input, RedactedAssistantEvidence.new R input = .ok item

/-- The URL of the item is within the bound that its input was within, and every claim is one that
    `EvidenceClaim::new` makes. -/
def RedactedAssistantEvidence.Restores (R : RedactionExternals) (item : RedactedAssistantEvidence) :
    Prop :=
  byteLen item.sourceUrl ≤ maxQueryBytes ∧
    ∀ claim ∈ item.claims, EvidenceClaim.new R claim.field claim.normalizedValue = .ok claim

instance (R : RedactionExternals) (item : RedactedAssistantEvidence) :
    Decidable (item.Restores R) := by
  unfold RedactedAssistantEvidence.Restores
  infer_instance

theorem claim_new_eq (h : EvidenceClaim.new R claim.field claim.normalizedValue = .ok claim') :
    claim' = claim := by
  obtain ⟨_, _, h⟩ := rest₂ h
  exact (pure_inj h).symm

/-- What `RedactedAssistantEvidence::new` checks, and what it makes of its arguments. -/
theorem evidence_new_ok :
    RedactedAssistantEvidence.new R input = .ok item ↔
      ∃ url, validateIdentifier input.id.val = .ok () ∧
        canonicalRedactedSourceUrl R input.sourceUrl = .ok url ∧
        (byteLen input.contentSha256 = 64 ∧ input.contentSha256.toList.all isAsciiHexdigit = true) ∧
        validateBoundedRedactedText R input.excerpt maxEvidenceExcerptBytes = .ok () ∧
        input.claims.length ≤ maxClaimsPerEvidence ∧
        (input.claims.map EvidenceClaim.field).Nodup ∧
        item = ⟨input.id, input.kind, url, toAsciiLowercase input.contentSha256, input.excerpt,
          input.claims, input.redactionCount⟩ := by
  rw [RedactedAssistantEvidence.new, unit_bind_ok, bind_ok, ← exists_and_left]
  refine exists_congr fun url => and_congr_right fun _ => and_congr_right fun _ => ?_
  rw [guard_ok, unit_bind_ok, guard_ok, guard_ok, pure_ok, Except.ok.injEq, eq_comm (b := item)]

/-- **A built item passes iff its URL is within the bound and its claims are claims.** -/
theorem validateSnapshotEvidence_ok (hurls : UrlsRoundTrip R) (hbuilt : item.Built R) :
    validateSnapshotEvidence R item = .ok () ↔ item.Restores R := by
  obtain ⟨input, hnew⟩ := hbuilt
  obtain ⟨url, hid, hurl, ⟨hlen, hhex⟩, hexcerpt, hlength, hnodup, rfl⟩ := evidence_new_ok.mp hnew
  have hhash : byteLen (toAsciiLowercase input.contentSha256) = 64 ∧
      (toAsciiLowercase input.contentSha256).toList.all isAsciiHexdigit = true :=
    ⟨(byteLen_toAsciiLowercase hhex).trans hlen, all_hexdigit_toAsciiLowercase hhex⟩
  have hcanon := canonicalRedactedSourceUrl_canonical hurls hurl
  constructor
  · intro h
    obtain ⟨claims, hclaims, canonical, hagain, hsame⟩ := steps₂ h
    rw [mapError_ok, mapM_ok_self fun claim claim' => claim_new_eq] at hclaims
    obtain ⟨rfl, hclaims⟩ := hclaims
    rw [mapError_ok] at hagain
    obtain rfl := require_ok.mp hsame
    obtain ⟨url', _, hurl', _, _, _, _, heq⟩ := evidence_new_ok.mp hagain
    rw [RedactedAssistantEvidence.mk.injEq] at heq
    obtain rfl : url = url' := heq.2.2.1
    exact ⟨hcanon.mp hurl', hclaims⟩
  · rintro ⟨hurlLen, hclaims⟩
    have hself : RedactedAssistantEvidence.new R ⟨input.id, input.kind, url,
        toAsciiLowercase input.contentSha256, input.excerpt, input.claims,
        input.redactionCount⟩ = .ok ⟨input.id, input.kind, url,
          toAsciiLowercase input.contentSha256, input.excerpt, input.claims,
          input.redactionCount⟩ := by
      refine evidence_new_ok.mpr ⟨url, hid, hcanon.mpr hurlLen, hhash, hexcerpt, hlength,
        hnodup, ?_⟩
      rw [toAsciiLowercase_idem hhex]
    refine bind_ok.mpr ⟨input.claims, ?_, then_ok (mapError_ok.mpr hself) (require_ok.mpr rfl)⟩
    rw [mapError_ok, mapM_ok_self fun claim claim' => claim_new_eq]
    exact ⟨rfl, hclaims⟩

/-- The origin of a built item can be read. -/
theorem origin_of_built (hurls : UrlsRoundTrip R) (hbuilt : item.Built R) :
    ∃ origin, sourceOrigin R item.sourceUrl = .ok origin := by
  obtain ⟨input, hnew⟩ := hbuilt
  obtain ⟨url, _, hurl, _, _, _, _, rfl⟩ := evidence_new_ok.mp hnew
  exact sourceOrigin_isOk hurls hurl

/-! ### Totals -/

/-- The bytes of an item, whether or not they fit. -/
def itemSize (item : RedactedAssistantEvidence) : Nat :=
  byteLen item.excerpt + byteLen item.sourceUrl + byteLen item.contentSha256

def evidenceSize (evidence : List RedactedAssistantEvidence) : Nat := (evidence.map itemSize).sum

theorem evidenceItemBytes_eq_some :
    evidenceItemBytes item = some n ↔ itemSize item = n ∧ n ≤ u64Max := by
  simp only [evidenceItemBytes, Option.bind_eq_some_iff, checkedAdd_eq_some, itemSize]
  constructor
  · rintro ⟨_, ⟨_, rfl⟩, h, rfl⟩
    exact ⟨rfl, h⟩
  · rintro ⟨rfl, h⟩
    exact ⟨_, ⟨by omega, rfl⟩, h, rfl⟩

theorem addItemBytes_eq_some :
    addItemBytes total item = some n ↔ total + itemSize item = n ∧ n ≤ u64Max := by
  simp only [addItemBytes, Option.bind_eq_some_iff, checkedAdd_eq_some, itemSize]
  constructor
  · rintro ⟨_, ⟨_, rfl⟩, _, ⟨_, rfl⟩, h, rfl⟩
    exact ⟨by omega, h⟩
  · rintro ⟨rfl, h⟩
    exact ⟨_, ⟨by omega, rfl⟩, _, ⟨by omega, rfl⟩, by omega, by omega⟩

theorem evidenceBytesFrom_eq_some (htotal : total ≤ u64Max) :
    evidenceBytesFrom total evidence = some n ↔ total + evidenceSize evidence = n ∧ n ≤ u64Max := by
  induction evidence generalizing total with
  | nil =>
    rw [evidenceBytesFrom, Option.some.injEq, evidenceSize, map_nil, sum_nil]
    omega
  | cons item items ih =>
    have hsize : evidenceSize (item :: items) = itemSize item + evidenceSize items := by
      rw [evidenceSize, map_cons, sum_cons, evidenceSize]
    simp only [evidenceBytesFrom, Option.bind_eq_some_iff, addItemBytes_eq_some, hsize]
    constructor
    · rintro ⟨m, ⟨rfl, hm⟩, h⟩
      obtain ⟨h, hn⟩ := (ih hm).mp h
      exact ⟨by omega, hn⟩
    · rintro ⟨h, hn⟩
      have hm : total + itemSize item ≤ u64Max := by omega
      exact ⟨_, ⟨rfl, hm⟩, (ih hm).mpr ⟨by omega, hn⟩⟩

/-- **The total is the sum, as long as it fits.** -/
theorem assistantEvidenceBytes_eq_some :
    assistantEvidenceBytes evidence = some n ↔ evidenceSize evidence = n ∧ n ≤ u64Max := by
  rw [assistantEvidenceBytes, evidenceBytesFrom_eq_some (Nat.zero_le _), Nat.zero_add]

theorem evidenceSize_of_perm (h : evidence'.Perm evidence) :
    evidenceSize evidence' = evidenceSize evidence := (h.map itemSize).sum_eq

theorem evidenceSize_append_singleton :
    evidenceSize (evidence ++ [item]) = evidenceSize evidence + itemSize item := by
  simp [evidenceSize]

/-! ### Origins -/

theorem sourceOrigins_ok (h : sourceOrigins R evidence = .ok origins) :
    (∀ item ∈ evidence, ∃ origin ∈ origins, sourceOrigin R item.sourceUrl = .ok origin) ∧
      ∀ origin ∈ origins, ∃ item ∈ evidence, sourceOrigin R item.sourceUrl = .ok origin := by
  induction evidence generalizing origins with
  | nil =>
    cases h
    exact ⟨by simp, by simp⟩
  | cons item items ih =>
    obtain ⟨origin, horig, rest, hrest, h⟩ := steps₂ h
    cases pure_inj h
    obtain ⟨hitems, horigs⟩ := ih hrest
    rw [forall_mem_cons, forall_mem_cons]
    refine ⟨⟨⟨origin, mem_cons_self, horig⟩, fun item' hitem => ?_⟩,
      ⟨item, mem_cons_self, horig⟩, fun origin' hmem => ?_⟩
    · obtain ⟨origin', hmem, heq⟩ := hitems item' hitem
      exact ⟨origin', mem_cons_of_mem _ hmem, heq⟩
    · obtain ⟨item', hitem, heq⟩ := horigs origin' hmem
      exact ⟨item', mem_cons_of_mem _ hitem, heq⟩

theorem sourceOrigins_isOk
    (h : ∀ item ∈ evidence, ∃ origin, sourceOrigin R item.sourceUrl = .ok origin) :
    ∃ origins, sourceOrigins R evidence = .ok origins := by
  induction evidence with
  | nil => exact ⟨[], rfl⟩
  | cons item items ih =>
    rw [forall_mem_cons] at h
    obtain ⟨⟨origin, horig⟩, hitems⟩ := h
    obtain ⟨origins, horigs⟩ := ih hitems
    refine ⟨origin :: origins, ?_⟩
    rw [sourceOrigins, horig, ok_bind, horigs]
    rfl

/-- The origins are those of the items, each item has one, and they are in canonical form. -/
theorem evidenceOrigins_ok (h : evidenceOrigins R evidence = .ok origins) :
    (∀ item ∈ evidence, ∃ origin ∈ origins, sourceOrigin R item.sourceUrl = .ok origin) ∧
      (∀ origin ∈ origins, ∃ item ∈ evidence, sourceOrigin R item.sourceUrl = .ok origin) ∧
      canonical id origins = origins := by
  obtain ⟨raw, hraw, rfl⟩ := last_step h
  obtain ⟨hitems, horigs⟩ := sourceOrigins_ok hraw
  refine ⟨fun item hitem => ?_, fun origin hmem => ?_, canonical_canonical⟩
  · obtain ⟨origin, hmem, heq⟩ := hitems item hitem
    exact ⟨origin, mem_canonical.mpr hmem, heq⟩
  · exact horigs origin (mem_canonical.mp hmem)

/-- **Evidence from an approved origin changes no origins.** -/
theorem evidenceOrigins_add {origin : String} (h : evidenceOrigins R evidence = .ok origins)
    (hsrc : sourceOrigin R item.sourceUrl = .ok origin) (happr : origin ∈ origins)
    (hperm : evidence'.Perm (evidence ++ [item])) :
    evidenceOrigins R evidence' = .ok origins := by
  obtain ⟨hitems, horigs, hcanon⟩ := evidenceOrigins_ok h
  have hall : ∀ item' ∈ evidence', ∃ origin' ∈ origins,
      sourceOrigin R item'.sourceUrl = .ok origin' := by
    intro item' hitem'
    rcases mem_append.mp (hperm.mem_iff.mp hitem') with hold | hnew
    · exact hitems item' hold
    · obtain rfl := mem_singleton.mp hnew
      exact ⟨origin, happr, hsrc⟩
  obtain ⟨raw, hraw⟩ := sourceOrigins_isOk fun item' hitem' => (hall item' hitem').imp fun _ h => h.2
  obtain ⟨hraws, hraws'⟩ := sourceOrigins_ok hraw
  rw [evidenceOrigins, hraw, ok_bind, pure_ok, ← hcanon]
  congr 1
  refine (canonical_eq_iff Function.injective_id).mpr fun origin' => ⟨fun hmem => ?_, fun hmem => ?_⟩
  · obtain ⟨item', hitem', heq⟩ := hraws' origin' hmem
    obtain ⟨origin'', hmem'', heq''⟩ := hall item' hitem'
    rw [heq] at heq''
    exact Except.ok.inj heq'' ▸ hmem''
  · obtain ⟨item', hitem', heq⟩ := horigs origin' hmem
    have hmem' : item' ∈ evidence' := hperm.mem_iff.mpr (mem_append_left _ hitem')
    obtain ⟨origin'', hmem'', heq''⟩ := hraws item' hmem'
    rw [heq] at heq''
    exact Except.ok.inj heq'' ▸ hmem''

end LorePia.Assistant
