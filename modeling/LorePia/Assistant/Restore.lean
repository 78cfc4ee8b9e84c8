import LorePia.Assistant.Steps
import LorePia.Lib.Exec
import Mathlib.Data.List.Perm.Subperm
import Mathlib.Data.List.Range

namespace LorePia.Assistant

open List AssistantError AssistantToolObservation Nat

open Lib Lib.Stateful
open Discovery (DiscoverySessionId ModelRouteId StableId)

/-!
# Restoring a snapshot

In every state that the operations of a constructed engine reach, all that a restore checks holds,
three things excepted: the URL crate may have lengthened a source URL beyond the bound that its
input was checked against, a claim need not be one that `EvidenceClaim::new` makes, and a draft
with a NaN is not equal to itself.

* `fromSnapshot_ok_iff` — under the invariant, a restore succeeds iff none of the three is met;
* `reachable_restores_iff` — so it is in every reachable state.
-/

variable {X : AssistantExternals} {e : SetupAssistantEngine} {c : Char} {input : String} {n : Nat}
  {observations : List AssistantToolObservation} {operation : Operation}

/-- The evidence restores, and the draft under review has no NaN. -/
def SetupAssistantEngine.Restores (X : AssistantExternals) (e : SetupAssistantEngine) : Prop :=
  (∀ item ∈ e.evidence, item.Restores X.toRedactionExternals) ∧
    ∀ review ∈ e.draftReview, review.draft.hasNan = false

/-! ### The checks of a restore -/

theorem restoredIdentity_ok (hX : X.Lawful) (h : Invariant X e) :
    validateRestoredIdentityAndEvidence X e = .ok () ↔
      ∀ item ∈ e.evidence, item.Restores X.toRedactionExternals := by
  have hbud : e.budget.validate = .ok e.budget := by
    rw [AssistantBudget.validate, require_true h.identity.budget]
    rfl
  have hfamilies : canonical apiFamilyWireName e.allowedApiFamilies ≠ [] ∧
      canonical apiFamilyWireName e.allowedApiFamilies = e.allowedApiFamilies := by
    rw [h.identity.canonical]
    exact ⟨h.identity.nonempty, rfl⟩
  have hsrt : e.evidence.length ≤ e.budget.maxEvidenceCount ∧
      (e.evidence.map RedactedAssistantEvidence.key).IsChain (· < ·) :=
    ⟨h.documented.count, (pairwise_map.mpr h.documented.sorted).isChain⟩
  have hitems : forEach (validateSnapshotEvidence X.toRedactionExternals) e.evidence = .ok () ↔
      ∀ item ∈ e.evidence, item.Restores X.toRedactionExternals := by
    rw [forEach_ok]
    exact forall₂_congr fun item hitem =>
      validateSnapshotEvidence_ok hX.urls (h.documented.built item hitem)
  have htotal : okOr (assistantEvidenceBytes e.evidence) invalidSnapshot =
      .ok e.usage.evidenceBytes := okOr_ok.mpr h.documented.total
  rw [← hitems]
  constructor
  · intro hok
    obtain ⟨_, _, _, hok⟩ := rest₃ hok
    obtain ⟨_, _, hok⟩ := rest₂ hok
    obtain ⟨_, hforEach, _⟩ := bind_ok.mp hok
    exact hforEach
  · intro hforEach
    refine then_ok (mapError_ok.mpr h.identity.session) ?_
    refine then_ok (mapError_ok.mpr h.identity.route) ?_
    refine then_ok (mapError_ok.mpr hbud) ?_
    refine guarded hfamilies (guarded hsrt ?_)
    refine then_ok hforEach (then_ok htotal ?_)
    exact require_ok.mpr ⟨rfl, h.documented.bounded⟩

theorem restoredUsage_ok (h : Invariant X e) : validateRestoredUsage e = .ok () := by
  have hbds := h.charged
  have hpaced := h.paced
  refine guarded ⟨hbds.prompt, hbds.input, hbds.output, hbds.cost,
    hbds.toolCalls, hbds.turns, hbds.retries, hpaced.toolCalls, hpaced.retries⟩ ?_
  by_cases hturns : e.usage.turns = 0
  · rw [if_pos hturns, require_true (hbds.unused hturns)]
  · rw [if_neg hturns, require_true (hbds.used hturns)]

/-- Numbers that increase within `1` to `n` are at most `n`. -/
theorem length_le_of_increasing {ids : List Nat} (hord : ids.Pairwise (· < ·))
    (hbds : ∀ id ∈ ids, 0 < id ∧ id < n + 1) : ids.length ≤ n := by
  have hsub : ids ⊆ List.range' 1 n := by
    intro id hid
    obtain ⟨hpos, hlt⟩ := hbds id hid
    rw [mem_range'_1]
    omega
  have hnodup : ids.Nodup := hord.imp fun hlt => ne_of_lt hlt
  have hle := (hnodup.subperm hsub).length_le
  rwa [length_range'] at hle

/-- The id of the last observation, or a given one. -/
def lastCallId (previous : Nat) (observations : List AssistantToolObservation) : Nat :=
  ((observations.map AssistantToolObservation.callId).getLast?).getD previous

theorem checkObservations_ok (hord : observations.Pairwise fun a b => a.callId < b.callId)
    (hprev : ∀ observation ∈ observations, previous < observation.callId)
    (hnext : ∀ observation ∈ observations, observation.callId < e.nextCallId)
    (hval : ∀ observation ∈ observations, observation.Valid X e.evidence e.allowedApiFamilies) :
    checkObservations X e previous observations = .ok (lastCallId previous observations) := by
  induction observations generalizing previous with
  | nil => rfl
  | cons observation observations ih =>
    rw [pairwise_cons] at hord
    rw [forall_mem_cons] at hprev hnext hval
    obtain ⟨⟨hres, serialized, hjson, hred⟩, hval⟩ := hval
    have hobservation : validateSnapshotToolObservation X e observation = .ok () := by
      rw [validateSnapshotToolObservation, hres, hjson, okOr, mapError_ok.mpr rfl, ok_bind,
        ok_bind, hred, mapError_ok.mpr rfl]
    rw [checkObservations, require_true ⟨hprev.1, hnext.1⟩, ok_bind, hobservation, ok_bind,
      ih hord.2 hord.1 hnext.2 hval]
    cases observations with
    | nil => rfl
    | cons => simp [lastCallId, getLast?_cons]

theorem restoredTranscript_ok (h : Invariant X e) :
    validateRestoredTranscript X e = .ok (lastCallId 0 e.toolObservations) := by
  have htran := h.transcript
  have hcalls : e.usage.toolCalls + 1 ≤ u64Max := by
    have hbud := h.identity.budget.2.2.2.2.2.1.2
    have hmax := h.charged.toolCalls
    have habs : absMaxToolCalls = 32 := rfl
    have hu64 : u64Max = 18446744073709551615 := rfl
    omega
  have hlen : e.toolObservations.length ≤ e.usage.toolCalls := by
    have hle : (e.toolObservations.map callId).length ≤
        e.usage.toolCalls := by
      apply length_le_of_increasing
      · exact pairwise_map.mpr htran.ordered
      · rw [← htran.next]
        refine forall_mem_map.mpr fun observation hmem => ?_
        exact htran.bounds observation hmem
    rwa [length_map] at hle
  rw [validateRestoredTranscript, okOr_ok.mpr (checkedAdd_of_le hcalls), ok_bind,
    require_true ⟨htran.next, htran.room, hlen⟩, ok_bind]
  exact checkObservations_ok htran.ordered
    (fun observation hmem => (htran.bounds observation hmem).1)
    (fun observation hmem => (htran.bounds observation hmem).2) htran.valid

theorem restoredConsent_ok (hX : X.Lawful) (h : Invariant X e) :
    validateRestoredConsent X e = .ok () := by
  cases hconsented : e.consented with
  | true =>
    obtain ⟨horigs, hst⟩ := h.consented.granted hconsented
    rw [validateRestoredConsent, horigs, mapError_ok.mpr rfl, ok_bind, if_pos hconsented,
      require_true ⟨rfl, hst⟩]
  | false =>
    obtain ⟨happr, hst, hcalls, hturns, hretries⟩ := h.consented.ungranted hconsented
    obtain ⟨hprompt, hinput, hout, hcost⟩ := h.charged.unused hturns
    obtain ⟨origins, horigs⟩ := sourceOrigins_isOk fun item hitem =>
      origin_of_built hX.urls (h.documented.built item hitem)
    have hcanon : evidenceOrigins X.toRedactionExternals e.evidence =
        .ok (canonical id origins) := by
      rw [evidenceOrigins, horigs]
      rfl
    rw [validateRestoredConsent, hcanon, mapError_ok.mpr rfl, ok_bind,
      if_neg (by simp [hconsented]), require_true ⟨happr, hst, hprompt, hinput, hout,
        hcost, hcalls, hturns, hretries⟩]

theorem restoredQuestions_ok (h : Invariant X e) :
    validateRestoredUnresolvedQuestions X e = .ok () := by
  have hquestioned := h.questioned
  rw [validateRestoredUnresolvedQuestions, hquestioned.valid, mapError_ok.mpr rfl, ok_bind,
    require_true]
  refine ⟨hquestioned.sorted, ?_, ?_, ?_⟩
  · rintro ⟨hst, hnil⟩
    exact hquestioned.awaited hst hnil
  · rintro ⟨hst, hnon⟩
    exact hnon (hquestioned.ended hst)
  · rintro ⟨hcall, hnil⟩
    obtain ⟨pending, hpend, hshow⟩ := Option.map_eq_some_iff.mp hcall
    exact (h.pending pending hpend).questions hshow hnil

theorem stateShapeIsValid_of_shaped
    (h : Shaped e.state e.pendingMaximumOutputTokens e.pendingTool e.pendingRetry e.draftReview) :
    stateShapeIsValid e = true := by
  obtain ⟨hout, htool, hretry, hreview⟩ := h
  unfold stateShapeIsValid
  cases hst : e.state <;> simp_all

/-- The last observation is older than the pending call. -/
theorem lastCallId_lt (hpos : 0 < n)
    (h : ∀ observation ∈ observations, observation.callId < n) : lastCallId 0 observations < n := by
  unfold lastCallId
  cases hlast : (observations.map callId).getLast? with
  | none => exact hpos
  | some id =>
    obtain ⟨observation, hmem, rfl⟩ := mem_map.mp (mem_of_getLast? hlast)
    exact h observation hmem

theorem restoredStateShape_ok (h : Invariant X e) :
    validateRestoredStateShape X e (lastCallId 0 e.toolObservations) = .ok () ↔
      ∀ review ∈ e.draftReview, review.draft.hasNan = false := by
  have hreview : ∀ review ∈ e.draftReview, ((do
        let expected ← (validateDraft X.toDraftExternals e.allowedApiFamilies e.evidence
          review.draft).mapError fun _ => invalidSnapshot
        require (expected.eq review = true) .invalidSnapshot) = .ok () ↔
      review.draft.hasNan = false) := by
    intro review hmem
    rw [h.reviewed review hmem, mapError_ok.mpr rfl, ok_bind, require_ok,
      AssistantDraftReview.eq_self, Bool.not_eq_true']
  rw [validateRestoredStateShape, require_true (stateShapeIsValid_of_shaped h.shaped), ok_bind]
  have hout : forSome (fun output => require (output ≠ 0 ∧ output ≤ e.budget.maxOutputTokens ∧
      output ≤ e.usage.reservedOutputTokens) invalidSnapshot)
      e.pendingMaximumOutputTokens = .ok () :=
    forSome_ok.mpr fun output hmem => require_ok.mpr (h.output output hmem)
  have htool : forSome (fun pending => do
      require (pending.callId ≠ 0 ∧ pending.callId < e.nextCallId ∧
        lastCallId 0 e.toolObservations < pending.callId) .invalidSnapshot
      (validateToolCall X.toDraftExternals e.evidence e.allowedApiFamilies
        pending.call).mapError fun _ => invalidSnapshot) e.pendingTool = .ok () := by
    refine forSome_ok.mpr fun pending hmem => ?_
    have hpend := h.pending pending hmem
    have hlast := hpend.last
    rw [require_true ⟨pos_iff_ne_zero.mp hpend.positive, by omega,
      lastCallId_lt hpend.positive hpend.unanswered⟩, ok_bind, hpend.valid]
    rfl
  rw [hout, ok_bind, htool, ok_bind, forSome_ok]
  exact forall₂_congr hreview

/-! ### Restoring -/

/-- **A restore succeeds iff the evidence restores and the draft under review has no NaN.** -/
theorem fromSnapshot_ok_iff (hX : X.Lawful) (h : Invariant X e) :
    fromSnapshot X e.snapshot = .ok e ↔ e.Restores X := by
  have hst : fromSnapshot X e.snapshot = .ok e ↔ validateRestoredState X e = .ok () := by
    constructor
    · intro hok
      obtain ⟨_, _, hval, _⟩ := guard_step hok
      exact hval
    · intro hval
      exact guarded rfl (then_ok hval rfl)
  rw [hst, SetupAssistantEngine.Restores, ← restoredIdentity_ok hX h, ← restoredStateShape_ok h]
  constructor
  · intro hok
    obtain ⟨_, hident, _, _, last, hlast, hok⟩ := steps₃ hok
    obtain ⟨_, _, hok⟩ := rest₂ hok
    rw [restoredTranscript_ok h] at hlast
    cases hlast
    exact ⟨hident, hok⟩
  · rintro ⟨hident, hshape⟩
    rw [validateRestoredState, hident, ok_bind, restoredUsage_ok h, ok_bind,
      restoredTranscript_ok h, ok_bind, restoredConsent_ok hX h, ok_bind,
      restoredQuestions_ok h, ok_bind, hshape]

/-- The invariant holds in every reachable state. -/
theorem invariant_of_exec (hX : X.Lawful) (h : Invariant X e)
    (hbuilt : ∀ event ∈ events, event.Built X.toRedactionExternals)
    (hexec : Exec (Step X) e events e') : Invariant X e' :=
  hexec.invariant_of_labels (fun _ _ _ hinv hev hstep => invariant_of_step hX hinv hev hstep)
    hbuilt h

/-! ### Runs -/

/-- A draft that a turn may hand over without a NaN. -/
def AssistantTurn.hasNan : AssistantTurn → Bool
  | .submitDraft draft => draft.hasNan
  | _ => false

/-- The arguments of an operation keep snapshots restorable. -/
def Operation.Restores (X : AssistantExternals) : Operation → Prop
  | .addRedactedEvidence item => item.Restores X.toRedactionExternals
  | .submitTurn turn => turn.hasNan = false
  | .submitTurnJson bytes => ∀ turn ∈ X.parseTurn bytes, turn.hasNan = false
  | _ => True

def Event.Restores (X : AssistantExternals) : Event → Prop
  | .call operation _ => operation.Restores X
  | .restored => True

theorem Operation.Submits.hasNan (hsubmits : operation.Submits X turn)
    (hrestores : operation.Restores X) :
    turn.hasNan = false := by
  rcases hsubmits with rfl | ⟨bytes, rfl, hparse⟩
  · exact hrestores
  · exact hrestores turn hparse

theorem SetupAssistantEngine.Restores.fail (h : e.Restores X) {kind : AssistantFailureKind}
    {retryable : Bool} : (e.endCall.transitionAfterFailure kind retryable).Restores X := by
  unfold SetupAssistantEngine.transitionAfterFailure
  split
  · exact h
  · exact h

theorem Effect.restores (h : e.Restores X) (hrestores : operation.Restores X)
    (heff : Effect X e operation response e') :
    e'.Restores X := by
  obtain ⟨hevid, hreview⟩ := h
  cases heff with
  | addEvidence =>
    refine ⟨fun item hitem => ?_, hreview⟩
    rcases mem_append.mp (mem_sortByKey.mp hitem) with hitem | hitem
    · exact hevid item hitem
    · exact mem_singleton.mp hitem ▸ hrestores
  | submitDraft hsubmits _ hval =>
    refine ⟨hevid, ?_⟩
    rintro _ ⟨⟩
    rw [validateDraft_ok hval]
    exact hsubmits.hasNan hrestores
  | requestRevision => exact ⟨hevid, by simp⟩
  | recordFailure => exact SetupAssistantEngine.Restores.fail ⟨hevid, hreview⟩
  | _ => exact ⟨hevid, hreview⟩

theorem restores_of_step (h : e.Restores X) (hrestores : event.Restores X)
    (hstep : Step X e event e') : e'.Restores X := by
  cases event with
  | restored =>
    rw [fromSnapshot_snapshot_eq hstep]
    exact h
  | call operation outcome =>
    cases outcome with
    | ok response => exact (effect_of_run hstep).restores h hrestores
    | error error =>
      rcases failed_run hstep with ⟨rfl, _⟩ | ⟨_, _, rfl⟩
      · exact h
      · exact h.fail

theorem new_restores (hevid : ∀ item ∈ evidence, item.Restores X.toRedactionExternals)
    (h : SetupAssistantEngine.new sessionId routeId families evidence budget = .ok e) :
    e.Restores X := by
  obtain ⟨_, _, _, h⟩ := rest₃ h
  obtain ⟨_, _, _, h⟩ := rest₃ h
  obtain ⟨_, _, h⟩ := rest₂ h
  cases pure_inj h
  exact ⟨fun item hitem => hevid item (mem_sortByKey.mp hitem), by simp⟩

/-- **Snapshots of reachable engines.**  A restore gives the engine back iff every source URL is
    within the bound, every claim is a claim and no draft under review has a NaN; and if the
    arguments of all operations were of that kind, it always does. -/
theorem reachable_restores_iff (hX : X.Lawful) {sessionId : DiscoverySessionId}
    {routeId : ModelRouteId} {families : List ApiFamily}
    {evidence : List RedactedAssistantEvidence} {budget : AssistantBudget}
    {start : SetupAssistantEngine} {events : List Event}
    (hevid : ∀ item ∈ evidence, item.Built X.toRedactionExternals)
    (hnew : SetupAssistantEngine.new sessionId routeId families evidence budget = .ok start)
    (hbuilt : ∀ event ∈ events, event.Built X.toRedactionExternals)
    (hexec : Exec (Step X) start events e) :
    (fromSnapshot X e.snapshot = .ok e ↔ e.Restores X) ∧
      ((∀ item ∈ evidence, item.Restores X.toRedactionExternals) →
        (∀ event ∈ events, event.Restores X) → fromSnapshot X e.snapshot = .ok e) := by
  have hinvariant := invariant_of_exec hX (new_invariant hevid hnew) hbuilt hexec
  have hiff := fromSnapshot_ok_iff hX hinvariant
  refine ⟨hiff, fun hrestores hevs => hiff.mpr ?_⟩
  exact hexec.invariant_of_labels (fun _ _ _ h hev hstep => restores_of_step h hev hstep)
    hevs (new_restores hrestores hnew)

/-- The events of some operations, one after the other. -/
def runEvents (X : AssistantExternals) : SetupAssistantEngine → List Operation → List Event
  | _, [] => []
  | e, operation :: operations =>
    .call operation (exec (operation.run X) e).1 ::
      runEvents X (exec (operation.run X) e).2 operations

def runEngine (X : AssistantExternals) : SetupAssistantEngine → List Operation →
    SetupAssistantEngine
  | e, [] => e
  | e, operation :: operations => runEngine X (exec (operation.run X) e).2 operations

/-- Any operations can be called. -/
theorem exec_runEvents (operations : List Operation) (e : SetupAssistantEngine) :
    Exec (Step X) e (runEvents X e operations) (runEngine X e operations) := by
  induction operations generalizing e with
  | nil => exact .nil e
  | cons operation operations ih => exact .cons rfl (ih _)

/-! ### A URL that grows -/

def sampleOrigin : String := "https://docs.example.com"

def sampleHexDigit (n : Nat) : Char := "0123456789ABCDEF".toList.getD n '0'

/-- Percent-encoding of what is not ASCII. -/
def sampleEncode (c : Char) : List Char :=
  if c.val < 0x80 then [c]
  else (String.utf8EncodeChar c).flatMap fun byte =>
    ['%', sampleHexDigit (byte.toNat / 16), sampleHexDigit (byte.toNat % 16)]

/-- A URL of one host. -/
def sampleUrl (path : List Char) : ParsedUrl where
  scheme := "https"
  host := some "docs.example.com"
  username := ""
  password := none
  path := String.ofList path
  query := none
  fragment := none
  originAscii := sampleOrigin

/-- The URL crate on the URLs of one host. -/
def sampleRedaction : RedactionExternals where
  urls.parse input :=
    if sampleOrigin.toList ++ ['/'] <+: input.toList then
      .ok (sampleUrl ((input.toList.drop sampleOrigin.toList.length).flatMap sampleEncode))
    else .error "relative URL without a base"
  urlText url := sampleOrigin ++ url.path
  containsCredentialLikeToken _ := false

theorem sampleEncode_ascii (h : c.val < 0x80) : sampleEncode c = [c] := if_pos h

theorem sampleHexDigit_ascii (n : Nat) : (sampleHexDigit n).val < 0x80 := by
  unfold sampleHexDigit
  rw [getD_eq_getElem?_getD]
  cases h : "0123456789ABCDEF".toList[n]? with
  | none => decide
  | some c =>
    have hall : ("0123456789ABCDEF".toList.all fun c => decide (c.val < 0x80)) = true := by decide
    exact of_decide_eq_true (all_eq_true.mp hall c (mem_of_getElem? h))

theorem ascii_of_mem_sampleEncode (h : d ∈ sampleEncode c) : d.val < 0x80 := by
  unfold sampleEncode at h
  split at h
  · rename_i hc
    exact mem_singleton.mp h ▸ hc
  · obtain ⟨byte, _, hd⟩ := mem_flatMap.mp h
    simp only [mem_cons, not_mem_nil, or_false] at hd
    rcases hd with rfl | rfl | rfl
    · decide
    · exact sampleHexDigit_ascii _
    · exact sampleHexDigit_ascii _

/-- What is encoded is not encoded again. -/
theorem sampleEncode_idem (cs : List Char) :
    (cs.flatMap sampleEncode).flatMap sampleEncode = cs.flatMap sampleEncode := by
  have hself : ∀ {ds : List Char}, (∀ d ∈ ds, d.val < 0x80) → ds.flatMap sampleEncode = ds := by
    intro ds
    induction ds with
    | nil => exact fun _ => rfl
    | cons d ds ih =>
      intro h
      rw [forall_mem_cons] at h
      rw [flatMap_cons, sampleEncode_ascii h.1, ih h.2]
      rfl
  refine hself fun d hd => ?_
  obtain ⟨c, _, hd⟩ := mem_flatMap.mp hd
  exact ascii_of_mem_sampleEncode hd

/-- A text on the host, with the path that its URL has. -/
theorem sampleParse_of_path (h : input.toList = sampleOrigin.toList ++ '/' :: rest) :
    sampleRedaction.urls.parse input = .ok (sampleUrl (('/' :: rest).flatMap sampleEncode)) := by
  have hpref : sampleOrigin.toList ++ ['/'] <+: input.toList := by
    rw [h]
    exact ⟨rest, by simp⟩
  show (if _ then _ else _) = _
  rw [if_pos hpref, h, drop_left]

theorem sampleParse_ok (h : sampleRedaction.urls.parse input = .ok url) :
    ∃ rest, input.toList = sampleOrigin.toList ++ '/' :: rest ∧
      url = sampleUrl (('/' :: rest).flatMap sampleEncode) := by
  by_cases hpref : sampleOrigin.toList ++ ['/'] <+: input.toList
  · obtain ⟨rest, hrest⟩ := hpref
    have hinput : input.toList = sampleOrigin.toList ++ '/' :: rest := by
      rw [← hrest, append_assoc, singleton_append]
    refine ⟨rest, hinput, ?_⟩
    rw [sampleParse_of_path hinput] at h
    exact (Except.ok.inj h).symm
  · change (if _ then _ else _) = _ at h
    rw [if_neg hpref] at h
    cases h

theorem sampleText_toList (rest : List Char) :
    (sampleRedaction.urlText (sampleUrl (('/' :: rest).flatMap sampleEncode))).toList =
      sampleOrigin.toList ++ '/' :: rest.flatMap sampleEncode := by
  show (sampleOrigin ++ String.ofList (('/' :: rest).flatMap sampleEncode)).toList = _
  rw [String.toList_append, String.toList_ofList, flatMap_cons]
  rfl

theorem sampleRedaction_urls : UrlsRoundTrip sampleRedaction where
  reparse h := by
    obtain ⟨rest, _, rfl⟩ := sampleParse_ok h
    rw [sampleParse_of_path (sampleText_toList rest), flatMap_cons, flatMap_cons, sampleEncode_idem]
  authority h _ _ _ := by
    obtain ⟨rest, _, rfl⟩ := sampleParse_ok h
    rw [authorityHasUserinfo, sampleText_toList]
    rfl

/-- A path of `é`. -/
def accents (n : Nat) : List Char := List.replicate n 'é'

def encodedAccents (n : Nat) : List Char := (accents n).flatMap sampleEncode

theorem encodedAccents_succ (n : Nat) :
    encodedAccents (n + 1) = "%C3%A9".toList ++ encodedAccents n := by
  rfl

theorem byteLen_ofList (cs : List Char) :
    byteLen (String.ofList cs) = (cs.flatMap String.utf8EncodeChar).length := by
  rw [byteLen, asBytes, String.toList_ofList]

theorem length_utf8_accents (n : Nat) :
    ((accents n).flatMap String.utf8EncodeChar).length = 2 * n := by
  induction n with
  | zero => rfl
  | succ n ih =>
    rw [accents, replicate_succ, flatMap_cons, length_append, ← accents, ih,
      String.length_utf8EncodeChar]
    show 2 + 2 * n = 2 * (n + 1)
    omega

theorem utf8_encodedAccent : "%C3%A9".toList.flatMap String.utf8EncodeChar =
    [0x25, 0x43, 0x33, 0x25, 0x41, 0x39] := by decide

theorem length_utf8_encodedAccents (n : Nat) :
    ((encodedAccents n).flatMap String.utf8EncodeChar).length = 6 * n := by
  induction n with
  | zero => rfl
  | succ n ih =>
    rw [encodedAccents_succ, flatMap_append, length_append, ih, utf8_encodedAccent]
    show 6 + 6 * n = 6 * (n + 1)
    omega

/-- The bytes of the encoded accents decode to those of the accents. -/
theorem percentDecode_encodedAccents (n : Nat) :
    percentDecodeBytes ((encodedAccents n).flatMap String.utf8EncodeChar) =
      some ((accents n).flatMap String.utf8EncodeChar) := by
  induction n with
  | zero => rfl
  | succ n ih =>
    rw [encodedAccents_succ, flatMap_append, utf8_encodedAccent, accents,
      replicate_succ, flatMap_cons, ← accents]
    simp only [cons_append, nil_append, percentDecodeBytes, ih]
    rfl

theorem decode_encodedAccents (n : Nat) :
    decodeSourcePathSegment (String.ofList (encodedAccents (n + 1))) 4 =
      .ok (String.ofList (accents (n + 1))) := by
  have hfirst : percentDecodeSourceComponentOnce (String.ofList (encodedAccents (n + 1))) =
      .ok (some (String.ofList (accents (n + 1)))) := by
    have hpercent : ¬ (0x25 : UInt8) ∉ asBytes (String.ofList (encodedAccents (n + 1))) := by
      rw [not_not, asBytes, String.toList_ofList, encodedAccents_succ, flatMap_append]
      exact mem_append_left _ (by decide)
    have hdec : percentDecodeBytes (asBytes (String.ofList (encodedAccents (n + 1)))) =
        some (asBytes (String.ofList (accents (n + 1)))) := by
      rw [asBytes, asBytes, String.toList_ofList, String.toList_ofList]
      exact percentDecode_encodedAccents (n + 1)
    rw [percentDecodeSourceComponentOnce, if_neg hpercent]
    exact then_ok (okOr_ok.mpr hdec) (then_ok (okOr_ok.mpr (fromUtf8_asBytes _)) rfl)
  have hsnd : percentDecodeSourceComponentOnce (String.ofList (accents (n + 1))) = .ok none := by
    have hnone : (0x25 : UInt8) ∉ asBytes (String.ofList (accents (n + 1))) := by
      rw [asBytes, String.toList_ofList]
      intro hmem
      obtain ⟨c, hc, hbyte⟩ := mem_flatMap.mp hmem
      rw [eq_of_mem_replicate hc] at hbyte
      exact absurd hbyte (by decide)
    rw [percentDecodeSourceComponentOnce, if_pos hnone]
    rfl
  rw [decodeSourcePathSegment, hfirst, ok_bind]
  show decodeSourcePathSegment _ 3 = _
  rw [decodeSourcePathSegment, hsnd]
  rfl

/-- A source URL with accents, and its canonical form. -/
def accentUrl (n : Nat) : String := String.ofList (sampleOrigin.toList ++ '/' :: accents n)

def canonicalAccentUrl (n : Nat) : String :=
  String.ofList (sampleOrigin.toList ++ '/' :: encodedAccents n)

theorem byteLen_accentUrl (n : Nat) : byteLen (accentUrl n) = 25 + 2 * n := by
  rw [accentUrl, byteLen_ofList, flatMap_append, length_append, flatMap_cons,
    length_append, length_utf8_accents, ← Nat.add_assoc]
  rfl

theorem byteLen_canonicalAccentUrl (n : Nat) : byteLen (canonicalAccentUrl n) = 25 + 6 * n := by
  rw [canonicalAccentUrl, byteLen_ofList, flatMap_append, length_append,
    flatMap_cons, length_append, length_utf8_encodedAccents, ← Nat.add_assoc]
  rfl

theorem pathSegments_encodedAccents (n : Nat) :
    pathSegments (sampleUrl ('/' :: encodedAccents n)) = [String.ofList (encodedAccents n)] := by
  have hdrop : (sampleUrl ('/' :: encodedAccents n)).path.toList.drop 1 = encodedAccents n := by
    show (String.ofList ('/' :: encodedAccents n)).toList.drop 1 = _
    rw [String.toList_ofList]
    rfl
  rw [pathSegments, hdrop]
  refine splitAt_eq_singleton fun c hc => ?_
  rw [String.toList_ofList] at hc
  obtain ⟨d, hd, hc⟩ := mem_flatMap.mp hc
  rw [eq_of_mem_replicate hd] at hc
  have hall : ((sampleEncode 'é').all fun c => decide (c ∉ ['/'])) = true := by decide
  exact of_decide_eq_true (all_eq_true.mp hall c hc)

theorem checkSourceSegment_encodedAccents (n : Nat) :
    checkSourceSegment sampleRedaction (String.ofList (encodedAccents (n + 1))) = .ok () := by
  have hsec : sourcePathHasSecretAssignment (String.ofList (accents (n + 1))) = false := by
    have hkey : (accents (n + 1)).takeWhile (· ∉ ['=', ':']) = accents (n + 1) := by
      rw [accents, takeWhile_replicate, if_pos (by decide)]
    rw [sourcePathHasSecretAssignment, String.toList_ofList, hkey]
    simp
  rw [checkSourceSegment, decode_encodedAccents, ok_bind]
  exact require_true ⟨rfl, hsec⟩ _

/-- **The crate lengthens a URL that was short enough.** -/
theorem canonical_accentUrl (h : 25 + 2 * (n + 1) ≤ maxQueryBytes) :
    canonicalRedactedSourceUrl sampleRedaction (accentUrl (n + 1)) =
      .ok (canonicalAccentUrl (n + 1)) := by
  have hlen : byteLen (accentUrl (n + 1)) ≤ maxQueryBytes := by
    rw [byteLen_accentUrl]
    exact h
  have htext : (accentUrl (n + 1)).toList = sampleOrigin.toList ++ '/' :: accents (n + 1) := by
    rw [accentUrl, String.toList_ofList]
  have hauthority : authorityHasUserinfo (accentUrl (n + 1)) = false := by
    rw [authorityHasUserinfo, htext]
    rfl
  have hparse : sampleRedaction.urls.parse (accentUrl (n + 1)) =
      .ok (sampleUrl ('/' :: encodedAccents (n + 1))) := by
    rw [sampleParse_of_path htext, flatMap_cons]
    rfl
  have hcheck : checkSourceUrl sampleRedaction (sampleUrl ('/' :: encodedAccents (n + 1))) =
      .ok () := by
    refine guarded ⟨.inr rfl, rfl, rfl, rfl, rfl, rfl⟩ ?_
    refine then_ok rfl (guarded (.inr ?_) ?_)
    · exact any_eq_false.mpr fun _ _ => nofun
    · rw [pathSegments_encodedAccents, forEach_ok, forall_mem_singleton]
      exact checkSourceSegment_encodedAccents n
  refine guarded ⟨hlen, hauthority⟩ (bind_ok.mpr
    ⟨sampleUrl ('/' :: encodedAccents (n + 1)), ?_, ?_⟩)
  · exact mapError_ok.mpr hparse
  · refine then_ok hcheck ?_
    show pure (sampleOrigin ++ String.ofList ('/' :: encodedAccents (n + 1))) = _
    rw [canonicalAccentUrl, String.ofList_append, String.ofList_toList]
    rfl

/-! ### The samples -/

def sampleHash : String := "aaaaaaaaaaaaaaaaaaaaaaaaaaaaaaaaaaaaaaaaaaaaaaaaaaaaaaaaaaaaaaaa"

def sampleInput (sourceUrl : String) : EvidenceInput :=
  ⟨⟨"document-1"⟩, .officialDocument, sourceUrl, sampleHash, "GET /v1/models", [], 0⟩

def sampleItem (sourceUrl : String) : RedactedAssistantEvidence :=
  ⟨⟨"document-1"⟩, .officialDocument, sourceUrl, sampleHash, "GET /v1/models", [], 0⟩

/-- JSON of fixed texts, which is all that the sample runs look at. -/
def sampleExternals : AssistantExternals where
  toRedactionExternals := sampleRedaction
  draftJson _ := some "\x7b\x7d"
  authJson _ := some "\x7b\x7d"
  parameterJson _ := some "\x7b\x7d"
  toolResultJson _ := some "\x7b\x7d"
  turnJson _ := some [0x7b, 0x7d]
  promptJson _ := some [0x7b, 0x7d]
  schemaJson _ := some [0x7b, 0x7d]
  parseTurn _ := none

theorem sampleExternals_lawful : sampleExternals.Lawful where
  urls := sampleRedaction_urls
  prompt h := by
    cases h
    simp

theorem sampleItem_new (h : canonicalRedactedSourceUrl sampleRedaction input = .ok url) :
    RedactedAssistantEvidence.new sampleRedaction (sampleInput input) = .ok (sampleItem url) := by
  have hid : validateIdentifier "document-1" = .ok () := by decide
  have hhash : byteLen sampleHash = 64 ∧ sampleHash.toList.all isAsciiHexdigit = true := by decide
  have hlower : toAsciiLowercase sampleHash = sampleHash := by decide
  have hexcerpt : validateBoundedRedactedText sampleRedaction "GET /v1/models"
      maxEvidenceExcerptBytes = .ok () := by decide
  refine evidence_new_ok.mpr ⟨url, hid, h, hhash, hexcerpt, zero_le _, nodup_nil, ?_⟩
  show sampleItem url = ⟨_, _, url, toAsciiLowercase sampleHash, _, _, _⟩
  rfl

/-- A session about one document. -/
def sampleEngine (sourceUrl : String) : SetupAssistantEngine where
  sessionId := ⟨"session-1"⟩
  assistantRouteId := ⟨"route-1"⟩
  allowedApiFamilies := [.openAiResponses]
  evidence := [sampleItem sourceUrl]
  approvedOrigins := []
  consented := false
  state := .awaitingConsent
  budget := .default
  usage := ⟨14 + byteLen sourceUrl + 64, 0, 0, 0, 0, 0, 0, 0⟩
  nextCallId := 1
  pendingMaximumOutputTokens := none
  pendingTool := none
  toolObservations := []
  unresolvedQuestions := []
  pendingRetry := none
  draftReview := none

theorem sampleEngine_new (h : byteLen sourceUrl ≤ 100000) :
    SetupAssistantEngine.new ⟨"session-1"⟩ ⟨"route-1"⟩ [.openAiResponses] [sampleItem sourceUrl]
      .default = .ok (sampleEngine sourceUrl) := by
  have hsess : validateIdentifier "session-1" = .ok () := by decide
  have hrt : validateIdentifier "route-1" = .ok () := by decide
  have hsize : itemSize (sampleItem sourceUrl) = 14 + byteLen sourceUrl + 64 := by
    have hexcerpt : byteLen "GET /v1/models" = 14 := by decide
    have hhash : byteLen sampleHash = 64 := by decide
    show byteLen "GET /v1/models" + byteLen sourceUrl + byteLen sampleHash = _
    rw [hexcerpt, hhash]
  have hu64 : u64Max = 18446744073709551615 := rfl
  have htotal : assistantEvidenceBytes [sampleItem sourceUrl] =
      some (14 + byteLen sourceUrl + 64) := by
    refine assistantEvidenceBytes_eq_some.mpr ⟨?_, by omega⟩
    rw [evidenceSize, map_singleton, sum_singleton, hsize]
  refine then_ok hsess (then_ok hrt ?_)
  refine then_ok (guarded (by decide) rfl) ?_
  have hcount : 1 ≤ AssistantBudget.default.maxEvidenceCount := by decide
  refine guarded (by simp) (guarded hcount ?_)
  refine guarded (isChain_singleton _) ?_
  refine then_ok (okOr_ok.mpr htotal) (guarded ?_ rfl)
  show 14 + byteLen sourceUrl + 64 ≤ 128 * 1024
  omega

def sampleUrlText : String := "https://docs.example.com/api"

theorem sampleItem_built : (sampleItem sampleUrlText).Built sampleRedaction :=
  ⟨sampleInput sampleUrlText, sampleItem_new (by decide)⟩

def sampleConsent : AssistantConsent where
  sessionId := ⟨"session-1"⟩
  assistantRouteId := ⟨"route-1"⟩
  approvedEvidenceIds := [⟨"document-1"⟩]
  approvedSourceOrigins := [sampleOrigin]
  allowDocumentEgress := true

/-- A session: consent, a turn that calls a tool, its result, a turn that fails, a retry and a
    third turn. -/
def sampleOperations : List Operation :=
  [.grantConsent sampleConsent, .beginTurn ⟨100, 100, 100⟩,
    .submitTurn (.callTool .listManifestAdapterFamilies),
    .submitToolResult 1 (.adapterFamilies [.openAiResponses]), .beginTurn ⟨100, 100, 100⟩,
    .recordFailure .transport true, .approveRetry ⟨"session-1"⟩ true, .beginTurn ⟨100, 100, 100⟩]

theorem reachable_restores_iff_sample :
    (fromSnapshot sampleExternals
        (runEngine sampleExternals (sampleEngine sampleUrlText) sampleOperations).snapshot =
        .ok (runEngine sampleExternals (sampleEngine sampleUrlText) sampleOperations) ↔
      (runEngine sampleExternals (sampleEngine sampleUrlText) sampleOperations).Restores
        sampleExternals) ∧
      ((∀ item ∈ [sampleItem sampleUrlText], item.Restores sampleRedaction) →
        (∀ event ∈ runEvents sampleExternals (sampleEngine sampleUrlText) sampleOperations,
          event.Restores sampleExternals) →
        fromSnapshot sampleExternals
          (runEngine sampleExternals (sampleEngine sampleUrlText) sampleOperations).snapshot =
          .ok (runEngine sampleExternals (sampleEngine sampleUrlText) sampleOperations)) := by
  have hlen : byteLen sampleUrlText ≤ 100000 := by decide
  refine reachable_restores_iff sampleExternals_lawful ?_ (sampleEngine_new hlen) ?_
    (exec_runEvents _ _)
  · rw [forall_mem_singleton]
    exact sampleItem_built
  · intro event hev
    simp only [runEvents, sampleOperations, mem_cons, not_mem_nil, or_false] at hev
    rcases hev with rfl | rfl | rfl | rfl | rfl | rfl | rfl | rfl <;> trivial

/-- **A session whose snapshot is lost.**  The document has a URL of 825 bytes that the crate
    lengthens to 2425. -/
theorem longUrl_unrestorable :
    RedactedAssistantEvidence.new sampleRedaction (sampleInput (accentUrl 400)) =
        .ok (sampleItem (canonicalAccentUrl 400)) ∧
      SetupAssistantEngine.new ⟨"session-1"⟩ ⟨"route-1"⟩ [.openAiResponses]
        [sampleItem (canonicalAccentUrl 400)] .default =
          .ok (sampleEngine (canonicalAccentUrl 400)) ∧
      fromSnapshot sampleExternals (sampleEngine (canonicalAccentUrl 400)).snapshot ≠
        .ok (sampleEngine (canonicalAccentUrl 400)) := by
  have hlen := byteLen_canonicalAccentUrl 400
  have hshort : byteLen (canonicalAccentUrl 400) ≤ 100000 := by omega
  have hnew := sampleItem_new (canonical_accentUrl (n := 399) (by decide))
  have hengine := sampleEngine_new hshort
  refine ⟨hnew, hengine, fun hrestored => ?_⟩
  have hinvariant : Invariant sampleExternals (sampleEngine (canonicalAccentUrl 400)) := by
    refine new_invariant ?_ hengine
    rw [forall_mem_singleton]
    exact ⟨_, hnew⟩
  obtain ⟨hrestores, _⟩ := (fromSnapshot_ok_iff sampleExternals_lawful hinvariant).mp hrestored
  have hbd : byteLen (canonicalAccentUrl 400) ≤ 2048 :=
    (hrestores _ (mem_singleton_self _)).1
  omega

end LorePia.Assistant
