import LorePia.Lib.Transcript
import LorePia.Providers.ModelPages

namespace LorePia.Providers.ModelPages

open Lib List List ListedModel Nat Option Transcript

/-!
# Model lists — all pages

The pages of a list are requested one after the other until a page names no next cursor.  Four
budgets bound the pages, the models, the bytes of a page and the bytes of all pages.  A cursor or a
model that comes again, or anything else that is wrong with one page, ends the listing with an
error; there is no partial list.

What a provider answers is an arbitrary exchange for every round.  Its errors stand for everything
that can go wrong around a request: the target cannot be prepared, the transport or the peer check
fails, the status is no success, or the listing is cancelled.

* `Listed` — the pages of a complete list;
* `fetchPages_ok` — the loop succeeds iff what it still has to read completes the list;
* `listModels_complete` — every run is bounded, and it succeeds exactly on complete lists.
-/

variable {rounds : Nat} {seen : List String} {cursor : String} {body : Bytes}
  {family : ApiFamily} {final : ListState} {maxModels : Nat} {request : PageRequest}
  {requests : List PageRequest}

def hardMaxModelPages : Nat := 32
def hardMaxPageBytes : Nat := 4 * 1024 * 1024
def hardMaxTotalBytes : Nat := 32 * 1024 * 1024
def maxCursorBytes : Nat := 2048

structure ModelListBudget where
  pages : Nat
  models : Nat
  pageBytes : Nat
  totalBytes : Nat

def invalidBudget (uuid message : String) : CoreError := .new uuid .invalidInput message false

def ModelListBudget.validate (uuid : String) (budget : ModelListBudget) :
    CoreResult Unit := do
  require (0 < budget.pages ∧ budget.pages ≤ hardMaxModelPages)
    (invalidBudget uuid "model-list page budget must be from 1 to 32")
  require (0 < budget.models ∧ budget.models ≤ hardMaxModels)
    (invalidBudget uuid "model-list record budget must be from 1 to 10000")
  require (0 < budget.pageBytes ∧ budget.pageBytes ≤ hardMaxPageBytes)
    (invalidBudget uuid "model-list page byte budget must be from 1 to 4194304")
  require (0 < budget.totalBytes ∧ budget.totalBytes ≤ hardMaxTotalBytes ∧
      budget.pageBytes ≤ budget.totalBytes)
    (invalidBudget uuid
      "model-list total byte budget must include one page and not exceed 33554432")

structure ModelListProvenance where
  source : ModelRecordSource
  apiFamily : ApiFamily
  apiOrigin : String
  endpointPath : String

structure ModelListResult where
  models : List ListedModel
  provenance : ModelListProvenance
  pagesFetched : Nat
  responseBytes : Nat

/-! ### One exchange -/

/-- A response as it arrives: its declared length, and the chunks of its body. -/
structure PageResponse where
  contentLength : Option Nat
  chunks : List (CoreResult Bytes)

/-- One round with the provider: what happens before the request is sent, and after. -/
structure Exchange where
  prepared : CoreResult Unit
  response : CoreResult PageResponse

/-- A request: the cursor it asks for, and the pairs that are appended to the endpoint's query. -/
structure PageRequest where
  cursor : Option String
  query : List (String × String)

structure HttpModelListing where
  family : ApiFamily
  responseSchema : ModelListResponseSchema
  provenance : ModelListProvenance

variable (uuid : String) (X : ListingExternals)

/-- What `page_url` appends to the query of the endpoint. -/
def pageUrl (family : ApiFamily) (cursor : Option String) (maxModels : Nat) :
    CoreResult (List (String × String)) :=
  let pageSize := toString (min maxModels 1000)
  match family with
  | .anthropicMessages =>
    return ("limit", pageSize) :: (cursor.map fun cursor => ("after_id", cursor)).toList
  | .geminiGenerateContent =>
    return ("pageSize", pageSize) :: (cursor.map fun cursor => ("pageToken", cursor)).toList
  | .openAiResponses | .openAiChatCompletions | .ollamaNative => do
    require (cursor = none)
      (.new uuid .internal "non-paginated adapter received a pagination cursor" false)
    return []

def IsCursor (cursor : String) : Prop :=
  cursor ≠ "" ∧ byteLen cursor ≤ maxCursorBytes ∧ hasControl cursor = false

instance (cursor : String) : Decidable (IsCursor cursor) :=
  inferInstanceAs (Decidable (_ ∧ _ ∧ _))

def validateCursor (cursor : String) : CoreResult Unit :=
  require (IsCursor cursor)
    (providerUnavailable uuid "provider returned an invalid pagination cursor")

def tooManyBytes : CoreError :=
  providerUnavailable uuid "provider model-list response exceeded the byte budget"

/-- The loop over the chunks, with the body so far. -/
def collectChunks (limit : Nat) :
    Bytes → List (CoreResult Bytes) → CoreResult Bytes
  | body, [] => return body
  | body, chunk :: chunks => do
    let chunk ← chunk
    let nextLen ← okOr (checkedAdd body.length chunk.length)
      (providerUnavailable uuid "provider model-list response size overflowed")
    require (nextLen ≤ limit) (tooManyBytes uuid)
    collectChunks limit (body ++ chunk) chunks

def collectLimitedBody (response : PageResponse) (pageLimit totalRemaining : Nat) :
    CoreResult Bytes := do
  require (totalRemaining ≠ 0)
    (providerUnavailable uuid "provider model list exceeded the total byte budget")
  let effectiveLimit := min pageLimit totalRemaining
  require (∀ length ∈ response.contentLength, length ≤ effectiveLimit) (tooManyBytes uuid)
  collectChunks uuid effectiveLimit [] response.chunks

/-! ### The loop -/

structure ListState where
  cursor : Option String
  seenCursors : List String
  models : List ListedModel
  pagesFetched : Nat
  responseBytes : Nat

def ListState.start : ListState := ⟨none, [], [], 0, 0⟩

/-- Take over the models of a page.  The identifiers that were seen are those of the models. -/
def admitModels (maxModels : Nat) (models : List ListedModel) :
    List ListedModel → CoreResult (List ListedModel)
  | [] => return models
  | model :: rest => do
    require (model.modelId ∉ models.map ListedModel.modelId)
      (providerUnavailable uuid "provider model list contained a duplicate model ID")
    require (models.length ≠ maxModels)
      (providerUnavailable uuid "provider model list exceeded the record budget")
    admitModels maxModels (models ++ [model]) rest

variable (L : HttpModelListing) (budget : ModelListBudget) (exchange : Nat → Exchange)

/-- A body, and the bytes of all bodies with it. -/
structure ReceivedPage where
  body : Bytes
  responseBytes : Nat

/-- The body of a response within what is left of the budgets. -/
def receivePage (responseBytes : Nat) (response : CoreResult PageResponse) :
    CoreResult ReceivedPage := do
  let response ← response
  let body ← collectLimitedBody uuid response budget.pageBytes (budget.totalBytes - responseBytes)
  let responseBytes ← okOr (checkedAdd responseBytes body.length)
    (providerUnavailable uuid "provider model list size overflowed")
  return ⟨body, responseBytes⟩

/-- The loop of `list_models`, with the pages that are left of the budget. -/
def fetchPages : Nat → ListState → Transcript PageRequest CoreError ListState
  | 0, _ => Transcript.fail (providerUnavailable uuid
      "provider model list exceeded the page budget")
  | rounds + 1, state => do
    let query ← pageUrl uuid L.family state.cursor budget.models
    (exchange state.pagesFetched).prepared
    Transcript.send ⟨state.cursor, query⟩
    let received ← receivePage uuid budget state.responseBytes
      (exchange state.pagesFetched).response
    let page ← parsePage uuid X L.responseSchema L.family received.body
    let models ← admitModels uuid budget.models state.models page.models
    match page.nextCursor with
    | none => return { state with
        models, responseBytes := received.responseBytes, pagesFetched := state.pagesFetched + 1 }
    | some nextCursor => do
      validateCursor uuid nextCursor
      require (nextCursor ∉ state.seenCursors)
        (providerUnavailable uuid "provider model list repeated a pagination cursor")
      fetchPages rounds { models
                          responseBytes := received.responseBytes
                          cursor := some nextCursor
                          seenCursors := state.seenCursors ++ [nextCursor]
                          pagesFetched := state.pagesFetched + 1 }

/-- The result, from the state after the last page. -/
def finishListing (state : ListState) : CoreResult ModelListResult := do
  require (state.pagesFetched ≤ u32Max)
    (.new uuid .internal "model-list page count overflowed" false)
  require (state.responseBytes ≤ u64Max)
    (.new uuid .internal "model-list byte count overflowed" false)
  return { models := sortByKey ListedModel.modelId state.models
           provenance := L.provenance
           pagesFetched := state.pagesFetched
           responseBytes := state.responseBytes }

/-- `list_models`.  `admitted` stands for the checks of the cancellation and of the credential. -/
def listModels (admitted : CoreResult Unit) :
    Transcript PageRequest CoreError ModelListResult := do
  budget.validate uuid
  admitted
  let state ← fetchPages uuid X L budget exchange budget.pages .start
  finishListing uuid L state

/-! ### Complete lists -/

structure Page where
  body : Bytes
  parsed : ParsedModelPage

def bytesOf : List Page → Nat
  | [] => 0
  | page :: pages => page.body.length + bytesOf pages

def modelsOf (pages : List Page) : List ListedModel := pages.flatMap fun page => page.parsed.models

def idsOf (pages : List Page) : List String := (modelsOf pages).map ListedModel.modelId

def cursorsOf (pages : List Page) : List String :=
  pages.filterMap fun page => page.parsed.nextCursor

/-- No chunk fails, and together they are the body. -/
def PageResponse.Delivers (response : PageResponse) (body : Bytes) : Prop :=
  ∃ parts : List Bytes, response.chunks = parts.map Except.ok ∧ parts.flatten = body

/-- Behind the pages `done` the provider answers with this page. -/
structure Answered (done : List Page) (page : Page) : Prop where
  prepared : (exchange done.length).prepared = .ok ()
  room : bytesOf done < budget.totalBytes
  delivered : ∃ response, (exchange done.length).response = .ok response ∧
    response.Delivers page.body ∧
    ∀ length ∈ response.contentLength,
      length ≤ min budget.pageBytes (budget.totalBytes - bytesOf done)
  parsed : parsePage uuid X L.responseSchema L.family page.body = .ok page.parsed

/-- The pages of a complete list: every page is answered, every page but the last one names a new
    cursor, with the last one the provider signals the end, no model is listed twice, and the
    budgets hold. -/
structure Listed (pages : List Page) : Prop where
  answered : ∀ done page rest, pages = done ++ page :: rest →
    Answered uuid X L budget exchange done page
  ended : ∃ last, pages.getLast? = some last ∧ SignalsEnd X L.responseSchema L.family last.body
  continued : ∀ page ∈ pages.dropLast, ∃ cursor, page.parsed.nextCursor = some cursor ∧
    IsCursor cursor
  cursors : (cursorsOf pages).Nodup
  ids : (idsOf pages).Nodup
  pageCount : pages.length ≤ budget.pages
  modelCount : (modelsOf pages).length ≤ budget.models
  pageBytes : ∀ page ∈ pages, page.body.length ≤ budget.pageBytes
  totalBytes : bytesOf pages ≤ budget.totalBytes

/-- The result for the pages of a list. -/
def listing (pages : List Page) : ModelListResult where
  models := sortByKey ListedModel.modelId (modelsOf pages)
  provenance := L.provenance
  pagesFetched := pages.length
  responseBytes := bytesOf pages

/-! ### One page -/

section Parts

variable {uuid : String} {X : ListingExternals}

theorem collectChunks_ok (hlim : limit ≤ u64Max) {before : Bytes} (hbef : before.length ≤ limit) :
    collectChunks uuid limit before chunks = .ok body ↔
      ∃ parts : List Bytes, chunks = parts.map Except.ok ∧
        before ++ parts.flatten = body ∧ body.length ≤ limit := by
  induction chunks generalizing before with
  | nil =>
    constructor
    · intro h
      cases h
      exact ⟨[], rfl, append_nil _, hbef⟩
    · rintro ⟨parts, hparts, hbody, _⟩
      have hnil : parts = [] := map_eq_nil_iff.mp hparts.symm
      rw [← hbody, hnil, flatten_nil, append_nil]
      rfl
  | cons chunk chunks ih =>
    constructor
    · intro h
      obtain ⟨part, hpart, nextLen, hnext, h⟩ := steps₂ h
      obtain ⟨hfits, h⟩ := guard_ok.mp h
      obtain ⟨_, hlen⟩ := checkedAdd_eq_some.mp (okOr_ok.mp hnext)
      have hgrown : (before ++ part).length ≤ limit := by
        rw [length_append]
        omega
      obtain ⟨parts, hparts, hbody, hbd⟩ := (ih hgrown).mp h
      refine ⟨part :: parts, ?_, ?_, hbd⟩
      · rw [hparts, hpart, map_cons]
      · rw [flatten_cons, ← append_assoc, hbody]
    · rintro ⟨parts, hparts, hbody, hbd⟩
      cases parts with
      | nil => cases hparts
      | cons part parts =>
        obtain ⟨rfl, hchunks⟩ := cons.inj hparts
        -- The lengths along the way are bounded by that of the whole body.
        have hgrown : (before ++ part).length ≤ limit := by
          rw [← hbody, flatten_cons, ← append_assoc, length_append] at hbd
          omega
        have hsum : before.length + part.length ≤ limit := by rwa [length_append] at hgrown
        have hnext : checkedAdd before.length part.length = some (before.length + part.length) :=
          checkedAdd_of_le (by omega)
        refine then_ok rfl (then_ok (okOr_ok.mpr hnext) ?_)
        refine guarded hsum ((ih hgrown).mpr ⟨parts, hchunks, ?_, hbd⟩)
        rw [← hbody, flatten_cons, append_assoc]

theorem collectLimitedBody_ok (hlim : pageLimit ≤ u64Max) :
    collectLimitedBody uuid response pageLimit totalRemaining = .ok body ↔
      0 < totalRemaining ∧ response.Delivers body ∧ body.length ≤ min pageLimit totalRemaining ∧
        ∀ length ∈ response.contentLength, length ≤ min pageLimit totalRemaining := by
  have hmin : min pageLimit totalRemaining ≤ u64Max := le_trans (min_le_left _ _) hlim
  rw [collectLimitedBody, guard_ok, guard_ok, collectChunks_ok hmin (Nat.zero_le _)]
  constructor
  · rintro ⟨hremaining, hdeclared, parts, hparts, hbody, hbd⟩
    exact ⟨pos_of_ne_zero hremaining, ⟨parts, hparts, hbody⟩, hbd, hdeclared⟩
  · rintro ⟨hremaining, ⟨parts, hparts, hbody⟩, hbd, hdeclared⟩
    exact ⟨hremaining.ne', hdeclared, parts, hparts, hbody, hbd⟩

/-- The models are taken over iff none comes twice and they fit. -/
theorem admitModels_ok {before added models : List ListedModel}
    (hnodup : (before.map modelId).Nodup) (hfew : before.length ≤ maxModels) :
    admitModels uuid maxModels before added = .ok models ↔
      models = before ++ added ∧ ((before ++ added).map modelId).Nodup ∧
        (before ++ added).length ≤ maxModels := by
  induction added generalizing before with
  | nil =>
    rw [append_nil]
    constructor
    · intro h
      cases h
      exact ⟨rfl, hnodup, hfew⟩
    · rintro ⟨rfl, _, _⟩
      rfl
  | cons model added ih =>
    rw [admitModels, guard_ok, guard_ok, append_cons before model added]
    constructor
    · rintro ⟨hfresh, hroom, h⟩
      have hnodup' : ((before ++ [model]).map modelId).Nodup := by
        rw [map_append, map_singleton, ← concat_eq_append]
        exact List.Nodup.concat hfresh hnodup
      have hfew' : (before ++ [model]).length ≤ maxModels := by
        rw [length_append, length_singleton]
        omega
      exact (ih hnodup' hfew').mp h
    · rintro ⟨rfl, hall, hbd⟩
      have hpref : ((before ++ [model]).map modelId).Nodup := by
        rw [map_append] at hall
        exact (nodup_append.mp hall).1
      have hfresh : model.modelId ∉ before.map modelId := by
        rw [map_append, map_singleton] at hpref
        intro hmem
        exact (nodup_append.mp hpref).2.2 _ hmem _ mem_cons_self rfl
      have hlen : (before ++ [model]).length ≤ maxModels := by
        rw [length_append] at hbd
        omega
      have hroom : before.length ≠ maxModels := by
        rw [length_append, length_singleton] at hlen
        omega
      exact ⟨hfresh, hroom, (ih hpref hlen).mpr ⟨rfl, hall, hbd⟩⟩

/-- Only the families with a cursor in their requests name one in a page. -/
theorem paginated_of_nextCursor {page : ParsedModelPage}
    (h : parsePage uuid X schema family body = .ok page) (hcursor : page.nextCursor = some cursor) :
    family = .anthropicMessages ∨ family = .geminiGenerateContent := by
  have hnone : ∀ {records : CoreResult (List ListedModel)},
      (do let models ← records; return ({ models, nextCursor := none } : ParsedModelPage)) =
        .ok page → False := by
    intro records h
    obtain ⟨models, _, h⟩ := bind_ok.mp h
    cases h
    cases hcursor
  cases schema with
  | openRouter =>
    obtain ⟨_, _, h⟩ := rest₂ h
    exact absurd h hnone
  | familyDefault =>
    cases family with
    | anthropicMessages => exact .inl rfl
    | geminiGenerateContent => exact .inr rfl
    | openAiResponses | openAiChatCompletions | ollamaNative =>
      obtain ⟨_, _, h⟩ := rest₂ h
      exact absurd h hnone

theorem pageUrl_isOk {cursor : Option String}
    (h : cursor = none ∨ family = .anthropicMessages ∨ family = .geminiGenerateContent) :
    ∃ query, pageUrl uuid family cursor maxModels = .ok query := by
  rcases h with rfl | rfl | rfl
  · cases family <;> exact ⟨_, rfl⟩
  · exact ⟨_, rfl⟩
  · exact ⟨_, rfl⟩

end Parts

/-! ### The loop, page by page -/

/-- The state of the loop behind some pages. -/
def stateAfter (pages : List Page) : ListState where
  cursor := (cursorsOf pages).getLast?
  seenCursors := cursorsOf pages
  models := modelsOf pages
  pagesFetched := pages.length
  responseBytes := bytesOf pages

/-- What the loop has checked of the pages together. -/
structure Sound (pages : List Page) : Prop where
  cursors : (cursorsOf pages).Nodup
  ids : (idsOf pages).Nodup
  modelCount : (modelsOf pages).length ≤ budget.models

/-- The loop takes the page over behind the pages `done`. -/
structure Admitted (done : List Page) (page : Page) : Prop where
  answered : Answered uuid X L budget exchange done page
  pageBytes : page.body.length ≤ budget.pageBytes
  totalBytes : bytesOf (done ++ [page]) ≤ budget.totalBytes
  sound : Sound budget (done ++ [page])

/-- What holds of the pages that end a list, all pages together. -/
structure Ends (done rest : List Page) : Prop where
  answered : ∀ before page after, rest = before ++ page :: after →
    Answered uuid X L budget exchange (done ++ before) page
  ended : rest.getLast?.map (fun page => page.parsed.nextCursor) = some none
  continued : ∀ page ∈ rest.dropLast, ∃ cursor, page.parsed.nextCursor = some cursor ∧
    IsCursor cursor
  sound : Sound budget (done ++ rest)
  pageBytes : ∀ page ∈ rest, page.body.length ≤ budget.pageBytes
  totalBytes : bytesOf (done ++ rest) ≤ budget.totalBytes

/-- The pages `rest` end the list behind the pages `done`. -/
def Completes : List Page → List Page → Prop
  | _, [] => False
  | done, page :: rest => Admitted uuid X L budget exchange done page ∧
    (page.parsed.nextCursor = none ∧ rest = [] ∨
      ∃ cursor, page.parsed.nextCursor = some cursor ∧ IsCursor cursor ∧
        Completes (done ++ [page]) rest)

section Loop

variable {uuid : String} {X : ListingExternals} {L : HttpModelListing} {budget : ModelListBudget}
  {exchange : Nat → Exchange} {done rest : List Page} {page : Page}

theorem bytesOf_append : bytesOf (done ++ pages) = bytesOf done + bytesOf pages := by
  induction done with
  | nil => simp [bytesOf]
  | cons page done ih =>
    rw [cons_append, bytesOf, bytesOf, ih]
    omega

theorem bytesOf_concat : bytesOf (done ++ [page]) = bytesOf done + page.body.length := by
  rw [bytesOf_append]
  simp [bytesOf]

theorem modelsOf_concat : modelsOf (done ++ [page]) = modelsOf done ++ page.parsed.models := by
  simp [modelsOf]

theorem cursorsOf_concat :
    cursorsOf (done ++ [page]) = cursorsOf done ++ page.parsed.nextCursor.toList := by
  cases hcursor : page.parsed.nextCursor <;> simp [cursorsOf, hcursor]

theorem stateAfter_last (hcursor : page.parsed.nextCursor = none) :
    stateAfter (done ++ [page]) =
      { stateAfter done with
        models := modelsOf (done ++ [page])
        responseBytes := bytesOf (done ++ [page])
        pagesFetched := (stateAfter done).pagesFetched + 1 } := by
  simp [stateAfter, cursorsOf_concat, hcursor]

theorem stateAfter_continued (hcursor : page.parsed.nextCursor = some cursor) :
    stateAfter (done ++ [page]) =
      { models := modelsOf (done ++ [page])
        responseBytes := bytesOf (done ++ [page])
        cursor := some cursor
        seenCursors := (stateAfter done).seenCursors ++ [cursor]
        pagesFetched := (stateAfter done).pagesFetched + 1 } := by
  simp [stateAfter, cursorsOf_concat, hcursor]

/-- The cursors stay distinct iff the page names none of those before. -/
theorem nodup_cursorsOf_concat (hnodup : (cursorsOf done).Nodup) :
    (cursorsOf (done ++ [page])).Nodup ↔
      ∀ cursor, page.parsed.nextCursor = some cursor → cursor ∉ cursorsOf done := by
  rw [cursorsOf_concat]
  cases hcursor : page.parsed.nextCursor with
  | none => simpa using hnodup
  | some cursor =>
    rw [Option.toList_some, nodup_append]
    constructor
    · rintro ⟨_, _, hdisj⟩ _ hsome hmem
      cases hsome
      exact hdisj _ hmem _ mem_cons_self rfl
    · intro hfresh
      refine ⟨hnodup, nodup_singleton cursor, fun a ha b hb heq => ?_⟩
      rw [mem_singleton] at hb
      exact hfresh cursor rfl (hb ▸ heq ▸ ha)

theorem validate_ok (h : budget.validate uuid = .ok ()) :
    budget.pages ≤ hardMaxModelPages ∧ budget.pageBytes ≤ hardMaxPageBytes ∧
      budget.totalBytes ≤ hardMaxTotalBytes := by
  obtain ⟨⟨_, hpages⟩, _, h⟩ := guards₂ h
  obtain ⟨⟨_, hpage⟩, h⟩ := guard_ok.mp h
  obtain ⟨_, htotal, _⟩ := require_ok.mp h
  exact ⟨hpages, hpage, htotal⟩

section

variable (hbud : budget.validate uuid = .ok ())
include hbud

/-- The body of a page is received iff the response delivers it within the budgets. -/
theorem receivePage_ok {answer : CoreResult PageResponse} {received : ReceivedPage} :
    receivePage uuid budget (bytesOf done) answer = .ok received ↔
      (bytesOf done < budget.totalBytes ∧
        ∃ response, answer = .ok response ∧ response.Delivers received.body ∧
          ∀ length ∈ response.contentLength,
            length ≤ min budget.pageBytes (budget.totalBytes - bytesOf done)) ∧
      received.body.length ≤ budget.pageBytes ∧
        bytesOf done + received.body.length ≤ budget.totalBytes ∧
        received.responseBytes = bytesOf done + received.body.length := by
  obtain ⟨_, hpage, htotal⟩ := validate_ok hbud
  have hsmall : hardMaxTotalBytes ≤ u64Max := by decide
  have hlim : budget.pageBytes ≤ u64Max := le_trans hpage (by decide)
  rw [receivePage, bind_ok]
  simp only [bind_ok, collectLimitedBody_ok hlim, okOr_ok, checkedAdd_eq_some]
  constructor
  · rintro ⟨response, hanswer, body, ⟨hroom, hdelivers, hbd, hdeclared⟩, total,
      ⟨_, htotal'⟩, hreceived⟩
    cases hreceived
    refine ⟨⟨by omega, response, hanswer, hdelivers, hdeclared⟩, ?_, ?_, htotal'.symm⟩
    · exact le_trans hbd (min_le_left _ _)
    · have hleft := le_trans hbd (min_le_right _ _)
      show bytesOf done + body.length ≤ budget.totalBytes
      omega
  · rintro ⟨⟨hroom, response, hanswer, hdelivers, hdeclared⟩, hpageBytes, htotalBytes, htotal'⟩
    refine ⟨response, hanswer, received.body, ⟨by omega, hdelivers, ?_, hdeclared⟩,
      received.responseBytes, ⟨?_, htotal'.symm⟩, rfl⟩
    · exact le_min hpageBytes (by omega)
    · omega

/-- **One round of the loop**: it succeeds iff the page is taken over, and it is the last one or
    the rounds that are left succeed behind it. -/
theorem fetchPages_succ_ok (hsound : Sound budget done)
    (hpaginated : cursorsOf done = [] ∨ L.family = .anthropicMessages ∨
      L.family = .geminiGenerateContent) :
    (fetchPages uuid X L budget exchange (rounds + 1) (stateAfter done)).result = .ok final ↔
      ∃ page, Admitted uuid X L budget exchange done page ∧
        (page.parsed.nextCursor = none ∧ final = stateAfter (done ++ [page]) ∨
          ∃ cursor, page.parsed.nextCursor = some cursor ∧ IsCursor cursor ∧
            (fetchPages uuid X L budget exchange rounds (stateAfter (done ++ [page]))).result =
              .ok final) := by
  have hquery : (stateAfter done).cursor = none ∨ L.family = .anthropicMessages ∨
      L.family = .geminiGenerateContent := by
    rcases hpaginated with hnil | hfam
    · left
      show (cursorsOf done).getLast? = none
      rw [hnil]
      rfl
    · exact .inr hfam
  have hurl : ∃ query, pageUrl uuid L.family (stateAfter done).cursor budget.models = .ok query :=
    pageUrl_isOk hquery
  rw [fetchPages]
  simp only [lift_bind_result_ok, send_bind_result]
  constructor
  · rintro ⟨_, _, _, hprepared, received, hreceived, parsed, hparsed, models, hmods, h⟩
    obtain ⟨⟨hroom, hdeliv⟩, hpageBytes, htotalBytes, hbytes⟩ := (receivePage_ok hbud).mp hreceived
    obtain ⟨hall, hids, hcount⟩ := (admitModels_ok hsound.ids hsound.modelCount).mp hmods
    have hgrown : modelsOf (done ++ [⟨received.body, parsed⟩]) = _ := modelsOf_concat
    rw [← hgrown] at hall hids hcount
    have hanswered : Answered uuid X L budget exchange done ⟨received.body, parsed⟩ :=
      ⟨hprepared, hroom, hdeliv, hparsed⟩
    have htotal : bytesOf (done ++ [⟨received.body, parsed⟩]) = _ := bytesOf_concat
    rw [← htotal] at htotalBytes hbytes
    rw [hall, hbytes] at h
    refine ⟨⟨received.body, parsed⟩, ?_⟩
    cases hcursor : parsed.nextCursor with
    | none =>
      rw [hcursor] at h
      have hcursors : (cursorsOf (done ++ [⟨received.body, parsed⟩])).Nodup :=
        (nodup_cursorsOf_concat hsound.cursors).mpr fun _ hsome =>
          absurd (hcursor.symm.trans hsome) nofun
      have hfinal : final = stateAfter (done ++ [⟨received.body, parsed⟩]) := by
        rw [stateAfter_last hcursor]
        exact (pure_inj h).symm
      exact ⟨⟨hanswered, hpageBytes, htotalBytes, hcursors, hids, hcount⟩, .inl ⟨rfl, hfinal⟩⟩
    | some cursor =>
      rw [hcursor] at h
      simp only [lift_bind_result_ok] at h
      obtain ⟨_, hval, _, hfresh, h⟩ := h
      have hcursors : (cursorsOf (done ++ [⟨received.body, parsed⟩])).Nodup := by
        refine (nodup_cursorsOf_concat hsound.cursors).mpr fun c hsome => ?_
        cases hcursor.symm.trans hsome
        exact require_ok.mp hfresh
      have hnext : stateAfter (done ++ [⟨received.body, parsed⟩]) = _ :=
        stateAfter_continued hcursor
      rw [← hnext] at h
      exact ⟨⟨hanswered, hpageBytes, htotalBytes, hcursors, hids, hcount⟩,
        .inr ⟨cursor, rfl, require_ok.mp hval, h⟩⟩
  · rintro ⟨page, hadm, hlast⟩
    obtain ⟨query, hquery⟩ := hurl
    have hreceived : receivePage uuid budget (bytesOf done) (exchange done.length).response =
        .ok ⟨page.body, bytesOf (done ++ [page])⟩ :=
      (receivePage_ok hbud).mpr ⟨⟨hadm.answered.room, hadm.answered.delivered⟩, hadm.pageBytes,
          bytesOf_concat ▸ hadm.totalBytes, bytesOf_concat⟩
    have hmods : admitModels uuid budget.models (stateAfter done).models page.parsed.models =
        .ok (modelsOf (done ++ [page])) := by
      refine (admitModels_ok hsound.ids hsound.modelCount).mpr ?_
      rw [← modelsOf_concat]
      exact ⟨rfl, hadm.sound.ids, hadm.sound.modelCount⟩
    refine ⟨query, hquery, (), hadm.answered.prepared, _, hreceived, page.parsed,
      hadm.answered.parsed, _, hmods, ?_⟩
    rcases hlast with ⟨hcursor, rfl⟩ | ⟨cursor, hcursor, hval, h⟩
    · rw [hcursor, stateAfter_last hcursor]
      rfl
    · rw [hcursor]
      simp only [lift_bind_result_ok]
      refine ⟨(), require_ok.mpr hval, (), require_ok.mpr ?_, ?_⟩
      · exact (nodup_cursorsOf_concat hsound.cursors).mp hadm.sound.cursors cursor hcursor
      · rw [← stateAfter_continued hcursor]
        exact h

/-- **The loop succeeds exactly if pages that end the list follow**, and not more of them than
    rounds are left. -/
theorem fetchPages_ok (hsound : Sound budget done)
    (hpaginated : cursorsOf done = [] ∨ L.family = .anthropicMessages ∨
      L.family = .geminiGenerateContent) :
    (fetchPages uuid X L budget exchange rounds (stateAfter done)).result = .ok final ↔
      ∃ rest, rest.length ≤ rounds ∧ Completes uuid X L budget exchange done rest ∧
        final = stateAfter (done ++ rest) := by
  induction rounds generalizing done with
  | zero =>
    constructor
    · intro h
      cases h
    · rintro ⟨rest, hlen, hcompls, _⟩
      rw [length_eq_zero_iff.mp (le_zero.mp hlen)] at hcompls
      exact hcompls.elim
  | succ rounds ih =>
    rw [fetchPages_succ_ok hbud hsound hpaginated]
    constructor
    · rintro ⟨page, hadm, ⟨hcursor, hfinal⟩ | ⟨cursor, hcursor, hval, h⟩⟩
      · exact ⟨[page], by simp, ⟨hadm, .inl ⟨hcursor, rfl⟩⟩, hfinal⟩
      · have hfam := paginated_of_nextCursor hadm.answered.parsed hcursor
        obtain ⟨rest, hlen, hcompls, hfinal⟩ := (ih hadm.sound (.inr hfam)).mp h
        refine ⟨page :: rest, succ_le_succ hlen, ⟨hadm, .inr ⟨cursor, hcursor, hval, hcompls⟩⟩, ?_⟩
        rw [hfinal, ← append_cons]
    · rintro ⟨rest, hlen, hcompls, hfinal⟩
      cases rest with
      | nil => exact hcompls.elim
      | cons page rest =>
        obtain ⟨hadm, ⟨hcursor, rfl⟩ | ⟨cursor, hcursor, hval, hrest⟩⟩ := hcompls
        · exact ⟨page, hadm, .inl ⟨hcursor, hfinal⟩⟩
        · have hfam := paginated_of_nextCursor hadm.answered.parsed hcursor
          refine ⟨page, hadm, .inr ⟨cursor, hcursor, hval, ?_⟩⟩
          refine (ih hadm.sound (.inr hfam)).mpr ⟨rest, le_of_succ_le_succ hlen, hrest, ?_⟩
          rw [hfinal, ← append_cons]

end

/-! ### Complete lists, as a whole -/

theorem sound_nil : Sound budget [] := ⟨nodup_nil, nodup_nil, Nat.zero_le _⟩

theorem Sound.of_append (h : Sound budget (done ++ pages)) : Sound budget done where
  cursors := by
    have hnodup := h.cursors
    rw [cursorsOf, filterMap_append] at hnodup
    exact (nodup_append.mp hnodup).1
  ids := by
    have hnodup := h.ids
    rw [idsOf, modelsOf, flatMap_append, map_append] at hnodup
    exact (nodup_append.mp hnodup).1
  modelCount := by
    have hcount := h.modelCount
    rw [modelsOf, flatMap_append, length_append] at hcount
    exact le_trans (Nat.le_add_right _ _) hcount

/-- Taken over one after the other, the pages end the list. -/
theorem Completes.ends (h : Completes uuid X L budget exchange done rest) :
    Ends uuid X L budget exchange done rest := by
  induction rest generalizing done with
  | nil => exact h.elim
  | cons page rest ih =>
    obtain ⟨hadm, ⟨hcursor, rfl⟩ | ⟨cursor, hcursor, hval, hrest⟩⟩ := h
    · refine ⟨?_, ?_, by simp, hadm.sound, ?_, hadm.totalBytes⟩
      · intro before other after hsplit
        -- A list of one page splits in one way.
        obtain ⟨rfl, hoth⟩ | ⟨_, _, hnil⟩ := cons_eq_append_iff.mp hsplit
        · obtain ⟨rfl, _⟩ := cons.inj hoth
          rw [append_nil]
          exact hadm.answered
        · simp at hnil
      · rw [getLast?_singleton, Option.map_some, hcursor]
      · intro other hmem
        rw [mem_singleton.mp hmem]
        exact hadm.pageBytes
    · have hne : rest ≠ [] := by
        rintro rfl
        exact hrest.elim
      obtain ⟨hanswered, hended, hcontinued, hsound, hpageBytes, htotalBytes⟩ := ih hrest
      rw [← append_cons] at hsound htotalBytes
      refine ⟨?_, ?_, ?_, hsound, ?_, htotalBytes⟩
      · intro before other after hsplit
        cases before with
        | nil =>
          obtain ⟨rfl, _⟩ := cons.inj hsplit
          rw [append_nil]
          exact hadm.answered
        | cons first before =>
          obtain ⟨rfl, hsplit'⟩ := cons.inj hsplit
          have hoth := hanswered before other after hsplit'
          rwa [← append_cons] at hoth
      · rw [getLast?_cons_of_ne_nil hne]
        exact hended
      · rw [dropLast_cons_of_ne_nil hne, forall_mem_cons]
        exact ⟨⟨cursor, hcursor, hval⟩, hcontinued⟩
      · exact forall_mem_cons.mpr ⟨hadm.pageBytes, hpageBytes⟩

theorem Ends.completes (h : Ends uuid X L budget exchange done rest) :
    Completes uuid X L budget exchange done rest := by
  induction rest generalizing done with
  | nil => exact absurd h.ended (by simp)
  | cons page rest ih =>
    have hsound := h.sound
    have htotalBytes := h.totalBytes
    rw [append_cons] at hsound htotalBytes
    have hadm : Admitted uuid X L budget exchange done page := by
      refine ⟨?_, h.pageBytes page mem_cons_self, ?_, hsound.of_append⟩
      · have hfirst := h.answered [] page rest rfl
        rwa [append_nil] at hfirst
      · rw [bytesOf_append] at htotalBytes
        omega
    refine ⟨hadm, ?_⟩
    by_cases hnil : rest = []
    · subst hnil
      have hended := h.ended
      rw [getLast?_singleton, map_some, some.injEq] at hended
      exact .inl ⟨hended, rfl⟩
    · have hcontinued := h.continued
      rw [dropLast_cons_of_ne_nil hnil, forall_mem_cons] at hcontinued
      obtain ⟨⟨cursor, hcursor, hval⟩, hcontinued⟩ := hcontinued
      refine .inr ⟨cursor, hcursor, hval, ih ⟨?_, ?_, hcontinued, hsound, ?_, htotalBytes⟩⟩
      · intro before other after hsplit
        have hoth := h.answered (page :: before) other after (by rw [hsplit, cons_append])
        rwa [← append_cons]
      · have hended := h.ended
        rwa [getLast?_cons_of_ne_nil hnil] at hended
      · intro other hmem
        exact h.pageBytes other (mem_cons_of_mem page hmem)

/-- The last page names no cursor iff the provider signals the end with it. -/
theorem ended_iff (hanswered : ∀ before page after, pages = before ++ page :: after →
      Answered uuid X L budget exchange before page) :
    pages.getLast?.map (fun page => page.parsed.nextCursor) = some none ↔
      ∃ last, pages.getLast? = some last ∧ SignalsEnd X L.responseSchema L.family last.body := by
  rw [Option.map_eq_some_iff]
  have hlast : ∀ last, pages.getLast? = some last →
      (last.parsed.nextCursor = none ↔ SignalsEnd X L.responseSchema L.family last.body) := by
    intro last hlast
    obtain ⟨before, hpages⟩ := getLast?_eq_some_iff.mp hlast
    exact nextCursor_eq_none_iff (hanswered before last [] hpages).parsed
  constructor
  · rintro ⟨last, hget, hcursor⟩
    exact ⟨last, hget, (hlast last hget).mp hcursor⟩
  · rintro ⟨last, hget, hends⟩
    exact ⟨last, hget, (hlast last hget).mpr hends⟩

/-- The list is complete iff its pages are taken over one after the other, within the budget. -/
theorem listed_iff : Listed uuid X L budget exchange pages ↔
    pages.length ≤ budget.pages ∧ Completes uuid X L budget exchange [] pages := by
  constructor
  · intro h
    have hends : Ends uuid X L budget exchange [] pages :=
      ⟨h.answered, (ended_iff h.answered).mpr h.ended, h.continued,
        ⟨h.cursors, h.ids, h.modelCount⟩, h.pageBytes, h.totalBytes⟩
    exact ⟨h.pageCount, hends.completes⟩
  · rintro ⟨hlen, h⟩
    have hends := h.ends
    exact ⟨hends.answered, (ended_iff hends.answered).mp hends.ended, hends.continued,
      hends.sound.cursors, hends.sound.ids, hlen, hends.sound.modelCount, hends.pageBytes,
      hends.totalBytes⟩

/-! ### Requests -/

/-- At most so many requests: the first asks for the given cursor, and the others for cursors that
    are new, each once. -/
def AsksOnce (rounds : Nat) (cursor : Option String) (seen : List String)
    (requests : List PageRequest) : Prop :=
  requests.length ≤ rounds ∧ ∃ later : List String,
    requests.map PageRequest.cursor <+: cursor :: later.map some ∧ later.Nodup ∧
      ∀ other ∈ later, other ∉ seen

theorem asksOnce_nil {cursor : Option String} :
    AsksOnce rounds cursor seen [] :=
  ⟨Nat.zero_le _, [], nil_prefix, nodup_nil, fun _ hmem => absurd hmem not_mem_nil⟩

theorem asksOnce_singleton :
    AsksOnce (rounds + 1) request.cursor seen [request] :=
  ⟨by simp, [], prefix_rfl, nodup_nil, fun _ hmem => absurd hmem not_mem_nil⟩

/-- One request in front of those that ask for a new cursor. -/
theorem AsksOnce.cons (hfresh : cursor ∉ seen)
    (h : AsksOnce rounds (some cursor) (seen ++ [cursor]) requests) :
    AsksOnce (rounds + 1) request.cursor seen (request :: requests) := by
  obtain ⟨hlen, later, hpref, hnodup, hnew⟩ := h
  refine ⟨Nat.succ_le_succ hlen, cursor :: later, ?_, ?_, ?_⟩
  · exact (prefix_cons_inj _).mpr hpref
  · refine nodup_cons.mpr ⟨fun hmem => ?_, hnodup⟩
    exact hnew cursor hmem mem_concat_self
  · refine forall_mem_cons.mpr ⟨hfresh, fun other hmem hseen => ?_⟩
    exact hnew other hmem (mem_append_left _ hseen)

/-- However the rounds end, their requests are new. -/
theorem asksOnce_fetchPages :
    AsksOnce rounds state.cursor state.seenCursors
      (fetchPages uuid X L budget exchange rounds state).sent := by
  induction rounds generalizing state with
  | zero => exact asksOnce_nil
  | succ rounds ih =>
    refine sent_lift_bind asksOnce_nil fun query _ => ?_
    refine sent_lift_bind asksOnce_nil fun _ _ => ?_
    -- From here on the request is out.
    let P : List PageRequest → Prop := fun requests =>
      AsksOnce (rounds + 1) state.cursor state.seenCursors (⟨state.cursor, query⟩ :: requests)
    have hone : P [] := asksOnce_singleton
    refine sent_lift_bind (P := P) hone fun received _ => ?_
    refine sent_lift_bind (P := P) hone fun page _ => ?_
    refine sent_lift_bind (P := P) hone fun models _ => ?_
    cases page.nextCursor with
    | none => exact hone
    | some cursor =>
      refine sent_lift_bind (P := P) hone fun _ _ => ?_
      refine sent_require_bind (P := P) hone fun hfresh => ?_
      exact AsksOnce.cons hfresh ih

theorem AsksOnce.nodup
    (h : AsksOnce rounds none [] requests) : (requests.map PageRequest.cursor).Nodup := by
  obtain ⟨_, later, hpref, hnodup, _⟩ := h
  have hall : (none :: later.map some).Nodup :=
    nodup_cons.mpr ⟨by simp, hnodup.map (some_injective _)⟩
  exact hall.sublist hpref.sublist

end Loop

variable {uuid : String} {X : ListingExternals} {L : HttpModelListing} {budget : ModelListBudget}
  {exchange : Nat → Exchange} {admitted : CoreResult Unit}

theorem finishListing_stateAfter {result : ModelListResult}
    (hpages : pages.length ≤ u32Max) (hbytes : bytesOf pages ≤ u64Max) :
    finishListing uuid L (stateAfter pages) = .ok result ↔ result = listing L pages := by
  rw [finishListing, guard_ok, guard_ok]
  constructor
  · rintro ⟨_, _, h⟩
    exact (pure_inj h).symm
  · rintro rfl
    exact ⟨hpages, hbytes, rfl⟩

/-- **A listing is all or nothing.**  However the provider answers, there are no more requests than
    the page budget, and no cursor is asked for twice; and the listing succeeds exactly if the pages
    make up a complete list, with that list as its result. -/
theorem listModels_complete :
    (listModels uuid X L budget exchange admitted).sent.length ≤ budget.pages ∧
      ((listModels uuid X L budget exchange admitted).sent.map PageRequest.cursor).Nodup ∧
      ∀ result, (listModels uuid X L budget exchange admitted).result = .ok result ↔
        budget.validate uuid = .ok () ∧ admitted = .ok () ∧
          ∃ pages, Listed uuid X L budget exchange pages ∧ result = listing L pages := by
  have hasks : AsksOnce budget.pages none []
      (listModels uuid X L budget exchange admitted).sent := by
    refine sent_lift_bind asksOnce_nil fun _ _ => ?_
    refine sent_lift_bind asksOnce_nil fun _ _ => ?_
    rw [sent_bind_lift]
    exact asksOnce_fetchPages
  refine ⟨hasks.1, hasks.nodup, fun result => ?_⟩
  rw [listModels]
  simp only [bind_result_ok_iff]
  -- The counters are far below the limits of their types.
  have hcounts : ∀ pages, budget.validate uuid = .ok () → Listed uuid X L budget exchange pages →
      pages.length ≤ u32Max ∧ bytesOf pages ≤ u64Max := by
    intro pages hbud hlisted
    obtain ⟨hpages, _, htotal⟩ := validate_ok hbud
    exact ⟨(hlisted.pageCount.trans hpages).trans (by decide),
      (hlisted.totalBytes.trans htotal).trans (by decide)⟩
  constructor
  · rintro ⟨_, hbud, _, hadm, state, hst, hfinish⟩
    obtain ⟨pages, hlen, hcompls, rfl⟩ :=
      (fetchPages_ok hbud sound_nil (.inl rfl)).mp hst
    have hlisted : Listed uuid X L budget exchange pages := listed_iff.mpr ⟨hlen, hcompls⟩
    obtain ⟨hpages, hbytes⟩ := hcounts pages hbud hlisted
    exact ⟨hbud, hadm, pages, hlisted, (finishListing_stateAfter hpages hbytes).mp hfinish⟩
  · rintro ⟨hbud, hadm, pages, hlisted, hres⟩
    obtain ⟨hlen, hcompls⟩ := listed_iff.mp hlisted
    obtain ⟨hpages, hbytes⟩ := hcounts pages hbud hlisted
    refine ⟨(), hbud, (), hadm, stateAfter pages, ?_, ?_⟩
    · exact (fetchPages_ok hbud sound_nil (.inl rfl)).mpr ⟨pages, hlen, hcompls, rfl⟩
    · exact (finishListing_stateAfter hpages hbytes).mpr hres

end LorePia.Providers.ModelPages
