import LorePia.Domain.Provider
import LorePia.Lib.Transcript

namespace LorePia.Providers

open Lib List After Transcript

/-!
# Providers — the byte stream of a response

What the adapters have in common: the summary of the usage, and the read loop of the four that
decode server-sent events.  Chunks arrive
and are appended to `pending`; every event that is complete in `pending` is cut out and
processed; a terminal event ends the loop at once, and the rest of the stream is not read.

The loop is written once, over what an adapter brings along (`SseReader`): its limits and
messages, what it does with one event, and what it makes of a stream that ended.  A generation
that observes its cancellation ends in an error between two steps; the runs modelled here are
those in which no check observes one.

* `eventsOf`, `framesOf` — the events of a stream, whatever is done with them;
* `SseReader.consume_after` — the run rule: what processing one event keeps, the loop keeps,
    and the events it processed are a beginning of `framesOf`.
-/

variable {bytes event pending : Bytes} {endOfStream : Bool}

/-- How the transport failed to deliver the next chunk. -/
inductive NetworkFailure
  | timedOut
  | connect
  | other

/-- `reqwest::Response::bytes_stream`, one item. -/
abbrev Arrival := Except NetworkFailure Bytes

/-- What the adapters call and the crate does not define: the identifier drawn for an error,
    the parser and the printer of `serde_json`, the sizes of its serializer, and base64. -/
structure ProviderExternals where
  uuid : String
  parseJson : Bytes → Option Json
  printJson : Json → Option String
  sizes : ReasoningSizes
  decodeBase64 : String → Option Bytes
  encodeBase64 : Bytes → String

/-- `streaming_error`. -/
def streamingError (uuid message : String) : CoreError :=
  .new uuid .providerUnavailable message true

/-- What is sent to the sink, and how the adapter ended. -/
abbrev Response := Transcript ProviderEvent CoreError

/-! ### Usage -/

def maxBoundedJsonBytes : Nat := 4 * 1024
def maxBoundedJsonChars : Nat := 2 * 1024

/-- `BoundedJson::from_value`, where the reason of a failure is not looked at. -/
def boundedJsonFromValue (X : ProviderExternals) (value : Json) : Option BoundedJson := do
  guard (value.isObject = true)
  let canonical ← X.printJson value
  guard (canonical ≠ "" ∧ byteLen canonical ≤ maxBoundedJsonBytes ∧
    charCount canonical ≤ maxBoundedJsonChars)
  return ⟨canonical⟩

/-- `merge_usage_summary`. -/
def mergeUsageSummary (X : ProviderExternals) (current : Option BoundedJson)
    (fields : List (String × Option Nat)) : Option BoundedJson :=
  let known := ((current.bind fun summary => X.parseJson (asBytes summary.val)).bind
    Json.asObject?).getD []
  let object := fields.foldl (fun object field =>
    match field.2 with
    | some value => Json.insertEntry field.1 (.number (.posInt value)) object
    | none => object) known
  if object = [] then none else boundedJsonFromValue X (.object object)

/-! ### Framing -/

def carriageReturn : UInt8 := 13
def lineFeed : UInt8 := 10

/-- `SSE_EVENT_SEPARATORS`, in the order in which they are tried. -/
def sseEventSeparators : List Bytes :=
  [[13, 10, 13, 10], [10, 13, 10], [13, 13, 10], [13, 10, 10], [13, 10, 13], [10, 10], [10, 13],
    [13, 13]]

/-- The separator that `bytes` begins with.  One that ends in a carriage return is not
    recognised at the edge of an open buffer, because a line feed may follow. -/
def separatorAt (bytes : Bytes) (endOfStream : Bool) : Option Nat :=
  (sseEventSeparators.find? fun separator =>
    separator.isPrefixOf bytes && (endOfStream || separator.getLast? != some carriageReturn ||
        separator == [carriageReturn, carriageReturn] ||
        separator.length != bytes.length)).map List.length

/-- `find_event_boundary`: where the first event ends, and the length of its separator. -/
def findEventBoundary : Bytes → Bool → Option (Nat × Nat)
  | [], _ => none
  | byte :: bytes, endOfStream =>
    match separatorAt (byte :: bytes) endOfStream with
    | some length => some (0, length)
    | none => (findEventBoundary bytes endOfStream).map fun found => (found.1 + 1, found.2)

theorem separatorAt_pos {length : Nat}
    (h : separatorAt bytes endOfStream = some length) : 0 < length := by
  obtain ⟨separator, hfind, rfl⟩ := Option.map_eq_some_iff.mp h
  have hmem := mem_of_find?_eq_some hfind
  have hall : ∀ separator ∈ sseEventSeparators, 0 < separator.length := by decide
  exact hall separator hmem

/-- A round of the loop takes at least one byte. -/
theorem findEventBoundary_pos (h : findEventBoundary bytes endOfStream = some found) :
    0 < found.2 := by
  induction bytes generalizing found with
  | nil => cases h
  | cons byte bytes ih =>
    unfold findEventBoundary at h
    cases hat : separatorAt (byte :: bytes) endOfStream with
    | some length =>
      rw [hat] at h
      cases h
      exact separatorAt_pos hat
    | none =>
      rw [hat] at h
      obtain ⟨inner, hinner, rfl⟩ := Option.map_eq_some_iff.mp h
      show 0 < inner.2
      exact ih hinner

/-- The first complete event of a buffer, and what follows its separator. -/
def nextEvent? (pending : Bytes) (endOfStream : Bool) :
    Option (Bytes × Bytes) :=
  (findEventBoundary pending endOfStream).map fun found =>
    (pending.take found.1, pending.drop (found.1 + found.2))

theorem nextEvent?_length (h : nextEvent? pending endOfStream = some (event, rest))
    (hne : pending ≠ []) :
    rest.length < pending.length := by
  obtain ⟨found, hfound, heq⟩ := Option.map_eq_some_iff.mp h
  cases heq
  have hpos := findEventBoundary_pos hfound
  have hlen : 0 < pending.length := length_pos_iff.mpr hne
  rw [length_drop]
  omega

/-- The payload of an event: its `data:` lines, joined; `none` if there is none. -/
def dataOf (text : String) : Option String :=
  let dataLines := (splitAt ['\r', '\n'] text).filterMap fun line =>
    (stripPrefix? line "data:").map fun data => (stripPrefix? data " ").getD data
  if dataLines = [] then none else some ("\n".intercalate dataLines)

/-- `event_data`: the trimmed payload, if there is one. -/
def eventData (uuid malformed : String) (event : Bytes) :
    CoreResult (Option String) := do
  let text ← okOr (fromUtf8 event) (streamingError uuid malformed)
  return (dataOf text).bind fun data => if trim data = "" then none else some (trim data)

/-! ### Framed payloads -/

/-- A payload as one event of a stream. -/
def frame (payload : String) : Bytes := asBytes ("data: " ++ payload) ++ [lineFeed, lineFeed]

/-- A payload that fits on one line and has no space around it. -/
structure OneLine (payload : String) : Prop where
  chars : payload.toList.all (· ∉ ['\r', '\n']) = true
  bytes : (asBytes payload).all (fun byte => byte ≠ carriageReturn ∧ byte ≠ lineFeed) = true
  trimmed : ((payload.toList.dropWhile isWhitespace).reverse.dropWhile isWhitespace).reverse =
    payload.toList
  nonempty : payload ≠ ""

theorem separatorAt_of_ne (h : byte ≠ carriageReturn ∧ byte ≠ lineFeed) :
    separatorAt (byte :: bytes) endOfStream = none := by
  have hfirst : ∀ separator ∈ sseEventSeparators,
      separator.head? = some carriageReturn ∨ separator.head? = some lineFeed := by decide
  have hnone : ∀ separator ∈ sseEventSeparators, separator.isPrefixOf (byte :: bytes) = false := by
    intro separator hmem
    rcases separator with _ | ⟨first, rest⟩
    · simpa using hfirst [] hmem
    · have hne : first ≠ byte := by
        rintro rfl
        rcases hfirst _ hmem with heq | heq
        · exact h.1 (Option.some.inj heq)
        · exact h.2 (Option.some.inj heq)
      simp [List.isPrefixOf, hne]
  have hfind : sseEventSeparators.find? (fun separator =>
      separator.isPrefixOf (byte :: bytes) &&
        (endOfStream || separator.getLast? != some carriageReturn ||
          separator == [carriageReturn, carriageReturn] ||
          separator.length != (byte :: bytes).length)) = none := by
    rw [List.find?_eq_none]
    intro separator hmem
    simp [hnone separator hmem]
  rw [separatorAt, hfind]
  rfl

/-- The first empty line ends the event. -/
theorem nextEvent?_line
    (h : event.all (fun byte => byte ≠ carriageReturn ∧ byte ≠ lineFeed) = true) :
    nextEvent? (event ++ [lineFeed, lineFeed]) false = some (event, []) := by
  have hbdry : findEventBoundary (event ++ [lineFeed, lineFeed]) false =
      some (event.length, 2) := by
    induction event with
    | nil => rfl
    | cons byte event ih =>
      rw [all_cons, Bool.and_eq_true, decide_eq_true_eq] at h
      rw [cons_append, findEventBoundary, separatorAt_of_ne h.1]
      simp only [ih h.2, Option.map_some, length_cons]
  rw [nextEvent?, hbdry]
  simp

theorem OneLine.eventData (h : OneLine payload) (uuid malformed : String) :
    eventData uuid malformed (asBytes ("data: " ++ payload)) = .ok (some payload) := by
  have hlines : splitAt ['\r', '\n'] ("data: " ++ payload) = ["data: " ++ payload] := by
    have hall : ("data: " ++ payload).toList.all (· ∉ ['\r', '\n']) = true := by
      rw [String.toList_append, all_append, h.chars]
      decide
    apply splitAt_eq_singleton
    intro c hc
    exact of_decide_eq_true (all_eq_true.mp hall c hc)
  have hdata : stripPrefix? ("data: " ++ payload) "data:" = some (" " ++ payload) := by
    rw [stripPrefix?]
    simp
  have hspace : stripPrefix? (" " ++ payload) " " = some payload := by
    rw [stripPrefix?]
    simp
  have hjoined : dataOf ("data: " ++ payload) = some payload := by
    simp [dataOf, hlines, hdata, hspace]
  have htrim : trim payload = payload := by rw [trim, h.trimmed, String.ofList_toList]
  rw [LorePia.Providers.eventData, fromUtf8_asBytes]
  simp [okOr, hjoined, htrim, h.nonempty]

/-! ### The loop -/

inductive EventAction
  | «continue»
  | done
deriving DecidableEq

theorem EventAction.eq_continue {action : EventAction} (h : action ≠ .done) :
    action = .continue := by
  cases action with
  | «continue» => rfl
  | done => exact absurd rfl h

/-- What an adapter brings to the loop. -/
structure SseReader (σ : Type) where
  maxEventBytes : Nat
  maxStreamBytes : Nat
  eventTooLarge : CoreError
  streamTooLarge : CoreError
  incompleteEvent : CoreError
  networkError : NetworkFailure → CoreError
  process : Bytes → σ → Response (σ × EventAction)
  /-- The usage that a terminal event leaves. -/
  usage : σ → GenerationUsage
  /-- The end of a stream without a terminal event. -/
  finish : σ → CoreResult GenerationUsage

namespace SseReader

variable {σ : Type} (R : SseReader σ)

/-- The `while let Some(..) = find_event_boundary(..)` loop, with a bound on its rounds. -/
def drainEvents (endOfStream : Bool) : Nat → Bytes → σ →
    Response (σ × Bytes × EventAction)
  | 0, pending, s => pure (s, pending, .continue)
  | rounds + 1, pending, s =>
    match nextEvent? pending endOfStream with
    | none => pure (s, pending, .continue)
    | some (event, rest) => do
      require (event.length ≤ R.maxEventBytes) R.eventTooLarge
      let (s, action) ← R.process event s
      if action = .done then return (s, rest, .done)
      drainEvents endOfStream rounds rest s

/-- `ensure_pending_size`: a full buffer may still be waiting for the rest of its separator. -/
def ensurePendingSize (bytes : Bytes) (endOfStream : Bool) : CoreResult Unit :=
  require (bytes.length ≤ R.maxEventBytes ∨ endOfStream = false ∧ ∃ separator ∈ sseEventSeparators,
        (bytes.drop R.maxEventBytes).length < separator.length ∧
          (bytes.drop R.maxEventBytes).isPrefixOf separator = true)
    R.eventTooLarge

/-- The read loop, and what follows it. -/
def consume : List Arrival → Nat → Bytes → σ → Response GenerationUsage
  | [], _, pending, s => do
    let (s, pending, action) ← R.drainEvents true pending.length pending s
    if action = .done then return R.usage s
    R.ensurePendingSize pending true
    require (pending = []) R.incompleteEvent
    R.finish s
  | .error failure :: _, _, _, _ => .fail (R.networkError failure)
  | .ok chunk :: arrivals, totalStreamBytes, pending, s => do
    let totalStreamBytes ← okOr (checkedAdd totalStreamBytes chunk.length) R.streamTooLarge
    require (totalStreamBytes ≤ R.maxStreamBytes) R.streamTooLarge
    let pending := pending ++ chunk
    let (s, pending, action) ←
      if chunk.any fun byte => byte == carriageReturn || byte == lineFeed then
        R.drainEvents false pending.length pending s
      else pure (s, pending, .continue)
    if action = .done then return R.usage s
    R.ensurePendingSize pending false
    consume arrivals totalStreamBytes pending s

/-- The events of a stream that arrives event by event. -/
def runEvents : List Bytes → σ → Response GenerationUsage
  | [], s => R.finish s
  | event :: events, s => do
    let (s, action) ← R.process event s
    if action = .done then return R.usage s
    runEvents events s

/-- Framed payloads that arrive one by one are processed one by one. -/
theorem consume_frames {payloads : List String} (hlines : ∀ payload ∈ payloads, OneLine payload)
    (hevs : ∀ payload ∈ payloads, (frame payload).length ≤ R.maxEventBytes) {total : Nat}
    (htotal : total + (payloads.flatMap frame).length ≤ R.maxStreamBytes)
    (hmax : R.maxStreamBytes ≤ u64Max) (s : σ) :
    R.consume (payloads.map fun payload => .ok (frame payload)) total [] s =
      R.runEvents (payloads.map fun payload => asBytes ("data: " ++ payload)) s := by
  induction payloads generalizing total s with
  | nil =>
    show _ = Transcript.mk _ _
    rfl
  | cons payload payloads ih =>
    rw [forall_mem_cons] at hlines hevs
    rw [flatMap_cons, length_append] at htotal
    have hadd : checkedAdd total (frame payload).length = some (total + (frame payload).length) :=
      checkedAdd_of_le (by omega)
    have hlen : (frame payload).length = (asBytes ("data: " ++ payload)).length + 2 := by
      rw [frame, length_append]
      rfl
    have hnext : nextEvent? (frame payload) false = some (asBytes ("data: " ++ payload), []) := by
      apply nextEvent?_line
      rw [asBytes_append, all_append, hlines.1.bytes]
      decide
    have hline : ((frame payload).any fun byte => byte == carriageReturn || byte == lineFeed) =
        true := by
      rw [frame, any_append]
      simp
    have hleft : total + (frame payload).length +
        (payloads.flatMap frame).length ≤ R.maxStreamBytes := by omega
    have hrest := fun s => ih hlines.2 hevs.2 hleft s
    -- the buffer holds one event, and nothing once it is taken
    have hdrain : R.drainEvents false (frame payload).length (frame payload) s = (do
        let (s, action) ← R.process (asBytes ("data: " ++ payload)) s
        return (s, [], action)) := by
      have hsize : (asBytes ("data: " ++ payload)).length ≤ R.maxEventBytes := by omega
      rw [hlen, drainEvents, hnext]
      simp only [require_true hsize]
      rcases R.process (asBytes ("data: " ++ payload)) s with ⟨sent, _ | ⟨s, action⟩⟩
      · rfl
      · cases action with
        | done => rfl
        | «continue» => rfl
    have hbd : total + (frame payload).length ≤ R.maxStreamBytes := by omega
    have hsmall : R.ensurePendingSize [] false = .ok () := require_true (.inl (Nat.zero_le _)) _
    rw [map_cons, map_cons, consume, runEvents]
    simp only [hadd, okOr, nil_append, hline, if_true, hdrain]
    simp only [lift_ok_bind, require_true hbd]
    rcases R.process (asBytes ("data: " ++ payload)) s with ⟨sent, _ | ⟨s, action⟩⟩
    · rfl
    · rw [Transcript.ok_bind_pure, Transcript.ok_bind, Transcript.ok_bind]
      cases action with
      | done => rfl
      | «continue» => simp only [reduceCtorEq, if_false, hsmall, lift_ok_bind, hrest]

end SseReader

/-! ### The events of a stream -/

/-- The complete events of a buffer, and what is left of it. -/
def eventsOf (endOfStream : Bool) : Nat → Bytes → List Bytes × Bytes
  | 0, pending => ([], pending)
  | rounds + 1, pending =>
    match nextEvent? pending endOfStream with
    | none => ([], pending)
    | some (event, rest) =>
      (event :: (eventsOf endOfStream rounds rest).1, (eventsOf endOfStream rounds rest).2)

/-- The rounds are enough: no complete event is left behind. -/
theorem nextEvent?_eventsOf (endOfStream : Bool) (h : pending.length ≤ rounds) :
    nextEvent? (eventsOf endOfStream rounds pending).2 endOfStream = none := by
  induction rounds generalizing pending with
  | zero =>
    rw [length_eq_zero_iff.mp (by omega : pending.length = 0)]
    rfl
  | succ rounds ih =>
    unfold eventsOf
    cases hnext : nextEvent? pending endOfStream with
    | none => exact hnext
    | some cut =>
      have hne : pending ≠ [] := by
        rintro rfl
        cases hnext
      have hshorter := nextEvent?_length hnext hne
      exact ih (by omega)

/-- The events of a stream from a buffer on, in the order in which the loop cuts them out. -/
def framesOf : List Arrival → Bytes → List Bytes
  | [], pending => (eventsOf true pending.length pending).1
  | .error _ :: _, _ => []
  | .ok chunk :: arrivals, pending =>
    let pending := pending ++ chunk
    if chunk.any fun byte => byte == carriageReturn || byte == lineFeed then
      (eventsOf false pending.length pending).1 ++
        framesOf arrivals (eventsOf false pending.length pending).2
    else framesOf arrivals pending

namespace SseReader

variable {σ : Type} {R : SseReader σ} {I Q : List ProviderEvent → List Bytes → σ → Prop}
  {log : List ProviderEvent} {frames : List Bytes} {s : σ}

/-- Processing one more event keeps `I`, or establishes `Q` if the event is terminal. -/
def Keeps (R : SseReader σ) (I Q : List ProviderEvent → List Bytes → σ → Prop) : Prop :=
  ∀ log frames s event, I log frames s → After log (R.process event s) fun log' out =>
      match out.2 with
      | .continue => I log' (frames ++ [event]) out.1
      | .done => Q log' (frames ++ [event]) out.1

theorem drainEvents_after (hkeeps : R.Keeps I Q) (endOfStream : Bool) (rounds : Nat)
    (pending : Bytes) (h : I log frames s) :
    After log (R.drainEvents endOfStream rounds pending s) fun log' out =>
      match out.2.2 with
      | .continue => out.2.1 = (eventsOf endOfStream rounds pending).2 ∧
          I log' (frames ++ (eventsOf endOfStream rounds pending).1) out.1
      | .done => ∃ seen rest, (eventsOf endOfStream rounds pending).1 = seen ++ rest ∧
          Q log' (frames ++ seen) out.1 := by
  induction rounds generalizing pending frames s log with
  | zero =>
    refine after_pure ⟨rfl, ?_⟩
    rw [eventsOf, append_nil]
    exact h
  | succ rounds ih =>
    unfold drainEvents eventsOf
    cases hnext : nextEvent? pending endOfStream with
    | none =>
      refine after_pure ⟨rfl, ?_⟩
      rw [append_nil]
      exact h
    | some cut =>
      obtain ⟨event, rest⟩ := cut
      refine require_bind fun _ => (hkeeps log frames s event h).bind ?_
      rintro log' ⟨s', action⟩ hout
      refine .ite (fun hdone => after_pure ?_) fun hgoes => ?_
      · subst hdone
        exact ⟨[event], (eventsOf endOfStream rounds rest).1, rfl, hout⟩
      · have hcontinue := EventAction.eq_continue hgoes
        subst hcontinue
        refine (ih rest hout).mono ?_
        rintro log'' ⟨s'', left, action⟩ hrest
        cases action with
        | «continue» =>
          obtain ⟨hleft, hkept⟩ := hrest
          rw [append_assoc] at hkept
          exact ⟨hleft, hkept⟩
        | done =>
          obtain ⟨seen, later, hseen, hended⟩ := hrest
          rw [append_assoc] at hended
          exact ⟨event :: seen, later, congrArg (event :: ·) hseen, hended⟩

/-- **The read loop.** What processing one event keeps, the loop keeps; it ends successfully
    with a terminal event, or with the end of the stream, and the events it processed are
    those of the stream up to there. -/
theorem consume_after (hkeeps : R.Keeps I Q) (arrivals : List Arrival) (total : Nat)
    (pending : Bytes) (h : I log frames s) :
    After log (R.consume arrivals total pending s) fun log' usage =>
      (∃ seen rest s', frames ++ framesOf arrivals pending = seen ++ rest ∧ Q log' seen s' ∧
        usage = R.usage s') ∨
      ∃ s', I log' (frames ++ framesOf arrivals pending) s' ∧ R.finish s' = .ok usage := by
  induction arrivals generalizing total pending frames s log with
  | nil =>
    unfold consume framesOf
    refine (drainEvents_after hkeeps true pending.length pending h).bind ?_
    rintro log' ⟨s', left, action⟩ hout
    refine .ite (fun hdone => after_pure ?_) fun hgoes => ?_
    · subst hdone
      obtain ⟨seen, rest, hseen, hended⟩ := hout
      exact .inl ⟨frames ++ seen, rest, s', by rw [hseen, append_assoc], hended, rfl⟩
    · have hcontinue := EventAction.eq_continue hgoes
      subst hcontinue
      refine lift_bind fun _ _ => require_bind fun _ => after_lift fun usage husage => ?_
      exact .inr ⟨s', hout.2, husage⟩
  | cons arrival arrivals ih =>
    cases arrival with
    | error failure => exact after_fail
    | ok chunk =>
      unfold consume framesOf
      refine lift_bind fun total _ => require_bind fun _ => ?_
      by_cases hline : (chunk.any fun byte => byte == carriageReturn || byte == lineFeed) = true
      · rw [if_pos hline, if_pos hline]
        have hdrain := drainEvents_after hkeeps false (pending ++ chunk).length (pending ++ chunk) h
        refine hdrain.bind ?_
        generalize eventsOf false (pending ++ chunk).length (pending ++ chunk) = parsed
        rintro log' ⟨s', left, action⟩ hout
        refine .ite (fun hdone => after_pure ?_) fun hgoes => ?_
        · subst hdone
          obtain ⟨seen, rest, hseen, hended⟩ := hout
          have hframes : frames ++ (parsed.1 ++ framesOf arrivals parsed.2) =
              (frames ++ seen) ++ (rest ++ framesOf arrivals parsed.2) := by
            rw [hseen, append_assoc, append_assoc]
          exact .inl ⟨_, _, s', hframes, hended, rfl⟩
        · have hcontinue := EventAction.eq_continue hgoes
          subst hcontinue
          obtain ⟨rfl, hkept⟩ := hout
          refine lift_bind fun _ _ => ?_
          rw [← append_assoc]
          exact ih total _ hkept
      · rw [if_neg hline, if_neg hline]
        refine (after_pure (Q := fun log' out => log' = log ∧
          out = (s, pending ++ chunk, EventAction.continue)) ⟨rfl, rfl⟩).bind ?_
        rintro log' _ ⟨rfl, rfl⟩
        refine .ite (fun hdone => (nomatch hdone)) fun _ => lift_bind fun _ _ => ?_
        exact ih total _ h

/-- The read loop on a whole stream. -/
theorem consume_run (hkeeps : R.Keeps I Q) (h : I [] [] s) {usage : GenerationUsage}
    (hok : (R.consume arrivals 0 [] s).result = .ok usage) :
    (∃ seen rest s', framesOf arrivals [] = seen ++ rest ∧
      Q (R.consume arrivals 0 [] s).sent seen s' ∧ usage = R.usage s') ∨
    ∃ s', I (R.consume arrivals 0 [] s).sent (framesOf arrivals []) s' ∧ R.finish s' = .ok usage :=
  consume_after hkeeps arrivals 0 [] h usage hok

end SseReader

end LorePia.Providers
