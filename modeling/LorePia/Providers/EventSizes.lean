import LorePia.Providers.Separators

namespace LorePia.Providers

open Lib List List Nat Transcript

/-!
# Providers — the size of an event

The read loop refuses an event that is too long when it cuts it out, and a buffer that can hold no
other event.  What that comes to is said of the whole stream: some event up to the terminal one is
too long (`Oversized`).  The loop looks at a chunk only if it has an end of line, so an event
whose separator was not decided is counted together with what follows it (`CountsTogether`).

* `oversizedStream_append` — the events of a buffer, and the rest of it with what arrives later;
* `consume_tooLarge_iff` — when the loop fails with the error of its size.
-/

variable {total : Nat} {chunk : Bytes}

/-! ### Runs of events -/

namespace SseReader

variable {σ : Type} (R : SseReader σ)

/-- The adapter goes on behind the event. -/
def Continues (event : Bytes) (s s' : σ) : Prop :=
  (R.process event s).result = .ok (s', .continue)

/-- **Some event is too long**, of those up to the terminal one; the rest of a stream behind its
    events counts as one. -/
def Oversized (left : Bytes) : List Bytes → σ → Prop
  | [], _ => R.maxEventBytes < left.length
  | event :: events, s =>
    R.maxEventBytes < event.length ∨ ∃ s', R.Continues event s s' ∧ Oversized left events s'

/-- The adapter goes on behind all events, none of which is too long. -/
def Passes : List Bytes → σ → σ → Prop
  | [], s, s'' => s = s''
  | event :: events, s, s'' =>
    event.length ≤ R.maxEventBytes ∧ ∃ s', R.Continues event s s' ∧ Passes events s' s''

/-- An event among these is too long. -/
def HasOversized : List Bytes → σ → Prop
  | [], _ => False
  | event :: events, s =>
    R.maxEventBytes < event.length ∨ ∃ s', R.Continues event s s' ∧ HasOversized events s'

/-- Some event of the whole stream is too long, up to the terminal one. -/
def OversizedStream (stream : Bytes) (s : σ) : Prop :=
  R.Oversized (eventsOf true stream.length stream).2 (eventsOf true stream.length stream).1 s

variable {R} {pending : Bytes}

/-- One event more in front of a run. -/
theorem hasOversized_or_passes_cons {Q : σ → Prop} :
    (R.HasOversized (event :: events) s ∨ ∃ s', R.Passes (event :: events) s s' ∧ Q s') ↔
      R.maxEventBytes < event.length ∨ ∃ s', R.Continues event s s' ∧
        (R.HasOversized events s' ∨ ∃ s'', R.Passes events s' s'' ∧ Q s'') := by
  rw [HasOversized]
  by_cases hlong : R.maxEventBytes < event.length
  · simp [hlong]
  · simp only [hlong, false_or, Passes]
    constructor
    · rintro (⟨s', hconts, hhas⟩ | ⟨s'', ⟨_, s', hconts, hpasses⟩, hQ⟩)
      · exact ⟨s', hconts, .inl hhas⟩
      · exact ⟨s', hconts, .inr ⟨s'', hpasses, hQ⟩⟩
    · rintro ⟨s', hconts, hhas | ⟨s'', hpasses, hQ⟩⟩
      · exact .inl ⟨s', hconts, hhas⟩
      · exact .inr ⟨s'', ⟨by omega, s', hconts, hpasses⟩, hQ⟩

theorem hasOversized_or_passes_nil {Q : σ → Prop} :
    (R.HasOversized [] s ∨ ∃ s', R.Passes [] s s' ∧ Q s') ↔ Q s := by
  simp [HasOversized, Passes]

end SseReader

/-- More rounds than bytes cut out nothing more. -/
theorem eventsOf_rounds (h : pending.length ≤ rounds) :
    eventsOf endOfStream rounds pending = eventsOf endOfStream pending.length pending := by
  induction rounds using Nat.strong_induction_on generalizing pending with
  | _ rounds ih =>
    cases rounds with
    | zero => rw [le_zero.mp h]
    | succ rounds =>
      cases hlen : pending.length with
      | zero =>
        rw [length_eq_zero_iff.mp hlen]
        rfl
      | succ length =>
        rw [eventsOf, eventsOf]
        cases hnext : nextEvent? pending endOfStream with
        | none => rfl
        | some cut =>
          obtain ⟨event, rest⟩ := cut
          have hne : pending ≠ [] := by
            rintro rfl
            cases hlen
          have hshorter := nextEvent?_length hnext hne
          have hmany : eventsOf endOfStream rounds rest = _ := ih rounds (lt_succ_self _) (by omega)
          have hfew : eventsOf endOfStream length rest = _ := ih length (by omega) (by omega)
          simp only [hmany, hfew]

namespace SseReader

variable {σ : Type} {R : SseReader σ} {event pending : Bytes} {later : List Bytes} {s : σ}

/-- The first event of a stream that is not empty, or what is behind its events. -/
def firstEvent (stream : Bytes) : Bytes :=
  ((eventsOf true stream.length stream).1.find? fun event => !event.isEmpty).getD
    (eventsOf true stream.length stream).2

/-- A line feed in front of the stream decides whether its first event is too long. -/
def FeedDecides (limit : Nat) (stream : Bytes) : Prop :=
  ¬ (limit < (firstEvent (lineFeed :: stream)).length ↔ limit < (firstEvent stream).length)

theorem eventsOf_of_none (h : nextEvent? pending endOfStream = none) :
    eventsOf endOfStream pending.length pending = ([], pending) := by
  cases hlen : pending.length with
  | zero => rfl
  | succ length => rw [eventsOf, h]

theorem eventsOf_of_some (h : nextEvent? pending true = some (event, rest)) :
    eventsOf true pending.length pending =
      (event :: (eventsOf true rest.length rest).1, (eventsOf true rest.length rest).2) := by
  have hne : pending ≠ [] := by
    rintro rfl
    cases h
  have hshorter := nextEvent?_length h hne
  obtain ⟨length, hlen⟩ := exists_eq_succ_of_ne_zero (mt length_eq_zero_iff.mp hne)
  rw [hlen, succ_eq_add_one, eventsOf, h]
  show (event :: (eventsOf true length rest).1, (eventsOf true length rest).2) = _
  rw [eventsOf_rounds (by omega : rest.length ≤ length)]

theorem oversizedStream_of_none (h : nextEvent? pending true = none) :
    R.OversizedStream pending s ↔ R.maxEventBytes < pending.length := by
  rw [OversizedStream, eventsOf_of_none h, Oversized]

theorem oversizedStream_of_some (h : nextEvent? pending true = some (event, rest)) :
    R.OversizedStream pending s ↔
      R.maxEventBytes < event.length ∨ ∃ s', R.Continues event s s' ∧ R.OversizedStream rest s' := by
  rw [OversizedStream, eventsOf_of_some h]
  exact Iff.rfl

theorem firstEvent_of_none (h : nextEvent? pending true = none) : firstEvent pending = pending := by
  rw [firstEvent, eventsOf_of_none h]
  rfl

theorem firstEvent_of_some (h : nextEvent? pending true = some (event, rest)) (hne : event ≠ []) :
    firstEvent pending = event := by
  rw [firstEvent, eventsOf_of_some h]
  simp [hne]

theorem firstEvent_of_empty (h : nextEvent? pending true = some ([], rest)) :
    firstEvent pending = firstEvent rest := by
  rw [firstEvent, firstEvent, eventsOf_of_some h]
  rfl

/-! ### Line ends in front of an event -/

/-- What may stay of the line ends in front of an event: one of them. -/
def leads : List Bytes := [[], [10], [13], [13, 10]]

theorem continues_nil (hR : R.ReadsEvents) : R.Continues [] s s' ↔ s = s' := by
  have hsil : R.process [] s = pure (s, .continue) := by
    refine hR.silent [] s ?_
    rfl
  rw [Continues, hsil]
  show (Except.ok (s, EventAction.continue) : CoreResult _) = .ok (s', .continue) ↔ _
  simp

/-- **Empty events** do not matter, and the rest of the line ends begins the next event. -/
theorem exists_lead (hR : R.ReadsEvents) {ends : Bytes} (hends : ∀ byte ∈ ends, IsLineEnd byte)
    (hcore : ∀ byte, core.head? = some byte → ¬ IsLineEnd byte) :
    ∃ lead ∈ leads, firstEvent (ends ++ core) = firstEvent (lead ++ core) ∧
      ∀ s, R.OversizedStream (ends ++ core) s ↔ R.OversizedStream (lead ++ core) s := by
  induction hlen : ends.length using Nat.strong_induction_on generalizing ends with
  | _ length ih =>
    cases ends with
    | nil => exact ⟨[], by decide, rfl, fun _ => Iff.rfl⟩
    | cons byte rest =>
      obtain ⟨hbyte, hrest⟩ := forall_mem_cons.mp hends
      have hone : [byte] ∈ leads := by rcases hbyte with rfl | rfl <;> decide
      cases hat : separatorAt (byte :: (rest ++ core)) true with
      | none =>
        -- one line end, of one byte or of two
        have hsingle := singleEnd_of_separatorAt hbyte hat
        generalize hbehind : rest ++ core = behind at hsingle
        cases hsingle with
        | last =>
          obtain ⟨rfl, rfl⟩ := append_eq_nil_iff.mp hbehind
          exact ⟨[byte], hone, rfl, fun _ => Iff.rfl⟩
        | text _ _ next later htext =>
          cases rest with
          | nil => exact ⟨[byte], hone, rfl, fun _ => Iff.rfl⟩
          | cons first rest =>
            obtain ⟨rfl, _⟩ := cons.inj hbehind
            exact absurd (hrest first mem_cons_self) htext
        | pairLast =>
          cases rest with
          | nil =>
            have hfeed : core = [lineFeed] := hbehind
            exact absurd isLineEnd_lineFeed (hcore lineFeed (by rw [hfeed]; rfl))
          | cons first rest =>
            obtain ⟨rfl, hnil⟩ := cons.inj hbehind
            obtain ⟨rfl, rfl⟩ := append_eq_nil_iff.mp hnil
            exact ⟨[13, 10], by decide, rfl, fun _ => Iff.rfl⟩
        | pairText _ next later htext =>
          cases rest with
          | nil =>
            have hfeed : core = lineFeed :: next :: later := hbehind
            exact absurd isLineEnd_lineFeed (hcore lineFeed (by rw [hfeed]; rfl))
          | cons first rest =>
            obtain ⟨rfl, htail⟩ := cons.inj hbehind
            cases rest with
            | nil => exact ⟨[13, 10], by decide, rfl, fun _ => Iff.rfl⟩
            | cons second rest =>
              obtain ⟨rfl, _⟩ := cons.inj htail
              exact absurd (hrest second (by simp)) htext
      | some length' =>
        obtain ⟨separator, hmem, hsep, heq⟩ := separatorAt_eq_some hat
        have hfits : separator <+: byte :: rest := by
          have hwhole : separator <+: (byte :: rest) ++ core := ⟨_, heq.symm⟩
          rcases prefix_or_prefix_of_prefix hwhole (prefix_append _ _) with h | ⟨more, h⟩
          · exact h
          · cases more with
            | nil =>
              rw [append_nil] at h
              exact h ▸ prefix_rfl
            | cons next more =>
              exfalso
              have hhead : core.head? = some next := by
                have hcancel : (byte :: rest) ++ core = (byte :: rest) ++ (next :: more ++
                    (byte :: (rest ++ core)).drop length') := by
                  rw [← append_assoc, h]
                  exact heq
                rw [append_cancel_left hcancel]
                rfl
              exact hcore next hhead (isLineEnd_of_mem_separator hmem (by rw [← h]; simp))
        obtain ⟨fewer, hfewer⟩ := hfits
        have hpos := separatorAt_pos hat
        have hshorter : fewer.length < length := by
          have hsum := congrArg List.length hfewer
          rw [length_append, hlen] at hsum
          omega
        have hends' : ∀ byte ∈ fewer, IsLineEnd byte := by
          intro byte hmem
          exact hends byte (hfewer ▸ mem_append_right _ hmem)
        obtain ⟨lead, hlead, hfirst, hsame⟩ := ih fewer.length hshorter hends' rfl
        have hnext : nextEvent? ((byte :: rest) ++ core) true = some ([], fewer ++ core) := by
          rw [nextEvent?, cons_append, findEventBoundary_of_separator hat, ← cons_append,
            ← hfewer, append_assoc, ← hsep]
          simp
        refine ⟨lead, hlead, (firstEvent_of_empty hnext).trans hfirst, fun s => ?_⟩
        rw [oversizedStream_of_some hnext, ← hsame s]
        simp only [length_nil, Nat.not_lt_zero, false_or, continues_nil hR, exists_eq_left']

theorem nextEvent?_lead (hlead : lead ∈ leads)
    (hcore : ∀ byte, core.head? = some byte → ¬ IsLineEnd byte) :
    nextEvent? (lead ++ core) true =
      (nextEvent? core true).map fun cut => (lead ++ cut.1, cut.2) := by
  have hscan : findEventBoundary (lead ++ core) true =
      (findEventBoundary core true).map fun found => (lead.length + found.1, found.2) := by
    cases core with
    | nil =>
      simp only [leads, mem_cons, not_mem_nil, or_false] at hlead
      rcases hlead with rfl | rfl | rfl | rfl <;> rfl
    | cons byte core =>
      have htext := hcore byte rfl
      have hone : ∀ next : UInt8, findEventBoundary (next :: byte :: core) true =
          (findEventBoundary (byte :: core) true).map fun found => (found.1 + 1, found.2) :=
        fun next => findEventBoundary_of_none (separatorAt_before_text htext)
      simp only [leads, mem_cons, not_mem_nil, or_false] at hlead
      rcases hlead with rfl | rfl | rfl | rfl
      · simp
      · rw [singleton_append, hone]
        simp [add_comm]
      · rw [singleton_append, hone]
        simp [add_comm]
      · have hpair : separatorAt (13 :: 10 :: byte :: core) true = none := by
          have hfeed : ((10 : UInt8) == byte) = false :=
            beq_eq_false_iff_ne.mpr fun heq => htext (.inr heq.symm)
          have hreturn : ((13 : UInt8) == byte) = false :=
            beq_eq_false_iff_ne.mpr fun heq => htext (.inl heq.symm)
          simp [separatorAt, sseEventSeparators, find?, isPrefixOf, hfeed, hreturn]
        show findEventBoundary (13 :: 10 :: byte :: core) true = _
        rw [findEventBoundary_of_none hpair, hone, Option.map_map]
        congr 1
        funext found
        simp only [Function.comp_apply, length_cons, length_nil, Prod.mk.injEq, and_true]
        omega
  rw [nextEvent?, nextEvent?, hscan, Option.map_map, Option.map_map]
  congr 1
  funext found
  simp only [Function.comp_apply, add_assoc, take_length_add_append, drop_length_add_append]

/-- A line end in front of an event does not change what it decodes to. -/
theorem continues_lead (hR : R.ReadsEvents) (hlead : lead ∈ leads) (event : Bytes) :
    R.Continues (lead ++ event) s s' ↔ R.Continues event s s' := by
  have hline : ∀ {byte : UInt8} (event : Bytes), IsLineEnd byte →
      linesOf [] (byte :: event) = linesOf [] event := fun event hbyte => pieces_end hbyte
  have hlines : linesOf [] (lead ++ event) = linesOf [] event := by
    simp only [leads, mem_cons, not_mem_nil, or_false] at hlead
    rcases hlead with rfl | rfl | rfl | rfl
    · rfl
    · exact hline event isLineEnd_lineFeed
    · exact hline event isLineEnd_carriageReturn
    · exact (hline (10 :: event) isLineEnd_carriageReturn).trans (hline event isLineEnd_lineFeed)
  rw [Continues, Continues, hR.same (lead ++ event) event]
  rw [decodedEvent_eq, decodedEvent_eq, hlines]

theorem event_ne_nil (hcore : ∀ byte, core.head? = some byte → ¬ IsLineEnd byte)
    (hnext : nextEvent? core true = some (event, rest)) : event ≠ [] := by
  obtain ⟨found, hfound, heq⟩ := Option.map_eq_some_iff.mp hnext
  cases heq
  have hat := (findEventBoundary_eq_some.mp hfound).2
  have hlt := pos_lt_length hat
  rw [ne_eq, take_eq_nil_iff, not_or]
  refine ⟨fun hzero => ?_, ne_nil_of_length_pos (zero_lt_of_lt hlt)⟩
  cases core with
  | nil => cases hfound
  | cons byte core =>
    have htext := hcore byte rfl
    have hnone : separatorAt (byte :: core) true = none :=
      separatorAt_of_ne ⟨fun heq => htext (.inl heq), fun heq => htext (.inr heq)⟩
    rw [hzero, drop_zero, hnone] at hat
    cases hat

/-- Line ends in front of a record matter for its length alone. -/
theorem oversizedStream_lead (hR : R.ReadsEvents)
    (hlead : lead ∈ leads) (hlead' : lead' ∈ leads)
    (hcore : ∀ byte, core.head? = some byte → ¬ IsLineEnd byte)
    (hsame : R.maxEventBytes < (firstEvent (lead ++ core)).length ↔
      R.maxEventBytes < (firstEvent (lead' ++ core)).length) :
    R.OversizedStream (lead ++ core) s ↔ R.OversizedStream (lead' ++ core) s := by
  cases hnext : nextEvent? core true with
  | none =>
    have hnone : ∀ lead ∈ leads, nextEvent? (lead ++ core) true = none := by
      intro lead hlead
      rw [nextEvent?_lead hlead hcore, hnext]
      rfl
    have h := hnone lead hlead
    have h' := hnone lead' hlead'
    rw [firstEvent_of_none h, firstEvent_of_none h'] at hsame
    rw [oversizedStream_of_none h, oversizedStream_of_none h', hsame]
  | some cut =>
    obtain ⟨event, rest⟩ := cut
    have hne := event_ne_nil hcore hnext
    have hsome : ∀ lead ∈ leads, nextEvent? (lead ++ core) true = some (lead ++ event, rest) := by
      intro lead hlead
      rw [nextEvent?_lead hlead hcore, hnext]
      rfl
    have h := hsome lead hlead
    have h' := hsome lead' hlead'
    rw [firstEvent_of_some h (append_ne_nil_of_right_ne_nil _ hne),
      firstEvent_of_some h' (append_ne_nil_of_right_ne_nil _ hne)] at hsame
    rw [oversizedStream_of_some h, oversizedStream_of_some h', hsame]
    simp only [continues_lead hR hlead, continues_lead hR hlead']

/-- **A line feed that is left behind** does not matter, unless it decides about the next event. -/
theorem oversizedStream_lineFeed (hR : R.ReadsEvents) {stream : Bytes}
    (hdecides : ¬ FeedDecides R.maxEventBytes stream) :
    R.OversizedStream (lineFeed :: stream) s ↔ R.OversizedStream stream s := by
  obtain ⟨ends, core, hsplit, hends, hcore⟩ : ∃ ends core, stream = ends ++ core ∧
      (∀ byte ∈ ends, IsLineEnd byte) ∧ ∀ byte, core.head? = some byte → ¬ IsLineEnd byte := by
    refine ⟨_, _, (takeWhile_append_dropWhile (p := fun byte : UInt8 =>
      byte == carriageReturn || byte == lineFeed)).symm, ?_, ?_⟩
    · intro byte hmem
      simpa [IsLineEnd, IsEnd] using mem_takeWhile_imp hmem
    · intro byte hhead
      have hfirst := head?_dropWhile_not (fun byte : UInt8 =>
        byte == carriageReturn || byte == lineFeed) stream
      rw [hhead] at hfirst
      simpa [IsLineEnd, IsEnd] using hfirst
  subst hsplit
  have hends' : ∀ byte ∈ lineFeed :: ends, IsLineEnd byte :=
    forall_mem_cons.mpr ⟨isLineEnd_lineFeed, hends⟩
  obtain ⟨lead, hlead, hfirst, hsame⟩ := exists_lead hR hends hcore
  obtain ⟨lead', hlead', hfirst', hsame'⟩ := exists_lead hR hends' hcore
  rw [FeedDecides, not_not, ← cons_append, hfirst, hfirst'] at hdecides
  rw [← cons_append, hsame s, hsame' s]
  exact oversizedStream_lead hR hlead' hlead hcore hdecides

/-! ### The loop over a buffer -/

/-- **The events of a buffer** are the first events of the stream, and what is left of the buffer
    begins the rest of it; but for a line feed behind two carriage returns at its edge. -/
theorem oversizedStream_append (hR : R.ReadsEvents) (hrounds : pending.length ≤ rounds)
    (hfeed : ∀ s', R.Passes (eventsOf false rounds pending).1 s s' →
      (eventsOf false rounds pending).2 = [] → pending.getLast? = some carriageReturn →
        ∀ later, future = lineFeed :: later → ¬ FeedDecides R.maxEventBytes later) :
    R.OversizedStream (pending ++ future) s ↔ R.HasOversized (eventsOf false rounds pending).1 s ∨
        ∃ s', R.Passes (eventsOf false rounds pending).1 s s' ∧
          R.OversizedStream ((eventsOf false rounds pending).2 ++ future) s' := by
  induction rounds generalizing pending s with
  | zero => exact hasOversized_or_passes_nil.symm
  | succ rounds ih =>
    rw [eventsOf] at hfeed ⊢
    cases hnext : nextEvent? pending false with
    | none => exact hasOversized_or_passes_nil.symm
    | some cut =>
      obtain ⟨event, rest⟩ := cut
      rw [hnext] at hfeed
      have hne : pending ≠ [] := by
        rintro rfl
        cases hnext
      have hshorter := nextEvent?_length hnext hne
      obtain ⟨found, hfound, heq⟩ := Option.map_eq_some_iff.mp hnext
      cases heq
      have hpos := pos_lt_length (findEventBoundary_eq_some.mp hfound).2
      have htake : (pending ++ future).take found.1 = pending.take found.1 :=
        take_append_of_le_length (by omega)
      refine Iff.trans ?_ hasOversized_or_passes_cons.symm
      rcases findEventBoundary_stable hfound future with
        hsame | ⟨hedge, hlast, later, hlater, hgrown⟩
      · have hfits : found.1 + found.2 ≤ pending.length :=
          length_of_separatorAt (findEventBoundary_eq_some.mp hfound).2 hpos
        have hwhole : nextEvent? (pending ++ future) true =
            some (pending.take found.1, pending.drop (found.1 + found.2) ++ future) := by
          rw [nextEvent?, hsame, Option.map_some, htake, drop_append_of_le_length hfits]
        rw [oversizedStream_of_some hwhole]
        refine or_congr_right' fun hsize => exists_congr fun s' => and_congr_right fun hgoes => ?_
        refine ih (by omega) fun s'' hpasses hleft hlast later hlater => ?_
        refine hfeed s'' ⟨not_lt.mp hsize, s', hgoes, hpasses⟩ hleft ?_ later hlater
        have hrest := getLast?_eq_some_iff.mp hlast
        obtain ⟨before, hbef⟩ := hrest
        rw [← take_append_drop (found.1 + found.2) pending, hbef, ← append_assoc]
        exact getLast?_concat
      · -- the line feed belongs to the separator, and the loop leaves it behind
        have hnil : pending.drop (found.1 + found.2) = [] := by
          rw [drop_eq_nil_iff]
          omega
        have hwhole : nextEvent? (pending ++ future) true = some (pending.take found.1, later) := by
          rw [nextEvent?, hgrown, Option.map_some, htake, hlater]
          have hdrop : (pending ++ lineFeed :: later).drop (found.1 + (found.2 + 1)) = later := by
            rw [show found.1 + (found.2 + 1) = pending.length + 1 by omega, drop_length_add_append]
            rfl
          rw [hdrop]
        have hempty : ∀ rounds, eventsOf false rounds [] = ([], []) := by
          intro rounds
          cases rounds <;> rfl
        rw [hnil] at hfeed ⊢
        simp only [hempty] at hfeed ⊢
        rw [oversizedStream_of_some hwhole]
        refine or_congr_right' fun hsize => exists_congr fun s' => and_congr_right fun hgoes => ?_
        have hsame := hfeed s' ⟨not_lt.mp hsize, s', hgoes, rfl⟩ trivial hlast later hlater
        rw [hasOversized_or_passes_nil, hlater, nil_append, oversizedStream_lineFeed hR hsame]

/-! ### The loop -/

theorem bind_result_eq_error {α β : Type} {x : Response α} {f : α → Response β} :
    (x >>= f).result = .error e ↔
      x.result = .error e ∨ ∃ a, x.result = .ok a ∧ (f a).result = .error e := by
  rcases x with ⟨sent, e' | a⟩
  · rw [Transcript.error_bind]
    simp
  · rw [Transcript.ok_bind]
    simp

/-- The error of the size is raised by the checks of the size alone. -/
structure SizeErrors (R : SseReader σ) : Prop where
  process : ∀ event s, (R.process event s).result ≠ .error R.eventTooLarge
  incomplete : R.incompleteEvent ≠ R.eventTooLarge
  finish : ∀ s, R.finish s ≠ .error R.eventTooLarge

/-- **The loop over a buffer** fails at an event that is too long, or behind the events. -/
theorem drainEvents_tooLarge (herrors : R.SizeErrors) {k : σ → Bytes → Response GenerationUsage} :
    (R.drainEvents endOfStream rounds pending s >>= R.andThen k).result = .error R.eventTooLarge ↔
      R.HasOversized (eventsOf endOfStream rounds pending).1 s ∨
        ∃ s', R.Passes (eventsOf endOfStream rounds pending).1 s s' ∧
          (k s' (eventsOf endOfStream rounds pending).2).result = .error R.eventTooLarge := by
  induction rounds generalizing pending s with
  | zero =>
    exact (hasOversized_or_passes_nil
      (Q := fun s => (k s pending).result = .error R.eventTooLarge)).symm
  | succ rounds ih =>
    rw [drainEvents, eventsOf]
    cases hnext : nextEvent? pending endOfStream with
    | none =>
      exact (hasOversized_or_passes_nil
        (Q := fun s => (k s pending).result = .error R.eventTooLarge)).symm
    | some cut =>
      obtain ⟨event, rest⟩ := cut
      refine Iff.trans ?_ hasOversized_or_passes_cons.symm
      by_cases hsize : event.length ≤ R.maxEventBytes
      · simp only [require_true hsize, lift_ok_bind]
        rw [bind_assoc, bind_result_eq_error, or_iff_right (herrors.process event s),
          or_iff_right (not_lt.mpr hsize)]
        constructor
        · rintro ⟨⟨s', action⟩, hprocess, h⟩
          cases action with
          | done => cases h
          | «continue» => exact ⟨s', hprocess, ih.mp h⟩
        · rintro ⟨s', hprocess, h⟩
          exact ⟨(s', .continue), hprocess, ih.mpr h⟩
      · have hrefused : require (event.length ≤ R.maxEventBytes) R.eventTooLarge =
            .error R.eventTooLarge := by rw [require, if_neg hsize]
        simp only [hrefused]
        exact iff_of_true rfl (.inl (Nat.lt_of_not_le hsize))

theorem atEnd_tooLarge (herrors : R.SizeErrors) :
    (R.atEnd s left).result = .error R.eventTooLarge ↔ R.maxEventBytes < left.length := by
  by_cases hsize : left.length ≤ R.maxEventBytes
  · have hfits : R.ensurePendingSize left true = .ok () := require_true (.inl hsize) _
    rw [atEnd, hfits, lift_ok_bind]
    refine iff_of_false (fun h => ?_) (not_lt.mpr hsize)
    rcases bind_result_eq_error.mp h with h | ⟨_, _, h⟩
    · exact herrors.incomplete (require_eq_error.mp h).2
    · exact herrors.finish s h
  · have hrefused : R.ensurePendingSize left true = .error R.eventTooLarge := by
      rw [ensurePendingSize, require, if_neg]
      simp [hsize]
    rw [atEnd, hrefused]
    exact iff_of_true rfl (Nat.lt_of_not_le hsize)

/-- **Two records are counted together**: a chunk ends where a separator is not decided yet, and
    what arrives next has no end of line but is too long for the buffer. -/
def CountsTogether (R : SseReader σ) : List Bytes → Bytes → σ → Prop
  | [], _, _ => False
  | chunk :: chunks, pending, s =>
    if chunk.any fun byte => byte == carriageReturn || byte == lineFeed then
      ∃ s', R.Passes (eventsOf false (pending ++ chunk).length (pending ++ chunk)).1 s s' ∧
        CountsTogether R chunks (eventsOf false (pending ++ chunk).length (pending ++ chunk)).2 s'
    else
      chunk ≠ [] ∧ findEventBoundary pending true ≠ none ∧
          R.maxEventBytes < (pending ++ chunk).length ∨
        CountsTogether R chunks (pending ++ chunk) s

/-- **No line feed decides about a record**: behind a chunk that ends in two carriage returns, a
    line feed is left behind, and the next event is on its side of the limit without it. -/
def FeedsApart (R : SseReader σ) : List Bytes → Bytes → σ → Prop
  | [], _, _ => True
  | chunk :: chunks, pending, s =>
    if chunk.any fun byte => byte == carriageReturn || byte == lineFeed then
      ∀ s', R.Passes (eventsOf false (pending ++ chunk).length (pending ++ chunk)).1 s s' →
        ((eventsOf false (pending ++ chunk).length (pending ++ chunk)).2 = [] →
          (pending ++ chunk).getLast? = some carriageReturn →
            ∀ later, chunks.flatten = lineFeed :: later → ¬ FeedDecides R.maxEventBytes later) ∧
        FeedsApart R chunks (eventsOf false (pending ++ chunk).length (pending ++ chunk)).2 s'
    else FeedsApart R chunks (pending ++ chunk) s

theorem oversized_iff :
    R.Oversized left events s ↔
      R.HasOversized events s ∨ ∃ s', R.Passes events s s' ∧ R.maxEventBytes < left.length := by
  induction events generalizing s with
  | nil => exact (hasOversized_or_passes_nil (Q := fun _ => R.maxEventBytes < left.length)).symm
  | cons event events ih =>
    rw [hasOversized_or_passes_cons (Q := fun _ => R.maxEventBytes < left.length), Oversized]
    exact or_congr_right (exists_congr fun s' => and_congr_right fun _ => ih)

theorem ensurePendingSize_of_fits
    (h : pending.length ≤ R.maxEventBytes ∨ MayGrow R.maxEventBytes pending) :
    R.ensurePendingSize pending false = .ok () :=
  require_true (h.imp_right fun hgrow => ⟨rfl, hgrow⟩) _

theorem ensurePendingSize_of_refused
    (h : ¬ (pending.length ≤ R.maxEventBytes ∨ MayGrow R.maxEventBytes pending)) :
    R.ensurePendingSize pending false = .error R.eventTooLarge := by
  rw [ensurePendingSize, require, if_neg fun hfits => h (hfits.imp_right And.right)]

/-- A buffer that is refused begins a stream with an event that is too long. -/
theorem oversizedStream_of_refused (hnone : findEventBoundary pending false = none)
    (hrefused : ¬ (pending.length ≤ R.maxEventBytes ∨ MayGrow R.maxEventBytes pending)) :
    R.OversizedStream (pending ++ future) s := by
  obtain ⟨hlong, hgrow⟩ := not_or.mp hrefused
  cases hnext : nextEvent? (pending ++ future) true with
  | none =>
    rw [oversizedStream_of_none hnext, length_append]
    omega
  | some cut =>
    obtain ⟨found, hfound, heq⟩ := Option.map_eq_some_iff.mp hnext
    cases heq
    have hlim := limit_of_refused hnone (Nat.lt_of_not_le hlong) hgrow hfound
    have hpos := pos_lt_length (findEventBoundary_eq_some.mp hfound).2
    rw [oversizedStream_of_some hnext, length_take_of_le (by omega)]
    exact .inl hlim

/-- After a chunk: the loop refuses the buffer, or goes on. -/
theorem afterChunk_tooLarge {counts : Prop} (hnone : findEventBoundary pending false = none)
    (hgoes : R.ensurePendingSize pending false = .ok () →
      ((R.consume arrivals total pending s).result = .error R.eventTooLarge ↔
        R.OversizedStream (pending ++ future) s ∨ counts)) :
    (R.afterChunk arrivals total s pending).result = .error R.eventTooLarge ↔
      R.OversizedStream (pending ++ future) s ∨ counts := by
  rw [afterChunk]
  by_cases hfits : pending.length ≤ R.maxEventBytes ∨ MayGrow R.maxEventBytes pending
  · have hok := R.ensurePendingSize_of_fits hfits
    rw [hok]
    exact hgoes hok
  · rw [ensurePendingSize_of_refused hfits]
    exact iff_of_true rfl (.inl (oversizedStream_of_refused hnone hfits))

theorem findEventBoundary_open (h : findEventBoundary pending true = none) :
    findEventBoundary pending false = none := by
  by_contra hsome
  obtain ⟨found, hfound⟩ := Option.ne_none_iff_exists'.mp hsome
  have hstable := findEventBoundary_stable hfound []
  rw [append_nil, h] at hstable
  rcases hstable with hsame | ⟨_, _, later, hlater, _⟩
  · cases hsame
  · cases hlater

/-- **A chunk with an end of line**: an event that it completes is too long, or the loop fails
    behind them. -/
theorem consume_line_tooLarge (herrors : R.SizeErrors) (hmax : R.maxStreamBytes ≤ u64Max)
    (htotal : total + chunk.length ≤ R.maxStreamBytes)
    (hline : (chunk.any fun byte => byte == carriageReturn || byte == lineFeed) = true) :
    (R.consume (.ok chunk :: arrivals) total pending s).result = .error R.eventTooLarge ↔
      R.HasOversized (eventsOf false (pending ++ chunk).length (pending ++ chunk)).1 s ∨
        ∃ s', R.Passes (eventsOf false (pending ++ chunk).length (pending ++ chunk)).1 s s' ∧
          (R.afterChunk arrivals (total + chunk.length) s'
              (eventsOf false (pending ++ chunk).length (pending ++ chunk)).2).result =
            .error R.eventTooLarge := by
  have hadd : checkedAdd total chunk.length = some (total + chunk.length) :=
    checkedAdd_of_le (by omega)
  rw [consume]
  simp only [hadd, okOr, lift_ok_bind, require_true htotal]
  rw [if_pos hline]
  exact drainEvents_tooLarge herrors (k := R.afterChunk arrivals (total + chunk.length))

/-- **A chunk of text** goes to the buffer. -/
theorem consume_text (hmax : R.maxStreamBytes ≤ u64Max) (htotal : total + chunk.length ≤ R.maxStreamBytes)
    (hline : ¬ (chunk.any fun byte => byte == carriageReturn || byte == lineFeed) = true) :
    R.consume (.ok chunk :: arrivals) total pending s =
      R.afterChunk arrivals (total + chunk.length) s (pending ++ chunk) := by
  have hadd : checkedAdd total chunk.length = some (total + chunk.length) :=
    checkedAdd_of_le (by omega)
  rw [consume]
  simp only [hadd, okOr, lift_ok_bind, require_true htotal]
  rw [if_neg hline]
  rfl

/-- **The loop fails with the error of its size** where an event of the stream is too long, or two
    records are counted together. -/
theorem consume_tooLarge_iff (hR : R.ReadsEvents) (herrors : R.SizeErrors)
    (hmax : R.maxStreamBytes ≤ u64Max) (htotal : total + chunks.flatten.length ≤ R.maxStreamBytes)
    (hfits : R.ensurePendingSize pending false = .ok ()) (hapart : R.FeedsApart chunks pending s) :
    (R.consume (chunks.map .ok) total pending s).result = .error R.eventTooLarge ↔
      R.OversizedStream (pending ++ chunks.flatten) s ∨ R.CountsTogether chunks pending s := by
  induction chunks generalizing total pending s with
  | nil =>
    rw [flatten_nil, append_nil, CountsTogether, or_false, OversizedStream, oversized_iff]
    have hdrain : (R.drainEvents true pending.length pending s >>= R.andThen R.atEnd).result =
        .error R.eventTooLarge ↔ _ := drainEvents_tooLarge herrors
    simp only [atEnd_tooLarge herrors] at hdrain
    exact hdrain
  | cons chunk chunks ih =>
    rw [flatten_cons, length_append] at htotal
    have hbd : total + chunk.length ≤ R.maxStreamBytes := by omega
    have hleft : total + chunk.length + chunks.flatten.length ≤ R.maxStreamBytes := by omega
    rw [map_cons, CountsTogether, flatten_cons, ← append_assoc]
    rw [FeedsApart] at hapart
    by_cases hline : (chunk.any fun byte => byte == carriageReturn || byte == lineFeed) = true
    · rw [if_pos hline] at hapart
      rw [if_pos hline, consume_line_tooLarge herrors hmax hbd hline,
        oversizedStream_append hR (le_refl _) fun s' hpasses => (hapart s' hpasses).1, or_assoc,
        ← exists_or]
      refine or_congr_right (exists_congr fun s' => ?_)
      rw [← and_or_left]
      refine and_congr_right fun hpasses => afterChunk_tooLarge ?_ fun hfits' =>
        ih hleft hfits' (hapart s' hpasses).2
      exact Option.map_eq_none_iff.mp (nextEvent?_eventsOf false (le_refl _))
    · rw [if_neg hline] at hapart
      have htext : ∀ byte ∈ chunk, ¬ IsLineEnd byte := by
        intro byte hmem hend
        apply hline
        refine any_eq_true.mpr ⟨byte, hmem, ?_⟩
        simpa [IsLineEnd, IsEnd] using hend
      rw [if_neg hline, consume_text hmax hbd hline]
      cases hlast : chunk.getLast? with
      | none =>
        -- nothing arrived
        rw [getLast?_eq_none_iff] at hlast
        subst hlast
        rw [append_nil] at hapart ⊢
        simp only [ne_eq, not_true_eq_false, false_and, false_or]
        rw [afterChunk, hfits]
        exact ih hleft hfits hapart
      | some byte =>
        have hne : chunk ≠ [] := by
          rintro rfl
          cases hlast
        have hbyte := htext byte (mem_of_getLast? hlast)
        have hgrow : R.maxEventBytes < (pending ++ chunk).length →
            ¬ MayGrow R.maxEventBytes (pending ++ chunk) := fun hlim =>
          not_mayGrow_of_text hlim (by rw [getLast?_append, hlast]; rfl) hbyte
        by_cases hwaits : findEventBoundary pending true = none
        · -- the buffer holds one event, and the text belongs to it
          have hnone := findEventBoundary_open (findEventBoundary_append_text hwaits htext)
          simp only [hwaits, ne_eq, not_true_eq_false, false_and, and_false, false_or]
          exact afterChunk_tooLarge hnone fun hfits' => ih hleft hfits' hapart
        · -- a separator waits in the buffer, and the text belongs to the event behind it
          simp only [hne, hwaits, ne_eq, not_false_eq_true, true_and]
          rw [afterChunk]
          by_cases hlim : R.maxEventBytes < (pending ++ chunk).length
          · rw [ensurePendingSize_of_refused (not_or.mpr ⟨not_le.mpr hlim, hgrow hlim⟩)]
            exact iff_of_true rfl (.inr (.inl hlim))
          · have hok : R.ensurePendingSize (pending ++ chunk) false = .ok () :=
              ensurePendingSize_of_fits (.inl (Nat.le_of_not_lt hlim))
            rw [hok]
            simp only [hlim, false_or]
            exact ih hleft hok hapart

end SseReader

end LorePia.Providers
