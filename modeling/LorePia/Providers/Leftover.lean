import LorePia.Providers.Framing

namespace LorePia.Providers

open Lib List After Nat

/-!
# Providers — what a stream leaves behind

An event ends with its second end of line, and a carriage return and the line feed behind it are
one end.  Two carriage returns end an event at the edge of a chunk even so, and a line feed that
the next chunk brings is then an end of line of its own.  For an adapter with a terminal event
nothing depends on it; Gemini's has none, and accepts a response only if nothing is left in the
buffer at the end of the stream.

* `EndState.scan` — where the loop stands behind a stretch of bytes;
* `leftOf_eq_nil_iff` — what is left in the buffer, from the chunks alone;
* `SplitsPair` — the streams for which that depends on how they are cut;
* `Gemini.consumeSse_anyCut_iff` — so what comes of a response depends on it, for these only.
-/

variable {after before left rest : Bytes} {chunks : List Bytes}

/-- Where the loop stands between two bytes. -/
inductive EndState
  /-- Behind a separator, or at the beginning. -/
  | clear
  /-- Behind a byte that belongs to a line. -/
  | text
  /-- Behind one end of a line, which a line feed would still belong to. -/
  | oneReturn
  /-- Behind one end of a line. -/
  | one
  /-- Behind a separator of two carriage returns, which the edge of a chunk makes final. -/
  | twoReturns
  /-- Behind another separator that a line feed would still belong to; the buffer keeps it. -/
  | held
deriving DecidableEq

namespace EndState

/-- One byte further. -/
def step (q : EndState) (byte : UInt8) : EndState :=
  if byte = carriageReturn then
    match q with
    | .clear | .text | .twoReturns | .held => .oneReturn
    | .oneReturn => .twoReturns
    | .one => .held
  else if byte = lineFeed then
    match q with
    | .clear | .text | .oneReturn => .one
    | .one | .twoReturns | .held => .clear
  else .text

def scan (q : EndState) (bytes : Bytes) : EndState := bytes.foldl step q

/-- At the edge of a buffer, with its separators cut off. -/
def atEdge (endOfStream : Bool) : EndState → EndState
  | .twoReturns => .clear
  | .held => if endOfStream then .clear else .held
  | q => q

/-- One chunk further. -/
def arrive (q : EndState) (chunk : Bytes) : EndState := (q.scan chunk).atEdge false

variable {q q' : EndState} {byte : UInt8} {pending : Bytes} {endOfStream : Bool}

@[simp] theorem scan_nil : q.scan [] = q := rfl

@[simp] theorem scan_cons : q.scan (byte :: bytes) = (q.step byte).scan bytes := rfl

theorem scan_append : q.scan (bytes ++ bytes') = (q.scan bytes).scan bytes' := foldl_append

theorem step_text (h : ¬ IsLineEnd byte) : q.step byte = .text := by
  unfold step
  rw [if_neg (fun heq => h (.inl heq)), if_neg (fun heq => h (.inr heq))]

/-- A separator that is not followed by a line feed is over. -/
theorem step_behind (hq : q = .twoReturns ∨ q = .held) (h : byte ≠ lineFeed) :
    q.step byte = clear.step byte := by
  by_cases hcr : byte = carriageReturn
  · rw [hcr]
    rcases hq with rfl | rfl <;> rfl
  · have htext : ¬ IsLineEnd byte := by
      rintro (heq | heq)
      · exact hcr heq
      · exact h heq
    rw [step_text htext, step_text htext]

/-- Text makes the past forgotten. -/
theorem scan_text (h : ∃ byte ∈ bytes, ¬ IsLineEnd byte) : q.scan bytes = q'.scan bytes := by
  obtain ⟨byte, hmem, htext⟩ := h
  obtain ⟨before, after, rfl⟩ := append_of_mem hmem
  rw [scan_append, scan_append, scan_cons, scan_cons, step_text htext, step_text htext]

theorem atEdge_true : (q.atEdge false).atEdge true = q.atEdge true := by
  cases q <;> rfl

/-- The bytes of a separator that may go on. -/
theorem scan_held (hedge : edge = .twoReturns ∨ edge = .held) (hscan : q.scan separator = edge)
    (hnil : rest = [] → edge.atEdge endOfStream = .clear)
    (hfeed : ∀ rest', rest ≠ lineFeed :: rest') :
    (q.scan (separator ++ rest)).atEdge endOfStream = (clear.scan rest).atEdge endOfStream := by
  rw [scan_append, hscan]
  cases rest with
  | nil => exact hnil rfl
  | cons byte rest =>
    have hne : byte ≠ lineFeed := fun heq => hfeed rest (by rw [heq])
    rw [scan_cons, scan_cons, step_behind hedge hne]

/-- **A separator** leads to the beginning of the next event. -/
theorem scan_separator (hq : q = .clear ∨ q = .text) {length : Nat}
    (h : separatorAt pending endOfStream = some length) :
    (q.scan pending).atEdge endOfStream =
      (clear.scan (pending.drop length)).atEdge endOfStream := by
  obtain ⟨separator, hmem, hlen, heq⟩ := separatorAt_eq_some h
  rw [heq] at h
  rw [heq, drop_left' hlen]
  generalize pending.drop length = rest at h
  have hlonger : ∀ longer : Nat, separatorAt (separator ++ rest) endOfStream = some longer →
      longer = separator.length := by
    intro longer hlonger
    rw [hlen]
    exact Option.some.inj (hlonger.symm.trans h)
  simp only [sseEventSeparators, mem_cons, not_mem_nil, or_false] at hmem
  rcases hmem with rfl | rfl | rfl | rfl | rfl | rfl | rfl | rfl
  · rcases hq with rfl | rfl <;> rfl
  · rcases hq with rfl | rfl <;> rfl
  · rcases hq with rfl | rfl <;> rfl
  · rcases hq with rfl | rfl <;> rfl
  · refine scan_held (.inr rfl) (by rcases hq with rfl | rfl <;> rfl) ?_ ?_
    · rintro rfl
      cases endOfStream with
      | false => cases h
      | true => rfl
    · rintro rest' rfl
      exact absurd (hlonger 4 (by cases endOfStream <;> rfl)) (by decide)
  · rcases hq with rfl | rfl <;> rfl
  · refine scan_held (.inr rfl) (by rcases hq with rfl | rfl <;> rfl) ?_ ?_
    · rintro rfl
      cases endOfStream with
      | false => cases h
      | true => rfl
    · rintro rest' rfl
      exact absurd (hlonger 3 (by cases endOfStream <;> rfl)) (by decide)
  · refine scan_held (.inl rfl) (by rcases hq with rfl | rfl <;> rfl) (fun _ => rfl) ?_
    rintro rest' rfl
    exact absurd (hlonger 3 (by cases endOfStream <;> rfl)) (by decide)

/-! ### What a buffer leaves behind -/

/-- Behind a complete separator the loop stands at the beginning, and a buffer without one is no
    separator at its end. -/
structure Scans (endOfStream : Bool) (q : EndState) (pending : Bytes) : Prop where
  event : ∀ found, findEventBoundary pending endOfStream = some found →
    (q.scan pending).atEdge endOfStream =
      (clear.scan (pending.drop (found.1 + found.2))).atEdge endOfStream
  rest : findEventBoundary pending endOfStream = none → pending ≠ [] →
    (q.scan pending).atEdge endOfStream = q.scan pending ∧ q.scan pending ≠ .clear

/-- Between two ends of lines, the buffer goes on with text. -/
def Placed (q : EndState) (pending : Bytes) : Prop :=
  q = .clear ∨ q = .text ∨ ∀ byte, pending.head? = some byte → ¬ IsLineEnd byte

theorem scans_nil : Scans endOfStream q [] where
  event := fun _ h => nomatch h
  rest := fun _ h => absurd rfl h

/-- A buffer that holds one end of a line at its end. -/
theorem scans_of_none (h : findEventBoundary pending endOfStream = none)
    (hedge : (q.scan pending).atEdge endOfStream = q.scan pending)
    (hne : q.scan pending ≠ .clear) : Scans endOfStream q pending where
  event := fun _ hfound => nomatch hfound.symm.trans h
  rest := fun _ _ => ⟨hedge, hne⟩

/-- Where the loop only passes over `lead`. -/
theorem Scans.behind (lead : Bytes) (hpend : pending ≠ [])
    (hscan : findEventBoundary (lead ++ pending) endOfStream =
      (findEventBoundary pending endOfStream).map fun found => (lead.length + found.1, found.2))
    (h : Scans endOfStream (q.scan lead) pending) : Scans endOfStream q (lead ++ pending) where
  event := by
    intro found hfound
    rw [hscan] at hfound
    obtain ⟨inner, hinner, rfl⟩ := Option.map_eq_some_iff.mp hfound
    have hdrop : (lead ++ pending).drop (lead.length + inner.1 + inner.2) =
        pending.drop (inner.1 + inner.2) := by
      rw [Nat.add_assoc, drop_length_add_append]
    rw [hdrop, scan_append]
    exact h.event inner hinner
  rest := by
    intro hnone _
    rw [hscan, Option.map_eq_none_iff] at hnone
    rw [scan_append]
    exact h.rest hnone hpend

theorem Scans.text (hbyte : ¬ IsLineEnd byte) (h : Scans endOfStream .text pending) :
    Scans endOfStream q (byte :: pending) := by
  have hstep : q.step byte = .text := step_text hbyte
  cases pending with
  | nil =>
    refine scans_of_none (findEventBoundary_text hbyte) ?_ ?_
    · rw [scan_cons, hstep]
      rfl
    · rw [scan_cons, hstep]
      exact nofun
  | cons next pending =>
    refine Scans.behind [byte] (cons_ne_nil _ _) ?_ ?_
    · rw [singleton_append, findEventBoundary_text hbyte, length_singleton]
      simp only [add_comm]
    · rw [scan_cons, hstep]
      exact h

/-- A line ends, and text follows. -/
theorem Scans.lineEnd {next : UInt8} (hnext : ¬ IsLineEnd next)
    (h : Scans endOfStream (q.step byte) (next :: pending)) :
    Scans endOfStream q (byte :: next :: pending) := by
  refine Scans.behind [byte] (cons_ne_nil _ _) ?_ h
  rw [singleton_append, findEventBoundary_of_none (separatorAt_before_text hnext), length_singleton]
  simp only [Nat.add_comm]

/-- Only an event that has no end of a line before it, or text, begins with a separator. -/
theorem Placed.closed (hplaced : Placed q (byte :: pending)) (hbyte : IsLineEnd byte) :
    q = .clear ∨ q = .text := by
  rcases hplaced with hq | hq | hhead
  · exact .inl hq
  · exact .inr hq
  · exact absurd hbyte (hhead byte rfl)

theorem scans (hplaced : Placed q pending) : Scans endOfStream q pending := by
  induction hlen : pending.length using Nat.strong_induction_on generalizing pending q with
  | _ length ih =>
    cases pending with
    | nil => exact scans_nil
    | cons byte rest =>
      have htext : ∀ {q : EndState} {next : UInt8} {rest : Bytes}, ¬ IsLineEnd next →
          Placed q (next :: rest) := by
        intro q next rest hnext
        refine .inr (.inr ?_)
        rintro _ ⟨⟩
        exact hnext
      by_cases hbyte : IsLineEnd byte
      · have hq := hplaced.closed hbyte
        cases hat : separatorAt (byte :: rest) endOfStream with
        | some length =>
          have hbdry := findEventBoundary_of_separator hat
          refine ⟨fun found hfound => ?_, fun hnone => nomatch hbdry.symm.trans hnone⟩
          cases hbdry.symm.trans hfound
          rw [zero_add]
          exact scan_separator hq hat
        | none =>
          have hone : q.scan (byte :: rest) = clear.scan (byte :: rest) := by
            rcases hq with rfl | rfl
            · rfl
            · rcases hbyte with rfl | rfl <;> rfl
          cases singleEnd_of_separatorAt hbyte hat with
          | last =>
            refine scans_of_none (findEventBoundary_of_none hat) ?_ ?_
            · rw [hone]
              rcases hbyte with rfl | rfl <;> rfl
            · rw [hone]
              rcases hbyte with rfl | rfl <;> exact nofun
          | text _ _ next rest hnext =>
            refine Scans.lineEnd hnext (ih (rest.length + 1) ?_ (htext hnext) rfl)
            rw [← hlen, length_cons, length_cons]
            omega
          | pairLast =>
            refine scans_of_none (by cases endOfStream <;> rfl) ?_ ?_
            · rw [hone]
              rfl
            · rw [hone]
              exact nofun
          | pairText _ next rest hnext =>
            -- the boundary search passes over both bytes of the end
            have hinner : Scans endOfStream (q.step carriageReturn) (lineFeed :: next :: rest) := by
              refine Scans.lineEnd hnext (ih (rest.length + 1) ?_ (htext hnext) rfl)
              rw [← hlen, length_cons, length_cons, length_cons]
              omega
            refine Scans.behind [carriageReturn] (cons_ne_nil _ _) ?_ hinner
            rw [singleton_append, findEventBoundary_of_none hat, length_singleton]
            simp only [add_comm]
          | edge =>
            refine scans_of_none rfl ?_ ?_
            · rw [hone]
              rfl
            · rw [hone]
              exact nofun
          | pairEdge =>
            refine scans_of_none rfl ?_ ?_
            · rw [hone]
              rfl
            · rw [hone]
              exact nofun
      · exact Scans.text hbyte (ih rest.length (by rw [← hlen, length_cons]; omega)
          (.inr (.inl rfl)) rfl)

theorem scan_nextEvent? (h : nextEvent? pending endOfStream = some (event, rest)) :
    (clear.scan pending).atEdge endOfStream = (clear.scan rest).atEdge endOfStream := by
  obtain ⟨found, hfound, heq⟩ := Option.map_eq_some_iff.mp h
  cases heq
  exact (scans (.inl rfl)).event found hfound

theorem scan_eventsOf (rounds : Nat) (pending : Bytes) :
    (clear.scan (eventsOf endOfStream rounds pending).2).atEdge endOfStream =
      (clear.scan pending).atEdge endOfStream := by
  induction rounds generalizing pending with
  | zero => rfl
  | succ rounds ih =>
    rw [eventsOf]
    cases hnext : nextEvent? pending endOfStream with
    | none => rfl
    | some cut =>
      obtain ⟨event, rest⟩ := cut
      rw [scan_nextEvent? hnext]
      exact ih rest

/-- What the loop over a buffer leaves behind: the events are complete, -/
theorem scan_left (pending : Bytes) :
    clear.scan (eventsOf endOfStream pending.length pending).2 =
      (clear.scan pending).atEdge endOfStream := by
  rw [← scan_eventsOf pending.length pending]
  have hnone := nextEvent?_eventsOf endOfStream (le_refl pending.length)
  generalize (eventsOf endOfStream pending.length pending).2 = left at hnone
  by_cases hleft : left = []
  · rw [hleft]
    rfl
  · exact (((scans (.inl rfl)).rest (Option.map_eq_none_iff.mp hnone) hleft).1).symm

/-- and nothing is left behind the last of them. -/
theorem left_eq_nil_iff (pending : Bytes) :
    (eventsOf endOfStream pending.length pending).2 = [] ↔
      (clear.scan pending).atEdge endOfStream = .clear := by
  rw [← scan_left]
  have hnone := nextEvent?_eventsOf endOfStream (le_refl pending.length)
  generalize (eventsOf endOfStream pending.length pending).2 = left at hnone
  constructor
  · rintro rfl
    rfl
  · intro hclear
    by_contra hleft
    exact ((scans (.inl rfl)).rest (Option.map_eq_none_iff.mp hnone) hleft).2 hclear

theorem atEdge_atEdge : (q.atEdge endOfStream).atEdge endOfStream = q.atEdge endOfStream := by
  cases q <;> cases endOfStream <;> rfl

open EndState

/-- A chunk without an end of a line. -/
theorem scan_of_text (h : ∀ byte ∈ bytes, ¬ IsLineEnd byte) :
    q.scan bytes = q ∨ q.scan bytes = .text := by
  cases bytes with
  | nil => exact .inl rfl
  | cons byte bytes =>
    right
    have hlast : ∀ {bytes : Bytes}, (∀ byte ∈ bytes, ¬ IsLineEnd byte) →
        text.scan bytes = .text := by
      intro bytes h
      induction bytes with
      | nil => rfl
      | cons byte bytes ih =>
        rw [forall_mem_cons] at h
        rw [scan_cons, step_text h.1]
        exact ih h.2
    rw [forall_mem_cons] at h
    rw [scan_cons, step_text h.1]
    exact hlast h.2

end EndState

/-! ### What a stream leaves behind -/

open EndState in
/-- **What is left** of a stream, from where its chunks leave the loop. -/
theorem leftOf_eq_nil_iff (chunks : List Bytes)
    (hedge : (clear.scan pending).atEdge false = clear.scan pending) :
    leftOf (chunks.map .ok) pending = [] ↔
      (chunks.foldl arrive (clear.scan pending)).atEdge true = .clear := by
  induction chunks generalizing pending with
  | nil => exact left_eq_nil_iff pending
  | cons chunk chunks ih =>
    rw [map_cons, leftOf, foldl_cons, arrive, ← scan_append]
    by_cases hline : (chunk.any fun byte => byte == carriageReturn || byte == lineFeed) = true
    · rw [if_pos hline, ← scan_left]
      apply ih
      rw [scan_left]
      exact atEdge_atEdge
    · have htext : ∀ byte ∈ chunk, ¬ IsLineEnd byte := by
        intro byte hmem hend
        apply hline
        refine any_eq_true.mpr ⟨byte, hmem, ?_⟩
        rcases hend with rfl | rfl <;> rfl
      have hstays : (clear.scan (pending ++ chunk)).atEdge false =
          clear.scan (pending ++ chunk) := by
        rw [scan_append]
        rcases scan_of_text htext with hsame | hsame
        · rw [hsame]
          exact hedge
        · rw [hsame]
          rfl
      rw [if_neg hline, hstays]
      exact ih hstays

/-- A separator of two carriage returns and a line feed ends with the last line of `before` and
    the line feed behind it, and only ends of lines follow. -/
def SplitsPair (stream : Bytes) : Prop :=
  ∃ before after, stream = before ++ lineFeed :: after ∧
    EndState.clear.scan before = .twoReturns ∧ ∀ byte ∈ after, IsLineEnd byte

theorem SplitsPair.append (h : SplitsPair stream)
    (hrest : ∀ byte ∈ rest, IsLineEnd byte) : SplitsPair (stream ++ rest) := by
  obtain ⟨before, after, rfl, hscan, hafter⟩ := h
  refine ⟨before, after ++ rest, by rw [append_assoc, cons_append], hscan, ?_⟩
  rw [forall_mem_append]
  exact ⟨hafter, hrest⟩

namespace EndState

variable {q q' : EndState}

/-- Behind text, one of two readers has seen one end of a line more than the other. -/
structure Apart (q q' : EndState) : Prop where
  left : q ≠ .text
  right : q' ≠ .text
  parity : q.atEdge true = .clear ↔ q'.atEdge true ≠ .clear
  returns : (q = .clear ∨ q = .one) ↔ (q' = .clear ∨ q' = .one)

theorem Apart.step (h : Apart q q') (hbyte : IsLineEnd byte) :
    Apart (q.step byte) (q'.step byte) := by
  obtain ⟨hleft, hright, hparity, hreturns⟩ := h
  rcases hbyte with rfl | rfl
  · refine ⟨?_, ?_, ?_, ?_⟩
    all_goals revert hleft hright hparity hreturns
    all_goals cases q <;> cases q' <;> decide
  · refine ⟨?_, ?_, ?_, ?_⟩
    all_goals revert hleft hright hparity hreturns
    all_goals cases q <;> cases q' <;> decide

theorem Apart.scan (h : Apart q q') (hbytes : ∀ byte ∈ bytes, IsLineEnd byte) :
    Apart (q.scan bytes) (q'.scan bytes) := by
  induction bytes generalizing q q' with
  | nil => exact h
  | cons byte bytes ih =>
    rw [forall_mem_cons] at hbytes
    exact ih (h.step hbytes.1) hbytes.2

/-- **One more chunk**: the loop stands where it would stand without an edge before it, unless the
    edge split a pair. -/
theorem arrive_scan (h : q = (clear.scan stream).atEdge false ∨ SplitsPair stream) :
    q.arrive chunk = (clear.scan (stream ++ chunk)).atEdge false ∨
      SplitsPair (stream ++ chunk) := by
  rw [arrive, scan_append]
  by_cases htext : ∃ byte ∈ chunk, ¬ IsLineEnd byte
  · exact .inl (congrArg _ (scan_text htext))
  · have hends : ∀ byte ∈ chunk, IsLineEnd byte := by
      intro byte hmem
      by_contra hnot
      exact htext ⟨byte, hmem, hnot⟩
    rcases h with hq | hsplits
    · by_cases hreturns : clear.scan stream = .twoReturns
      · rw [hreturns] at hq ⊢
        cases chunk with
        | nil => exact .inl (by rw [hq]; rfl)
        | cons byte chunk =>
          rw [forall_mem_cons] at hends
          by_cases hfeed : byte = lineFeed
          · -- the line feed behind the edge belongs to the separator
            rw [hfeed]
            exact .inr ⟨stream, chunk, rfl, hreturns, hends.2⟩
          · left
            rw [hq, scan_cons, scan_cons, step_behind (.inl rfl) hfeed]
            rfl
      · left
        have hsame : (clear.scan stream).atEdge false = clear.scan stream := by
          generalize clear.scan stream = reached at hreturns
          cases reached with
          | twoReturns => exact absurd rfl hreturns
          | clear | text | oneReturn | one | held => rfl
        rw [hq, hsame]
    · exact .inr (hsplits.append hends)

theorem foldl_arrive (chunks : List Bytes)
    (h : q = (clear.scan stream).atEdge false ∨ SplitsPair stream) :
    chunks.foldl arrive q = (clear.scan (stream ++ chunks.flatten)).atEdge false ∨
      SplitsPair (stream ++ chunks.flatten) := by
  induction chunks generalizing stream q with
  | nil =>
    rw [flatten_nil, append_nil]
    exact h
  | cons chunk chunks ih =>
    rw [flatten_cons, ← append_assoc, foldl_cons]
    exact ih (arrive_scan h)

end EndState

open EndState in
theorem leftOf_whole (stream : Bytes) :
    leftOf [.ok stream] [] = [] ↔ (clear.scan stream).atEdge true = .clear := by
  rw [← atEdge_true]
  exact leftOf_eq_nil_iff [stream] rfl

open EndState in
/-- **A split pair.** The line feed behind the edge is left, or closes an event of its own. -/
theorem leftOf_split (hscan : clear.scan before = .twoReturns)
    (hafter : ∀ byte ∈ after, IsLineEnd byte) :
    ¬ (leftOf ([before, lineFeed :: after].map .ok) [] = [] ↔
      leftOf [.ok (before ++ lineFeed :: after)] [] = []) := by
  have hcut : [before, lineFeed :: after].foldl arrive clear =
      (one.scan after).atEdge false := by
    rw [foldl_cons, foldl_cons, foldl_nil, arrive, arrive, hscan]
    rfl
  have hapart : Apart clear .one := ⟨nofun, nofun, by decide, by decide⟩
  have hdiffer := (hapart.scan hafter).parity
  rw [leftOf_whole, scan_append, hscan, leftOf_eq_nil_iff _ rfl]
  show ¬ ((([before, lineFeed :: after].foldl arrive clear).atEdge true = clear) ↔
    ((clear.scan after).atEdge true = clear))
  rw [hcut, atEdge_true, hdiffer]
  tauto

open EndState in
/-- **The rest of a stream** is the same for all its cuts if no edge can split such a pair. -/
theorem leftOf_anyCut (h : ¬ SplitsPair stream) (hflatten : chunks.flatten = stream) :
    leftOf (chunks.map .ok) [] = [] ↔ leftOf [.ok stream] [] = [] := by
  rw [leftOf_whole, leftOf_eq_nil_iff chunks rfl]
  have hfold : chunks.foldl arrive clear = (clear.scan ([] ++ chunks.flatten)).atEdge false ∨
      SplitsPair ([] ++ chunks.flatten) := foldl_arrive chunks (.inl rfl)
  rw [nil_append, hflatten] at hfold
  rw [scan_nil, hfold.resolve_right h, atEdge_true]

/-! ### Failures of one kind -/

/-- What a caller sees of a failure, apart from its words. -/
def failureKind (e : CoreError) : CoreErrorCode × Bool := (e.code, e.recoverable)

/-- The same events are sent, and the outcome is the same usage or a failure of the same kind. -/
structure SameKind (response response' : Response GenerationUsage) : Prop where
  sent : response.sent = response'.sent
  outcome : response.result.mapError failureKind = response'.result.mapError failureKind

namespace SameKind

theorem refl (response : Response GenerationUsage) : SameKind response response := ⟨rfl, rfl⟩

theorem symm (h : SameKind response response') : SameKind response' response :=
  ⟨h.sent.symm, h.outcome.symm⟩

theorem trans (h : SameKind response response') (h' : SameKind response' response'') :
    SameKind response response'' :=
  ⟨h.sent.trans h'.sent, h.outcome.trans h'.outcome⟩

/-- Behind the same computation. -/
theorem bind {α : Type} {x : Response α} {f g : α → Response GenerationUsage}
    (h : ∀ a, x.result = .ok a → SameKind (f a) (g a)) : SameKind (x >>= f) (x >>= g) := by
  rcases x with ⟨sent, _ | a⟩
  · exact refl _
  · have hrest := h a rfl
    exact ⟨congrArg (sent ++ ·) hrest.sent, hrest.outcome⟩

end SameKind

namespace SseReader

variable {σ : Type} {R : SseReader σ}

/-- An adapter that accepts a response at its end only. -/
structure EndsLast (R : SseReader σ) : Prop where
  /-- No event is terminal, -/
  goes : ∀ event s out, (R.process event s).result = .ok out → out.2 = .continue
  /-- and a response that is not accepted fails as one that is cut short. -/
  kind : ∀ s e, R.finish s = .error e → failureKind e = failureKind R.incompleteEvent

theorem ending_congr (h : left = [] ↔ left' = []) :
    R.ending left = R.ending left' := by
  by_cases hleft : left = []
  · rw [hleft, h.mp hleft]
  · have hfinish : (R.ending left).finish = (R.ending left').finish := by
      funext s
      rw [finish_ending hleft, finish_ending (fun hnil => hleft (h.mpr hnil))]
    show { R with finish := (R.ending left).finish } = { R with finish := (R.ending left').finish }
    rw [hfinish]

/-- **A response that leaves bytes behind** fails, after the events that were complete. -/
theorem EndsLast.ending (hR : R.EndsLast) (hleft : left ≠ []) (events : List Bytes) (s : σ) :
    SameKind ((R.ending left).runEvents events s)
      (R.runEvents events s >>= fun _ => .fail R.incompleteEvent) := by
  induction events generalizing s with
  | nil =>
    rw [runEvents, finish_ending hleft, runEvents]
    cases hfinish : R.finish s with
    | error e =>
      refine ⟨rfl, ?_⟩
      show Except.error (failureKind R.incompleteEvent) = Except.error (failureKind e)
      rw [hR.kind s e hfinish]
    | ok usage => exact .refl _
  | cons event events ih =>
    rw [runEvents, runEvents, Transcript.bind_assoc]
    refine SameKind.bind fun out hout => ?_
    obtain ⟨s', action⟩ := out
    have hgoes : action = .continue := hR.goes event s _ hout
    rw [hgoes]
    exact ih s'

end SseReader

/-! ### The cuts of a response of Gemini's -/

namespace Gemini

variable {X : ProviderExternals} {decodeResponse : Json → Option GenerateContentResponse}
  {stream : Bytes}

theorem readsEvents : (reader X decodeResponse).ReadsEvents where
  same := by
    intro event event' s h
    show processSseEvent X decodeResponse event s = processSseEvent X decodeResponse event' s
    rw [processSseEvent, processSseEvent, eventData_eq, eventData_eq, h]
  silent := by
    intro event s h
    show processSseEvent X decodeResponse event s = _
    rw [processSseEvent, eventData_eq, h]
    rfl

theorem endsLast : (reader X decodeResponse).EndsLast where
  goes := by
    intro event s out hout
    replace hout : (processSseEvent X decodeResponse event s).result = .ok out := hout
    have hafter : After [] (processSseEvent X decodeResponse event s) fun _ out =>
        out.2 = .continue := by
      unfold processSseEvent
      refine lift_bind fun data _ => ?_
      cases data with
      | none => exact after_pure rfl
      | some data =>
        refine require_bind fun _ => lift_bind fun response _ => ?_
        exact .bind (Q := fun _ _ => True) (fun _ _ => trivial) fun _ _ _ => after_pure rfl
    exact hafter out hout
  kind := by
    intro s e he
    replace he : s.finish X = .error e := he
    unfold ResponseState.finish at he
    split at he
    · cases he
      rfl
    · cases he
      rfl
    · cases he
      rfl
    · cases he
      rfl
    · cases he
      rfl
    · cases he

/-- The events of a stream, one after the other, make up a response that is accepted. -/
def Accepted (X : ProviderExternals) (decodeResponse : Json → Option GenerateContentResponse)
    (stream : Bytes) : Prop :=
  ∃ usage, ((reader X decodeResponse).runEvents ((eventLines stream).map joinLines)
    .default).result = .ok usage

theorem consumeSse_eq (hsize : chunks.flatten.length ≤ 1024 * 1024) :
    consumeSse X decodeResponse (chunks.map .ok) =
      ((reader X decodeResponse).ending (leftOf (chunks.map .ok) [])).runEvents
        ((eventLines chunks.flatten).map joinLines) .default := by
  have hmax : 32 * 1024 * 1024 ≤ u64Max := by decide
  have hevs : ([] : Bytes).length + chunks.flatten.length ≤ 1024 * 1024 := by simpa using hsize
  have htotal : 0 + chunks.flatten.length ≤ 32 * 1024 * 1024 := by omega
  rw [← (readsEvents.ending _).runEvents_framesOf chunks]
  exact SseReader.consume_runEvents (R := reader X decodeResponse) hmax hevs htotal _

theorem consumeSse_whole (hsize : stream.length ≤ 1024 * 1024) :
    consumeSse X decodeResponse [.ok stream] =
      ((reader X decodeResponse).ending (leftOf [.ok stream] [])).runEvents
        ((eventLines stream).map joinLines) .default := by
  have hflatten : [stream].flatten = stream := by simp
  have hone : consumeSse X decodeResponse ([stream].map .ok) =
      ((reader X decodeResponse).ending (leftOf ([stream].map .ok) [])).runEvents
        ((eventLines [stream].flatten).map joinLines) .default :=
    consumeSse_eq (by rw [hflatten]; exact hsize)
  rw [hflatten] at hone
  exact hone

/-- What leaves bytes behind fails, even where its events are accepted. -/
theorem Accepted.ending (h : Accepted X decodeResponse stream) (hleft : left ≠ []) :
    (((reader X decodeResponse).ending left).runEvents ((eventLines stream).map joinLines)
        .default).result.mapError failureKind =
      .error (failureKind (reader X decodeResponse).incompleteEvent) := by
  obtain ⟨usage, hok⟩ := h
  rw [(endsLast.ending hleft _ _).outcome]
  cases hrun : (reader X decodeResponse).runEvents ((eventLines stream).map joinLines) .default with
  | mk sent result =>
    rw [hrun] at hok
    rw [show result = .ok usage from hok]
    rfl

/-- Where the events are not accepted, it does not matter what they leave behind. -/
theorem ending_of_not_accepted (h : ¬ Accepted X decodeResponse stream) (left : Bytes) :
    SameKind (((reader X decodeResponse).ending left).runEvents
        ((eventLines stream).map joinLines) .default)
      ((reader X decodeResponse).runEvents ((eventLines stream).map joinLines) .default) := by
  by_cases hnil : left = []
  · rw [hnil, SseReader.ending_nil]
    exact .refl _
  · refine (endsLast.ending hnil _ _).trans ?_
    cases hrun : (reader X decodeResponse).runEvents
        ((eventLines stream).map joinLines) .default with
    | mk sent result =>
      cases result with
      | error e => exact .refl _
      | ok usage => exact absurd ⟨usage, by rw [hrun]⟩ h

/-- **A spoilt response**: accepted in one chunk and not in two, or the other way round. -/
theorem not_sameKind_of_split (hsize : (before ++ lineFeed :: after).length ≤ 1024 * 1024)
    (hscan : EndState.clear.scan before = .twoReturns) (hafter : ∀ byte ∈ after, IsLineEnd byte)
    (hacc : Accepted X decodeResponse (before ++ lineFeed :: after)) :
    ¬ SameKind (consumeSse X decodeResponse ([before, lineFeed :: after].map .ok))
      (consumeSse X decodeResponse [.ok (before ++ lineFeed :: after)]) := by
  intro hsame
  have hflatten : [before, lineFeed :: after].flatten = before ++ lineFeed :: after := by simp
  have houtcome := hsame.outcome
  rw [consumeSse_eq (by rw [hflatten]; exact hsize), hflatten, consumeSse_whole hsize] at houtcome
  have hleft := leftOf_split hscan hafter
  have hok := hacc
  obtain ⟨usage, hok⟩ := hok
  by_cases hcut : leftOf ([before, lineFeed :: after].map .ok) [] = []
  · have hnot : leftOf [.ok (before ++ lineFeed :: after)] [] ≠ [] :=
      fun hnil => hleft (iff_of_true hcut hnil)
    rw [hcut, SseReader.ending_nil, hok, hacc.ending hnot] at houtcome
    cases houtcome
  · have hnil : leftOf [.ok (before ++ lineFeed :: after)] [] = [] := by
      by_contra hne
      exact hleft (iff_of_false hcut hne)
    rw [hnil, SseReader.ending_nil, hok, hacc.ending hcut] at houtcome
    cases houtcome

/-- **The cuts of a response.** However a stream of at most 1 MiB is cut into chunks, the same
    comes of it, iff it is not an accepted response that an edge can spoil: one with a separator
    of two carriage returns and a line feed, and nothing but ends of lines behind it. -/
theorem consumeSse_anyCut_iff (hsize : stream.length ≤ 1024 * 1024) :
    (∀ chunks : List Bytes, (∀ chunk ∈ chunks, chunk ≠ []) → chunks.flatten = stream →
      SameKind (consumeSse X decodeResponse (chunks.map .ok))
        (consumeSse X decodeResponse [.ok stream])) ↔
      ¬ (SplitsPair stream ∧ Accepted X decodeResponse stream) := by
  constructor
  · rintro hsame ⟨⟨before, after, rfl, hscan, hafter⟩, hacc⟩
    have hbef : before ≠ [] := by
      rintro rfl
      cases hscan
    refine not_sameKind_of_split hsize hscan hafter hacc (hsame _ ?_ (by simp))
    rw [forall_mem_cons, forall_mem_singleton]
    exact ⟨hbef, cons_ne_nil _ _⟩
  · rintro hnot chunks - rfl
    rw [consumeSse_eq hsize, consumeSse_whole hsize]
    by_cases hacc : Accepted X decodeResponse chunks.flatten
    · have hsplits : ¬ SplitsPair chunks.flatten := fun hsplits => hnot ⟨hsplits, hacc⟩
      rw [SseReader.ending_congr (leftOf_anyCut hsplits rfl)]
      exact .refl _
    · exact (ending_of_not_accepted hacc _).trans (ending_of_not_accepted hacc _).symm

/-! ### A response that an edge spoils -/

/-- A response of one part, finished. -/
def finishedPayload : String :=
  "\x7b\"candidates\":[\x7b\"content\":\x7b\"parts\":[\x7b\"text\":\"a\"\x7d]\x7d,\"finishReason\":\"STOP\"\x7d]\x7d"

def finishedJson : Json := .object
  [("candidates", .array [.object
    [("content", .object [("parts", .array [.object [("text", .string "a")]])]),
      ("finishReason", .string "STOP")]])]

def finishedResponse : GenerateContentResponse :=
  ⟨[⟨some ⟨none, [⟨some "a", false, none, none, []⟩]⟩, some "STOP", none⟩], none, none⟩

def finishedProvider : ProviderExternals :=
  { sampleProvider with
    parseJson := fun bytes => if bytes = asBytes finishedPayload then some finishedJson else none }

def finishedEvent : Bytes := asBytes ("data: " ++ finishedPayload)

/-- The event, and two carriage returns. -/
def finishedBefore : Bytes := finishedEvent ++ [carriageReturn, carriageReturn]

theorem finishedPayload_oneLine : OneLine finishedPayload := by
  refine ⟨?_, ?_, ?_, by simp [finishedPayload]⟩
  · rw [finishedPayload, String.toList_ofList]
    decide
  · rw [finishedPayload, asBytes, String.toList_ofList]
    decide
  · rw [finishedPayload, String.toList_ofList]
    decide

theorem processSseEvent_finished :
    processSseEvent finishedProvider (fun _ => some finishedResponse) finishedEvent .default =
      ⟨[.textDelta "a"], .ok (⟨.terminalWithContent, 1, 1, .default, .default⟩, .continue)⟩ := by
  have hparse : finishedProvider.parseJson (asBytes finishedPayload) = some finishedJson := by
    simp [finishedProvider]
  rw [processSseEvent, finishedEvent, finishedPayload_oneLine.eventData]
  simp only [Transcript.lift_ok_bind, parseResponse, hparse]
  rfl

set_option maxRecDepth 4000 in
theorem eventLines_finished :
    eventLines (finishedBefore ++ [lineFeed]) = [[finishedEvent]] := by
  rfl

theorem accepted_finished :
    Accepted finishedProvider (fun _ => some finishedResponse) (finishedBefore ++ [lineFeed]) := by
  refine ⟨.default, ?_⟩
  rw [eventLines_finished]
  have hjoined : joinLines [finishedEvent] = finishedEvent := by simp [joinLines]
  have hprocess : (reader finishedProvider fun _ => some finishedResponse).process finishedEvent
      .default = ⟨[.textDelta "a"],
        .ok (⟨.terminalWithContent, 1, 1, .default, .default⟩, .continue)⟩ :=
    processSseEvent_finished
  rw [map_singleton, hjoined, SseReader.runEvents, hprocess]
  rfl

theorem consumeSse_anyCut_iff_finished :
    (∀ chunks : List Bytes, (∀ chunk ∈ chunks, chunk ≠ []) → chunks.flatten = finishedBefore →
      SameKind (consumeSse finishedProvider (fun _ => some finishedResponse) (chunks.map .ok))
        (consumeSse finishedProvider (fun _ => some finishedResponse) [.ok finishedBefore])) ↔
      ¬ (SplitsPair finishedBefore ∧
        Accepted finishedProvider (fun _ => some finishedResponse) finishedBefore) :=
  consumeSse_anyCut_iff (by decide)

/-- The finished response, with an edge between its last carriage return and the line feed. -/
theorem finished_depends_on_cut :
    ¬ ∀ chunks : List Bytes, (∀ chunk ∈ chunks, chunk ≠ []) →
      chunks.flatten = finishedBefore ++ [lineFeed] →
      SameKind (consumeSse finishedProvider (fun _ => some finishedResponse) (chunks.map .ok))
        (consumeSse finishedProvider (fun _ => some finishedResponse)
          [.ok (finishedBefore ++ [lineFeed])]) := by
  intro hsame
  have hscan : EndState.clear.scan finishedBefore = .twoReturns := by rfl
  refine not_sameKind_of_split (by decide) hscan (forall_mem_nil _) accepted_finished
    (hsame _ ?_ (by simp))
  rw [forall_mem_cons, forall_mem_singleton]
  exact ⟨by decide, cons_ne_nil _ _⟩

end Gemini

end LorePia.Providers
