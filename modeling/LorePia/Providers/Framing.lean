import LorePia.Lib.Lines
import LorePia.Providers.Agreement

namespace LorePia.Providers

open Lib List Anthropic Transcript

/-!
# Providers — the framing of an event stream

An event ends at an empty line, and its payload is its data lines, joined by newlines.  The read
loop finds the ends of events by eight separators, on a buffer that grows chunk by chunk; a
separator may be cut short by the edge of a chunk, and leave a line feed behind.

* `cuts` — what the loop cuts off is the next block of lines, whatever arrives later;
* `decodedEvent_eq` — what an event decodes to depends on its lines alone;
* `SseReader.framesAs` — so a response does not depend on how its stream is cut into chunks;
* `consumeStream_framesAs`, `consumeResponseStream_framesAs` — for the three adapters.
-/

variable {chunks events : List Bytes} {left rest : Bytes} {length : Nat} {next : UInt8}

/-! ### The reference framing -/

variable (stream : Bytes)

/-- The events of a stream, with their lines. -/
def eventLines : List (List Bytes) :=
  completeBlocks [] (completeLines carriageReturn lineFeed [] stream)

variable (lines : List Bytes)

/-- The payload of an event, if it has one: its data lines, joined by newlines.  `none` stands for
    an event that is not UTF-8. -/
def eventPayload : Option (Option String) := do
  let texts ← lines.mapM fromUtf8
  let dataLines := texts.filterMap fun line =>
    (stripPrefix? line "data:").map fun data => (stripPrefix? data " ").getD data
  return if dataLines = [] then none else some ("\n".intercalate dataLines)

/-- The payloads of a stream; `none` stands for an event that is not UTF-8. -/
def referencePayloads : List (Option (Option String)) :=
  ((eventLines stream).map eventPayload).filter (· ≠ some none)

/-- What the adapters read off an event that the loop cut out. -/
def decodedEvent (event : Bytes) : Option (Option String) := (fromUtf8 event).map dataOf

def decodedPayloads (events : List Bytes) : List (Option (Option String)) :=
  (events.map decodedEvent).filter (· ≠ some none)

/-- An event as its lines, joined by line feeds. -/
def joinLines : Bytes := List.intercalate [lineFeed] lines

/-! ### Separators -/

theorem carriageReturn_ne_lineFeed : carriageReturn ≠ lineFeed := by decide

/-- An element of a separator. -/
abbrev IsLineEnd (byte : UInt8) : Prop := IsEnd carriageReturn lineFeed byte

/-- The blocks of lines of a stream from the middle of one on. -/
abbrev blocksFrom (line : Bytes) (block : List Bytes) (stream : Bytes) :
    List (List Bytes) :=
  blocks carriageReturn lineFeed line block stream

/-- The lines of an event, as the adapters split it. -/
abbrev linesOf (line event : Bytes) : List Bytes :=
  pieces carriageReturn lineFeed line event

variable {byte : UInt8} {line event pending future : Bytes} {block : List Bytes}
  {endOfStream : Bool}

theorem isLineEnd_carriageReturn : IsLineEnd carriageReturn := .inl rfl

theorem isLineEnd_lineFeed : IsLineEnd lineFeed := .inr rfl

/-- **A separator ends the event**, and what is left of the empty lines does not matter. -/
theorem blocks_separator (h : separator ∈ sseEventSeparators) :
    blocksFrom line block (separator ++ future) =
      shown (block ++ shown line) ++ blocksFrom [] [] future := by
  have hne := carriageReturn_ne_lineFeed
  have hcr := isLineEnd_carriageReturn
  have hlf := isLineEnd_lineFeed
  have hskip : blocksFrom [] [] (lineFeed :: future) = blocksFrom [] [] future :=
    blocks_skip hne hlf
  have hlflf : ¬ (lineFeed = carriageReturn ∧ lineFeed = lineFeed) := by decide
  have hlfcr : ¬ (lineFeed = carriageReturn ∧ carriageReturn = lineFeed) := by decide
  have hcrcr : ¬ (carriageReturn = carriageReturn ∧ carriageReturn = lineFeed) := by decide
  simp only [sseEventSeparators, mem_cons, not_mem_nil, or_false] at h
  rcases h with rfl | rfl | rfl | rfl | rfl | rfl | rfl | rfl
  · exact (blocks_emptyLine_pair hne hcr).trans (congrArg _ hskip)
  · exact (blocks_emptyLine hne hlf hcr hlfcr).trans (congrArg _ hskip)
  · exact (blocks_emptyLine hne hcr hcr hcrcr).trans (congrArg _ hskip)
  · exact blocks_emptyLine_pair hne hlf
  · exact blocks_emptyLine_pair hne hcr
  · exact blocks_emptyLine hne hlf hlf hlflf
  · exact blocks_emptyLine hne hlf hcr hlfcr
  · exact blocks_emptyLine hne hcr hcr hcrcr

theorem separatorAt_eq_some (h : separatorAt pending endOfStream = some length) :
    ∃ separator ∈ sseEventSeparators, separator.length = length ∧
      pending = separator ++ pending.drop length := by
  obtain ⟨separator, hfind, rfl⟩ := Option.map_eq_some_iff.mp h
  have hmatches := find?_some hfind
  rw [Bool.and_eq_true] at hmatches
  obtain ⟨rest, rfl⟩ := isPrefixOf_iff_prefix.mp hmatches.1
  exact ⟨separator, mem_of_find?_eq_some hfind, rfl, by rw [drop_left]⟩

/-- What follows an end of line at which no separator is recognised: the buffer ends before
    that is decided, or text follows the end, or the line feed of the end. -/
inductive SingleEnd : Bool → UInt8 → Bytes → Prop
  | last (endOfStream : Bool) (byte : UInt8) : SingleEnd endOfStream byte []
  | text (endOfStream : Bool) (byte next : UInt8) (rest : Bytes) (h : ¬ IsLineEnd next) :
      SingleEnd endOfStream byte (next :: rest)
  | pairLast (endOfStream : Bool) : SingleEnd endOfStream carriageReturn [lineFeed]
  | pairText (endOfStream : Bool) (next : UInt8) (rest : Bytes) (h : ¬ IsLineEnd next) :
      SingleEnd endOfStream carriageReturn (lineFeed :: next :: rest)
  | edge : SingleEnd false lineFeed [carriageReturn]
  | pairEdge : SingleEnd false carriageReturn [lineFeed, carriageReturn]

theorem separatorAt_eq_none (h : separatorAt pending endOfStream = none) :
    ∀ separator ∈ sseEventSeparators, separator <+: pending →
      endOfStream = false ∧ separator.getLast? = some carriageReturn ∧
        separator ≠ [carriageReturn, carriageReturn] ∧ separator.length = pending.length := by
  intro separator hmem hfits
  rw [separatorAt, Option.map_eq_none_iff, List.find?_eq_none] at h
  have hnot := h separator hmem
  rw [Bool.and_eq_true, isPrefixOf_iff_prefix] at hnot
  have hedge := fun hcond => hnot ⟨hfits, hcond⟩
  simpa [and_assoc] using hedge

theorem singleEnd_of_separatorAt (hbyte : IsLineEnd byte)
    (h : separatorAt (byte :: pending) endOfStream = none) :
    SingleEnd endOfStream byte pending := by
  have hnone := separatorAt_eq_none h
  cases pending with
  | nil => exact .last _ _
  | cons next pending =>
    by_cases hnext : IsLineEnd next
    · rcases hbyte with rfl | rfl
      · rcases hnext with rfl | rfl
        · have hreturns := hnone [13, 13] (by decide) ⟨pending, rfl⟩
          exact absurd rfl hreturns.2.2.1
        · -- the line feed belongs to the carriage return, so the next byte decides
          cases pending with
          | nil => exact .pairLast _
          | cons next pending =>
            by_cases hnext : IsLineEnd next
            · rcases hnext with rfl | rfl
              · have hedge := hnone [13, 10, 13] (by decide) ⟨pending, rfl⟩
                have hnil : pending = [] := by simpa using hedge.2.2.2
                rw [hnil, hedge.1]
                exact .pairEdge
              · have hfeed := hnone [13, 10, 10] (by decide) ⟨pending, rfl⟩
                exact absurd hfeed.2.1 (by decide)
            · exact .pairText _ _ _ hnext
      · rcases hnext with rfl | rfl
        · have hedge := hnone [10, 13] (by decide) ⟨pending, rfl⟩
          have hnil : pending = [] := by simpa using hedge.2.2.2
          rw [hnil, hedge.1]
          exact .edge
        · have hfeeds := hnone [10, 10] (by decide) ⟨pending, rfl⟩
          exact absurd hfeeds.2.1 (by decide)
    · exact .text _ _ _ _ hnext

/-! ### Cutting off an event -/

/-- A separator is two ends of lines at least. -/
theorem separatorAt_before_text (h : ¬ IsLineEnd next) :
    separatorAt (byte :: next :: pending) endOfStream = none := by
  by_contra hsome
  obtain ⟨length, hlen⟩ := Option.ne_none_iff_exists'.mp hsome
  obtain ⟨separator, hmem, _, heq⟩ := separatorAt_eq_some hlen
  have hsnd : ∀ separator ∈ sseEventSeparators,
      separator[1]? = some carriageReturn ∨ separator[1]? = some lineFeed := by decide
  have htwo : ∀ separator ∈ sseEventSeparators, 1 < separator.length := by decide
  have hnext : separator[1]? = some next := by
    have hget : (byte :: next :: pending)[1]? = some next := rfl
    rw [heq, getElem?_append_left (htwo separator hmem)] at hget
    exact hget
  apply h
  rcases hsnd separator hmem with hcr | hlf
  · exact .inl (Option.some.inj (hnext.symm.trans hcr))
  · exact .inr (Option.some.inj (hnext.symm.trans hlf))

theorem findEventBoundary_of_separator
    (h : separatorAt (byte :: pending) endOfStream = some length) :
    findEventBoundary (byte :: pending) endOfStream = some (0, length) := by
  rw [findEventBoundary, h]

theorem findEventBoundary_of_none (h : separatorAt (byte :: pending) endOfStream = none) :
    findEventBoundary (byte :: pending) endOfStream =
      (findEventBoundary pending endOfStream).map fun found => (found.1 + 1, found.2) := by
  rw [findEventBoundary, h]

/-- A text byte is passed over. -/
theorem findEventBoundary_text (h : ¬ IsLineEnd byte) :
    findEventBoundary (byte :: pending) endOfStream =
      (findEventBoundary pending endOfStream).map fun found => (found.1 + 1, found.2) :=
  findEventBoundary_of_none (separatorAt_of_ne ⟨fun heq => h (.inl heq), fun heq => h (.inr heq)⟩)

/-- Between two lines of an event, the buffer goes on with text. -/
def Positioned (line : Bytes) (block : List Bytes) (pending : Bytes) : Prop :=
  line ≠ [] ∨ block = [] ∨ ∀ byte, pending.head? = some byte → ¬ IsLineEnd byte

/-- The event that is cut off is the first block of lines, whatever arrives later, and at the end
    of the stream a buffer without one has no block. -/
structure Cuts (endOfStream : Bool) (line : Bytes) (block : List Bytes)
    (pending : Bytes) : Prop where
  event : ∀ found future, findEventBoundary pending endOfStream = some found →
    blocksFrom line block (pending ++ future) =
      shown (block ++ linesOf line (pending.take found.1)) ++
        blocksFrom [] [] (pending.drop (found.1 + found.2) ++ future)
  rest : findEventBoundary pending endOfStream = none → endOfStream = true →
    blocksFrom line block pending = []

theorem cuts_nil : Cuts endOfStream line block [] where
  event := fun _ _ h => nomatch h
  rest := fun _ _ => blocks_nil

/-- A buffer without an end of an event. -/
theorem cuts_of_none (h : findEventBoundary pending endOfStream = none)
    (hrest : endOfStream = true → blocksFrom line block pending = []) :
    Cuts endOfStream line block pending where
  event := fun _ _ hfound => nomatch hfound.symm.trans h
  rest := fun _ => hrest

/-- Where the loop only passes over `lead`, the rest is cut as before. -/
theorem Cuts.behind (lead : Bytes)
    (hscan : findEventBoundary (lead ++ pending) endOfStream =
      (findEventBoundary pending endOfStream).map fun found => (lead.length + found.1, found.2))
    (hblocks : ∀ future, blocksFrom line block (lead ++ (pending ++ future)) =
      blocksFrom line' block' (pending ++ future))
    (hlines : ∀ event, block ++ linesOf line (lead ++ event) = block' ++ linesOf line' event)
    (h : Cuts endOfStream line' block' pending) :
    Cuts endOfStream line block (lead ++ pending) where
  event := by
    intro found future hfound
    rw [hscan] at hfound
    obtain ⟨inner, hinner, rfl⟩ := Option.map_eq_some_iff.mp hfound
    have hdrop : (lead ++ pending).drop (lead.length + inner.1 + inner.2) =
        pending.drop (inner.1 + inner.2) := by
      rw [Nat.add_assoc, drop_length_add_append]
    rw [append_assoc, hblocks, h.event inner future hinner, take_length_add_append, hlines, hdrop]
  rest := by
    intro hnone hend
    rw [hscan, Option.map_eq_none_iff] at hnone
    have hrest := hblocks []
    rw [append_nil] at hrest
    rw [hrest, h.rest hnone hend]

theorem Cuts.text (hbyte : ¬ IsLineEnd byte) (h : Cuts endOfStream (line ++ [byte]) block pending) :
    Cuts endOfStream line block (byte :: pending) := by
  refine Cuts.behind [byte] ?_ (fun _ => blocks_text hbyte) (fun event => ?_) h
  · rw [singleton_append, findEventBoundary_text hbyte, length_singleton]
    simp only [Nat.add_comm]
  · rw [singleton_append]
    exact congrArg (block ++ ·) (pieces_text hbyte)

/-- The end of a line of an event; at the beginning of an event it changes nothing. -/
theorem blocksFrom_line (h : line ≠ [] ∨ block = []) :
    (if line = [] then shown block ++ blocksFrom [] [] future
      else blocksFrom [] (block ++ [line]) future) =
      blocksFrom [] (block ++ shown line) future := by
  by_cases hline : line = []
  · have hblock : block = [] := h.resolve_left (fun hne => hne hline)
    rw [if_pos hline, hline, hblock]
    rfl
  · rw [if_neg hline, shown_of_ne_nil hline]

/-- A line ends, and text follows. -/
theorem Cuts.lineEnd (hbyte : IsLineEnd byte) (hnext : ¬ IsLineEnd next)
    (hpos : line ≠ [] ∨ block = [])
    (h : Cuts endOfStream [] (block ++ shown line) (next :: pending)) :
    Cuts endOfStream line block (byte :: next :: pending) := by
  refine Cuts.behind [byte] ?_ (fun future => ?_) (fun event => ?_) h
  · rw [singleton_append, findEventBoundary_of_none (separatorAt_before_text hnext),
      length_singleton]
    simp only [Nat.add_comm]
  · refine (blocks_end hbyte ?_).trans (blocksFrom_line hpos)
    rintro ⟨_, hfeed⟩
    exact hnext (.inr (Option.some.inj hfeed))
  · rw [singleton_append, append_assoc]
    exact congrArg (block ++ ·) (pieces_end hbyte)

/-- A line ends with both bytes, and text follows. -/
theorem Cuts.lineEndPair
    (hat : separatorAt (carriageReturn :: lineFeed :: next :: pending) endOfStream = none)
    (hnext : ¬ IsLineEnd next) (hpos : line ≠ [] ∨ block = [])
    (h : Cuts endOfStream [] (block ++ shown line) (next :: pending)) :
    Cuts endOfStream line block (carriageReturn :: lineFeed :: next :: pending) := by
  refine Cuts.behind [carriageReturn, lineFeed] ?_ (fun future => ?_) (fun event => ?_) h
  · show findEventBoundary (carriageReturn :: lineFeed :: next :: pending) endOfStream = _
    rw [findEventBoundary_of_none hat,
      findEventBoundary_of_none (separatorAt_before_text hnext), Option.map_map]
    congr 1
    funext found
    show (found.1 + 1 + 1, found.2) = (2 + found.1, found.2)
    rw [Nat.add_comm 2]
  · exact blocks_pair.trans (blocksFrom_line hpos)
  · show block ++ linesOf line (carriageReturn :: lineFeed :: event) = _
    rw [linesOf, pieces_end isLineEnd_carriageReturn, pieces_end isLineEnd_lineFeed, append_assoc]
    rfl

open Cuts

/-- **What the loop cuts off.** By induction on the buffer: a separator ends the block, and where
    none is recognised, a line ends in the block or the buffer is too short to tell. -/
theorem cuts (hpos : Positioned line block pending) : Cuts endOfStream line block pending := by
  induction hlen : pending.length using Nat.strong_induction_on generalizing pending line block with
  | _ length ih =>
    cases pending with
    | nil => exact cuts_nil
    | cons byte rest =>
      cases hat : separatorAt (byte :: rest) endOfStream with
      | some length =>
        have hbdry := findEventBoundary_of_separator hat
        refine ⟨?_, fun hnone => ?_⟩
        · intro found future hfound
          cases hbdry.symm.trans hfound
          obtain ⟨separator, hmem, _, heq⟩ := separatorAt_eq_some hat
          have hsplit : byte :: rest ++ future =
              separator ++ ((byte :: rest).drop (0 + length) ++ future) := by
            rw [Nat.zero_add, ← append_assoc, ← heq]
          rw [hsplit, blocks_separator hmem]
          rfl
        · cases hbdry.symm.trans hnone
      | none =>
        by_cases hbyte : IsLineEnd byte
        · have hstart : line ≠ [] ∨ block = [] := by
            rcases hpos with hline | hblock | hhead
            · exact .inl hline
            · exact .inr hblock
            · exact absurd hbyte (hhead byte rfl)
          have hnext : ∀ {next : UInt8} {rest : Bytes}, ¬ IsLineEnd next →
              Positioned [] (block ++ shown line) (next :: rest) := by
            intro next rest hnext
            refine .inr (.inr ?_)
            rintro _ ⟨⟩
            exact hnext
          cases singleEnd_of_separatorAt hbyte hat with
          | last =>
            refine cuts_of_none (findEventBoundary_of_none hat) fun _ => ?_
            exact (blocks_end hbyte (by simp)).trans (blocksFrom_line hstart)
          | text _ _ next rest htext =>
            refine lineEnd hbyte htext hstart (ih (rest.length + 1) ?_ (hnext htext) rfl)
            rw [← hlen, length_cons, length_cons]
            omega
          | pairLast =>
            refine cuts_of_none (by cases endOfStream <;> rfl) fun _ => ?_
            exact blocks_pair.trans (blocksFrom_line hstart)
          | pairText _ next rest htext =>
            refine lineEndPair hat htext hstart (ih (rest.length + 1) ?_ (hnext htext) rfl)
            rw [← hlen, length_cons, length_cons, length_cons]
            omega
          | edge => exact cuts_of_none rfl nofun
          | pairEdge => exact cuts_of_none rfl nofun
        · refine text hbyte (ih rest.length ?_ (.inl (by simp)) rfl)
          rw [← hlen, length_cons]
          omega

/-- The first event of a buffer is the first block of the stream. -/
theorem nextEvent?_blocks
    (h : nextEvent? pending endOfStream = some (event, rest)) (future : Bytes) :
    blocksFrom [] [] (pending ++ future) =
      shown (linesOf [] event) ++ blocksFrom [] [] (rest ++ future) := by
  obtain ⟨found, hfound, heq⟩ := Option.map_eq_some_iff.mp h
  cases heq
  exact (cuts (.inr (.inl rfl))).event found future hfound

/-- At the end of the stream, a buffer without an event has no block. -/
theorem blocks_of_nextEvent?_none (h : nextEvent? pending true = none) :
    blocksFrom [] [] pending = [] :=
  (cuts (.inr (.inl rfl))).rest (Option.map_eq_none_iff.mp h) rfl

/-! ### The events of a stream -/

/-- The events that have a line, as their lines. -/
def linesOfEvents (events : List Bytes) : List (List Bytes) :=
  (events.map (linesOf [])).filter (· ≠ [])

theorem linesOfEvents_cons :
    linesOfEvents (event :: events) = shown (linesOf [] event) ++ linesOfEvents events := by
  by_cases hlines : linesOf [] event = []
  · simp [linesOfEvents, hlines]
  · simp [linesOfEvents, hlines, shown]

theorem linesOfEvents_append :
    linesOfEvents (events ++ later) = linesOfEvents events ++ linesOfEvents later := by
  simp [linesOfEvents]

/-- The events of a buffer are its first blocks, and what it leaves behind has the others. -/
theorem eventsOf_blocks (rounds : Nat) (pending future : Bytes) :
    blocksFrom [] [] (pending ++ future) = linesOfEvents (eventsOf endOfStream rounds pending).1 ++
        blocksFrom [] [] ((eventsOf endOfStream rounds pending).2 ++ future) := by
  induction rounds generalizing pending with
  | zero => rfl
  | succ rounds ih =>
    rw [eventsOf]
    cases hnext : nextEvent? pending endOfStream with
    | none => rfl
    | some cut =>
      obtain ⟨event, rest⟩ := cut
      rw [nextEvent?_blocks hnext future, ih rest]
      simp only [linesOfEvents_cons, append_assoc]

/-- **The events of a stream** are its blocks, however it arrives. -/
theorem framesOf_blocks (chunks : List Bytes) (pending : Bytes) :
    linesOfEvents (framesOf (chunks.map .ok) pending) =
      blocksFrom [] [] (pending ++ chunks.flatten) := by
  induction chunks generalizing pending with
  | nil =>
    have hleft := nextEvent?_eventsOf true (le_refl pending.length)
    rw [flatten_nil, eventsOf_blocks pending.length pending [], append_nil,
      blocks_of_nextEvent?_none hleft, append_nil]
    rfl
  | cons chunk chunks ih =>
    rw [map_cons, framesOf, flatten_cons, ← append_assoc]
    by_cases hline : (chunk.any fun byte => byte == carriageReturn || byte == lineFeed) = true
    · rw [if_pos hline, linesOfEvents_append, ih]
      exact (eventsOf_blocks _ _ _).symm
    · rw [if_neg hline, ih]

theorem blocksFrom_eq_eventLines :
    blocksFrom [] [] stream = (eventLines stream).filter (· ≠ []) := rfl

/-! ### What an event decodes to -/

theorem utf8EncodeChar_text (h : ¬ c ∈ ['\r', '\n']) :
    ∀ byte ∈ String.utf8EncodeChar c, ¬ IsLineEnd byte := by
  intro byte hmem hend
  have hascii : byte < 128 := by
    rcases hend with rfl | rfl
    · decide
    · decide
  have hnat := (utf8EncodeChar_of_mem_ascii hmem hascii).2
  have hchar : ∀ d : Char, c.toNat = d.toNat → c = d :=
    fun d heq => Char.ext (UInt32.toNat_inj.mp heq)
  apply h
  rcases hend with rfl | rfl
  · rw [hchar '\r' hnat]
    decide
  · rw [hchar '\n' hnat]
    decide

/-- An end of line is one byte. -/
theorem utf8EncodeChar_end (h : c ∈ ['\r', '\n']) :
    ∃ byte, IsLineEnd byte ∧ String.utf8EncodeChar c = [byte] := by
  simp only [mem_cons, not_mem_nil, or_false] at h
  rcases h with rfl | rfl
  · exact ⟨carriageReturn, isLineEnd_carriageReturn, by decide⟩
  · exact ⟨lineFeed, isLineEnd_lineFeed, by decide⟩

theorem flatMap_utf8EncodeChar_eq_nil :
    cs.flatMap String.utf8EncodeChar = [] ↔ cs = [] := by
  cases cs with
  | nil => simp
  | cons c cs =>
    have hpos := c.utf8Size_pos
    rw [← String.length_utf8EncodeChar] at hpos
    have hne := length_pos_iff.mp hpos
    simp [hne]

theorem modifyHead_nil_append (pieces : List (List Char)) :
    pieces.modifyHead ([] ++ ·) = pieces := by
  cases pieces <;> rfl

/-- The lines of a text, byte for byte. -/
theorem linesOf_chars (taken cs : List Char) :
    linesOf (taken.flatMap String.utf8EncodeChar) (cs.flatMap String.utf8EncodeChar) =
      (((cs.splitOnP (· ∈ ['\r', '\n'])).modifyHead (taken ++ ·)).filter (· ≠ [])).map
        fun piece => piece.flatMap String.utf8EncodeChar := by
  have hshown : ∀ taken : List Char, shown (taken.flatMap String.utf8EncodeChar) =
      ([taken].filter (· ≠ [])).map fun piece => piece.flatMap String.utf8EncodeChar := by
    intro taken
    by_cases htaken : taken = []
    · simp [htaken]
    · have hne := mt flatMap_utf8EncodeChar_eq_nil.mp htaken
      simp [shown_of_ne_nil hne, htaken]
  induction cs generalizing taken with
  | nil =>
    rw [flatMap_nil, splitOnP_nil, modifyHead_cons, append_nil]
    exact hshown taken
  | cons c cs ih =>
    rw [flatMap_cons, splitOnP_cons_eq_if_modifyHead]
    by_cases hc : c ∈ ['\r', '\n']
    · obtain ⟨byte, hbyte, hencode⟩ := utf8EncodeChar_end hc
      have hrest := ih []
      rw [flatMap_nil, linesOf, modifyHead_nil_append] at hrest
      rw [hencode, singleton_append, linesOf, pieces_end hbyte, hrest, hshown,
        if_pos (by simpa using hc), modifyHead_cons, append_nil, ← map_append,
        ← filter_append, singleton_append]
    · have htext : linesOf (taken.flatMap String.utf8EncodeChar)
          (String.utf8EncodeChar c ++ cs.flatMap String.utf8EncodeChar) =
          linesOf (taken.flatMap String.utf8EncodeChar ++ String.utf8EncodeChar c)
            (cs.flatMap String.utf8EncodeChar) := pieces_append (utf8EncodeChar_text hc)
      have htaken : taken.flatMap String.utf8EncodeChar ++ String.utf8EncodeChar c =
          (taken ++ [c]).flatMap String.utf8EncodeChar := by simp
      have hhead : (fun piece => taken ++ piece) ∘ List.cons c =
          fun piece => taken ++ [c] ++ piece := by
        funext piece
        simp
      rw [htext, htaken, ih, if_neg (by simpa using hc), modifyHead_modifyHead, hhead]

theorem linesOf_asBytes (text : String) :
    linesOf [] (asBytes text) = ((splitAt ['\r', '\n'] text).filter (· ≠ "")).map asBytes := by
  have hchars := linesOf_chars [] text.toList
  rw [flatMap_nil] at hchars
  rw [asBytes, hchars, splitAt, filter_map, map_map]
  congr 1
  · funext piece
    simp [asBytes]
  · rw [modifyHead_nil_append]
    refine filter_congr fun piece _ => ?_
    simp

theorem mapM_fromUtf8_eq_some {lines : List Bytes} {texts : List String} :
    lines.mapM fromUtf8 = some texts ↔ lines = texts.map asBytes := by
  induction lines generalizing texts with
  | nil => cases texts <;> simp
  | cons line lines ih =>
    rw [mapM_cons]
    constructor
    · intro h
      obtain ⟨text, htext, hrest⟩ := Option.bind_eq_some_iff.mp h
      obtain ⟨rest, hlines, heq⟩ := Option.bind_eq_some_iff.mp hrest
      cases heq
      rw [fromUtf8_eq_some.mp htext, ih.mp hlines, map_cons]
    · intro h
      cases texts with
      | nil => cases h
      | cons text texts =>
        obtain ⟨htext, htexts⟩ := List.cons.inj h
        exact Option.bind_eq_some_iff.mpr ⟨text, fromUtf8_eq_some.mpr htext,
          Option.bind_eq_some_iff.mpr ⟨texts, ih.mpr htexts, rfl⟩⟩

/-- An event whose lines are texts is a text. -/
theorem exists_text (h : ∀ piece ∈ linesOf line event, ∃ text, piece = asBytes text) :
    ∃ text, line ++ event = asBytes text := by
  have hshown : ∀ {line : Bytes}, (∀ piece ∈ shown line, ∃ text, piece = asBytes text) →
      ∃ text, line = asBytes text := by
    intro line h
    by_cases hline : line = []
    · exact ⟨"", by rw [hline, asBytes_empty]⟩
    · rw [shown_of_ne_nil hline] at h
      exact h line (mem_singleton_self line)
  induction event generalizing line with
  | nil =>
    rw [append_nil]
    exact hshown h
  | cons byte event ih =>
    by_cases hbyte : IsLineEnd byte
    · rw [linesOf, pieces_end hbyte, forall_mem_append] at h
      obtain ⟨before, hbef⟩ := hshown h.1
      obtain ⟨after, hafter⟩ := ih h.2
      have hend : ∃ text, [byte] = asBytes text := by
        rcases hbyte with rfl | rfl
        · exact ⟨"\r", by decide⟩
        · exact ⟨"\n", by decide⟩
      obtain ⟨text, htext⟩ := hend
      exact ⟨before ++ text ++ after, by
        rw [asBytes_append, asBytes_append, ← hbef, ← hafter, ← htext, append_assoc]
        rfl⟩
    · rw [linesOf, pieces_text hbyte] at h
      obtain ⟨text, htext⟩ := ih h
      exact ⟨text, by rw [← htext, append_assoc, singleton_append]⟩

/-- **The lines decide** what an event decodes to. -/
theorem decodedEvent_eq (event : Bytes) :
    decodedEvent event = eventPayload (linesOf [] event) := by
  cases hdecode : fromUtf8 event with
  | some text =>
    obtain rfl := fromUtf8_eq_some.mp hdecode
    have hlines : (linesOf [] (asBytes text)).mapM fromUtf8 =
        some ((splitAt ['\r', '\n'] text).filter (· ≠ "")) :=
      mapM_fromUtf8_eq_some.mpr (linesOf_asBytes text)
    -- an empty line is no data line
    have hdata : ∀ lines : List String, ((lines.filter (· ≠ "")).filterMap fun line =>
          (stripPrefix? line "data:").map fun data => (stripPrefix? data " ").getD data) =
        lines.filterMap fun line =>
          (stripPrefix? line "data:").map fun data => (stripPrefix? data " ").getD data := by
      intro lines
      rw [filterMap_filter]
      refine filterMap_congr fun line _ => ?_
      by_cases hline : line = ""
      · rw [hline]
        rfl
      · rw [if_pos (by simpa using hline)]
    rw [decodedEvent, fromUtf8_asBytes, eventPayload, hlines]
    show some (dataOf text) = some _
    rw [hdata, dataOf]
  | none =>
    cases htexts : (linesOf [] event).mapM fromUtf8 with
    | none => rw [decodedEvent, hdecode, eventPayload, htexts]; rfl
    | some texts =>
      have hlines := mapM_fromUtf8_eq_some.mp htexts
      have htext : ∃ text, [] ++ event = asBytes text := by
        apply exists_text
        intro piece hpiece
        rw [hlines] at hpiece
        obtain ⟨text, _, rfl⟩ := mem_map.mp hpiece
        exact ⟨text, rfl⟩
      obtain ⟨text, htext⟩ := htext
      cases hdecode.symm.trans (fromUtf8_eq_some.mpr htext)

theorem decodedEvent_joinLines (event : Bytes) :
    decodedEvent (joinLines (linesOf [] event)) = decodedEvent event := by
  have hpieces : linesOf [] (joinLines (linesOf [] event)) = linesOf [] event := by
    apply pieces_intercalate
    intro line hline
    exact isPiece_of_mem_pieces (fun _ h => absurd h not_mem_nil) hline
  rw [decodedEvent_eq, decodedEvent_eq, hpieces]

/-- An event without lines has no payload. -/
theorem eventPayload_nil : eventPayload [] = some none := rfl

theorem payloads_filter (events : List (List Bytes)) :
    ((events.filter (· ≠ [])).map eventPayload).filter (· ≠ some none) =
      (events.map eventPayload).filter (· ≠ some none) := by
  induction events with
  | nil => rfl
  | cons event events ih =>
    by_cases hev : event = []
    · rw [hev, filter_cons_of_neg (by simp), ih, map_cons,
        filter_cons_of_neg (by simp [eventPayload_nil])]
    · rw [filter_cons_of_pos (by simpa using hev), map_cons, map_cons, filter_cons, filter_cons, ih]

/-- **The payloads** of a stream are those of the reference, however it arrives. -/
theorem decodedPayloads_framesOf (chunks : List Bytes) :
    decodedPayloads (framesOf (chunks.map .ok) []) = referencePayloads chunks.flatten := by
  have hframes := framesOf_blocks chunks []
  rw [nil_append, blocksFrom_eq_eventLines] at hframes
  have hdec : (framesOf (chunks.map .ok) []).map decodedEvent =
      ((framesOf (chunks.map .ok) []).map (linesOf [])).map eventPayload := by
    rw [map_map]
    exact map_congr_left fun event _ => decodedEvent_eq event
  calc decodedPayloads (framesOf (chunks.map .ok) [])
      = (((framesOf (chunks.map .ok) []).map (linesOf [])).map eventPayload).filter
          (· ≠ some none) := by rw [decodedPayloads, hdec]
    _ = ((linesOfEvents (framesOf (chunks.map .ok) [])).map eventPayload).filter
          (· ≠ some none) := (payloads_filter _).symm
    _ = (((eventLines chunks.flatten).filter (· ≠ [])).map eventPayload).filter
          (· ≠ some none) := by rw [hframes]
    _ = referencePayloads chunks.flatten := payloads_filter _

/-! ### The read loop -/

/-- What a stream leaves behind in the buffer, behind the events of `framesOf`. -/
def leftOf : List Arrival → Bytes → Bytes
  | [], pending => (eventsOf true pending.length pending).2
  | .error _ :: _, pending => pending
  | .ok chunk :: arrivals, pending =>
    let pending := pending ++ chunk
    if chunk.any fun byte => byte == carriageReturn || byte == lineFeed then
      leftOf arrivals (eventsOf false pending.length pending).2
    else leftOf arrivals pending

/-- The same events are sent, and the outcome is the same usage or a failure on both sides. -/
structure SameOutcome (response response' : Response GenerationUsage) : Prop where
  sent : response.sent = response'.sent
  outcome : response.result.toOption = response'.result.toOption

namespace SameOutcome

theorem refl (response : Response GenerationUsage) : SameOutcome response response := ⟨rfl, rfl⟩

theorem symm (h : SameOutcome response response') : SameOutcome response' response :=
  ⟨h.sent.symm, h.outcome.symm⟩

theorem trans (h : SameOutcome response response') (h' : SameOutcome response' response'') :
    SameOutcome response response'' :=
  ⟨h.sent.trans h'.sent, h.outcome.trans h'.outcome⟩

/-- Two failures that sent nothing. -/
theorem failures : SameOutcome ⟨[], .error e⟩ ⟨[], .error e'⟩ := ⟨rfl, rfl⟩

/-- Behind the same computation. -/
theorem bind {α : Type} {x : Response α} {f g : α → Response GenerationUsage}
    (h : ∀ a, SameOutcome (f a) (g a)) : SameOutcome (x >>= f) (x >>= g) := by
  rcases x with ⟨sent, _ | a⟩
  · exact refl _
  · exact ⟨congrArg (sent ++ ·) (h a).sent, (h a).outcome⟩

end SameOutcome

namespace SseReader

variable {σ : Type} {R : SseReader σ}

theorem nextEvent?_event_length
    (h : nextEvent? pending endOfStream = some (event, rest)) : event.length ≤ pending.length := by
  obtain ⟨found, _, heq⟩ := Option.map_eq_some_iff.mp h
  cases heq
  exact length_take_le' _ _

theorem nextEvent?_rest_length
    (h : nextEvent? pending endOfStream = some (event, rest)) : rest.length ≤ pending.length := by
  obtain ⟨found, _, heq⟩ := Option.map_eq_some_iff.mp h
  cases heq
  rw [length_drop]
  exact Nat.sub_le _ _

theorem eventsOf_rest_length (rounds : Nat) (pending : Bytes) :
    (eventsOf endOfStream rounds pending).2.length ≤ pending.length := by
  induction rounds generalizing pending with
  | zero => exact le_refl _
  | succ rounds ih =>
    rw [eventsOf]
    cases hnext : nextEvent? pending endOfStream with
    | none => exact le_refl _
    | some cut => exact (ih cut.2).trans (nextEvent?_rest_length hnext)

/-- What follows the loop over a buffer: the end, if it found a terminal event, or `k`. -/
def andThen (R : SseReader σ) (k : σ → Bytes → Response GenerationUsage)
    (out : σ × Bytes × EventAction) : Response GenerationUsage :=
  if out.2.2 = .done then pure (R.usage out.1) else k out.1 out.2.1

/-- The adapter at the end of a stream that leaves `left` behind. -/
def ending (R : SseReader σ) (left : Bytes) : SseReader σ :=
  { R with
    finish := fun s => do
      require (left = []) R.incompleteEvent
      R.finish s }

theorem ending_nil : R.ending [] = R := rfl

theorem finish_ending (h : left ≠ []) (s : σ) :
    (R.ending left).finish s = .error R.incompleteEvent := by
  show (require (left = []) R.incompleteEvent >>= fun _ => R.finish s) = _
  rw [require, if_neg h]
  rfl

/-- **The loop over a buffer** processes the events of the buffer. -/
theorem drainEvents_runEvents (hsize : pending.length ≤ R.maxEventBytes)
    (hk : ∀ s, k s (eventsOf endOfStream rounds pending).2 = (R.ending left).runEvents later s)
    (s : σ) :
    R.drainEvents endOfStream rounds pending s >>= R.andThen k =
      (R.ending left).runEvents ((eventsOf endOfStream rounds pending).1 ++ later) s := by
  induction rounds generalizing pending s with
  | zero => exact hk s
  | succ rounds ih =>
    rw [eventsOf] at hk ⊢
    rw [drainEvents]
    cases hnext : nextEvent? pending endOfStream with
    | none =>
      rw [hnext] at hk
      exact hk s
    | some cut =>
      obtain ⟨event, rest⟩ := cut
      rw [hnext] at hk
      have hev := (nextEvent?_event_length hnext).trans hsize
      have hrest := (nextEvent?_rest_length hnext).trans hsize
      simp only [require_true hev, cons_append, runEvents, Transcript.lift_ok_bind]
      rw [Transcript.bind_assoc]
      show (R.process event s >>= _) = R.process event s >>= _
      congr 1
      funext out
      obtain ⟨s', action⟩ := out
      cases action with
      | done => rfl
      | «continue» => exact ih hrest hk s'

/-- After the last chunk, without a terminal event. -/
def atEnd (R : SseReader σ) (s : σ) (pending : Bytes) : Response GenerationUsage := do
  R.ensurePendingSize pending true
  require (pending = []) R.incompleteEvent
  R.finish s

/-- After a chunk, without a terminal event. -/
def afterChunk (R : SseReader σ) (arrivals : List Arrival) (total : Nat) (s : σ)
    (pending : Bytes) : Response GenerationUsage := do
  R.ensurePendingSize pending false
  R.consume arrivals total pending s

theorem atEnd_eq (hsize : pending.length ≤ R.maxEventBytes) (s : σ) :
    R.atEnd s pending = (R.ending pending).runEvents [] s := by
  have hfits : R.ensurePendingSize pending true = .ok () := require_true (.inl hsize) _
  rw [atEnd, hfits, Transcript.lift_ok_bind, runEvents]
  by_cases hnil : pending = []
  · rw [hnil, ending_nil]
    rfl
  · rw [finish_ending hnil, require, if_neg hnil]
    rfl

/-- **The read loop** processes the events of the stream, and looks at what it leaves behind. -/
theorem consume_runEvents (hmax : R.maxStreamBytes ≤ u64Max)
    {total : Nat} (hevs : pending.length + chunks.flatten.length ≤ R.maxEventBytes)
    (htotal : total + chunks.flatten.length ≤ R.maxStreamBytes) (s : σ) :
    R.consume (chunks.map .ok) total pending s =
      (R.ending (leftOf (chunks.map .ok) pending)).runEvents
        (framesOf (chunks.map .ok) pending) s := by
  induction chunks generalizing total pending s with
  | nil =>
    have hleft : (eventsOf true pending.length pending).2.length ≤ R.maxEventBytes :=
      (eventsOf_rest_length pending.length pending).trans hevs
    have hend : R.drainEvents true pending.length pending s >>= R.andThen R.atEnd =
        (R.ending (eventsOf true pending.length pending).2).runEvents
          ((eventsOf true pending.length pending).1 ++ []) s :=
      drainEvents_runEvents hevs (fun s => atEnd_eq hleft s) s
    rw [append_nil] at hend
    exact hend
  | cons chunk chunks ih =>
    rw [flatten_cons, length_append] at hevs htotal
    have hadd : checkedAdd total chunk.length = some (total + chunk.length) :=
      checkedAdd_of_le (by omega)
    have hbd : total + chunk.length ≤ R.maxStreamBytes := by omega
    have hbuffer : (pending ++ chunk).length ≤ R.maxEventBytes := by
      rw [length_append]
      omega
    -- what is left of the buffer is in bounds, so the loop goes on
    have hrest : ∀ left : Bytes, left.length ≤ (pending ++ chunk).length → ∀ s,
        R.afterChunk (chunks.map .ok) (total + chunk.length) s left =
          (R.ending (leftOf (chunks.map .ok) left)).runEvents (framesOf (chunks.map .ok) left) s := by
      intro left hleft s
      rw [length_append] at hleft
      have hfits : R.ensurePendingSize left false = .ok () := require_true (.inl (by omega)) _
      rw [afterChunk, hfits]
      exact ih (by omega) (by omega) s
    rw [map_cons, consume, framesOf, leftOf]
    simp only [hadd, okOr, lift_ok_bind, require_true hbd]
    by_cases hline : (chunk.any fun byte => byte == carriageReturn || byte == lineFeed) = true
    · rw [if_pos hline, if_pos hline, if_pos hline]
      exact drainEvents_runEvents (k := R.afterChunk (chunks.map .ok) (total + chunk.length))
        hbuffer (hrest _ (eventsOf_rest_length _ _)) s
    · rw [if_neg hline, if_neg hline, if_neg hline]
      exact hrest (pending ++ chunk) (le_refl _) s

open SameOutcome

/-- An adapter that needs a terminal event fails without one, whatever is left behind. -/
theorem runEvents_ending (hfinish : ∀ s, ∃ e, R.finish s = .error e) (left : Bytes)
    (events : List Bytes) (s : σ) :
    SameOutcome ((R.ending left).runEvents events s) (R.runEvents events s) := by
  induction events generalizing s with
  | nil =>
    obtain ⟨e, he⟩ := hfinish s
    have hrun : R.runEvents [] s = ⟨[], .error e⟩ := by
      rw [runEvents, he]
      rfl
    by_cases hnil : left = []
    · rw [hnil, ending_nil]
      exact refl _
    · rw [hrun, runEvents, finish_ending hnil]
      exact .failures
  | cons event events ih =>
    apply SameOutcome.bind
    rintro ⟨s', action⟩
    cases action with
    | done => exact refl _
    | «continue» => exact ih s'

/-! ### Any cut of a stream -/

/-- What an adapter makes of an event depends on its payload, and nothing comes of an event
    without one. -/
structure ReadsEvents (R : SseReader σ) : Prop where
  same : ∀ event event' s, decodedEvent event = decodedEvent event' →
    R.process event s = R.process event' s
  silent : ∀ event s, decodedEvent event = some none → R.process event s = pure (s, .continue)

/-- What an adapter makes of an event depends on its payload, nothing comes of an event without
    one, and a stream that ends without a terminal event fails. -/
structure ReadsPayloads (R : SseReader σ) : Prop where
  same : ∀ event event' s, decodedEvent event = decodedEvent event' →
    R.process event s = R.process event' s
  silent : ∀ event s, decodedEvent event = some none → R.process event s = pure (s, .continue)
  finish : ∀ s, ∃ e, R.finish s = .error e

theorem ReadsPayloads.readsEvents (hR : R.ReadsPayloads) : R.ReadsEvents := ⟨hR.same, hR.silent⟩

section

variable (hR : R.ReadsEvents)
include hR

theorem ReadsEvents.ending (left : Bytes) : (R.ending left).ReadsEvents :=
  ⟨hR.same, hR.silent⟩

theorem ReadsEvents.runEvents_silent
    (h : decodedEvent event = some none) (events : List Bytes) (s : σ) :
    R.runEvents (event :: events) s = R.runEvents events s := by
  rw [runEvents, hR.silent event s h, pure_bind]
  rfl

/-- Only the lines of the events matter. -/
theorem ReadsEvents.runEvents_lines (events : List Bytes) (s : σ) :
    R.runEvents events s = R.runEvents ((linesOfEvents events).map joinLines) s := by
  induction events generalizing s with
  | nil => rfl
  | cons event events ih =>
    rw [linesOfEvents_cons]
    by_cases hlines : linesOf [] event = []
    · have hsil : decodedEvent event = some none := by rw [decodedEvent_eq, hlines]; rfl
      rw [hlines, shown_nil, nil_append, hR.runEvents_silent hsil, ih]
    · rw [shown_of_ne_nil hlines, singleton_append, map_cons, runEvents, runEvents,
        hR.same event _ s (decodedEvent_joinLines event).symm]
      simp only [ih]

/-- Events without lines do not matter. -/
theorem ReadsEvents.runEvents_filter (events : List (List Bytes)) (s : σ) :
    R.runEvents ((events.filter (· ≠ [])).map joinLines) s =
      R.runEvents (events.map joinLines) s := by
  induction events generalizing s with
  | nil => rfl
  | cons event events ih =>
    by_cases hev : event = []
    · have hsil : decodedEvent (joinLines []) = some none := by
        rfl
      rw [hev, filter_cons_of_neg (by simp), ih, map_cons, hR.runEvents_silent hsil]
    · rw [filter_cons_of_pos (by simpa using hev), map_cons, map_cons, runEvents, runEvents]
      simp only [ih]

/-- **The events of any cut** are processed as those of the reference framing. -/
theorem ReadsEvents.runEvents_framesOf (chunks : List Bytes) (s : σ) :
    R.runEvents (framesOf (chunks.map .ok) []) s =
      R.runEvents ((eventLines chunks.flatten).map joinLines) s := by
  rw [hR.runEvents_lines, framesOf_blocks, nil_append, blocksFrom_eq_eventLines,
    hR.runEvents_filter]

end

/-- What is made of a stream that arrives in `chunks`, beside what is made of the whole. -/
structure FramesAs (R : SseReader σ) (s : σ) (chunks : List Bytes) : Prop where
  /-- The outcome is that of the stream in one chunk, -/
  whole : SameOutcome (R.consume (chunks.map .ok) 0 [] s) (R.consume [.ok chunks.flatten] 0 [] s)
  /-- and that of the events of the reference framing, one after the other; -/
  reference : SameOutcome (R.consume (chunks.map .ok) 0 [] s)
    (R.runEvents ((eventLines chunks.flatten).map joinLines) s)
  /-- the loop processes the events that it cuts out, up to a terminal one, -/
  processed : SameOutcome (R.consume (chunks.map .ok) 0 [] s)
    (R.runEvents (framesOf (chunks.map .ok) []) s)
  /-- and their payloads are those of the reference framing. -/
  payloads : decodedPayloads (framesOf (chunks.map .ok) []) = referencePayloads chunks.flatten

/-- **Any cut** of a stream. -/
theorem ReadsPayloads.framesAs (hR : R.ReadsPayloads) (hmax : R.maxStreamBytes ≤ u64Max)
    (hlim : R.maxEventBytes ≤ R.maxStreamBytes)
    (hsize : chunks.flatten.length ≤ R.maxEventBytes) (s : σ) : R.FramesAs s chunks := by
  have hconsume : ∀ chunks : List Bytes, chunks.flatten.length ≤ R.maxEventBytes →
      SameOutcome (R.consume (chunks.map .ok) 0 [] s)
        (R.runEvents (framesOf (chunks.map .ok) []) s) := by
    intro chunks hsize
    have hevs : ([] : Bytes).length + chunks.flatten.length ≤ R.maxEventBytes := by
      simpa using hsize
    have htotal : 0 + chunks.flatten.length ≤ R.maxStreamBytes := by simpa using hsize.trans hlim
    rw [consume_runEvents hmax hevs htotal]
    exact runEvents_ending hR.finish _ _ s
  have hreference : ∀ chunks : List Bytes, R.runEvents (framesOf (chunks.map .ok) []) s =
        R.runEvents ((eventLines chunks.flatten).map joinLines) s :=
    fun chunks => hR.readsEvents.runEvents_framesOf chunks s
  have hwhole : [chunks.flatten].flatten = chunks.flatten := by simp
  refine ⟨?_, ?_, hconsume chunks hsize, decodedPayloads_framesOf chunks⟩
  · have hone := hconsume [chunks.flatten] (by rw [hwhole]; exact hsize)
    rw [hreference, hwhole, ← hreference] at hone
    exact (hconsume chunks hsize).trans hone.symm
  · rw [← hreference]
    exact hconsume chunks hsize

end SseReader

/-! ### The two adapters -/

theorem eventData_eq (uuid malformed : String) (event : Bytes) :
    eventData uuid malformed event =
      (okOr (decodedEvent event) (streamingError uuid malformed)).map fun data =>
        data.bind fun data => if trim data = "" then none else some (trim data) := by
  rw [eventData, decodedEvent]
  cases fromUtf8 event <;> rfl

variable (X : ProviderExternals)

theorem payloadOf_eq (event : Bytes) :
    payloadOf X event = (okOr (decodedEvent event)
        (streamingError X.uuid "provider returned malformed streaming data")).map fun data =>
          data.bind fun data => if trim data = "" then none else some data := by
  rw [payloadOf, decodedEvent]
  cases fromUtf8 event <;> rfl

theorem openAiCompatible_readsPayloads
    (decodeChunk : Json → Option OpenAiCompatible.StreamChunk) (mode : OpenAiCompatible.Mode) :
    (OpenAiCompatible.reader X decodeChunk mode).ReadsPayloads where
  same := by
    intro event event' s h
    show OpenAiCompatible.processEvent X decodeChunk mode event s =
      OpenAiCompatible.processEvent X decodeChunk mode event' s
    rw [OpenAiCompatible.processEvent, OpenAiCompatible.processEvent, eventData_eq, eventData_eq, h]
  silent := by
    intro event s h
    show OpenAiCompatible.processEvent X decodeChunk mode event s = _
    rw [OpenAiCompatible.processEvent, eventData_eq, h]
    rfl
  finish := fun s => ⟨_, rfl⟩

theorem anthropic_readsPayloads
    (decodeEvent : String → Option Anthropic.StreamEvent) (preserve : Bool) :
    (reader X decodeEvent preserve).ReadsPayloads where
  same := by
    intro event event' s h
    show Anthropic.processEvent X decodeEvent preserve event s =
      Anthropic.processEvent X decodeEvent preserve event' s
    rw [Anthropic.processEvent, Anthropic.processEvent, payloadOf_eq, payloadOf_eq, h]
  silent := by
    intro event s h
    show Anthropic.processEvent X decodeEvent preserve event s = _
    rw [Anthropic.processEvent, payloadOf_eq, h]
    rfl
  finish := fun s => ⟨_, rfl⟩

/-- `data:[DONE]` with both its ends cut in two. -/
def cutDone : List Bytes :=
  [[100, 97, 116, 97, 58, 91, 68, 79, 78, 69, 93, 13], [10, 13], [10]]

theorem openAiResponses_readsPayloads
    (decodeCompleted : Json → Option OpenAiResponses.CompletedResponse) :
    (OpenAiResponses.reader X decodeCompleted).ReadsPayloads where
  same := by
    intro event event' s h
    show OpenAiResponses.processEvent X decodeCompleted event s =
      OpenAiResponses.processEvent X decodeCompleted event' s
    unfold OpenAiResponses.processEvent OpenAiResponses.decodeEvent
    rw [eventData_eq, eventData_eq, h]
  silent := by
    intro event s h
    show OpenAiResponses.processEvent X decodeCompleted event s = _
    unfold OpenAiResponses.processEvent OpenAiResponses.decodeEvent
    rw [eventData_eq, h]
    rfl
  finish := fun s => ⟨_, rfl⟩

end LorePia.Providers
