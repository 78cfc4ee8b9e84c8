import LorePia.Providers.LineSizes

namespace LorePia.Providers

open Lib List Function Nat Ollama OpenAiCompatible SseReader

/-!
# Providers — the limits of a stream under any cut

Both read loops have a limit of 1 MiB for one record, and both judge a record by what arrived so
far.  Where the bytes of a line end come in different chunks, that is not what the stream says:

* the loop over events looks at a chunk only if it has an end of line, so a separator that was not
  decided stays in the buffer, and the text behind it is counted to the event before it;
* a line feed behind two carriage returns at the edge of a chunk is counted to the next event;
* the loop over lines counts a carriage return at the edge of a chunk to its line.

`limitsExact_iff` says when none of this shows, and `limitsExact_missed` shows each of the three.
-/

section Limits

variable (X : ProviderExternals) (decodeChunk : Json → Option OpenAiCompatible.StreamChunk)
  (mode : OpenAiCompatible.Mode) (decodeLine : Json → Option Ollama.ChatChunk)
  (chunks : List Bytes)

/-- The loop over events fails with the error of its size exactly where an event is too long. -/
def EventLimitExact : Prop :=
  (OpenAiCompatible.consumeStream X decodeChunk mode (chunks.map .ok)).result =
      .error (streamingError X.uuid OpenAiCompatible.eventWords) ↔
    (OpenAiCompatible.reader X decodeChunk mode).OversizedStream chunks.flatten .default

/-- The loop over lines fails with the error of its size exactly where a line is too long. -/
def LineLimitExact : Prop :=
  (Ollama.consumeChatStream X decodeLine (chunks.map .ok)).result =
      .error (streamingError X.uuid Ollama.lineWords) ↔
    Ollama.Oversized X decodeLine [] chunks.flatten .default

/-- **The limits are exact** for both loops, under this cut of the stream. -/
def LimitsExact : Prop :=
  EventLimitExact X decodeChunk mode chunks ∧ LineLimitExact X decodeLine chunks

end Limits

variable {X : ProviderExternals} {decodeChunk : Json → Option OpenAiCompatible.StreamChunk}
  {mode : OpenAiCompatible.Mode} {decodeLine : Json → Option Ollama.ChatChunk}
  {chunks : List Bytes}

/-- Two things fail together, or one where the other does or a defect shows. -/
theorem iff_or_iff {fails oversized defect : Prop} (h : fails ↔ oversized ∨ defect) :
    (fails ↔ oversized) ↔ (defect → oversized) := by
  rw [h]
  constructor
  · intro hsame hdefect
    exact hsame.mp (.inr hdefect)
  · intro himplies
    exact ⟨fun hor => hor.elim id himplies, .inl⟩

theorem maxStreamBytes_le : 64 * 1024 * 1024 ≤ u64Max := by decide

theorem eventLimitExact_iff (hsize : chunks.flatten.length ≤ 64 * 1024 * 1024)
    (hapart : (reader X decodeChunk mode).FeedsApart chunks [] .default) :
    EventLimitExact X decodeChunk mode chunks ↔
      ((reader X decodeChunk mode).CountsTogether chunks [] .default →
        (reader X decodeChunk mode).OversizedStream chunks.flatten .default) := by
  have hR := (openAiCompatible_readsPayloads X decodeChunk mode).readsEvents
  have hfits : (reader X decodeChunk mode).ensurePendingSize [] false = .ok () :=
    ensurePendingSize_of_fits (.inl (zero_le _))
  have htotal : 0 + chunks.flatten.length ≤
      (reader X decodeChunk mode).maxStreamBytes := by
    rw [zero_add]
    exact hsize
  exact iff_or_iff (consume_tooLarge_iff hR sizeErrors maxStreamBytes_le htotal hfits hapart)

theorem lineLimitExact_iff (hsize : chunks.flatten.length ≤ 64 * 1024 * 1024) :
    LineLimitExact X decodeLine chunks ↔ (Ollama.CutsLine X decodeLine chunks [] .default →
        Ollama.Oversized X decodeLine [] chunks.flatten .default) := by
  have htotal : 0 + chunks.flatten.length ≤ Ollama.maxStreamBytes := by
    rw [zero_add]
    exact hsize
  exact iff_or_iff (consumeChunks_tooLarge_iff htotal (zero_le _))

/-- **The limits are exact** unless two records are counted together or a line that fits is cut
    between its line ends, in a stream that stays within the limit. -/
theorem limitsExact_iff (X : ProviderExternals)
    (decodeChunk : Json → Option OpenAiCompatible.StreamChunk) (mode : OpenAiCompatible.Mode)
    (decodeLine : Json → Option Ollama.ChatChunk) (chunks : List Bytes)
    (hsize : chunks.flatten.length ≤ 64 * 1024 * 1024)
    (hapart : (OpenAiCompatible.reader X decodeChunk mode).FeedsApart chunks [] .default) :
    LimitsExact X decodeChunk mode decodeLine chunks ↔
      ((OpenAiCompatible.reader X decodeChunk mode).CountsTogether chunks [] .default →
          (OpenAiCompatible.reader X decodeChunk mode).OversizedStream chunks.flatten .default) ∧
        (Ollama.CutsLine X decodeLine chunks [] .default →
          Ollama.Oversized X decodeLine [] chunks.flatten .default) :=
  and_congr (eventLimitExact_iff hsize hapart) (lineLimitExact_iff hsize)

theorem feedsApart_cutDone :
    (reader sampleProvider (fun _ => none) ⟨.standard, false⟩).FeedsApart cutDone []
      .default := by
  refine fun s' _ => ⟨fun hleft => absurd hleft (by decide), ?_⟩
  refine fun s'' _ => ⟨fun hleft => absurd hleft (by decide), ?_⟩
  exact fun s''' _ => ⟨fun _ hlast => absurd hlast (by decide), trivial⟩

theorem limitsExact_iff_cutDone :
    cutDone.flatten.length ≤ 64 * 1024 * 1024 ∧
    (LimitsExact sampleProvider (fun _ => none) ⟨.standard, false⟩ (fun _ => none) cutDone ↔
      ((OpenAiCompatible.reader sampleProvider (fun _ => none)
            ⟨.standard, false⟩).CountsTogether cutDone [] .default →
          (OpenAiCompatible.reader sampleProvider (fun _ => none)
            ⟨.standard, false⟩).OversizedStream cutDone.flatten .default) ∧
        (Ollama.CutsLine sampleProvider (fun _ => none) cutDone [] .default →
          Ollama.Oversized sampleProvider (fun _ => none) [] cutDone.flatten .default)) :=
  ⟨by decide, limitsExact_iff sampleProvider (fun _ => none) ⟨.standard, false⟩ (fun _ => none)
    cutDone (by decide) feedsApart_cutDone⟩

/-! ### What is refused -/

/-- A record that fits, a separator that may still grow, and a byte of the next record. -/
def waitingRecord (text : Bytes) : List Bytes := [text ++ [10, 13], [97]]

/-- Two carriage returns, and their line feed in front of a record that fits. -/
def feedBehind (text : Bytes) : List Bytes := [[13, 13], 10 :: (text ++ [10, 10])]

/-- A line that fits, with its line ends in two chunks. -/
def cutLine (text : Bytes) : List Bytes := [text ++ [13], [10]]

section Refused

variable {σ : Type} {R : SseReader σ} {text : Bytes} {s : σ}

section

variable (htext : ∀ byte ∈ text, ¬ IsLineEnd byte)
include htext

theorem nextEvent?_texts :
    nextEvent? (text ++ rest) endOfStream =
      (nextEvent? rest endOfStream).map fun cut => (text ++ cut.1, cut.2) := by
  have hscan : findEventBoundary (text ++ rest) endOfStream =
      (findEventBoundary rest endOfStream).map fun found => (text.length + found.1, found.2) := by
    induction text with
    | nil => simp
    | cons byte text ih =>
      obtain ⟨hbyte, hmore⟩ := forall_mem_cons.mp htext
      rw [cons_append, findEventBoundary_text hbyte, ih hmore, Option.map_map]
      congr 1
      funext found
      simp only [comp_apply, length_cons, Prod.mk.injEq, and_true]
      omega
  rw [nextEvent?, nextEvent?, hscan, Option.map_map, Option.map_map]
  congr 1
  funext found
  simp only [comp_apply, add_assoc, take_length_add_append, drop_length_add_append]

theorem eventsOf_waiting :
    eventsOf false (text ++ [10, 13]).length (text ++ [10, 13]) = ([], text ++ [10, 13]) := by
  apply eventsOf_of_none
  rw [nextEvent?_texts htext]
  rfl

/-- The record and the byte behind it are counted together. -/
theorem countsTogether_waitingRecord
    (hlen : text.length = R.maxEventBytes) : R.CountsTogether (waitingRecord text) [] s := by
  have hline : ((text ++ [10, 13]).any fun byte =>
      byte == carriageReturn || byte == lineFeed) = true := by
    rw [any_append]
    exact Bool.or_eq_true_iff.mpr (.inr (by decide))
  have hwaits : findEventBoundary (text ++ [10, 13]) true ≠ none := by
    intro hnone
    have hnext : nextEvent? (text ++ [10, 13]) true = some (text ++ [], []) := by
      rw [nextEvent?_texts htext]
      rfl
    rw [nextEvent?, hnone] at hnext
    cases hnext
  rw [waitingRecord, SseReader.CountsTogether, if_pos hline, nil_append, eventsOf_waiting htext]
  refine ⟨s, rfl, ?_⟩
  refine .inl ⟨cons_ne_nil _ _, hwaits, ?_⟩
  rw [length_append, length_append, hlen]
  exact lt_succ_of_le (le_add_right _ _)

theorem feedsApart_waitingRecord :
    R.FeedsApart (waitingRecord text) [] s := by
  have hline : ((text ++ [10, 13]).any fun byte =>
      byte == carriageReturn || byte == lineFeed) = true := by
    rw [any_append]
    exact Bool.or_eq_true_iff.mpr (.inr (by decide))
  rw [waitingRecord, SseReader.FeedsApart, if_pos hline, nil_append, eventsOf_waiting htext]
  refine fun s' _ => ⟨fun hleft => absurd hleft (by simp), ?_⟩
  trivial

/-- Neither record is too long. -/
theorem not_oversized_waitingRecord
    (hlen : text.length = R.maxEventBytes) (hpos : 0 < R.maxEventBytes) :
    ¬ R.OversizedStream (waitingRecord text).flatten s := by
  have hstrm : (waitingRecord text).flatten = text ++ [10, 13, 97] := by simp [waitingRecord]
  have hnext : nextEvent? (text ++ [10, 13, 97]) true = some (text ++ [], [97]) := by
    rw [nextEvent?_texts htext]
    rfl
  rw [hstrm, oversizedStream_of_some hnext, append_nil, hlen]
  rintro (hlong | ⟨s', _, hrest⟩)
  · exact absurd hlong (lt_irrefl _)
  · rw [oversizedStream_of_none rfl] at hrest
    exact absurd hrest (not_lt.mpr hpos)

end

/-- A line feed in front of text belongs to its event. -/
theorem nextEvent?_lineFeed (hbyte : ¬ IsLineEnd byte) :
    nextEvent? (10 :: byte :: rest) endOfStream =
      (nextEvent? (byte :: rest) endOfStream).map fun cut => (10 :: cut.1, cut.2) := by
  rw [nextEvent?, nextEvent?, findEventBoundary_of_none (separatorAt_before_text hbyte),
    Option.map_map, Option.map_map]
  congr 1
  funext found
  simp only [Function.comp_apply, Nat.add_right_comm _ 1, take_succ_cons, drop_succ_cons]

/-- The line feed makes the record too long. -/
theorem consume_feedBehind (hR : R.ReadsEvents) (herrors : R.SizeErrors)
    (hmax : R.maxStreamBytes ≤ u64Max) (htext : ∀ byte ∈ text, ¬ IsLineEnd byte)
    (hlen : text.length = R.maxEventBytes) (hpos : 0 < R.maxEventBytes)
    (htotal : text.length + 5 ≤ R.maxStreamBytes) :
    (R.consume ((feedBehind text).map .ok) 0 [] s).result = .error R.eventTooLarge := by
  have hline : ((10 :: (text ++ [10, 10])).any fun byte =>
      byte == carriageReturn || byte == lineFeed) = true := by
    rfl
  have hgrown : (10 :: (text ++ [10, 10])).length = text.length + 3 := by simp
  have hnext : nextEvent? (10 :: (text ++ [10, 10])) false = some (10 :: text, []) := by
    have hbehind : nextEvent? (text ++ [10, 10]) false = some (text ++ [], []) := by
      rw [nextEvent?_texts htext]
      rfl
    cases text with
    | nil =>
      rw [← hlen] at hpos
      exact absurd hpos (lt_irrefl 0)
    | cons byte text =>
      rw [cons_append] at hbehind ⊢
      rw [nextEvent?_lineFeed (htext byte mem_cons_self), hbehind, append_nil]
      rfl
  -- the two returns are a separator of their own, and nothing is left of the chunk
  have hfirst : (0 : Nat) + ([13, 13] : Bytes).length ≤ R.maxStreamBytes := by
    show 2 ≤ R.maxStreamBytes
    omega
  rw [feedBehind, map_cons, consume_line_tooLarge herrors hmax hfirst (by decide)]
  refine .inr ⟨s, ⟨zero_le _, s, (continues_nil hR).mpr rfl, rfl⟩, ?_⟩
  have hsnd : 2 + (10 :: (text ++ [10, 10])).length ≤ R.maxStreamBytes := by omega
  have hfits : R.ensurePendingSize [] false = .ok () := ensurePendingSize_of_fits (.inl (zero_le _))
  show (R.ensurePendingSize [] false >>= fun _ =>
    R.consume (.ok (10 :: (text ++ [10, 10])) :: []) 2 [] s : Response GenerationUsage).result = _
  rw [hfits, Transcript.lift_ok_bind, consume_line_tooLarge herrors hmax hsnd hline]
  left
  rw [nil_append, hgrown, eventsOf, hnext]
  left
  rw [length_cons, hlen]
  exact lt_succ_self _

theorem not_oversized_feedBehind (htext : ∀ byte ∈ text, ¬ IsLineEnd byte)
    (hlen : text.length = R.maxEventBytes) :
    ¬ R.OversizedStream (feedBehind text).flatten s := by
  have hstrm : (feedBehind text).flatten = 13 :: 13 :: 10 :: (text ++ [10, 10]) := by
    simp [feedBehind]
  have hreturns : nextEvent? (13 :: 13 :: 10 :: (text ++ [10, 10])) true =
      some ([], text ++ [10, 10]) := rfl
  have hnext : nextEvent? (text ++ [10, 10]) true = some (text ++ [], []) := by
    rw [nextEvent?_texts htext]
    rfl
  rw [hstrm, oversizedStream_of_some hreturns]
  rintro (hlong | ⟨s', _, hrest⟩)
  · exact absurd hlong (not_lt_zero _)
  · rw [oversizedStream_of_some hnext, append_nil, hlen] at hrest
    rcases hrest with hlong | ⟨s'', _, hend⟩
    · exact absurd hlong (lt_irrefl _)
    · rw [oversizedStream_of_none rfl] at hend
      exact absurd hend (not_lt_zero _)

variable {s : Ollama.ChatStreamState}

theorem cutsLine_cutLine (htext : lineFeed ∉ text) (hlen : text.length = 1024 * 1024) :
    Ollama.CutsLine X decodeLine (cutLine text) [] s := by
  have hsegment : lineFeed ∉ text ++ [13] := by
    rw [mem_append, not_or]
    exact ⟨htext, by decide⟩
  have hreads : Ollama.Reads X decodeLine [] ((text ++ [13]) ++ []) s (text ++ [13]) s := by
    rw [reads_text hsegment]
    exact ⟨rfl, rfl⟩
  rw [append_nil] at hreads
  refine ⟨text ++ [13], s, hreads, .inl ⟨?_, getLast?_concat, rfl⟩⟩
  rw [length_append, hlen]
  rfl

theorem not_oversized_cutLine (htext : lineFeed ∉ text) (hlen : text.length = 1024 * 1024) :
    ¬ Ollama.Oversized X decodeLine [] (cutLine text).flatten s := by
  have hsegment : lineFeed ∉ text ++ [13] := by
    rw [mem_append, not_or]
    exact ⟨htext, by decide⟩
  have hstrm : (cutLine text).flatten = (text ++ [13]) ++ [10] := by simp [cutLine]
  have hwithout : withoutCarriageReturn (text ++ [13]) = text := by
    have hlast : (text ++ [13]).getLast? = some carriageReturn := getLast?_concat
    rw [withoutCarriageReturn, if_pos hlast, dropLast_concat]
  have hfeed : (10 : UInt8) = lineFeed := rfl
  rw [hstrm, oversized_text hsegment, nil_append, Ollama.Oversized, if_pos hfeed, hwithout, hlen]
  rintro (hlong | ⟨s', _, hrest⟩)
  · exact absurd hlong (lt_irrefl _)
  · exact absurd hrest (not_lt_zero _)

end Refused

/-- **Each of the three is refused somewhere**: a record of 1 MiB whose separator waits for its last
    byte, one behind a line feed that was left behind, and a line of 1 MiB cut between its line
    ends. -/
theorem limitsExact_missed :
    ((waitingRecord (List.replicate (1024 * 1024) 97)).flatten.length ≤ 64 * 1024 * 1024 ∧
      ¬ EventLimitExact sampleProvider (fun _ => none) ⟨.standard, false⟩
        (waitingRecord (List.replicate (1024 * 1024) 97))) ∧
    ((feedBehind (List.replicate (1024 * 1024) 97)).flatten.length ≤ 64 * 1024 * 1024 ∧
      ¬ EventLimitExact sampleProvider (fun _ => none) ⟨.standard, false⟩
        (feedBehind (List.replicate (1024 * 1024) 97))) ∧
    ((cutLine (List.replicate (1024 * 1024) 97)).flatten.length ≤ 64 * 1024 * 1024 ∧
      ¬ LineLimitExact sampleProvider (fun _ => none)
        (cutLine (List.replicate (1024 * 1024) 97))) := by
  obtain ⟨text, hdef⟩ : ∃ text : Bytes, text = List.replicate (1024 * 1024) 97 := ⟨_, rfl⟩
  have hlen : text.length = 1024 * 1024 := by rw [hdef, length_replicate]
  have htext : ∀ byte ∈ text, ¬ IsLineEnd byte := by
    intro byte hmem
    rw [hdef] at hmem
    rw [eq_of_mem_replicate hmem]
    rintro (hreturn | hfeed)
    · exact absurd hreturn (by decide)
    · exact absurd hfeed (by decide)
  have hfeed : lineFeed ∉ text := fun hmem => htext lineFeed hmem isLineEnd_lineFeed
  rw [← hdef]
  have hwaiting : (waitingRecord text).flatten.length = 1024 * 1024 + 3 := by
    simp [waitingRecord, hlen]
  have hbehind : (feedBehind text).flatten.length = 1024 * 1024 + 5 := by simp [feedBehind, hlen]
  have hcut : (cutLine text).flatten.length = 1024 * 1024 + 2 := by simp [cutLine, hlen]
  have hR := (openAiCompatible_readsPayloads sampleProvider (fun _ => none)
    ⟨.standard, false⟩).readsEvents
  refine ⟨⟨by omega, ?_⟩, ⟨by omega, ?_⟩, by omega, ?_⟩
  · rw [eventLimitExact_iff (by omega) (feedsApart_waitingRecord htext)]
    intro h
    exact not_oversized_waitingRecord htext hlen (by decide)
      (h (countsTogether_waitingRecord htext hlen))
  · intro h
    refine not_oversized_feedBehind htext hlen (h.mp ?_)
    exact consume_feedBehind hR sizeErrors maxStreamBytes_le htext hlen
      (by decide) (by rw [hlen]; decide)
  · rw [lineLimitExact_iff (by omega)]
    intro h
    exact not_oversized_cutLine hfeed hlen (h (cutsLine_cutLine hfeed hlen))

end LorePia.Providers
