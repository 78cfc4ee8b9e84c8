import LorePia.Providers.SizeErrors

namespace LorePia.Providers.Ollama

open Lib Providers List Nat Transcript

/-!
# Providers — the size of a line

The lines of a response may be cut anywhere.  A segment of a chunk that ends its line is measured
without the line end; one that does not is measured with all its bytes, because the loop cannot
know what follows.  So a line that fits exactly is refused if its carriage return arrives in one
chunk and its line feed in a later one (`CutsLine`).

* `oversized_append` — what a chunk says about the lines of the stream;
* `consumeChunks_tooLarge_iff` — when the loop fails with the error of its size.
-/

/-! ### Segments -/

section Segments

variable {text pending line stream : Bytes}

theorem splitInclusive_text (htext : lineFeed ∉ text) (hne : text ≠ []) :
    splitInclusive text = [text] := by
  induction text with
  | nil => exact absurd rfl hne
  | cons byte text ih =>
    obtain ⟨hbyte, hrest⟩ := not_or.mp (mt mem_cons.mpr htext)
    rw [splitInclusive, if_neg fun heq => hbyte heq.symm]
    cases text with
    | nil => rfl
    | cons next text => rw [ih hrest (cons_ne_nil next text)]

theorem splitInclusive_line (htext : lineFeed ∉ text) :
    splitInclusive (text ++ lineFeed :: rest) = (text ++ [lineFeed]) :: splitInclusive rest := by
  induction text with
  | nil => rw [nil_append, splitInclusive, if_pos rfl, nil_append]
  | cons byte text ih =>
    obtain ⟨hbyte, hrest⟩ := not_or.mp (mt mem_cons.mpr htext)
    rw [cons_append, splitInclusive, if_neg fun heq => hbyte heq.symm, ih hrest]
    rfl

theorem length_withoutCarriageReturn (line : Bytes) :
    (withoutCarriageReturn line).length =
      line.length - if line.getLast? = some carriageReturn then 1 else 0 := by
  rw [withoutCarriageReturn]
  by_cases hreturn : line.getLast? = some carriageReturn
  · rw [if_pos hreturn, if_pos hreturn, length_dropLast]
  · rw [if_neg hreturn, if_neg hreturn, Nat.sub_zero]

variable (X : ProviderExternals)

/-- A segment without a line end is measured with all its bytes. -/
theorem takeSegment_text (htext : lineFeed ∉ text) :
    takeSegment X text pending = do
      ensureJsonlLineSize X (pending ++ text).length
      return (none, pending ++ text) := by
  have hopen : ¬ text.getLast? = some lineFeed := fun hlast => htext (mem_of_getLast? hlast)
  simp only [takeSegment, hopen, false_and, if_false, Nat.sub_zero, length_append]

/-- A segment that ends its line is measured as the line. -/
theorem takeSegment_line :
    takeSegment X (text ++ [lineFeed]) pending = do
      ensureJsonlLineSize X (withoutCarriageReturn (pending ++ text)).length
      return (some (withoutCarriageReturn (pending ++ text)), []) := by
  have hlast : (text ++ [lineFeed]).getLast? = some lineFeed := getLast?_concat
  have hboth : text.getLast?.or pending.getLast? = (pending ++ text).getLast? :=
    getLast?_append.symm
  simp only [takeSegment, hlast, if_true, dropLast_concat, true_and, hboth,
    length_withoutCarriageReturn, length_append]

end Segments

/-! ### The lines of a stream -/

section Lines

variable (X : ProviderExternals) (decodeChunk : Json → Option ChatChunk)

/-- The adapter goes on behind the line. -/
def Continues (line : Bytes) (s s' : ChatStreamState) : Prop :=
  (processChatLine X decodeChunk line s).result = .ok (s', .continue)

/-- **Some line is too long** without its line end, of those up to the terminal one; what is
    behind the last line feed counts as one.  `line` is what was read of the current line. -/
def Oversized : Bytes → Bytes → ChatStreamState → Prop
  | line, [], _ => maxJsonlLineBytes < line.length
  | line, byte :: stream, s =>
    if byte = lineFeed then
      maxJsonlLineBytes < (withoutCarriageReturn line).length ∨
        ∃ s', Continues X decodeChunk (withoutCarriageReturn line) s s' ∧ Oversized [] stream s'
    else Oversized (line ++ [byte]) stream s

/-- A line that ends among these bytes is too long. -/
def HasOversized : Bytes → Bytes → ChatStreamState → Prop
  | _, [], _ => False
  | line, byte :: stream, s =>
    if byte = lineFeed then
      maxJsonlLineBytes < (withoutCarriageReturn line).length ∨
        ∃ s', Continues X decodeChunk (withoutCarriageReturn line) s s' ∧ HasOversized [] stream s'
    else HasOversized (line ++ [byte]) stream s

/-- The adapter goes on behind all lines that end among these bytes, none of which is too long,
    and has read `line'` of the next one. -/
def Reads : Bytes → Bytes → ChatStreamState → Bytes → ChatStreamState → Prop
  | line, [], s, line', s' => line = line' ∧ s = s'
  | line, byte :: stream, s, line', s' =>
    if byte = lineFeed then
      (withoutCarriageReturn line).length ≤ maxJsonlLineBytes ∧
        ∃ s₁, Continues X decodeChunk (withoutCarriageReturn line) s s₁ ∧
          Reads [] stream s₁ line' s'
    else Reads (line ++ [byte]) stream s line' s'

/-- **A line is cut between its line ends**: it fits exactly, its carriage return ends a chunk, and
    its line feed begins what follows. -/
def CutsLine : List Bytes → Bytes → ChatStreamState → Prop
  | [], _, _ => False
  | chunk :: chunks, line, s =>
    ∃ line' s', Reads X decodeChunk line chunk s line' s' ∧
      (line'.length = maxJsonlLineBytes + 1 ∧ line'.getLast? = some carriageReturn ∧
          chunks.flatten.head? = some lineFeed ∨
        CutsLine chunks line' s')

variable {X decodeChunk} {text pending line stream : Bytes} {Q : Bytes → ChatStreamState → Prop}

/-- A line end more in front of a run. -/
theorem hasOversized_or_reads_lineFeed :
    (HasOversized X decodeChunk line (lineFeed :: stream) s ∨
        ∃ line' s', Reads X decodeChunk line (lineFeed :: stream) s line' s' ∧ Q line' s') ↔
      maxJsonlLineBytes < (withoutCarriageReturn line).length ∨
        ∃ s₁, Continues X decodeChunk (withoutCarriageReturn line) s s₁ ∧
          (HasOversized X decodeChunk [] stream s₁ ∨
            ∃ line' s', Reads X decodeChunk [] stream s₁ line' s' ∧ Q line' s') := by
  simp only [HasOversized, Reads, if_pos]
  by_cases hlong : maxJsonlLineBytes < (withoutCarriageReturn line).length
  · simp only [hlong, true_or]
  · simp only [hlong, false_or]
    constructor
    · rintro (⟨s₁, hgoes, hhas⟩ | ⟨line', s', ⟨_, s₁, hgoes, hreads⟩, hQ⟩)
      · exact ⟨s₁, hgoes, .inl hhas⟩
      · exact ⟨s₁, hgoes, .inr ⟨line', s', hreads, hQ⟩⟩
    · rintro ⟨s₁, hgoes, hhas | ⟨line', s', hreads, hQ⟩⟩
      · exact .inl ⟨s₁, hgoes, hhas⟩
      · exact .inr ⟨line', s', ⟨not_lt.mp hlong, s₁, hgoes, hreads⟩, hQ⟩

theorem hasOversized_or_reads_nil :
    (HasOversized X decodeChunk line [] s ∨
      ∃ line' s', Reads X decodeChunk line [] s line' s' ∧ Q line' s') ↔ Q line s := by
  simp [HasOversized, Reads]

theorem hasOversized_text (htext : lineFeed ∉ text) :
    HasOversized X decodeChunk line (text ++ stream) s ↔
      HasOversized X decodeChunk (line ++ text) stream s := by
  induction text generalizing line with
  | nil => rw [nil_append, append_nil]
  | cons byte text ih =>
    obtain ⟨hbyte, hrest⟩ := not_or.mp (mt mem_cons.mpr htext)
    rw [cons_append, HasOversized, if_neg fun heq => hbyte heq.symm, ih hrest,
      append_assoc, singleton_append]

theorem reads_text (htext : lineFeed ∉ text) :
    Reads X decodeChunk line (text ++ stream) s line' s' ↔
      Reads X decodeChunk (line ++ text) stream s line' s' := by
  induction text generalizing line with
  | nil => rw [nil_append, append_nil]
  | cons byte text ih =>
    obtain ⟨hbyte, hrest⟩ := not_or.mp (mt mem_cons.mpr htext)
    rw [cons_append, Reads, if_neg fun heq => hbyte heq.symm, ih hrest,
      append_assoc, singleton_append]

theorem oversized_text (htext : lineFeed ∉ text) :
    Oversized X decodeChunk line (text ++ stream) s ↔
      Oversized X decodeChunk (line ++ text) stream s := by
  induction text generalizing line with
  | nil => rw [nil_append, append_nil]
  | cons byte text ih =>
    obtain ⟨hbyte, hrest⟩ := not_or.mp (mt mem_cons.mpr htext)
    rw [cons_append, Oversized, if_neg fun heq => hbyte heq.symm, ih hrest,
      append_assoc, singleton_append]

/-- **A chunk in front of a stream**: a line that ends in it is too long, or one of the rest. -/
theorem oversized_append :
    Oversized X decodeChunk line (chunk ++ future) s ↔ HasOversized X decodeChunk line chunk s ∨
        ∃ line' s', Reads X decodeChunk line chunk s line' s' ∧
          Oversized X decodeChunk line' future s' := by
  induction chunk generalizing line s with
  | nil =>
    exact (hasOversized_or_reads_nil
      (Q := fun line' s' => Oversized X decodeChunk line' future s')).symm
  | cons byte chunk ih =>
    rw [cons_append, Oversized]
    by_cases hfeed : byte = lineFeed
    · subst hfeed
      rw [if_pos rfl]
      refine Iff.trans ?_ (hasOversized_or_reads_lineFeed
        (Q := fun line' s' => Oversized X decodeChunk line' future s')).symm
      exact or_congr_right (exists_congr fun s' => and_congr_right fun _ => ih)
    · rw [if_neg hfeed, ih]
      simp only [HasOversized, Reads, if_neg hfeed]

/-- A line that is too long stays so, unless its line end is still to come. -/
theorem oversized_of_long (hlong : maxJsonlLineBytes < line.length)
    (hcut : ¬ (line.length = maxJsonlLineBytes + 1 ∧ line.getLast? = some carriageReturn ∧
      stream.head? = some lineFeed)) : Oversized X decodeChunk line stream s := by
  induction stream generalizing line with
  | nil => exact hlong
  | cons byte stream ih =>
    rw [Oversized]
    by_cases hfeed : byte = lineFeed
    · subst hfeed
      rw [if_pos rfl, length_withoutCarriageReturn]
      left
      by_cases hreturn : line.getLast? = some carriageReturn
      · have hmore : ¬ line.length = maxJsonlLineBytes + 1 := fun hlen =>
          hcut ⟨hlen, hreturn, rfl⟩
        rw [if_pos hreturn]
        omega
      · rw [if_neg hreturn]
        exact hlong
    · have hgrown : (line ++ [byte]).length = line.length + 1 := length_append
      rw [if_neg hfeed]
      exact ih (by omega) fun hline => by omega

end Lines

/-! ### The loop -/

section Loop

variable {pending : Bytes} {size : Nat}

theorem ensureJsonlLineSize_of_le (h : size ≤ maxJsonlLineBytes) :
    ensureJsonlLineSize X size = .ok () := require_true h _

theorem ensureJsonlLineSize_of_lt (h : maxJsonlLineBytes < size) :
    ensureJsonlLineSize X size = .error (lineTooLarge X) := by
  rw [ensureJsonlLineSize, require, if_neg (not_le.mpr h)]

theorem processChatLine_ne_tooLarge {line : Bytes} :
    (processChatLine X decodeChunk line s).result ≠ .error (lineTooLarge X) :=
  fun h => processChatLine_others line s _ h rfl

/-- What follows the loop over the segments of a chunk. -/
def andThen (k : ChatStreamState → Bytes → Response GenerationUsage)
    (out : ChatStreamState × Bytes × EventAction) : Response GenerationUsage :=
  if out.2.2 = .done then pure out.1.usage else k out.1 out.2.1

/-- **The loop over a chunk** fails at a line that is too long, or behind the lines of the
    chunk. -/
theorem processSegments_tooLarge (chunk : Bytes) (hfits : pending.length ≤ maxJsonlLineBytes) :
    (processSegments X decodeChunk (splitInclusive chunk) pending s >>= andThen k).result =
        .error (lineTooLarge X) ↔
      HasOversized X decodeChunk pending chunk s ∨
        ∃ line' s', Reads X decodeChunk pending chunk s line' s' ∧
          (maxJsonlLineBytes < line'.length ∨ (k s' line').result = .error (lineTooLarge X)) := by
  induction hlen : chunk.length using Nat.strong_induction_on generalizing chunk pending s with
  | _ length ih =>
    by_cases hfeed : lineFeed ∈ chunk
    · -- the first line of the chunk, and the rest of it
      obtain ⟨text, rest, rfl, htext⟩ := eq_append_cons_of_mem hfeed
      simp only [hasOversized_text htext, reads_text htext]
      rw [hasOversized_or_reads_lineFeed, splitInclusive_line htext, processSegments,
        takeSegment_line]
      by_cases hlong : maxJsonlLineBytes < (withoutCarriageReturn (pending ++ text)).length
      · rw [ensureJsonlLineSize_of_lt hlong]
        exact iff_of_true rfl (.inl hlong)
      · rw [ensureJsonlLineSize_of_le (not_lt.mp hlong), or_iff_right hlong]
        have hshorter : rest.length < length := by
          rw [length_append, length_cons] at hlen
          omega
        have hrest := fun s => @ih rest.length hshorter [] s rest (zero_le _) rfl
        show ((processChatLine X decodeChunk (withoutCarriageReturn (pending ++ text)) s >>= _) >>=
          andThen k).result = _ ↔ _
        rw [bind_assoc, SseReader.bind_result_eq_error, or_iff_right processChatLine_ne_tooLarge]
        constructor
        · rintro ⟨⟨s', action⟩, hprocess, h⟩
          cases action with
          | done => cases h
          | «continue» => exact ⟨s', hprocess, (hrest s').mp h⟩
        · rintro ⟨s', hprocess, h⟩
          exact ⟨(s', .continue), hprocess, (hrest s').mpr h⟩
    · have hall : HasOversized X decodeChunk pending (chunk ++ []) s ↔ _ := hasOversized_text hfeed
      have hreads : ∀ line' s', Reads X decodeChunk pending (chunk ++ []) s line' s' ↔ _ :=
        fun _ _ => reads_text hfeed
      simp only [append_nil] at hall hreads
      simp only [hall, hreads, hasOversized_or_reads_nil]
      by_cases hnil : chunk = []
      · subst hnil
        rw [append_nil, or_iff_right (not_lt.mpr hfits)]
        exact Iff.rfl
      · rw [splitInclusive_text hfeed hnil, processSegments, takeSegment_text X hfeed]
        by_cases hlong : maxJsonlLineBytes < (pending ++ chunk).length
        · rw [ensureJsonlLineSize_of_lt hlong]
          exact iff_of_true rfl (.inl hlong)
        · rw [ensureJsonlLineSize_of_le (not_lt.mp hlong), or_iff_right hlong]
          exact Iff.rfl

theorem finishChatStream_ne_tooLarge (hfits : pending.length ≤ maxJsonlLineBytes) :
    (finishChatStream X decodeChunk pending s).result ≠ .error (lineTooLarge X) := by
  have hincomplete : ∀ s, incomplete X s ≠ lineTooLarge X := by
    intro s
    rw [incomplete]
    by_cases hsaw : s.sawPayload = true
    · rw [if_pos hsaw]
      exact streamingError_ne (by decide)
    · rw [if_neg hsaw]
      exact streamingError_ne (by decide)
  have hsize : (withoutCarriageReturn pending).length ≤ maxJsonlLineBytes := by
    rw [length_withoutCarriageReturn]
    omega
  rw [finishChatStream, ensureJsonlLineSize_of_le hsize, lift_ok_bind]
  by_cases hnil : withoutCarriageReturn pending = []
  · rw [if_pos hnil]
    exact fun h => hincomplete s (Except.error.inj h)
  · rw [if_neg hnil]
    intro h
    rcases SseReader.bind_result_eq_error.mp h with h | ⟨⟨s', action⟩, _, h⟩
    · exact processChatLine_ne_tooLarge h
    · cases action with
      | done => cases h
      | «continue» => exact hincomplete s' (Except.error.inj h)

/-- **The loop fails with the error of its size** where a line of the stream is too long, or a line
    that fits is cut between its line ends. -/
theorem consumeChunks_tooLarge_iff {total : Nat}
    (htotal : total + chunks.flatten.length ≤ maxStreamBytes)
    (hfits : pending.length ≤ maxJsonlLineBytes) :
    (consumeChunks X decodeChunk (chunks.map .ok) total pending s).result =
        .error (lineTooLarge X) ↔
      Oversized X decodeChunk pending chunks.flatten s ∨
        CutsLine X decodeChunk chunks pending s := by
  induction chunks generalizing total pending s with
  | nil =>
    refine iff_of_false (finishChatStream_ne_tooLarge hfits) ?_
    rw [CutsLine, or_false, flatten_nil, Oversized]
    exact not_lt.mpr hfits
  | cons chunk chunks ih =>
    rw [flatten_cons, length_append] at htotal
    have hmax : maxStreamBytes ≤ u64Max := by decide
    have hadd : checkedAdd total chunk.length = some (total + chunk.length) :=
      checkedAdd_of_le (by omega)
    have hbd : total + chunk.length ≤ maxStreamBytes := by omega
    rw [map_cons, consumeChunks, CutsLine, flatten_cons, oversized_append, or_assoc]
    simp only [hadd, okOr, lift_ok_bind, require_true hbd, ← exists_or, ← and_or_left]
    refine (processSegments_tooLarge chunk hfits (k := fun s pending => do
      ensurePendingJsonlSize X pending
      consumeChunks X decodeChunk (chunks.map .ok) (total + chunk.length) pending s)).trans ?_
    refine or_congr_right (exists_congr fun line' => exists_congr fun s' =>
      and_congr_right fun _ => ?_)
    by_cases hlong : maxJsonlLineBytes < line'.length
    · refine iff_of_true (.inl hlong) ?_
      by_cases hcut : line'.length = maxJsonlLineBytes + 1 ∧
          line'.getLast? = some carriageReturn ∧ chunks.flatten.head? = some lineFeed
      · exact .inr (.inl hcut)
      · exact .inl (oversized_of_long hlong hcut)
    · have hshort : line'.length ≤ maxJsonlLineBytes := not_lt.mp hlong
      have hok : ensurePendingJsonlSize X line' = .ok () :=
        ensureJsonlLineSize_of_le (le_trans (sub_le _ _) hshort)
      have hwhole : ¬ line'.length = maxJsonlLineBytes + 1 := by omega
      rw [or_iff_right hlong, hok, lift_ok_bind, ih (by omega) hshort]
      simp only [hwhole, false_and, false_or]

end Loop

end LorePia.Providers.Ollama
