import LorePia.Evidence.Rewriting

namespace LorePia.Evidence

open Lib List Nat Option

/-!
# Evidence — the text that is kept

The redactor returns for every document and every bound.  Its passes return on every text, but the
last measures the entropy of tokens, and converts their lengths to a `u32`: so what is carried
through the passes is that the tokens of the line are not longer than the line was.  A marker ends
the token before it and does not lengthen the one behind it.

* `tokensWithin_of_redacted` — a pass does not make longer tokens;
* `redactPasses_spec`, `redactLine_spec` — a line of bounded length is redacted;
* `decodeBasicHtmlEntities_spec` — decoding returns, with at most four bytes for each byte;
* `pushLineBounded_spec`, `finishBounded_spec` — what is kept is within its bound;
* `redactAndBound_bounded` — the document.
-/

variable {Keep : Nat → Nat → Prop} {cs : List Char}

/-! ### The tokens of a text -/

section Tokens

variable {value : String}

theorem TokensWithin.part (h : TokensWithin bound bytes) (hpart : front <:+: bytes) :
    TokensWithin bound front := fun token htoken hall => h token (htoken.trans hpart) hall

theorem tokensWithin_of_length (h : bytes.length ≤ bound) : TokensWithin bound bytes :=
  fun _ htoken _ => htoken.length_le.trans h

/-- A token lies on one side of a byte that is part of none. -/
theorem TokensWithin.append (hfront : TokensWithin bound front) (hback : TokensWithin bound back)
    (hsep : isOpaqueTokenByte separator = false) :
    TokensWithin bound (front ++ separator :: back) := by
  rintro token ⟨before, behind, happ⟩ hall
  have hnot : separator ∉ token := by
    intro hmem
    rw [hall separator hmem] at hsep
    cases hsep
  rw [append_assoc] at happ
  rcases stretch_cases happ hnot with ⟨rest, rfl⟩ | ⟨rest, _, rfl⟩
  · exact hfront token ⟨before, rest, append_assoc _ _ _⟩ hall
  · exact hback token ⟨rest, behind, append_assoc _ _ _⟩ hall

theorem asBytes_redactionMarker :
    asBytes redactionMarker = 0x5B :: (asBytes "REDACTED" ++ [0x5D]) := by decide

/-- What is kept of a text is a part of it. -/
theorem asBytes_infix_of_slice {kept : String} (h : slice value i j = some kept) :
    asBytes kept <:+: asBytes value := by
  obtain ⟨head, tail, rfl, _⟩ := slice_eq_some h
  exact ⟨asBytes head, asBytes tail, by rw [asBytes_append, asBytes_append]⟩

/-- The induction over the pieces: any part of the text may follow. -/
theorem Rewrites.tokensWithin (hbd : 8 ≤ bound) (hvalue : TokensWithin bound (asBytes value))
    (h : Rewrites Keep value i output) (hpiece : piece <:+: asBytes value) :
    TokensWithin bound (asBytes output ++ piece) := by
  induction h generalizing piece with
  | start =>
    exact hvalue.part hpiece
  | mark i j k output kept _ hkept _ _ _ _ _ ih =>
    have hfront : TokensWithin bound (asBytes output ++ asBytes kept) :=
      ih (asBytes_infix_of_slice hkept)
    have hmarker : TokensWithin bound (asBytes "REDACTED" ++ 0x5D :: piece) :=
      (tokensWithin_of_length hbd).append (hvalue.part hpiece) (by decide)
    have hwhole := hfront.append hmarker (show isOpaqueTokenByte 0x5B = false by decide)
    rw [asBytes_append, asBytes_append, asBytes_redactionMarker]
    simpa only [append_assoc, cons_append, nil_append] using hwhole

/-- **A pass** does not make longer tokens. -/
theorem tokensWithin_of_redacted (hbd : 8 ≤ bound)
    (hvalue : TokensWithin bound (asBytes value)) (h : RedactedBy Keep value out) :
    TokensWithin bound (asBytes out) := by
  obtain ⟨i, output, rest, h, hrest, _⟩ := h
  rw [asBytes_append]
  exact h.tokensWithin hbd hvalue (asBytes_infix_of_slice hrest)

end Tokens

/-! ### A line -/

section Line

variable {line : String} {P : String → Prop}

/-- The passes for several markers, one after the other. -/
theorem foldlM_redacted {markers : List String} {pass : String → String → Option String}
    (hpass : ∀ marker ∈ markers, ∀ value, ∃ out, pass value marker = some out ∧ Redacted value out)
    (hP : ∀ value out, P value → Redacted value out → P out) (hline : P line) :
    ∃ out, markers.foldlM pass line = some out ∧ P out := by
  induction markers generalizing line with
  | nil => exact ⟨line, rfl, hline⟩
  | cons marker markers ih =>
    obtain ⟨next, hnext, hred⟩ := hpass marker mem_cons_self line
    have hrest : ∀ marker ∈ markers, ∀ value,
        ∃ out, pass value marker = some out ∧ Redacted value out :=
      fun marker hmarker => hpass marker (mem_cons_of_mem _ hmarker)
    obtain ⟨out, hout, hkeeps⟩ := ih hrest (hP line next hline hred)
    refine ⟨out, ?_, hkeeps⟩
    rw [foldlM_cons, hnext]
    exact hout

theorem redactAfterCaseInsensitiveMarker_spec (value : String) (hmarker : marker ≠ "")
    (hascii : (asBytes marker).all isAsciiByte = true) :
    ∃ out, redactAfterCaseInsensitiveMarker value marker = some out ∧ Redacted value out :=
  rewrite_spec (searches_marker value hmarker hascii) rfl

theorem redactInlineHeaderMarker_spec (redactRemainder : Bool) (markers : List String)
    (hmarkers : ∀ marker ∈ markers, marker ≠ "" ∧ (asBytes marker).all isAsciiByte = true) :
    ∀ marker ∈ markers, ∀ value, ∃ out,
      redactInlineHeaderMarker value marker redactRemainder = some out ∧ Redacted value out := by
  intro marker hmem value
  obtain ⟨hmarker, hascii⟩ := hmarkers marker hmem
  exact rewrite_spec (searches_header value redactRemainder hmarker hascii) rfl

theorem redactInlineHeaderValues_spec (hP : ∀ value out, P value → Redacted value out → P out)
    (hline : P line) : ∃ out, redactInlineHeaderValues line = some out ∧ P out := by
  obtain ⟨tokens, htokens, hPtokens⟩ :=
    foldlM_redacted (redactInlineHeaderMarker_spec false tokenMarkers (by decide))
      hP hline
  obtain ⟨out, hout, hPout⟩ :=
    foldlM_redacted (redactInlineHeaderMarker_spec true remainderMarkers (by decide))
      hP hPtokens
  refine ⟨out, ?_, hPout⟩
  rw [redactInlineHeaderValues, htokens]
  exact hout

/-- **The passes before the last one** return, and what every pass preserves holds of the text in
    which the known prefixes are looked for. -/
theorem redactPasses_eq (M : EntropyMeter) (hP : ∀ value out, P value → Redacted value out → P out)
    (hline : P line) :
    ∃ basicRedacted knownTokenRedacted, P basicRedacted ∧
      RedactedBy (NoKnownToken basicRedacted) basicRedacted knownTokenRedacted ∧
      redactPasses M line = redactOpaqueTokens M knownTokenRedacted := by
  obtain ⟨query, hquery, hred⟩ := rewrite_spec (searches_query line) trivial
  have hPquery := hP line query hline hred
  obtain ⟨structured, hstructured, hred⟩ := rewrite_spec (searches_structured query) trivial
  have hPstructured := hP query structured hPquery hred
  obtain ⟨header, hheader, hPheader⟩ := redactInlineHeaderValues_spec hP hPstructured
  obtain ⟨bearer, hbearer, hred⟩ := redactAfterCaseInsensitiveMarker_spec header
    (show "bearer " ≠ "" by decide) (by decide)
  have hPbearer := hP header bearer hPheader hred
  obtain ⟨basic, hbasic, hred⟩ := redactAfterCaseInsensitiveMarker_spec bearer
    (show "basic " ≠ "" by decide) (by decide)
  have hPbasic := hP bearer basic hPbearer hred
  obtain ⟨known, hknown, hkeeps⟩ := redactKnownTokenPrefixes_spec basic
  refine ⟨basic, known, hPbasic, hkeeps, ?_⟩
  rw [redactPasses, redactSensitiveQueryValues, hquery]
  simp only [bind_eq_bind, bind_some, redactStructuredSensitiveValues, hstructured,
    hheader, hbearer, hbasic, hknown]

/-- **The passes return** on a line whose tokens are not too long. -/
theorem redactPasses_spec (M : EntropyMeter) (hline : TokensWithin u32Max (asBytes line)) :
    ∃ out, redactPasses M line = some out := by
  have hbd : 8 ≤ u32Max := by decide
  have hkeeps : ∀ value out, TokensWithin u32Max (asBytes value) → Redacted value out →
      TokensWithin u32Max (asBytes out) :=
    fun value out hvalue h => tokensWithin_of_redacted hbd hvalue h
  obtain ⟨basic, known, hbasic, hred, hpasses⟩ := redactPasses_eq M hkeeps hline
  have hknown := tokensWithin_of_redacted hbd hbasic hred
  obtain ⟨out, hout, _⟩ := rewrite_spec (searches_opaqueToken M hknown) trivial
  exact ⟨out, hpasses.trans hout⟩

/-- What is trimmed from the start is blank. -/
theorem trimStart_append (value : String) :
    ∃ blank, blank ++ trimStart value = value ∧ (∀ c ∈ blank.toList, isWhitespace c = true) ∧
      byteLen blank = byteLen value - byteLen (trimStart value) := by
  have happ : String.ofList (value.toList.takeWhile isWhitespace) ++ trimStart value = value := by
    rw [trimStart, ← String.ofList_append, takeWhile_append_dropWhile, String.ofList_toList]
  refine ⟨String.ofList (value.toList.takeWhile isWhitespace), happ, ?_, ?_⟩
  · intro c hc
    rw [String.toList_ofList] at hc
    exact all_eq_true.mp all_takeWhile c hc
  · have hlen := congrArg byteLen happ
    rw [byteLen_append] at hlen
    omega

/-- **A line** whose tokens are not too long is redacted. -/
theorem redactLine_spec (M : EntropyMeter) (hline : TokensWithin u32Max (asBytes line)) :
    ∃ out, redactLine M line = some out := by
  rw [redactLine]
  cases splitOnce ':' (trimStart line) with
  | none => exact redactPasses_spec M hline
  | some parts =>
    dsimp only
    split
    · obtain ⟨blank, happ, _, hlen⟩ := trimStart_append line
      have hslice : slice line 0 (byteLen blank) = some blank := by
        have h := slice_append "" blank (trimStart line)
        rwa [String.empty_append, happ] at h
      rw [← hlen, hslice]
      exact ⟨_, rfl⟩
    · exact redactPasses_spec M hline

end Line

/-! ### Entities -/

section Entities

variable {value : String} {index : Nat}

theorem subBytes_eq {start stop : Nat} (hle : start ≤ stop) (hstop : stop ≤ bytes.length) :
    subBytes bytes start stop = some ((bytes.drop start).take (stop - start)) :=
  if_pos ⟨hle, hstop⟩

/-- What a `&` begins is read within the text; an entity ends behind its semicolon. -/
theorem entityAt_spec (hamp : (asBytes value)[index]? = some 0x26) :
    ∃ found, entityAt value index = some found ∧ ∀ character next, found = some (character, next) →
      index < next ∧ Boundary value next := by
  have hlt : index < (asBytes value).length := (List.getElem?_eq_some_iff.mp hamp).1
  have hbegin : Boundary value (index + 1) := boundary_after hamp (by decide)
  have hlow : index + 1 ≤ min (index + 13) (asBytes value).length := by omega
  rw [entityAt, subBytes_eq hlow (min_le_right _ _)]
  cases hfound : (((asBytes value).drop (index + 1)).take
      (min (index + 13) (asBytes value).length - (index + 1))).findIdx? (· == 0x3B) with
  | none =>
    refine ⟨none, ?_, nofun⟩
    simp [hfound]
  | some relativeEnd =>
    obtain ⟨hwindow, hsemicolon, _⟩ := findIdx?_eq_some_iff_getElem.mp hfound
    have hget : (asBytes value)[index + 1 + relativeEnd]? = some 0x3B := by
      rw [length_take, Nat.lt_min] at hwindow
      rw [← getElem?_drop, getElem?_eq_getElem hwindow.2]
      rw [getElem_take, beq_iff_eq] at hsemicolon
      rw [hsemicolon]
    have hend : Boundary value (index + 1 + relativeEnd) := boundary_before hget (by decide)
    obtain ⟨_, entity, _, hslice, _⟩ := slice_eq hbegin hend (le_add_right _ _)
    refine ⟨(decodeEntity entity).map fun character => (character, index + 1 + relativeEnd + 1),
      ?_, ?_⟩
    · simp [hfound, hslice]
    · intro character next hnext
      obtain ⟨decoded, _, hpair⟩ := map_eq_some_iff.mp hnext
      cases hpair
      exact ⟨by omega, boundary_after hget (by decide)⟩

/-- **The loop over the characters** ends, panics nowhere, and writes at most four bytes for each
    byte it passes. -/
theorem entityLoop_spec (output : String) (hidx : Boundary value index)
    (hrounds : byteLen value - index < rounds) :
    ∃ out, entityLoop value rounds output index = some out ∧
      byteLen out ≤ byteLen output + 4 * (byteLen value - index) := by
  induction rounds generalizing output index with
  | zero => omega
  | succ rounds ih =>
    rw [entityLoop]
    cases hbyte : (asBytes value)[index]? with
    | none => exact ⟨output, rfl, le_add_right _ _⟩
    | some byte =>
      have hlt : index < byteLen value := (List.getElem?_eq_some_iff.mp hbyte).1
      -- a character is written, and the cursor moves to a later boundary
      have hstep : ∀ (character : Char) (next : Nat), index < next → Boundary value next →
          ∃ out, entityLoop value rounds (output ++ String.ofList [character]) next = some out ∧
            byteLen out ≤ byteLen output + 4 * (byteLen value - index) := by
        intro character next hless hnext
        obtain ⟨out, hout, hlen⟩ :=
          ih (output ++ String.ofList [character]) hnext (by omega)
        refine ⟨out, hout, ?_⟩
        have hsize := character.utf8Size_le_four
        rw [byteLen_append, byteLen_ofList_singleton] at hlen
        omega
      by_cases hamp : byte ≠ 0x26
      · obtain ⟨rest, character, hrest, hhead, hnext⟩ := exists_head_of_boundary hidx hlt
        have hpos := character.utf8Size_pos
        obtain ⟨out, hout, hlen⟩ := hstep character _ (by omega) hnext
        refine ⟨out, ?_, hlen⟩
        simp only [if_pos hamp, hrest, hhead, bind_eq_bind, bind_some]
        exact hout
      · have hamp : byte = 0x26 := by simpa using hamp
        rw [hamp] at hbyte
        obtain ⟨found, hfound, hspec⟩ := entityAt_spec hbyte
        simp only [hamp, ne_eq, not_true_eq_false, if_false, hfound, bind_eq_bind,
          bind_some]
        cases found with
        | none =>
          exact hstep '&' (index + 1) (lt_succ_self _) (boundary_after hbyte (by decide))
        | some entity =>
          obtain ⟨character, next⟩ := entity
          obtain ⟨hless, hnext⟩ := hspec character next rfl
          exact hstep character next hless hnext

theorem decodeBasicHtmlEntities_spec (value : String) :
    ∃ out, decodeBasicHtmlEntities value = some out ∧ byteLen out ≤ 4 * byteLen value := by
  obtain ⟨out, hout, hlen⟩ := entityLoop_spec "" (boundary_zero value)
    (show byteLen value - 0 < byteLen value + 1 by omega)
  refine ⟨out, hout, ?_⟩
  have hempty : byteLen "" = 0 := by decide
  omega

end Entities

/-! ### The lines of a text -/

section Lines

variable {value line : String}

theorem sublist_of_mem_splitOnP (h : piece ∈ cs.splitOnP p) : piece.Sublist cs := by
  induction cs generalizing piece with
  | nil =>
    rw [splitOnP_nil, mem_singleton] at h
    rw [h]
  | cons c cs ih =>
    rw [splitOnP_cons_eq_if_modifyHead] at h
    by_cases hc : p c = true
    · rw [if_pos hc, mem_cons] at h
      rcases h with rfl | h
      · exact nil_sublist _
      · exact (ih h).cons c
    · rw [if_neg hc] at h
      cases hpieces : cs.splitOnP p with
      | nil => exact absurd hpieces (splitOnP_ne_nil p cs)
      | cons first pieces =>
        rw [hpieces, modifyHead_cons, mem_cons] at h
        rcases h with rfl | h
        · exact (ih (hpieces ▸ mem_cons_self)).cons_cons c
        · exact (ih (hpieces ▸ mem_cons_of_mem _ h)).cons c

theorem byteLen_ofList_le_of_sublist (h : cs.Sublist value.toList) :
    byteLen (String.ofList cs) ≤ byteLen value := by
  have hle := byteLen_ofList_le h
  rwa [String.ofList_toList] at hle

/-- A line is not longer than the text. -/
theorem byteLen_le_of_mem_textLines (h : line ∈ textLines value) :
    byteLen line ≤ byteLen value := by
  have hended : ∀ piece ∈ value.toList.splitOnP (· == '\n'), byteLen (String.ofList
      (if piece.getLast? = some '\r' then piece.dropLast else piece)) ≤ byteLen value := by
    intro piece hpiece
    have hsublist := sublist_of_mem_splitOnP hpiece
    split
    · exact byteLen_ofList_le_of_sublist ((dropLast_sublist piece).trans hsublist)
    · exact byteLen_ofList_le_of_sublist hsublist
  have hlines : line ∈ (value.toList.splitOnP (· == '\n')).dropLast.map (fun piece =>
      String.ofList (if piece.getLast? = some '\r' then piece.dropLast else piece)) →
      byteLen line ≤ byteLen value := by
    intro hmem
    obtain ⟨piece, hpiece, rfl⟩ := mem_map.mp hmem
    exact hended piece (dropLast_subset _ hpiece)
  rw [textLines] at h
  split at h
  · exact hlines h
  · rcases mem_append.mp h with h | h
    · exact hlines h
    · rw [mem_singleton] at h
      rw [h]
      cases hlast : (value.toList.splitOnP (· == '\n')).getLast? with
      | none => exact byteLen_ofList_le_of_sublist (nil_sublist _)
      | some last =>
        exact byteLen_ofList_le_of_sublist (sublist_of_mem_splitOnP (mem_of_getLast? hlast))

/-- A space is not longer than what it replaces. -/
theorem byteLen_maskControls_le (line : String) : byteLen (maskControls line) ≤ byteLen line := by
  rw [byteLen, byteLen, asBytes, asBytes, maskControls, String.toList_ofList]
  induction line.toList with
  | nil => exact le_refl _
  | cons c cs ih =>
    have hsize : (if isControl c && c != '\t' then ' ' else c).utf8Size ≤ c.utf8Size := by
      split
      · exact c.utf8Size_pos
      · exact le_refl _
    simp only [map_cons, flatMap_cons, length_append, String.length_utf8EncodeChar]
    omega

end Lines

/-! ### What is kept -/

section Kept

variable {line : String} {maxBytes : Nat}

/-- The text up to the boundary below a length. -/
theorem slice_floorCharBoundary (value : String) (requested : Nat) :
    ∃ kept, slice value 0 (floorCharBoundary value requested) = some kept ∧
      byteLen kept ≤ requested := by
  obtain ⟨head, kept, _, hslice, _, hhead, hlen⟩ :=
    slice_eq (boundary_zero value) (boundary_floorCharBoundary value requested) (zero_le _)
  have hle := floorCharBoundary_le value requested
  rw [byteLen_append] at hlen
  exact ⟨kept, hslice, by omega⟩

/-- **A line that is added** does not go beyond the bound. -/
theorem pushLineBounded_spec (line : String) (houtput : byteLen output ≤ maxBytes) :
    ∃ out fits, pushLineBounded output line maxBytes = some (out, fits) ∧
      byteLen out ≤ maxBytes := by
  rw [pushLineBounded]
  by_cases hfull : output ≠ "" ∧ byteLen output = maxBytes
  · rw [if_pos hfull]
    exact ⟨output, false, rfl, houtput⟩
  · rw [if_neg hfull]
    have hbroken : byteLen (if output = "" then output else output ++ "\n") ≤ maxBytes := by
      have hfeed : byteLen "\n" = 1 := by decide
      split
      · exact houtput
      · rename_i hne
        have hless : byteLen output ≠ maxBytes := fun heq => hfull ⟨hne, heq⟩
        rw [byteLen_append]
        omega
    generalize (if output = "" then output else output ++ "\n") = output' at hbroken
    by_cases hfits : byteLen line ≤ maxBytes - byteLen output'
    · rw [if_pos hfits]
      refine ⟨output' ++ line, true, rfl, ?_⟩
      rw [byteLen_append]
      omega
    · rw [if_neg hfits]
      obtain ⟨kept, hkept, hle⟩ := slice_floorCharBoundary line (maxBytes - byteLen output')
      refine ⟨output' ++ kept, false, ?_, ?_⟩
      · rw [hkept]
        rfl
      · rw [byteLen_append]
        omega

theorem truncateToBoundary_spec (value : String) (maxBytes : Nat) :
    ∃ out, truncateToBoundary value maxBytes = some out ∧ byteLen out ≤ maxBytes := by
  rw [truncateToBoundary]
  by_cases hle : byteLen value ≤ maxBytes
  · exact ⟨value, if_pos hle, hle⟩
  · rw [if_neg hle]
    exact slice_floorCharBoundary value maxBytes

/-- **The lines** are redacted, and stay within the bound. -/
theorem redactLines_spec (M : EntropyMeter) (inPrivateKey : Bool)
    (hlines : ∀ line ∈ lines, byteLen line ≤ u32Max) (houtput : byteLen output ≤ maxBytes) :
    ∃ out broke, redactLines M maxBytes lines output inPrivateKey = some (out, broke) ∧
      byteLen out ≤ maxBytes := by
  induction lines generalizing output inPrivateKey with
  | nil => exact ⟨output, false, rfl, houtput⟩
  | cons rawLine lines ih =>
    have hrest : ∀ line ∈ lines, byteLen line ≤ u32Max :=
      fun line hline => hlines line (mem_cons_of_mem _ hline)
    rw [redactLines]
    split
    · obtain ⟨out, fits, hout, hle⟩ := pushLineBounded_spec redactionMarker houtput
      rw [hout]
      exact ih _ hrest hle
    · split
      · exact ih _ hrest houtput
      · have hline : byteLen (maskControls rawLine) ≤ u32Max :=
          (byteLen_maskControls_le rawLine).trans (hlines rawLine mem_cons_self)
        obtain ⟨redacted, hred⟩ := redactLine_spec M (tokensWithin_of_length hline)
        obtain ⟨out, fits, hout, hle⟩ := pushLineBounded_spec redacted houtput
        simp only [hred, hout, bind_eq_bind, bind_some]
        cases fits with
        | true => exact ih _ hrest hle
        | false => exact ⟨out, true, rfl, hle⟩

theorem finishBounded_spec (wasTruncated : Bool) (houtput : byteLen output ≤ maxBytes) :
    ∃ out, finishBounded output maxBytes wasTruncated = some out ∧ byteLen out ≤ maxBytes := by
  rw [finishBounded]
  split
  · obtain ⟨kept, hkept, hle⟩ :=
      truncateToBoundary_spec output (maxBytes - byteLen truncationMarker)
    rw [hkept]
    refine ⟨_, rfl, ?_⟩
    by_cases hmarker : byteLen truncationMarker ≤ maxBytes
    · rw [if_pos hmarker, byteLen_append]
      omega
    · rw [if_neg hmarker]
      omega
  · split
    · refine ⟨_, rfl, ?_⟩
      exact (byteLen_ofList_le_of_sublist (dropLast_sublist _)).trans houtput
    · exact ⟨output, rfl, houtput⟩

/-- **The document**: the redactor returns for every text and every bound, and what it returns is
    within the bound. -/
theorem redactAndBound_bounded (M : EntropyMeter) (value : String) (maxBytes : Nat) :
    ∃ out, redactAndBound M value maxBytes = some out ∧ byteLen out ≤ maxBytes := by
  rw [redactAndBound]
  by_cases hzero : maxBytes = 0
  · rw [if_pos hzero]
    exact ⟨"", rfl, zero_le _⟩
  · rw [if_neg hzero]
    generalize hlim : min (min (maxBytes * 8) u64Max) maxRedactionScanBytes = scanLimit
    obtain ⟨input, hinput, hinputLe⟩ := slice_floorCharBoundary value scanLimit
    obtain ⟨decoded, hdec, hdecLe⟩ := decodeBasicHtmlEntities_spec input
    -- decoding at most quadruples what was scanned
    have hlines : ∀ line ∈ textLines decoded, byteLen line ≤ u32Max := by
      intro line hline
      have hle := byteLen_le_of_mem_textLines hline
      have hroom : 4 * maxRedactionScanBytes ≤ u32Max := by decide
      omega
    have hempty : byteLen "" ≤ maxBytes := zero_le _
    obtain ⟨output, broke, houtput, houtLe⟩ :=
      redactLines_spec M false hlines hempty
    simp only [hinput, hdec, houtput, bind_eq_bind, bind_some]
    exact finishBounded_spec _ houtLe

end Kept

end LorePia.Evidence
