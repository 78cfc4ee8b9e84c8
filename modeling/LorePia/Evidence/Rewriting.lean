import LorePia.Evidence.Redaction
import Mathlib.Data.List.Flatten

namespace LorePia.Evidence

open Lib List Nat Option

/-!
# Evidence — rewriting

Every pass of the redactor keeps pieces of its text and puts a marker for what stood between them.
Its slices are at boundaries, because a scan stops before or behind an ASCII byte, and a piece that
is kept behind a marker does not begin with a letter or a digit.

* `Redacted` — a text with pieces replaced;
* `Finding.Sound`, `Searches` — what a round of a pass guarantees;
* `redactLoop_spec` — so the loop ends, panics nowhere, and replaces pieces;
* `searches_structured`, `searches_query`, … — for each of the passes;
* `redactKnownTokenPrefixes_spec` — the same of the pass that copies character by character.
-/

variable {characters out rest : String} {copiedUntil cursor searchStart stop : Nat}

/-! ### Classes of bytes -/

section Bytes

variable {byte : UInt8}

theorem ascii_of_le (h : byte ≤ 0x7E) : byte < 128 := by
  have hnat : byte.toNat ≤ 126 := UInt8.le_iff_toNat_le.mp h
  exact UInt8.lt_iff_toNat_lt.mpr (show byte.toNat < 128 by omega)

theorem ascii_of_isAlphanumericByte (h : isAlphanumericByte byte = true) : byte < 128 := by
  simp only [isAlphanumericByte, isLowercaseByte, isUppercaseByte, isDigitByte, Bool.or_eq_true,
    Bool.and_eq_true, decide_eq_true_eq] at h
  rcases h with (h | h) | h
  · exact ascii_of_le (UInt8.le_trans h.2 (by decide))
  · exact ascii_of_le (UInt8.le_trans h.2 (by decide))
  · exact ascii_of_le (UInt8.le_trans h.2 (by decide))

theorem ascii_of_isGraphicByte (h : isGraphicByte byte = true) : byte < 128 := by
  simp only [isGraphicByte, Bool.and_eq_true, decide_eq_true_eq] at h
  exact ascii_of_le h.2

theorem isOneOf_eq_true :
    isOneOf characters byte = true ↔ byte ∈ asBytes characters := by
  simp [isOneOf]

/-- What holds of all bytes of a text. -/
theorem of_isOneOf (hall : (asBytes characters).all p = true) (h : isOneOf characters byte = true) :
    p byte = true :=
  all_eq_true.mp hall byte (isOneOf_eq_true.mp h)

def isAsciiByte (byte : UInt8) : Bool := byte < 128

theorem ascii_of_isKeyByte (h : isKeyByte byte = true) : byte < 128 := by
  rw [isKeyByte, Bool.or_eq_true] at h
  rcases h with h | h
  · exact ascii_of_isAlphanumericByte h
  · exact of_decide_eq_true (of_isOneOf (p := isAsciiByte) (by decide) h)

/-- The characters that the scanners look for are ASCII, and neither letters nor digits. -/
def IsDelimiter (byte : UInt8) : Prop := byte < 128 ∧ isAlphanumericByte byte = false

instance instDecidablePredIsDelimiter : DecidablePred IsDelimiter := fun byte =>
  inferInstanceAs (Decidable (byte < 128 ∧ isAlphanumericByte byte = false))

/-- A text of delimiters. -/
def isDelimiters (characters : String) : Bool :=
  (asBytes characters).all fun byte => decide (IsDelimiter byte)

theorem isDelimiter_of_isOneOf (hall : isDelimiters characters = true)
    (h : isOneOf characters byte = true) : IsDelimiter byte :=
  of_decide_eq_true (of_isOneOf hall h)

theorem isDelimiter_of_isWhitespaceByte (h : isWhitespaceByte byte = true) : IsDelimiter byte := by
  simp only [isWhitespaceByte, Bool.or_eq_true, beq_iff_eq] at h
  rcases h with (((rfl | rfl) | rfl) | rfl) | rfl
  all_goals exact ⟨by decide, by decide⟩

end Bytes

/-! ### Texts with pieces replaced -/

/-- What stands at an index is no letter and no digit. -/
def Stops (value : String) (index : Nat) : Prop :=
  ∀ byte, (asBytes value)[index]? = some byte → isAlphanumericByte byte = false

/-- An output that has come as far as an index of the text.  `Keep` holds of the pieces kept. -/
inductive Rewrites (Keep : Nat → Nat → Prop) (value : String) : Nat → String → Prop
  | start : Rewrites Keep value 0 ""
  | mark (i j k : Nat) (output kept : String) (h : Rewrites Keep value i output)
      (hkept : slice value i j = some kept) (hkeep : Keep i j) (hij : i ≤ j) (hjk : j ≤ k)
      (hk : Boundary value k) (hstop : Stops value k) :
      Rewrites Keep value k (output ++ kept ++ redactionMarker)

/-- A text in which pieces are replaced by the marker. -/
inductive RedactedBy (Keep : Nat → Nat → Prop) (value : String) : String → Prop
  | intro (i : Nat) (output rest : String) (h : Rewrites Keep value i output)
      (hrest : slice value i (byteLen value) = some rest) (hkeep : Keep i (byteLen value)) :
      RedactedBy Keep value (output ++ rest)

/-- The pieces that are kept may be any. -/
abbrev Redacted (value out : String) : Prop := RedactedBy (fun _ _ => True) value out

variable {value : String} {i j : Nat} {Keep : Nat → Nat → Prop}

theorem Rewrites.boundary (h : Rewrites Keep value i output) : Boundary value i := by
  cases h with
  | start => exact boundary_zero value
  | mark _ _ _ _ _ _ _ _ _ _ hk _ => exact hk

/-! ### The loop -/

/-- A round makes progress, and what it replaces lies between boundaries.  `Inv` relates the two
    cursors of the loop. -/
def Finding.Sound (value : String) (Inv : Nat → Nat → Prop) (copiedUntil searchStart : Nat) :
    Finding → Prop
  | .skip next => (searchStart < next ∧ next ≤ byteLen value) ∧ Inv copiedUntil next
  | .secret secretStart secretEnd next =>
    (copiedUntil ≤ secretStart ∧ secretStart ≤ secretEnd ∧ secretEnd ≤ next) ∧
      (searchStart < next ∧ next ≤ byteLen value) ∧ Boundary value secretStart ∧
      Boundary value secretEnd ∧ Stops value secretEnd ∧ Inv secretEnd next

/-- Every round succeeds, and finds something sound. -/
def Searches (value : String) (Inv : Nat → Nat → Prop)
    (next : Nat → Nat → Option (Option Finding)) : Prop :=
  ∀ copiedUntil searchStart, Boundary value copiedUntil → copiedUntil ≤ searchStart →
    searchStart ≤ byteLen value → Inv copiedUntil searchStart →
    ∃ found, next copiedUntil searchStart = some found ∧
      ∀ finding, found = some finding → finding.Sound value Inv copiedUntil searchStart

variable {next : Nat → Nat → Option (Option Finding)} {Inv : Nat → Nat → Prop}

/-- A round that finds something. -/
theorem finds (finding : Finding) {p : Finding → Prop} (hs : p finding)
    (h : found = some (some finding)) :
    ∃ next, found = some next ∧ ∀ finding, next = some finding → p finding := by
  refine ⟨some finding, h, ?_⟩
  rintro _ ⟨⟩
  exact hs

/-- **The loop** ends, panics nowhere, and replaces pieces of the text. -/
theorem redactLoop_spec (hnext : Searches value Inv next)
    (h : Rewrites (fun _ _ => True) value copiedUntil output) (hcopied : copiedUntil ≤ searchStart)
    (hsearch : searchStart ≤ byteLen value) (hinv : Inv copiedUntil searchStart)
    (hrounds : byteLen value - searchStart < rounds) :
    ∃ out, redactLoop value next rounds output copiedUntil searchStart = some out ∧
      Redacted value out := by
  induction rounds generalizing output copiedUntil searchStart with
  | zero => omega
  | succ rounds ih =>
    obtain ⟨found, hfound, hsound⟩ :=
      hnext copiedUntil searchStart h.boundary hcopied hsearch hinv
    rw [redactLoop, hfound]
    cases found with
    | none =>
      obtain ⟨rest, hrest, hslice⟩ := sliceFrom_eq_slice h.boundary
      refine ⟨output ++ rest, ?_, .intro _ _ _ h hslice trivial⟩
      show (sliceFrom value copiedUntil).bind _ = _
      rw [hrest]
      rfl
    | some finding =>
      have hfinding := hsound finding rfl
      cases finding with
      | skip next =>
        obtain ⟨⟨hlt, hle⟩, hinv⟩ := hfinding
        exact ih h (by omega) hle hinv (by omega)
      | secret secretStart secretEnd next =>
        obtain ⟨⟨hstart, hends, hend⟩, ⟨hlt, hle⟩, hbef, hbehind, hstop, hinv⟩ := hfinding
        obtain ⟨head, kept, tail, hkept, _⟩ := slice_eq h.boundary hbef hstart
        have hmark := Rewrites.mark copiedUntil secretStart secretEnd output kept h hkept trivial
          hstart hends hbehind hstop
        obtain ⟨out, hout, hred⟩ := ih hmark hend hle hinv (by omega)
        refine ⟨out, ?_, hred⟩
        show (slice value copiedUntil secretStart).bind _ = _
        rw [hkept]
        exact hout

section

variable
  (hnext : ∀ copiedUntil searchStart found, Boundary value copiedUntil → copiedUntil ≤ searchStart → searchStart ≤ byteLen value → Inv copiedUntil searchStart → next copiedUntil searchStart = some found → ∀ finding, found = some finding → finding.Sound value Inv copiedUntil searchStart)
include hnext

/-- What the loop returns is the text with pieces replaced, also where it may panic. -/
theorem redacted_of_redactLoop
    (h : Rewrites (fun _ _ => True) value copiedUntil output) (hcopied : copiedUntil ≤ searchStart)
    (hsearch : searchStart ≤ byteLen value) (hinv : Inv copiedUntil searchStart)
    (hout : redactLoop value next rounds output copiedUntil searchStart = some out) :
    Redacted value out := by
  induction rounds generalizing output copiedUntil searchStart with
  | zero => cases hout
  | succ rounds ih =>
    obtain ⟨found, hfound, hout⟩ := bind_eq_some_iff.mp hout
    have hsound := hnext copiedUntil searchStart found h.boundary hcopied hsearch hinv hfound
    cases found with
    | none =>
      obtain ⟨rest, hrest, hout⟩ := bind_eq_some_iff.mp hout
      obtain ⟨rest', hrest', hslice⟩ := sliceFrom_eq_slice h.boundary
      cases hrest.symm.trans hrest'
      cases hout
      exact .intro _ _ _ h hslice trivial
    | some finding =>
      have hfinding := hsound finding rfl
      cases finding with
      | skip next =>
        obtain ⟨⟨hlt, hle⟩, hinv⟩ := hfinding
        exact ih h (by omega) hle hinv hout
      | secret secretStart secretEnd next =>
        obtain ⟨⟨hstart, hends, hend⟩, ⟨hlt, hle⟩, _, hbehind, hstop, hinv⟩ := hfinding
        obtain ⟨kept, hkept, hout⟩ := bind_eq_some_iff.mp hout
        exact ih (.mark copiedUntil secretStart secretEnd output kept h hkept trivial hstart hends
          hbehind hstop) hend hle hinv hout

theorem redacted_of_rewrite
    (hinv : Inv 0 0) (hout : rewrite value next = some out) : Redacted value out :=
  redacted_of_redactLoop hnext .start (le_refl _) (zero_le _) hinv hout

end

theorem rewrite_spec (hnext : Searches value Inv next) (hinv : Inv 0 0) :
    ∃ out, rewrite value next = some out ∧ Redacted value out :=
  redactLoop_spec hnext .start (le_refl _) (zero_le _) hinv (by omega)

/-! ### Where the secrets end -/

/-- Where a scan up to a delimiter stops. -/
theorem scan_until (hp : ∀ byte, p byte = false → IsDelimiter byte) (hi : i ≤ byteLen value) :
    i ≤ scanWhile p (asBytes value) i ∧ scanWhile p (asBytes value) i ≤ byteLen value ∧
      Boundary value (scanWhile p (asBytes value) i) ∧
      Stops value (scanWhile p (asBytes value) i) := by
  refine ⟨le_scan, scan_le hi, boundary_scan_until (fun byte h => (hp byte h).1) hi, ?_⟩
  intro byte hbyte
  exact (hp byte (not_of_getElem?_scan hbyte)).2

theorem quoteAt_eq_some (h : quoteAt value i = some quote) :
    (asBytes value)[i]? = some quote ∧ IsDelimiter quote := by
  obtain ⟨hbyte, hquote⟩ := Option.filter_eq_some_iff.mp h
  exact ⟨hbyte, isDelimiter_of_isOneOf (by decide) hquote⟩

/-- A secret ends at its quotation mark, or at a delimiter. -/
theorem isDelimiter_of_isSecretByte (hall : isDelimiters delimiters = true)
    (hquote : ∀ mark, quote = some mark → IsDelimiter mark)
    (h : isSecretByte delimiters quote byte = false) : IsDelimiter byte := by
  cases quote with
  | some mark =>
    have heq : byte = mark := by simpa [isSecretByte] using h
    rw [heq]
    exact hquote mark rfl
  | none =>
    have hor : isWhitespaceByte byte = true ∨ isOneOf delimiters byte = true := by
      by_contra hneither
      rw [not_or, Bool.not_eq_true, Bool.not_eq_true] at hneither
      simp [isSecretByte, hneither.1, hneither.2] at h
    rcases hor with hwhite | hone
    · exact isDelimiter_of_isWhitespaceByte hwhite
    · exact isDelimiter_of_isOneOf hall hone

/-- The secret behind an index, with the quotation mark that may stand before it. -/
theorem secretStart_spec (hi : Boundary value i) :
    let blank := scanWhile isWhitespaceByte (asBytes value) i
    let start := if (quoteAt value blank).isSome then blank + 1 else blank
    i ≤ start ∧ Boundary value start := by
  have hblank : Boundary value (scanWhile isWhitespaceByte (asBytes value) i) :=
    boundary_scan (fun byte h => (isDelimiter_of_isWhitespaceByte h).1) hi
  have hle := le_scan (p := isWhitespaceByte) (l := asBytes value) (i := i)
  dsimp only
  cases hquote : quoteAt value (scanWhile isWhitespaceByte (asBytes value) i) with
  | none => exact ⟨hle, hblank⟩
  | some quote =>
    obtain ⟨hbyte, hdel⟩ := quoteAt_eq_some hquote
    exact ⟨hle.trans (le_succ _), boundary_after hbyte hdel.1⟩

/-! ### The passes -/

theorem searches_query (value : String) : Searches value (fun _ _ => True) (nextQuery value) := by
  intro copiedUntil searchStart _ hcopied hsearch _
  rw [nextQuery, positionFrom_eq hsearch]
  cases hfound : ((asBytes value).drop searchStart).findIdx? (isOneOf "?&") with
  | none => exact ⟨none, rfl, nofun⟩
  | some relativeStart =>
    obtain ⟨byte, hbyte, hone⟩ := getElem?_of_findIdx? hfound
    have hdel := isDelimiter_of_isOneOf (by decide) hone
    have hkeyStart := boundary_after hbyte hdel.1
    have hstart := hkeyStart.le
    generalize hequals : scanWhile (fun byte => !isOneOf "=&# \t\r\n\"'" byte) (asBytes value)
      (searchStart + relativeStart + 1) = equals
    have hle : searchStart + relativeStart + 1 ≤ equals := hequals ▸ le_scan
    by_cases hsign : (asBytes value)[equals]? = some 0x3D
    · have hbef : Boundary value equals := boundary_before hsign (by decide)
      have hbehind : Boundary value (equals + 1) := boundary_after hsign (by decide)
      have hequalsLe := hbehind.le
      obtain ⟨_, key, _, hkey, _⟩ := slice_eq hkeyStart hbef hle
      by_cases hsensitive : isSensitiveQueryKey key = false
      · refine finds (.skip (equals + 1)) ⟨⟨by omega, hequalsLe⟩, trivial⟩ ?_
        simp [hequals, hsign, hkey, hsensitive]
      · have hdelimits : ∀ byte, (!isOneOf "&# \t\r\n\"'" byte) = false → IsDelimiter byte := by
          intro byte h
          have hone : isOneOf "&# \t\r\n\"'" byte = true := by simpa using h
          exact isDelimiter_of_isOneOf (by decide) hone
        have hscan := scan_until hdelimits hequalsLe
        generalize hvalueEnd : scanWhile (fun byte => !isOneOf "&# \t\r\n\"'" byte) (asBytes value)
          (equals + 1) = valueEnd at hscan
        obtain ⟨hvalue, hvalueLe, hbd, hstop⟩ := hscan
        refine finds (.secret (equals + 1) valueEnd valueEnd)
          ⟨⟨by omega, hvalue, le_refl _⟩, ⟨by omega, hvalueLe⟩, hbehind, hbd, hstop, trivial⟩ ?_
        simp [hequals, hsign, hkey, hsensitive, hvalueEnd]
    · refine finds (.skip (searchStart + relativeStart + 1)) ⟨⟨by omega, hstart⟩, trivial⟩ ?_
      simp [hequals, hsign]

/-- The key before a separator is read within the text, between boundaries. -/
theorem structuredKey_spec (copiedUntil : Nat) (hsep : separator ≤ byteLen value) :
    ∃ keyStart keyEnd quote,
      structuredKey value copiedUntil separator = some (keyStart, keyEnd, quote) ∧
      (keyStart ≠ keyEnd →
        keyStart ≤ keyEnd ∧ Boundary value keyStart ∧ Boundary value keyEnd) := by
  obtain ⟨blank, hblank, hblankLe, _⟩ := scanBack_spec isWhitespaceByte copiedUntil hsep
  generalize hquote : (byteBefore value blank).filter (isOneOf "\"'") = quote
  generalize hkeyEnd : (if quote.isSome then blank - 1 else blank) = keyEnd
  have hkeyEndLe : keyEnd ≤ byteLen value := by
    rw [← hkeyEnd]
    split
    · omega
    · omega
  obtain ⟨keyStart, hkeyStart, hle, _, _, hpassed⟩ :=
    scanBack_spec isKeyByte copiedUntil hkeyEndLe
  refine ⟨keyStart, keyEnd, quote, ?_, fun hne => ⟨hle, ?_, ?_⟩⟩
  · rw [structuredKey, hblank]
    simp only [bind_eq_bind, bind_some, hquote, hkeyEnd, hkeyStart]
    rfl
  · obtain ⟨byte, hbyte, hkey⟩ := hpassed keyStart (le_refl _) (by omega)
    exact boundary_before hbyte (ascii_of_isKeyByte hkey)
  · obtain ⟨byte, hbyte, hkey⟩ := hpassed (keyEnd - 1) (by omega) (by omega)
    have hafter := boundary_after hbyte (ascii_of_isKeyByte hkey)
    rwa [Nat.sub_add_cancel (by omega)] at hafter

/-- The secret behind a separator lies between boundaries. -/
theorem structuredSecret_sound {key : String}
    (hsep : Boundary value (separator + 1)) (hcopied : copiedUntil ≤ separator)
    (hsearch : searchStart ≤ separator) :
    (structuredSecret value key separator).Sound value (fun _ _ => True) copiedUntil
      searchStart := by
  have hstart := secretStart_spec hsep
  rw [structuredSecret]
  dsimp only at hstart ⊢
  generalize hquote :
    quoteAt value (scanWhile isWhitespaceByte (asBytes value) (separator + 1)) = quote at hstart ⊢
  generalize hsec : (if quote.isSome then
    scanWhile isWhitespaceByte (asBytes value) (separator + 1) + 1
    else scanWhile isWhitespaceByte (asBytes value) (separator + 1)) = secretStart at hstart ⊢
  obtain ⟨hle, hbef⟩ := hstart
  have hends : ∀ secretEnd, secretStart ≤ secretEnd → Boundary value secretEnd →
      Stops value secretEnd → (Finding.secret secretStart secretEnd
        (max secretEnd (separator + 1))).Sound value (fun _ _ => True) copiedUntil searchStart := by
    intro secretEnd hsecEnd hbehind hstop
    have hbd := hbehind.le
    have hsepLe := hsep.le
    refine ⟨⟨by omega, hsecEnd, le_max_left _ _⟩, ⟨by omega, ?_⟩, hbef, hbehind, hstop, trivial⟩
    exact Nat.max_le.mpr ⟨hbd, hsepLe⟩
  split
  · apply hends
    · exact hbef.le
    · exact boundary_end value
    · intro byte hbyte
      rw [getElem?_eq_none (le_refl _)] at hbyte
      cases hbyte
  · have hdelimits : ∀ byte, isSecretByte ",;\x7d]<>" quote byte = false → IsDelimiter byte := by
      intro byte h
      refine isDelimiter_of_isSecretByte (by decide) ?_ h
      intro mark hmark
      rw [hmark] at hquote
      exact (quoteAt_eq_some hquote).2
    obtain ⟨hscan, _, hbd, hstop⟩ := scan_until hdelimits hbef.le
    exact hends _ hscan hbd hstop

theorem searches_structured (value : String) :
    Searches value (fun _ _ => True) (nextStructured value) := by
  intro copiedUntil searchStart _ hcopied hsearch _
  rw [nextStructured, positionFrom_eq hsearch]
  cases hfound : ((asBytes value).drop searchStart).findIdx? (isOneOf ":=") with
  | none => exact ⟨none, rfl, nofun⟩
  | some relativeSeparator =>
    obtain ⟨byte, hbyte, hone⟩ := getElem?_of_findIdx? hfound
    have hdel := isDelimiter_of_isOneOf (by decide) hone
    have hbehind := boundary_after hbyte hdel.1
    have hbehindLe := hbehind.le
    have hskip : (Finding.skip (searchStart + relativeSeparator + 1)).Sound value
        (fun _ _ => True) copiedUntil searchStart := ⟨⟨by omega, hbehindLe⟩, trivial⟩
    have hsepLe : searchStart + relativeSeparator ≤ byteLen value := by omega
    obtain ⟨keyStart, keyEnd, quote, hkeys, hbds⟩ :=
      structuredKey_spec copiedUntil hsepLe
    by_cases hempty : keyStart = keyEnd
    · refine finds _ hskip ?_
      simp [hkeys, hempty]
    · obtain ⟨hle, hstart, hend⟩ := hbds hempty
      obtain ⟨_, key, _, hkey, _⟩ := slice_eq hstart hend hle
      by_cases hsensitive : isSensitiveFieldName key = false
      · refine finds _ hskip ?_
        simp [hkeys, hempty, hkey, hsensitive]
      · by_cases hquote : quote.isSome ∧ byteBefore value keyStart ≠ quote
        · refine finds _ hskip ?_
          simp [hkeys, hempty, hkey, hquote]
        · refine finds (structuredSecret value key _)
            (structuredSecret_sound hbehind (by omega) (by omega)) ?_
          simp [hkeys, hempty, hkey, hsensitive, hquote]

/-- Behind an ASCII marker in the lowercase text there is a boundary of the text. -/
theorem markerEnd_spec (hmarker : marker ≠ "") (hascii : (asBytes marker).all isAsciiByte = true)
    (hlower : sliceFrom (toAsciiLowercase value) cursor = some lower)
    (hfound : findStr lower marker = some relative) :
    Boundary value (cursor + relative + byteLen marker) ∧
      cursor < cursor + relative + byteLen marker := by
  obtain ⟨⟨head, _⟩, hsplit, rfl⟩ := Option.map_eq_some_iff.mp hlower
  obtain ⟨happ, hlen⟩ := splitOff_eq_some hsplit
  obtain ⟨before, behind, hbytes, hbef⟩ := findIn_eq_some hfound
  have hpos : 0 < byteLen marker := by
    rw [byteLen, length_pos_iff]
    exact fun h => hmarker (asBytes_eq_nil.mp h)
  refine ⟨boundary_toAsciiLowercase.mp ?_, by omega⟩
  have hcursor : (asBytes head ++ before).length = cursor + relative := by
    rw [length_append, hbef, ← hlen]
    rfl
  have hwhole : asBytes (toAsciiLowercase value) =
      (asBytes head ++ before) ++ (asBytes marker ++ behind) := by
    rw [← happ, asBytes_append, hbytes, append_assoc, append_assoc]
  -- the last byte of the marker
  have hlt : byteLen marker - 1 < (asBytes marker).length := by
    rw [byteLen] at hpos ⊢
    omega
  have hlast : (asBytes (toAsciiLowercase value))[cursor + relative + (byteLen marker - 1)]? =
      some ((asBytes marker)[byteLen marker - 1]) := by
    rw [hwhole, getElem?_append_right (by omega), hcursor, Nat.add_sub_cancel_left,
      getElem?_append_left hlt, getElem?_eq_getElem hlt]
  have hafter := boundary_after hlast
    (of_decide_eq_true (all_eq_true.mp hascii _ (getElem_mem hlt)))
  rwa [Nat.add_assoc, Nat.sub_add_cancel hpos] at hafter

theorem searches_marker (value : String) (hmarker : marker ≠ "")
    (hascii : (asBytes marker).all isAsciiByte = true) :
    Searches value (fun copiedUntil cursor => copiedUntil = cursor) (nextMarker value marker) := by
  rintro cursor _ hcursor _ hsearch rfl
  obtain ⟨_, lower, hlower, _⟩ := sliceFrom_eq (boundary_toAsciiLowercase.mpr hcursor)
  rw [nextMarker, hlower]
  cases hfound : findStr lower marker with
  | none =>
    refine ⟨none, ?_, nofun⟩
    simp [hfound]
  | some relative =>
    obtain ⟨hbehind, hlt⟩ := markerEnd_spec hmarker hascii hlower hfound
    have hdelimits : ∀ byte, isSecretByte "\"',;<>" none byte = false → IsDelimiter byte := by
      intro byte h
      refine isDelimiter_of_isSecretByte (by decide) ?_ h
      intro mark hmark
      cases hmark
    have hscan := scan_until hdelimits hbehind.le
    generalize hend : scanWhile (isSecretByte "\"',;<>" none) (asBytes value)
      (cursor + relative + byteLen marker) = secretEnd at hscan
    obtain ⟨hle, hbd, hsecEnd, hstop⟩ := hscan
    refine finds (.secret (cursor + relative + byteLen marker) secretEnd secretEnd)
      ⟨⟨by omega, hle, le_refl _⟩, ⟨by omega, hbd⟩, hbehind, hsecEnd, hstop, rfl⟩ ?_
    simp [hfound, hend]

theorem searches_header (value : String) (redactRemainder : Bool)
    (hmarker : marker ≠ "") (hascii : (asBytes marker).all isAsciiByte = true) :
    Searches value (fun copiedUntil cursor => copiedUntil = cursor)
      (nextHeader value marker redactRemainder) := by
  rintro cursor _ hcursor _ hsearch rfl
  obtain ⟨_, lower, hlower, _⟩ := sliceFrom_eq (boundary_toAsciiLowercase.mpr hcursor)
  rw [nextHeader, hlower]
  cases hfound : findStr lower marker with
  | none =>
    refine ⟨none, ?_, nofun⟩
    simp [hfound]
  | some relative =>
    obtain ⟨hbehind, hlt⟩ := markerEnd_spec hmarker hascii hlower hfound
    have hstart := secretStart_spec hbehind
    dsimp only at hstart
    generalize hquote : quoteAt value (scanWhile isWhitespaceByte (asBytes value)
      (cursor + relative + byteLen marker)) = quote at hstart
    generalize hsec : (if quote.isSome then
      scanWhile isWhitespaceByte (asBytes value) (cursor + relative + byteLen marker) + 1
      else scanWhile isWhitespaceByte (asBytes value) (cursor + relative + byteLen marker)) =
        secretStart at hstart
    obtain ⟨hle, hbef⟩ := hstart
    have hdelimits : ∀ byte, ((quote.isNone && redactRemainder) ||
        isSecretByte "\"',;<>" quote byte) = false → IsDelimiter byte := by
      intro byte h
      rw [Bool.or_eq_false_iff] at h
      refine isDelimiter_of_isSecretByte (by decide) ?_ h.2
      intro mark hmark
      rw [hmark] at hquote
      exact (quoteAt_eq_some hquote).2
    have hscan := scan_until hdelimits hbef.le
    generalize hend : scanWhile (fun byte => (quote.isNone && redactRemainder) ||
      isSecretByte "\"',;<>" quote byte) (asBytes value) secretStart = secretEnd at hscan
    obtain ⟨hscanLe, hbd, hsecEnd, hstop⟩ := hscan
    refine finds (.secret secretStart secretEnd secretEnd)
      ⟨⟨by omega, hscanLe, le_refl _⟩, ⟨by omega, hbd⟩, hbef, hsecEnd, hstop, rfl⟩ ?_
    simp [hfound, hquote, hsec, hend]

/-! ### Known prefixes -/

/-- No token with a known prefix that is long enough begins in a piece. -/
def NoKnownToken (value : String) (i j : Nat) : Prop :=
  ∀ cursor rest, i ≤ cursor → cursor < j → sliceFrom value cursor = some rest →
    knownTokenEnd value rest cursor = none

/-- What a token with a known prefix is. -/
theorem knownTokenEnd_eq_some (h : knownTokenEnd value rest cursor = some stop) :
    ∃ known ∈ knownTokenPrefixes, strStartsWith rest known = true ∧
      stop = scanWhile isKnownTokenByte (asBytes value) (cursor + byteLen known) ∧
      byteLen known + 6 ≤ stop - cursor := by
  obtain ⟨known, hknown, h⟩ := bind_eq_some_iff.mp h
  by_cases hlen : byteLen known + 6 ≤
      scanWhile isKnownTokenByte (asBytes value) (cursor + byteLen known) - cursor
  · rw [if_pos hlen] at h
    cases h
    exact ⟨known, mem_of_find?_eq_some hknown, find?_some hknown, rfl, hlen⟩
  · rw [if_neg hlen] at h
    cases h

theorem ascii_of_isKnownTokenByte (h : isKnownTokenByte byte = true) :
    byte < 128 := by
  rw [isKnownTokenByte, Bool.and_eq_true] at h
  exact ascii_of_isGraphicByte h.1

/-- A letter or a digit is part of a token. -/
theorem isKnownTokenByte_of_isAlphanumericByte
    (h : isAlphanumericByte byte = true) : isKnownTokenByte byte = true := by
  have hnot : isOneOf "\"',;<>)]\x7d" byte = false := by
    rw [← Bool.not_eq_true]
    intro hone
    have hdel : IsDelimiter byte := isDelimiter_of_isOneOf (by decide) hone
    rw [hdel.2] at h
    cases h
  rw [isKnownTokenByte, hnot, Bool.not_false, Bool.and_true, isGraphicByte, Bool.and_eq_true,
    decide_eq_true_eq, decide_eq_true_eq]
  simp only [isAlphanumericByte, isLowercaseByte, isUppercaseByte, isDigitByte, Bool.or_eq_true,
    Bool.and_eq_true, decide_eq_true_eq] at h
  rcases h with (h | h) | h
  · exact ⟨UInt8.le_trans (by decide) h.1, UInt8.le_trans h.2 (by decide)⟩
  · exact ⟨UInt8.le_trans (by decide) h.1, UInt8.le_trans h.2 (by decide)⟩
  · exact ⟨UInt8.le_trans (by decide) h.1, UInt8.le_trans h.2 (by decide)⟩

/-- The end of a token is a boundary, and no letter or digit stands there. -/
theorem knownTokenEnd_spec {head : String} (hvalue : head ++ rest = value)
    (h : knownTokenEnd value rest (byteLen head) = some stop) :
    byteLen head < stop ∧ Boundary value stop ∧ Stops value stop := by
  obtain ⟨known, _, hstarts, rfl, hlen⟩ := knownTokenEnd_eq_some h
  have hbegins : asBytes known <+: asBytes rest := of_decide_eq_true hstarts
  obtain ⟨behind, rfl⟩ := exists_append_of_asBytes_prefix hbegins
  have hbdry : Boundary value (byteLen head + byteLen known) :=
    ⟨head ++ known, behind, by rw [← hvalue, String.append_assoc], byteLen_append head known⟩
  refine ⟨by omega, boundary_scan (fun byte => ascii_of_isKnownTokenByte) hbdry, ?_⟩
  intro byte hbyte
  have hnot := not_of_getElem?_scan hbyte
  rw [← Bool.not_eq_true]
  intro halpha
  rw [isKnownTokenByte_of_isAlphanumericByte halpha] at hnot
  cases hnot

/-- **The loop over the characters** ends, panics nowhere, and keeps no known token. -/
theorem knownTokenLoop_spec {kept : String}
    (h : Rewrites (NoKnownToken value) value i output) (hkept : slice value i cursor = some kept)
    (hkeep : NoKnownToken value i cursor) (hic : i ≤ cursor)
    (hrounds : byteLen value - cursor < rounds) :
    ∃ out, knownTokenLoop value rounds (output ++ kept) cursor = some out ∧
      RedactedBy (NoKnownToken value) value out := by
  induction rounds generalizing i output kept cursor with
  | zero => omega
  | succ rounds ih =>
    obtain ⟨head, tail, hvalue, rfl, hcursor⟩ := slice_eq_some hkept
    have hbdry : Boundary value cursor := ⟨head ++ kept, tail, hvalue, hcursor⟩
    rw [knownTokenLoop]
    by_cases hlt : cursor < byteLen value
    · have hrest : sliceFrom value cursor = some tail := by
        rw [sliceFrom, ← hvalue, ← hcursor, splitOff_append]
        rfl
      rw [if_pos hlt, hrest]
      cases hend : knownTokenEnd value tail cursor with
      | some stop =>
        rw [← hcursor] at hend
        obtain ⟨hstopLt, hstopBd, hstop⟩ := knownTokenEnd_spec hvalue hend
        rw [hcursor] at hstopLt hend
        have hmark := Rewrites.mark _ cursor stop output kept h hkept hkeep hic (by omega)
          hstopBd hstop
        obtain ⟨before, behind, hsplit⟩ := hstopBd
        have hempty : slice value stop stop = some "" := by
          have happ := slice_append before "" behind
          rwa [String.append_empty, hsplit.1, hsplit.2] at happ
        have hnone : NoKnownToken value stop stop := by
          intro cursor rest hle hltStop
          omega
        obtain ⟨out, hout, hred⟩ :=
          ih hmark hempty hnone (le_refl _) (by omega)
        refine ⟨out, ?_, hred⟩
        rw [String.append_empty] at hout
        simp only [bind_eq_bind, bind_some, hend]
        exact hout
      | none =>
        have hne : tail ≠ "" := by
          rintro rfl
          rw [← hvalue, String.append_empty, hcursor] at hlt
          exact absurd hlt (lt_irrefl _)
        obtain ⟨c, cs, hchars⟩ : ∃ c cs, tail.toList = c :: cs := by
          cases hlist : tail.toList with
          | nil => exact absurd (String.toList_eq_nil_iff.mp hlist) hne
          | cons c cs => exact ⟨c, cs, rfl⟩
        have htail : tail = String.ofList [c] ++ String.ofList cs := by
          rw [← String.ofList_append, singleton_append, ← hchars, String.ofList_toList]
        have hnextKept : slice value (byteLen head) (cursor + c.utf8Size) =
            some (kept ++ String.ofList [c]) := by
          have happ := slice_append head (kept ++ String.ofList [c]) (String.ofList cs)
          have hwhole : head ++ (kept ++ String.ofList [c]) ++ String.ofList cs = value := by
            rw [← hvalue, htail, String.append_assoc, String.append_assoc, String.append_assoc]
          have hlen : byteLen (head ++ (kept ++ String.ofList [c])) = cursor + c.utf8Size := by
            rw [← String.append_assoc, byteLen_append, hcursor, byteLen_ofList_singleton]
          rwa [hwhole, hlen] at happ
        have hnextKeep : NoKnownToken value (byteLen head) (cursor + c.utf8Size) := by
          intro place rest hle hltNext hrestAt
          rcases lt_trichotomy place cursor with hbef | heq | hwithin
          · exact hkeep place rest hle hbef hrestAt
          · rw [heq, hrest] at hrestAt
            cases hrestAt
            rw [heq]
            exact hend
          · -- there is no boundary within the character
            exfalso
            have hplace := boundary_of_sliceFrom hrestAt
            rw [← hvalue, htail] at hplace
            exact not_boundary_within (hcursor ▸ hwithin) (hcursor ▸ hltNext) hplace
        obtain ⟨out, hout, hred⟩ := ih h hnextKept hnextKeep (by omega)
          (by have hpos := c.utf8Size_pos; omega)
        refine ⟨out, ?_, hred⟩
        simp only [bind_eq_bind, bind_some, hend, hchars, head?_cons]
        rw [String.append_assoc]
        exact hout
    · have hle := hbdry.le
      have hcursorEnd : cursor = byteLen value := by omega
      rw [if_neg hlt]
      rw [hcursorEnd] at hkept hkeep
      exact ⟨_, rfl, .intro _ _ _ h hkept hkeep⟩

theorem redactKnownTokenPrefixes_spec (value : String) :
    ∃ out, redactKnownTokenPrefixes value = some out ∧
      RedactedBy (NoKnownToken value) value out := by
  have hempty : slice value 0 0 = some "" := by
    have happ := slice_append "" "" value
    rwa [String.append_empty, String.empty_append] at happ
  have hnone : NoKnownToken value 0 0 := by
    intro cursor rest _ hlt
    omega
  exact knownTokenLoop_spec .start hempty hnone (le_refl _) (by omega)

/-! ### Opaque tokens -/

/-- The tokens of a text are not longer than a bound. -/
def TokensWithin (bound : Nat) (bytes : Bytes) : Prop :=
  ∀ token, token <:+: bytes → (∀ byte ∈ token, isOpaqueTokenByte byte = true) → token.length ≤ bound

theorem byteLen_ofList_le (h : cs.Sublist ds) :
    byteLen (String.ofList cs) ≤ byteLen (String.ofList ds) := by
  rw [byteLen, byteLen, asBytes, asBytes, String.toList_ofList, String.toList_ofList]
  exact (h.flatMap _).length_le

theorem byteLen_trimMatches_le (p : Char → Bool) (value : String) :
    byteLen (trimMatches p value) ≤ byteLen value := by
  have hsublist : (((value.toList.dropWhile p).reverse.dropWhile p).reverse).Sublist
      value.toList := by
    refine (reverse_sublist.mpr (dropWhile_sublist p)).trans ?_
    rw [reverse_reverse]
    exact dropWhile_sublist p
  have hle := byteLen_ofList_le hsublist
  rwa [String.ofList_toList] at hle

variable (M : EntropyMeter)

/-- The length of a token fits a `u32`, so its entropy is measured. -/
theorem looksLikeOpaqueSecret_isSome (h : byteLen value ≤ u32Max) :
    ∃ secret, looksLikeOpaqueSecret M value = some secret := by
  have hle := (byteLen_trimMatches_le
    (fun c => isAsciiPunctuation c && c ∉ ['.', '_', '-', '+', '=', '/']) value).trans h
  rw [looksLikeOpaqueSecret]
  repeat (split; · exact ⟨_, rfl⟩)
  next hlong => exact absurd hle hlong

theorem ascii_of_isOpaqueTokenByte (h : isOpaqueTokenByte byte = true) :
    byte < 128 := by
  rw [isOpaqueTokenByte, Bool.or_eq_true] at h
  rcases h with h | h
  · exact ascii_of_isAlphanumericByte h
  · exact of_decide_eq_true (of_isOneOf (p := isAsciiByte) (by decide) h)

/-- What a scan passes is a slice of the bytes. -/
theorem slice_scan (h : slice value i (scanWhile p (asBytes value) i) = some piece) :
    asBytes piece <:+: asBytes value ∧ ∀ byte ∈ asBytes piece, p byte = true := by
  obtain ⟨head, tail, hvalue, hhead, hend⟩ := slice_eq_some h
  obtain ⟨passed, rest, hdrop, hscan, hpassed, _⟩ := scan_split p (asBytes value) i
  have hbytes : asBytes value = asBytes head ++ (asBytes piece ++ asBytes tail) := by
    rw [← hvalue, asBytes_append, asBytes_append, append_assoc]
  have hpiece : asBytes piece = passed := by
    rw [hbytes, ← hhead, byteLen, drop_left] at hdrop
    refine (append_inj hdrop ?_).1
    rw [hscan, byteLen_append, hhead] at hend
    exact add_left_cancel hend
  refine ⟨⟨asBytes head, asBytes tail, by rw [hbytes, append_assoc]⟩, ?_⟩
  rw [hpiece]
  exact hpassed

/-- A round of the pass is sound, unless the length of a token does not fit. -/
theorem nextOpaque_spec (hcopied : copiedUntil ≤ cursor) :
    (∃ found, nextOpaque M value copiedUntil cursor = some found ∧ ∀ finding, found = some finding →
      finding.Sound value (fun _ _ => True) copiedUntil cursor) ∨
    nextOpaque M value copiedUntil cursor = none ∧ ∃ token, asBytes token <:+: asBytes value ∧
      (∀ byte ∈ asBytes token, isOpaqueTokenByte byte = true) ∧
      looksLikeOpaqueSecret M token = none := by
  rw [nextOpaque]
  cases hbyte : (asBytes value)[cursor]? with
  | none =>
    refine .inl ⟨none, ?_, nofun⟩
    simp
  | some byte =>
    have hlt : cursor < byteLen value := (List.getElem?_eq_some_iff.mp hbyte).1
    by_cases htoken : isOpaqueTokenByte byte = false
    · refine .inl (finds (.skip (cursor + 1)) ⟨⟨by omega, hlt⟩, trivial⟩ ?_)
      simp [htoken]
    · have htoken : isOpaqueTokenByte byte = true := by simpa using htoken
      have hbef := boundary_before hbyte (ascii_of_isOpaqueTokenByte htoken)
      have hbehind : Boundary value (scanWhile isOpaqueTokenByte (asBytes value) cursor) :=
        boundary_scan (fun byte => ascii_of_isOpaqueTokenByte) hbef
      obtain ⟨_, token, _, hslice, _⟩ := slice_eq hbef hbehind le_scan
      obtain ⟨hpart, hall⟩ := slice_scan hslice
      -- the scan passes the byte under the cursor at least
      have hprogress : cursor < scanWhile isOpaqueTokenByte (asBytes value) cursor := by
        rcases eq_or_lt_of_le (le_scan (p := isOpaqueTokenByte) (l := asBytes value)
          (i := cursor)) with heq | hlt
        · have hstopped : (asBytes value)[scanWhile isOpaqueTokenByte (asBytes value) cursor]? =
              some byte := by rw [← heq, hbyte]
          have hnot := not_of_getElem?_scan hstopped
          rw [htoken] at hnot
          cases hnot
        · exact hlt
      have hstop : Stops value (scanWhile isOpaqueTokenByte (asBytes value) cursor) := by
        intro byte hbyte
        have hnot := not_of_getElem?_scan hbyte
        rw [isOpaqueTokenByte, Bool.or_eq_false_iff] at hnot
        exact hnot.1
      have hbd := hbehind.le
      generalize hend : scanWhile isOpaqueTokenByte (asBytes value) cursor = stop at *
      cases hsec : looksLikeOpaqueSecret M token with
      | none =>
        refine .inr ⟨?_, token, hpart, hall, hsec⟩
        simp [htoken, hslice, hsec]
      | some secret =>
        cases secret with
        | true =>
          refine .inl (finds (.secret cursor stop stop) ⟨⟨hcopied, hprogress.le, le_refl _⟩,
            ⟨hprogress, hbd⟩, hbef, hbehind, hstop, trivial⟩ ?_)
          simp [htoken, hslice, hsec]
        | false =>
          refine .inl (finds (.skip stop) ⟨⟨hprogress, hbd⟩, trivial⟩ ?_)
          simp [htoken, hslice, hsec]

theorem searches_opaqueToken (h : TokensWithin u32Max (asBytes value)) :
    Searches value (fun _ _ => True) (nextOpaque M value) := by
  intro copiedUntil cursor _ hcopied _ _
  rcases nextOpaque_spec M hcopied with hsound | ⟨_, token, hpart, hall, hnone⟩
  · exact hsound
  · obtain ⟨secret, hsec⟩ := looksLikeOpaqueSecret_isSome M (h _ hpart hall)
    cases hnone.symm.trans hsec

theorem redactOpaqueTokens_redacted
    (h : redactOpaqueTokens M value = some out) : Redacted value out := by
  have hsound : ∀ copiedUntil cursor found, Boundary value copiedUntil → copiedUntil ≤ cursor →
      cursor ≤ byteLen value → True → nextOpaque M value copiedUntil cursor = some found →
      ∀ finding, found = some finding →
        finding.Sound value (fun _ _ => True) copiedUntil cursor := by
    intro copiedUntil cursor found _ hcopied _ _ hfound
    rcases nextOpaque_spec M hcopied with ⟨_, hsome, hsound⟩ | ⟨hnone, _⟩
    · cases hsome.symm.trans hfound
      exact hsound
    · cases hnone.symm.trans hfound
  exact redacted_of_rewrite hsound trivial h

end LorePia.Evidence
