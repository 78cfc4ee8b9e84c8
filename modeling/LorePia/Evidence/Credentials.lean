import LorePia.Evidence.Bounded

namespace LorePia.Evidence

open Lib List

/-!
# Evidence — known credentials

What the detector takes for a known credential, and what the redactor leaves of one.  The detector
compares prefixes in lowercase; the redactor has a table of its own, in exact case and without two
of the detector's prefixes.  Where every credential of a line begins with a prefix of the redactor's
table, none survives: the passes before the known prefixes only replace pieces, and a piece that is
kept behind a marker does not begin with a letter, so they expose no credential that the line does
not have.

* `looksLikeKnownCredential`, `Survives` — the detector, and a credential it finds;
* `free_of_redacted` — a pass exposes no credential;
* `redactLine_covers` — which lines are redacted;
* `uppercase_credential_survives` — one that is not.
-/

/-! ### The detector -/

def credentialPrefixes : List String :=
  ["sk-", "sk_", "xoxb-", "xoxp-", "ghp_", "gho_", "github_pat_"]

def looksLikeKnownCredential (value : String) : Bool :=
  let lower := toAsciiLowercase value
  (credentialPrefixes.any fun known => strStartsWith lower known) ||
    ((strStartsWith lower "akia" || strStartsWith lower "asia") && byteLen value == 20 &&
      (asBytes value).all isAlphanumericByte) ||
    (strStartsWith lower "aiza" && decide (24 ≤ byteLen value) &&
      (asBytes value).all fun byte => isAlphanumericByte byte || isOneOf "-_" byte)

/-- The prefixes that the detector looks for, with those of access keys. -/
def detectorPrefixes : List String := credentialPrefixes ++ ["akia", "asia", "aiza"]

/-- A known credential, with at least six characters behind its prefix. -/
def Recognised (token : String) : Prop :=
  looksLikeKnownCredential token = true ∧ ∃ known ∈ detectorPrefixes,
    strStartsWith (toAsciiLowercase token) known = true ∧ byteLen known + 6 ≤ byteLen token

/-- A stretch of token bytes that begins a word: at the start, or behind a byte that is no letter
    and no digit. -/
structure Stands (bytes : Bytes) (token : String) (before after : Bytes) : Prop where
  split : before ++ (asBytes token ++ after) = bytes
  token : ∀ byte ∈ asBytes token, isOpaqueTokenByte byte = true
  start : ∀ byte, before.getLast? = some byte → isAlphanumericByte byte = false

/-- The detector finds a credential in a text: it recognises the token bytes from the start of a
    word up to the first byte that is part of no token. -/
def Survives (value : String) : Prop :=
  ∃ token before after, Stands (asBytes value) token before after ∧
    (∀ byte, after.head? = some byte → isOpaqueTokenByte byte = false) ∧ Recognised token

/-- The redactor has the prefix of a token in its table. -/
def HasKnownStart (token : String) : Prop :=
  ∃ known ∈ knownTokenPrefixes, strStartsWith token known = true

/-- Every credential that stands in a line begins with a prefix of the redactor's table. -/
def Covered (line : String) : Prop :=
  ∀ token before after, Stands (asBytes line) token before after → Recognised token →
    HasKnownStart token

/-- The name before the first colon is that of a sensitive field. -/
def hasSensitiveKey (line : String) : Bool :=
  match splitOnce ':' (trimStart line) with
  | some (key, _) => isSensitiveFieldName (normalizedKey key)
  | none => false

def beforeColon (line : String) : String := String.ofList (line.toList.takeWhile (· != ':'))

/-! ### What a credential begins with -/

section Begins

theorem utf8EncodeChar_toLower (hascii : ∀ byte ∈ String.utf8EncodeChar c, byte < 128) :
    String.utf8EncodeChar c.toLower = (String.utf8EncodeChar c).map toLowercaseByte := by
  have hall : ∀ n < 128, String.utf8EncodeChar (Char.ofNat n).toLower =
      [toLowercaseByte (UInt8.ofNat n)] := by decide
  obtain ⟨byte, hmem⟩ : ∃ byte, byte ∈ String.utf8EncodeChar c := by
    refine exists_mem_of_length_pos ?_
    rw [String.length_utf8EncodeChar]
    exact c.utf8Size_pos
  obtain ⟨hone, hnat⟩ := utf8EncodeChar_of_mem_ascii hmem (hascii byte hmem)
  have hlt : byte.toNat < 128 := UInt8.lt_iff_toNat_lt.mp (hascii byte hmem)
  have hchar := hall byte.toNat hlt
  rw [← hnat, Char.ofNat_toNat, hnat, UInt8.ofNat_toNat] at hchar
  rw [hone, hchar]
  rfl

theorem asBytes_toAsciiLowercase (hascii : ∀ byte ∈ asBytes token, byte < 128) :
    asBytes (toAsciiLowercase token) = (asBytes token).map toLowercaseByte := by
  rw [asBytes] at hascii ⊢
  rw [asBytes, toAsciiLowercase, String.toList_ofList]
  generalize token.toList = cs at hascii
  induction cs with
  | nil => rfl
  | cons c cs ih =>
    rw [flatMap_cons] at hascii ⊢
    rw [map_cons, flatMap_cons, map_append,
      utf8EncodeChar_toLower fun byte hbyte => hascii byte (mem_append_left _ hbyte),
      ih fun byte hbyte => hascii byte (mem_append_right _ hbyte)]

variable {before after : Bytes}

/-- What a recognised token begins with, byte by byte. -/
theorem Recognised.begins (h : Recognised token)
    (htoken : ∀ byte ∈ asBytes token, isOpaqueTokenByte byte = true) :
    ∃ known ∈ detectorPrefixes, asBytes known <+: (asBytes token).map toLowercaseByte ∧
      byteLen known + 6 ≤ byteLen token := by
  obtain ⟨_, known, hknown, hstarts, hlen⟩ := h
  have hbegins : asBytes known <+: asBytes (toAsciiLowercase token) := of_decide_eq_true hstarts
  rw [asBytes_toAsciiLowercase fun byte hbyte => ascii_of_isOpaqueTokenByte (htoken byte hbyte)]
    at hbegins
  exact ⟨known, hknown, hbegins, hlen⟩

theorem Recognised.long (h : Recognised token) : 8 < byteLen token := by
  have hall : ∀ known ∈ detectorPrefixes, 3 ≤ byteLen known := by decide
  obtain ⟨_, known, hknown, _, hlen⟩ := h
  have hthree := hall known hknown
  omega

/-- A credential begins with a letter. -/
theorem Recognised.first (h : Recognised token)
    (htoken : ∀ byte ∈ asBytes token, isOpaqueTokenByte byte = true) :
    ∃ byte rest, asBytes token = byte :: rest ∧ isAlphanumericByte byte = true := by
  have hletters : ∀ known ∈ detectorPrefixes,
      (asBytes known).head?.any isAlphanumericByte = true := by decide
  obtain ⟨known, hknown, ⟨behind, hbegins⟩, _⟩ := h.begins htoken
  obtain ⟨letter, hletter, halpha⟩ := (Option.any_eq_true _ _).mp (hletters known hknown)
  obtain ⟨rest, hrest⟩ := head?_eq_some_iff.mp hletter
  cases hbytes : asBytes token with
  | nil =>
    rw [hbytes, hrest] at hbegins
    cases hbegins
  | cons byte bytes =>
    refine ⟨byte, bytes, rfl, ?_⟩
    rw [hbytes, hrest, map_cons] at hbegins
    have hlower : letter = toLowercaseByte byte := (List.cons.inj hbegins).1
    have hbyte := htoken byte (hbytes ▸ mem_cons_self)
    rw [isOpaqueTokenByte, Bool.or_eq_true] at hbyte
    rcases hbyte with hbyte | hbyte
    · exact hbyte
    · have hnot := of_isOneOf (p := fun byte => !isAlphanumericByte (toLowercaseByte byte))
        (by decide) hbyte
      rw [Bool.not_eq_true'] at hnot
      rw [hlower, hnot] at halpha
      cases halpha

/-- The prefixes of the two tables that a token may begin with have the same length. -/
theorem byteLen_eq_of_begins (hknown : known ∈ knownTokenPrefixes)
    (hdetector : detector ∈ detectorPrefixes) (h : (asBytes known).map toLowercaseByte <+: lower)
    (h' : asBytes detector <+: lower) :
    byteLen known = byteLen detector := by
  have hall : ∀ known ∈ knownTokenPrefixes, ∀ detector ∈ detectorPrefixes,
      ((asBytes known).map toLowercaseByte <+: asBytes detector ∨
        asBytes detector <+: (asBytes known).map toLowercaseByte) →
      byteLen known = byteLen detector := by decide
  exact hall known hknown detector hdetector (List.prefix_or_prefix_of_prefix h h')

end Begins

/-! ### Texts without credentials -/

section Free

variable {Q : String → Prop} {token value : String} {bytes before after : Bytes} {i j : Nat}

/-- No such token stands in a text. -/
def Free (Q : String → Prop) (bytes : Bytes) : Prop :=
  ∀ token before after, Stands bytes token before after → ¬ Q token

/-- No such token stands in a piece of a text. -/
def FreeWithin (Q : String → Prop) (bytes : Bytes) (i j : Nat) : Prop :=
  ∀ token before after, Stands bytes token before after → i ≤ before.length →
    before.length + byteLen token ≤ j → ¬ Q token

theorem Stands.not_mem (h : Stands bytes token before after)
    (hsep : isOpaqueTokenByte separator = false) : separator ∉ asBytes token := by
  intro hmem
  rw [h.token separator hmem] at hsep
  cases hsep

/-- A token stands on one side of a byte that is part of none. -/
theorem Stands.cases (h : Stands (front ++ separator :: back) token before after)
    (hsep : isOpaqueTokenByte separator = false) :
    (∃ rest, Stands front token before rest ∧ after = rest ++ separator :: back) ∨
      ∃ rest, Stands back token rest after := by
  rcases stretch_cases h.split (h.not_mem hsep) with ⟨rest, hfront⟩ | ⟨rest, hbef, hback⟩
  · refine .inl ⟨rest, ⟨hfront.symm, h.token, h.start⟩, ?_⟩
    have hsplit := h.split
    rw [hfront] at hsplit
    simpa only [append_assoc, append_cancel_left_eq] using hsplit
  · refine .inr ⟨rest, hback.symm, h.token, ?_⟩
    intro byte hbyte
    apply h.start byte
    rw [hbef, getLast?_append, getLast?_cons, hbyte]
    rfl

theorem Free.append (hfront : Free Q front) (hback : Free Q back)
    (hsep : isOpaqueTokenByte separator = false) :
    Free Q (front ++ separator :: back) := by
  intro token before after h
  rcases h.cases hsep with ⟨rest, hstands, _⟩ | ⟨rest, hstands⟩
  · exact hfront token before rest hstands
  · exact hback token rest after hstands

variable (hQ : ∀ token, Q token → Recognised token)
include hQ

/-- A short text is no credential. -/
theorem free_of_length (h : bytes.length ≤ 8) : Free Q bytes := by
  intro token before after hstands hq
  have hlong := (hQ token hq).long
  have hlen := congrArg List.length hstands.split
  simp only [length_append] at hlen
  rw [byteLen] at hlong
  omega

/-- **A piece that is kept**: its first byte is that of the text, or no letter. -/
theorem free_slice (hslice : slice value i j = some piece) (hbegin : i = 0 ∨ Stops value i)
    (hwithin : FreeWithin Q (asBytes value) i j) :
    Free Q (asBytes piece) := by
  intro token before after h hq
  obtain ⟨head, tail, hvalue, hhead, hend⟩ := slice_eq_some hslice
  have hbytes : asBytes head ++ before ++ (asBytes token ++ (after ++ asBytes tail)) =
      asBytes value := by
    rw [← hvalue, asBytes_append, asBytes_append, ← h.split]
    simp only [append_assoc]
  have hstart : ∀ byte, (asBytes head ++ before).getLast? = some byte →
      isAlphanumericByte byte = false := by
    intro byte hbyte
    cases hlast : before.getLast? with
    | some last =>
      rw [getLast?_append, hlast] at hbyte
      cases hbyte
      exact h.start _ hlast
    | none =>
      rw [getLast?_eq_none_iff] at hlast
      rw [hlast, append_nil] at hbyte hbytes
      rcases hbegin with hzero | hstop
      · rw [hzero] at hhead
        rw [eq_nil_of_length_eq_zero hhead] at hbyte
        cases hbyte
      · -- the token begins with a letter, and the piece does not
        obtain ⟨first, rest, hfirst, halpha⟩ := (hQ token hq).first h.token
        have hget : (asBytes value)[i]? = some first := by
          rw [← hbytes, ← hhead, byteLen, getElem?_append_right (Nat.le_refl _), Nat.sub_self,
            hfirst]
          rfl
        rw [hstop first hget] at halpha
        cases halpha
  refine hwithin token (asBytes head ++ before) _ ⟨hbytes, h.token, hstart⟩ ?_ ?_ hq
  · rw [length_append, ← hhead]
    exact Nat.le_add_right _ _
  · have hlen := congrArg List.length h.split
    simp only [length_append] at hlen ⊢
    rw [← hend, byteLen_append, byteLen, byteLen, byteLen]
    omega

/-- The induction over the pieces. -/
theorem Rewrites.free {Keep : Nat → Nat → Prop}
    (hkeep : ∀ i j, Keep i j → FreeWithin Q (asBytes value) i j) (h : Rewrites Keep value i output)
    (hslice : slice value i j = some piece) (hpiece : Keep i j) :
    Free Q (asBytes output ++ asBytes piece) := by
  induction h generalizing j piece with
  | start => exact free_slice hQ hslice (.inl rfl) (hkeep _ _ hpiece)
  | mark i i' k output kept _ hkept hkeeps _ _ _ hstop ih =>
    have hfront := ih hkept hkeeps
    have hback := free_slice hQ hslice (.inr hstop) (hkeep _ _ hpiece)
    have hmarker : Free Q (asBytes "REDACTED" ++ 0x5D :: asBytes piece) :=
      (free_of_length hQ (by decide)).append hback (by decide)
    have hwhole := hfront.append hmarker (show isOpaqueTokenByte 0x5B = false by decide)
    rw [asBytes_append, asBytes_append, asBytes_redactionMarker]
    simpa only [append_assoc, cons_append, nil_append] using hwhole

/-- **A pass** exposes no credential: none stands in its output, if none stands in what it keeps. -/
theorem free_of_redacted {Keep : Nat → Nat → Prop}
    (hkeep : ∀ i j, Keep i j → FreeWithin Q (asBytes value) i j)
    (h : RedactedBy Keep value out) : Free Q (asBytes out) := by
  obtain ⟨i, output, rest, h, hrest, hkeeps⟩ := h
  rw [asBytes_append]
  exact h.free hQ hkeep hrest hkeeps

end Free

/-! ### The known prefixes -/

section Known

variable {value token line : String} {before after : Bytes}

theorem isKnownTokenByte_of_isOpaqueTokenByte (h : isOpaqueTokenByte byte = true) :
    isKnownTokenByte byte = true := by
  rw [isOpaqueTokenByte, Bool.or_eq_true] at h
  rcases h with h | h
  · exact isKnownTokenByte_of_isAlphanumericByte h
  · exact of_isOneOf (by decide) h

/-- **A credential with a prefix of the table** is a known token where it stands. -/
theorem knownTokenEnd_isSome (h : Stands (asBytes value) token before after)
    (hrecog : Recognised token) (hstart : HasKnownStart token) :
    ∃ rest stop, sliceFrom value before.length = some rest ∧
      knownTokenEnd value rest before.length = some stop := by
  obtain ⟨first, firsts, hfirst, halpha⟩ := hrecog.first h.token
  have hget : (asBytes value)[before.length]? = some first := by
    rw [← h.split, getElem?_append_right (Nat.le_refl _), Nat.sub_self, hfirst]
    rfl
  obtain ⟨head, rest, hrest, hvalue, hhead⟩ :=
    sliceFrom_eq (boundary_before hget (ascii_of_isAlphanumericByte halpha))
  have hbytes : asBytes rest = asBytes token ++ after := by
    have hsplit := h.split
    rw [← hvalue, asBytes_append] at hsplit
    exact ((append_inj hsplit hhead.symm).2).symm
  refine ⟨rest, ?_⟩
  -- the prefix that the redactor finds first
  obtain ⟨known, hknown, hstarts⟩ := hstart
  have hsome : (knownTokenPrefixes.find? fun known => strStartsWith rest known).isSome = true := by
    rw [find?_isSome]
    refine ⟨known, hknown, decide_eq_true ?_⟩
    rw [hbytes]
    have hbegins : asBytes known <+: asBytes token := of_decide_eq_true hstarts
    exact hbegins.trans (prefix_append _ _)
  obtain ⟨found, hfound⟩ := Option.isSome_iff_exists.mp hsome
  have hmem := mem_of_find?_eq_some hfound
  have hfoundStarts : strStartsWith rest found = true := find?_some hfound
  have hbegins : asBytes found <+: asBytes rest := of_decide_eq_true hfoundStarts
  obtain ⟨detector, hdetector, hdetects, hlen⟩ := hrecog.begins h.token
  have hsame : byteLen found = byteLen detector := by
    refine byteLen_eq_of_begins hmem hdetector (hbegins.map _) ?_
    rw [hbytes, map_append]
    exact hdetects.trans (prefix_append _ _)
  -- and its token reaches at least as far as the credential
  have hpassed : ∀ m, before.length + byteLen found ≤ m → m < before.length + byteLen token →
      ∃ byte, (asBytes value)[m]? = some byte ∧ isKnownTokenByte byte = true := by
    intro m hlow hhigh
    have hlt : m - before.length < (asBytes token).length := by
      rw [byteLen] at hhigh
      omega
    refine ⟨(asBytes token)[m - before.length], ?_,
      isKnownTokenByte_of_isOpaqueTokenByte (h.token _ (getElem_mem hlt))⟩
    rw [← h.split, getElem?_append_right (by omega), getElem?_append_left hlt,
      getElem?_eq_getElem hlt]
  have hreach := le_scan_of_forall hpassed
  refine ⟨scanWhile isKnownTokenByte (asBytes value) (before.length + byteLen found), hrest, ?_⟩
  rw [knownTokenEnd, hfound]
  exact if_pos (by omega)

/-- What the pass keeps of a line has no credential with a prefix of the table. -/
theorem freeWithin_of_noKnownToken (hcovered : Covered value) (h : NoKnownToken value i j) :
    FreeWithin Recognised (asBytes value) i j := by
  intro token before after hstands hlow hhigh hrecog
  have hstart := hcovered token before after hstands hrecog
  obtain ⟨rest, stop, hrest, hstop⟩ := knownTokenEnd_isSome hstands hrecog hstart
  have hlong := hrecog.long
  have hnone := h before.length rest hlow (by omega) hrest
  rw [hnone] at hstop
  cases hstop

/-- The token of a line that is not covered. -/
def Uncovered (token : String) : Prop := Recognised token ∧ ¬ HasKnownStart token

theorem covered_iff : Covered line ↔ Free Uncovered (asBytes line) := by
  constructor
  · intro h token before after hstands huncovered
    exact huncovered.2 (h token before after hstands huncovered.1)
  · intro h token before after hstands hrecog
    by_contra hnot
    exact h token before after hstands ⟨hrecog, hnot⟩

theorem covered_of_redacted (hvalue : Covered value) (h : Redacted value out) : Covered out := by
  rw [covered_iff] at hvalue ⊢
  refine free_of_redacted (fun token huncovered => huncovered.1) ?_ h
  intro i j _ token before after hstands _ _
  exact hvalue token before after hstands

/-- **The passes** leave no credential of a line whose credentials begin with prefixes of the
    table. -/
theorem free_of_redactPasses (hline : Covered line) (hout : redactPasses M line = some out) :
    Free Recognised (asBytes out) := by
  obtain ⟨basic, known, hbasic, hred, hpasses⟩ :=
    redactPasses_eq M (fun value out hvalue h => covered_of_redacted hvalue h) hline
  have hknown : Free Recognised (asBytes known) :=
    free_of_redacted (fun token h => h)
      (fun i j hnone => freeWithin_of_noKnownToken hbasic hnone) hred
  rw [hpasses] at hout
  refine free_of_redacted (fun token h => h) ?_ (redactOpaqueTokens_redacted M hout)
  intro i j _ token before after hstands _ _
  exact hknown token before after hstands

end Known

/-! ### Lines -/

section Lines

variable {line out : String}

/-- A line is covered, if a prefix of the redactor's table stands wherever a word begins with a
    prefix of the detector's, in any case. -/
theorem covered_of_prefixes
    (h : ∀ n ≤ byteLen line, ((asBytes line).take n).getLast?.any isAlphanumericByte = false →
      ∀ detector ∈ detectorPrefixes,
        asBytes detector <+: ((asBytes line).drop n).map toLowercaseByte →
        ∃ known ∈ knownTokenPrefixes, asBytes known <+: (asBytes line).drop n) :
    Covered line := by
  intro token before after hstands hrecog
  obtain ⟨detector, hdetector, hdetects, hlen⟩ := hrecog.begins hstands.token
  have htake : (asBytes line).take before.length = before := by rw [← hstands.split, take_left]
  have hdrop : (asBytes line).drop before.length = asBytes token ++ after := by
    rw [← hstands.split, drop_left]
  have hle : before.length ≤ byteLen line := by
    rw [byteLen, ← hstands.split, length_append]
    exact Nat.le_add_right _ _
  have hlower : asBytes detector <+: ((asBytes line).drop before.length).map toLowercaseByte := by
    rw [hdrop, map_append]
    exact hdetects.trans (prefix_append _ _)
  have hstart : ((asBytes line).take before.length).getLast?.any isAlphanumericByte = false := by
    rw [htake]
    cases hlast : before.getLast? with
    | none => rfl
    | some last => exact hstands.start last hlast
  obtain ⟨known, hknown, hbegins⟩ := h before.length hle hstart detector hdetector hlower
  have hsame := byteLen_eq_of_begins hknown hdetector (hbegins.map _) hlower
  refine ⟨known, hknown, decide_eq_true ?_⟩
  rw [hdrop] at hbegins
  refine prefix_of_prefix_length_le hbegins (prefix_append _ _) ?_
  show byteLen known ≤ byteLen token
  omega

/-- Behind a colon there is nothing but the marker. -/
theorem survives_marker :
    Survives (front ++ (": " ++ redactionMarker)) ↔ Survives front := by
  have hbytes : asBytes (front ++ (": " ++ redactionMarker)) =
      asBytes front ++ 0x3A :: ([0x20] ++ 0x5B :: (asBytes "REDACTED" ++ 0x5D :: [])) := by
    rw [asBytes_append, asBytes_append, asBytes_redactionMarker]
    rfl
  have hcolon : isOpaqueTokenByte 0x3A = false := by decide
  have hback : Free Recognised ([0x20] ++ 0x5B :: (asBytes "REDACTED" ++ 0x5D :: [])) := by
    have hself : ∀ token, Recognised token → Recognised token := fun token h => h
    have hblank : Free Recognised [0x20] := free_of_length hself (by decide)
    have hinner : Free Recognised (asBytes "REDACTED") := free_of_length hself (by decide)
    have hempty : Free Recognised [] := free_of_length hself (by decide)
    exact hblank.append (hinner.append hempty (by decide)) (by decide)
  generalize [0x20] ++ 0x5B :: (asBytes "REDACTED" ++ 0x5D :: []) = back at hbytes hback
  constructor
  · rintro ⟨token, before, after, hstands, hmaximal, hrecog⟩
    rw [hbytes] at hstands
    rcases hstands.cases hcolon with ⟨rest, hfront, rfl⟩ | ⟨rest, hstandsBack⟩
    · refine ⟨token, before, rest, hfront, ?_, hrecog⟩
      intro byte hbyte
      apply hmaximal byte
      rw [head?_append, hbyte]
      rfl
    · exact absurd hrecog (hback token rest after hstandsBack)
  · rintro ⟨token, before, after, hstands, hmaximal, hrecog⟩
    refine ⟨token, before, after ++ 0x3A :: back, ⟨?_, hstands.token, hstands.start⟩, ?_, hrecog⟩
    · rw [hbytes, ← hstands.split]
      simp only [append_assoc]
    · intro byte hbyte
      cases after with
      | nil =>
        cases hbyte
        exact hcolon
      | cons first after =>
        cases hbyte
        exact hmaximal _ rfl

/-- A line with a sensitive key keeps what stands before its colon. -/
theorem redactLine_of_key (M : EntropyMeter) (h : hasSensitiveKey line = true) :
    redactLine M line = some (beforeColon line ++ (": " ++ redactionMarker)) := by
  obtain ⟨blank, happ, hblank, hlen⟩ := trimStart_append line
  rw [hasSensitiveKey] at h
  rw [redactLine]
  cases hsplit : splitOnce ':' (trimStart line) with
  | none =>
    rw [hsplit] at h
    cases h
  | some parts =>
    obtain ⟨key, rest⟩ := parts
    rw [hsplit] at h
    dsimp only at h ⊢
    have hslice : slice line 0 (byteLen blank) = some blank := by
      have hpiece := slice_append "" blank (trimStart line)
      rwa [String.empty_append, happ] at hpiece
    rw [if_pos h, ← hlen, hslice]
    have hkey : blank ++ key = beforeColon line := by
      have hcolon : ∀ c ∈ blank.toList, (c != ':') = true := by
        intro c hc
        rw [bne_iff_ne]
        rintro rfl
        exact absurd (hblank ':' hc) (by decide)
      rw [splitOnce] at hsplit
      split at hsplit
      · obtain ⟨rfl, _⟩ := Prod.mk.inj (Option.some.inj hsplit)
        have hchars : line.toList = blank.toList ++ (trimStart line).toList := by
          rw [← String.toList_append, happ]
        rw [beforeColon, hchars, takeWhile_append_of_pos hcolon, String.ofList_append,
          String.ofList_toList]
      · cases hsplit
    show some (blank ++ key ++ ": " ++ redactionMarker) = _
    rw [hkey, String.append_assoc]

theorem redactLine_of_passes (M : EntropyMeter) (h : hasSensitiveKey line = false) :
    redactLine M line = redactPasses M line := by
  rw [hasSensitiveKey] at h
  rw [redactLine]
  cases hsplit : splitOnce ':' (trimStart line) with
  | none => rfl
  | some parts =>
    rw [hsplit] at h
    dsimp only at h ⊢
    rw [h]
    rfl

end Lines

end LorePia.Evidence
