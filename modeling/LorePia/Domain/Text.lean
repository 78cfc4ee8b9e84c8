import Mathlib.Data.List.DropRight
import Mathlib.Data.List.Infix

namespace LorePia

open List Nat Option UInt8

/-!
# Text

The operations of `str`, `String` and `char` that the core calls.  A Rust string is its
UTF-8 bytes; here it is a Lean `String`, and `asBytes` gives the bytes.  Lengths are byte
lengths (`byteLen`) or scalar counts (`charCount`), kept apart as in the source.
-/

variable {hay needle s : String} {cs : List Char} {n offset : Nat}

/-! ### Bytes and lengths -/

abbrev Bytes := List UInt8

/-- `str::as_bytes`. -/
def asBytes (s : String) : Bytes := s.toList.flatMap String.utf8EncodeChar

/-- `str::len`: the length in bytes. -/
def byteLen (s : String) : Nat := (asBytes s).length

/-- `str.chars().count()`. -/
def charCount (s : String) : Nat := s.toList.length

@[simp] theorem asBytes_empty : asBytes "" = [] := by simp [asBytes]

@[simp] theorem asBytes_append (s t : String) : asBytes (s ++ t) = asBytes s ++ asBytes t := by
  simp [asBytes]

@[simp] theorem byteLen_append (s t : String) : byteLen (s ++ t) = byteLen s + byteLen t := by
  simp [byteLen]

@[simp] theorem charCount_append (s t : String) :
    charCount (s ++ t) = charCount s + charCount t := by
  simp [charCount]

theorem asBytes_injective (h : asBytes s = asBytes t) : s = t := by
  have hs : s.toByteArray = t.toByteArray := by
    rw [← String.utf8Encode_toList, ← String.utf8Encode_toList, List.utf8Encode, List.utf8Encode]
    exact congrArg List.toByteArray h
  exact String.toByteArray_inj.mp hs

theorem asBytes_inj : asBytes s = asBytes t ↔ s = t :=
  ⟨asBytes_injective, congrArg asBytes⟩

@[simp] theorem asBytes_eq_nil : asBytes s = [] ↔ s = "" := by
  constructor
  · intro h
    exact asBytes_injective (h.trans asBytes_empty.symm)
  · rintro rfl
    exact asBytes_empty

/-- A string has at least one byte for each scalar. -/
theorem charCount_le_byteLen (s : String) : charCount s ≤ byteLen s := by
  rw [charCount, byteLen, asBytes]
  induction s.toList with
  | nil => simp
  | cons c cs ih =>
    have hc : 1 ≤ (String.utf8EncodeChar c).length := by
      rw [String.length_utf8EncodeChar]
      exact c.utf8Size_pos
    rw [flatMap_cons, length_append, length_cons]
    omega

/-- An ASCII string has one byte for each scalar. -/
theorem byteLen_of_ascii (h : ∀ c ∈ s.toList, c.val ≤ 127) :
    byteLen s = charCount s := by
  rw [charCount, byteLen, asBytes]
  generalize s.toList = cs at h
  induction cs with
  | nil => rfl
  | cons c cs ih =>
    rw [forall_mem_cons] at h
    have hc : (String.utf8EncodeChar c).length = 1 := by
      rw [String.length_utf8EncodeChar, Char.utf8Size_eq_one_iff]
      exact h.1
    rw [flatMap_cons, length_append, length_cons, ih h.2]
    omega

/-- The texts of a list, one after the other. -/
def concat : List String → String
  | [] => ""
  | s :: ss => s ++ concat ss

@[simp] theorem concat_nil : concat [] = "" := rfl

@[simp] theorem concat_cons (s : String) (ss : List String) : concat (s :: ss) = s ++ concat ss :=
  rfl

@[simp] theorem concat_append (ss ts : List String) : concat (ss ++ ts) = concat ss ++ concat ts := by
  induction ss with
  | nil => simp [concat]
  | cons s ss ih => simp [concat, ih, String.append_assoc]

/-! ### Searching -/

/-- `str::contains`: the needle's bytes are a contiguous part of the haystack's. -/
def strContains (hay needle : String) : Bool := decide (asBytes needle <:+: asBytes hay)

/-- `str::starts_with`. -/
def strStartsWith (s pre : String) : Bool := decide (asBytes pre <+: asBytes s)

/-- `str::ends_with`. -/
def strEndsWith (s suf : String) : Bool := decide (asBytes suf <:+ asBytes s)

@[simp] theorem strContains_iff :
    strContains hay needle = true ↔ asBytes needle <:+: asBytes hay := by
  simp [strContains]

theorem strContains_eq_false_iff :
    strContains hay needle = false ↔ ¬ asBytes needle <:+: asBytes hay := by
  simp [strContains]

/-- What a longer text does not contain, its beginning does not contain. -/
theorem strContains_of_append_eq_false
    (h : strContains (s ++ t) needle = false) : strContains s needle = false := by
  rw [strContains_eq_false_iff] at h ⊢
  intro hs
  rw [asBytes_append] at h
  exact h (hs.trans (prefix_append _ _).isInfix)

/-- `str::strip_prefix`. -/
def stripPrefix? (s pre : String) : Option String :=
  if pre.toList <+: s.toList then some (String.ofList (s.toList.drop pre.toList.length)) else none

/-- `str::split` at every character of a set. -/
def splitAt (separators : List Char) (s : String) : List String :=
  (s.toList.splitOnP (· ∈ separators)).map String.ofList

/-- `std::str::from_utf8`. -/
def fromUtf8 (bytes : Bytes) : Option String := String.fromUTF8? bytes.toByteArray

/-- A text is what its bytes decode to. -/
theorem fromUtf8_asBytes (s : String) : fromUtf8 (asBytes s) = some s := by
  have hbytes : (asBytes s).toByteArray = s.toByteArray := by
    rw [← String.utf8Encode_toList, List.utf8Encode]
    rfl
  rw [fromUtf8, hbytes, String.fromUTF8?, dif_pos s.isValidUTF8]
  rfl

theorem fromUtf8_eq_some :
    fromUtf8 bytes = some s ↔ bytes = asBytes s := by
  constructor
  · intro h
    rw [fromUtf8, String.fromUTF8?] at h
    by_cases hval : bytes.toByteArray.IsValidUTF8
    · rw [dif_pos hval] at h
      have hbytes : bytes.toByteArray = s.toByteArray := congrArg String.toByteArray (some.inj h)
      rw [← String.utf8Encode_toList, List.utf8Encode, toByteArray_inj] at hbytes
      exact hbytes
    · rw [dif_neg hval] at h
      cases h
  · rintro rfl
    exact fromUtf8_asBytes s

/-- An ASCII byte is the encoding of one scalar by itself. -/
theorem utf8EncodeChar_of_mem_ascii (hmem : byte ∈ String.utf8EncodeChar c) (hascii : byte < 128) :
    String.utf8EncodeChar c = [byte] ∧ c.toNat = byte.toNat := by
  have hlead : ∀ x y : UInt8, 128 ≤ y.toNat → ¬ x ||| y < 128 := by
    intro x y hy hlt
    have hle : y.toNat ≤ (x ||| y).toNat := by exact Nat.right_le_or
    have hlt : (x ||| y).toNat < 128 := lt_iff_toNat_lt.mp hlt
    omega
  rcases lt_or_ge 1 c.utf8Size with hsize | hsize
  · have hbd := c.utf8Size_le_four
    have hcases : c.utf8Size = 2 ∨ c.utf8Size = 3 ∨ c.utf8Size = 4 := by omega
    exfalso
    rcases hcases with h | h | h
    · rw [String.utf8EncodeChar_eq_cons_cons h] at hmem
      simp only [mem_cons, not_mem_nil, or_false] at hmem
      rcases hmem with rfl | rfl <;> exact hlead _ _ (by decide) hascii
    · rw [String.utf8EncodeChar_eq_cons_cons_cons h] at hmem
      simp only [mem_cons, not_mem_nil, or_false] at hmem
      rcases hmem with rfl | rfl | rfl <;> exact hlead _ _ (by decide) hascii
    · rw [String.utf8EncodeChar_eq_cons_cons_cons_cons h] at hmem
      simp only [mem_cons, not_mem_nil, or_false] at hmem
      rcases hmem with rfl | rfl | rfl | rfl <;> exact hlead _ _ (by decide) hascii
  · have hone : c.utf8Size = 1 := by
      have hpos := c.utf8Size_pos
      omega
    rw [String.utf8EncodeChar_eq_singleton hone] at hmem ⊢
    have hbyte := mem_singleton.mp hmem
    refine ⟨by rw [hbyte], ?_⟩
    have hval : c.val ≤ 127 := Char.utf8Size_eq_one_iff.mp hone
    have hnat : c.val.toNat ≤ 127 := UInt32.le_iff_toNat_le.mp hval
    rw [hbyte, UInt32.toNat_toUInt8, mod_eq_of_lt (by omega)]
    rfl

/-- A text without separators is its only piece. -/
theorem splitAt_eq_singleton (h : ∀ c ∈ s.toList, c ∉ separators) : splitAt separators s = [s] := by
  rw [splitAt, splitOnP_eq_singleton]
  · simp
  · simpa using h

/-! ### Character classes -/

/-- `char::is_control`: the general category `Cc`. -/
def isControl (c : Char) : Bool := c.val ≤ 0x1F || (0x7F ≤ c.val && c.val ≤ 0x9F)

/-- `char::is_whitespace`: the property `White_Space`. -/
def isWhitespace (c : Char) : Bool :=
  (0x09 ≤ c.val && c.val ≤ 0x0D) || c.val == 0x20 || c.val == 0x85 || c.val == 0xA0 ||
  c.val == 0x1680 || (0x2000 ≤ c.val && c.val ≤ 0x200A) || c.val == 0x2028 ||
  c.val == 0x2029 || c.val == 0x202F || c.val == 0x205F || c.val == 0x3000

/-- `char::is_ascii_alphanumeric`. -/
def isAsciiAlphanumeric (c : Char) : Bool :=
  ('a' ≤ c && c ≤ 'z') || ('A' ≤ c && c ≤ 'Z') || ('0' ≤ c && c ≤ '9')

/-- `str::to_ascii_lowercase`, which is also `char::to_lowercase` on ASCII input. -/
def toAsciiLowercase (s : String) : String := String.ofList (s.toList.map Char.toLower)

/-- `str::trim`. -/
def trim (s : String) : String :=
  String.ofList (((s.toList.dropWhile isWhitespace).reverse.dropWhile isWhitespace).reverse)

theorem trim_eq : trim s =
    String.ofList ((s.toList.dropWhile isWhitespace).rdropWhile isWhitespace) :=
  rfl

theorem trim_trim : trim (trim s) = trim s := by
  have hstart : ((s.toList.dropWhile isWhitespace).rdropWhile isWhitespace).dropWhile
      isWhitespace = (s.toList.dropWhile isWhitespace).rdropWhile isWhitespace := by
    rw [dropWhile_eq_self_iff]
    intro hpos
    have hpre := rdropWhile_prefix isWhitespace (s.toList.dropWhile isWhitespace)
    rw [hpre.getElem hpos]
    exact dropWhile_get_zero_not _ _ (hpos.trans_le hpre.length_le)
  rw [trim_eq, trim_eq, String.toList_ofList, hstart, rdropWhile_idempotent]

/-- A text without white space is trimmed. -/
theorem trim_eq_self (h : ∀ c ∈ s.toList, isWhitespace c = false) : trim s = s := by
  have hstart : s.toList.dropWhile isWhitespace = s.toList :=
    dropWhile_eq_self_iff.mpr fun hpos => by simp [h _ (getElem_mem hpos)]
  have hend : s.toList.rdropWhile isWhitespace = s.toList :=
    rdropWhile_eq_self_iff.mpr fun hne => by simp [h _ (getLast_mem hne)]
  rw [trim_eq, hstart, hend, String.ofList_toList]

/-- `value.chars().any(char::is_control)`. -/
def hasControl (s : String) : Bool := s.toList.any isControl

@[simp] theorem hasControl_append (s t : String) :
    hasControl (s ++ t) = (hasControl s || hasControl t) := by
  simp [hasControl]

/-! ### Splitting at a byte offset -/

/-- Cut a scalar list after `n` bytes, if that is a scalar boundary. -/
def splitScalars : List Char → Nat → Option (List Char × List Char)
  | cs, 0 => some ([], cs)
  | [], _ + 1 => none
  | c :: cs, n + 1 =>
    if c.utf8Size ≤ n + 1 then
      (splitScalars cs (n + 1 - c.utf8Size)).map fun p => (c :: p.1, p.2)
    else none

/-- `String::split_off`: the part kept and the part returned, or `none` where the source
    panics because the offset is not a character boundary. -/
def splitOff (s : String) (offset : Nat) : Option (String × String) :=
  (splitScalars s.toList offset).map fun p => (String.ofList p.1, String.ofList p.2)

/-- A cut keeps every scalar and falls after the given number of bytes. -/
theorem splitScalars_eq_some (h : splitScalars cs n = some q) :
    q.1 ++ q.2 = cs ∧ (q.1.flatMap String.utf8EncodeChar).length = n := by
  induction cs generalizing n q with
  | nil =>
    cases n with
    | zero =>
      cases h
      exact ⟨rfl, rfl⟩
    | succ n => cases h
  | cons c cs ih =>
    cases n with
    | zero =>
      cases h
      exact ⟨rfl, rfl⟩
    | succ n =>
      rw [splitScalars] at h
      by_cases hc : c.utf8Size ≤ n + 1
      · rw [if_pos hc, map_eq_some_iff] at h
        obtain ⟨q', hq', rfl⟩ := h
        obtain ⟨happ, hlen⟩ := ih hq'
        refine ⟨congrArg (c :: ·) happ, ?_⟩
        rw [flatMap_cons, length_append, String.length_utf8EncodeChar, hlen]
        omega
      · rw [if_neg hc] at h
        cases h

/-- A cut after the bytes of a beginning returns that beginning. -/
theorem splitScalars_append (taken rest : List Char) :
    splitScalars (taken ++ rest) (taken.flatMap String.utf8EncodeChar).length =
      some (taken, rest) := by
  induction taken with
  | nil => cases rest <;> rfl
  | cons c taken ih =>
    have hlen : (String.utf8EncodeChar c).length = c.utf8Size := String.length_utf8EncodeChar c
    have hpos : 0 < c.utf8Size := c.utf8Size_pos
    obtain ⟨n, hn⟩ : ∃ n, ((c :: taken).flatMap String.utf8EncodeChar).length = n + 1 := by
      rw [flatMap_cons, length_append, hlen]
      exact ⟨c.utf8Size - 1 + (taken.flatMap String.utf8EncodeChar).length, by omega⟩
    have hrest : n + 1 - c.utf8Size = (taken.flatMap String.utf8EncodeChar).length := by
      rw [← hn, flatMap_cons, length_append, hlen]
      omega
    have hle : c.utf8Size ≤ n + 1 := by
      rw [← hn, flatMap_cons, length_append, hlen]
      omega
    rw [hn, cons_append, splitScalars, if_pos hle, hrest, ih]
    rfl

/-- A cut succeeds at the end of the bytes and before every first byte of a scalar. -/
theorem splitScalars_isSome (hn : n ≤ (cs.flatMap String.utf8EncodeChar).length)
    (hfirst : ∀ byte, (cs.flatMap String.utf8EncodeChar)[n]? = some byte → byte.IsUTF8FirstByte) :
    (splitScalars cs n).isSome = true := by
  induction cs generalizing n with
  | nil =>
    have hn0 : n = 0 := le_zero.mp hn
    subst hn0
    rfl
  | cons c cs ih =>
    cases n with
    | zero => rfl
    | succ n =>
      rw [flatMap_cons] at hn hfirst
      have hlen : (String.utf8EncodeChar c).length = c.utf8Size := String.length_utf8EncodeChar c
      -- inside a scalar there are continuation bytes only
      have hc : c.utf8Size ≤ n + 1 := by
        by_contra hlt
        have hi : n + 1 < (String.utf8EncodeChar c).length := by omega
        have hbyte := hfirst _ (getElem?_eq_getElem (by rw [length_append]; omega))
        rw [getElem_append_left hi, isUTF8FirstByte_getElem_utf8EncodeChar] at hbyte
        omega
      rw [length_append] at hn
      rw [splitScalars, if_pos hc, isSome_map]
      refine ih (by omega) fun byte hbyte => hfirst byte ?_
      rw [getElem?_append_right (by omega), hlen]
      exact hbyte

/-- `split_off` keeps the text, and cuts where it was told to. -/
theorem splitOff_eq_some (h : splitOff s offset = some (a, b)) :
    a ++ b = s ∧ byteLen a = offset := by
  rw [splitOff, map_eq_some_iff] at h
  obtain ⟨q, hq, hab⟩ := h
  obtain ⟨happ, hlen⟩ := splitScalars_eq_some hq
  cases hab
  refine ⟨?_, ?_⟩
  · rw [← String.ofList_append, happ, String.ofList_toList]
  · rw [byteLen, asBytes, String.toList_ofList, hlen]

/-- `split_off` does not panic at the end, nor before the first byte of a scalar. -/
theorem splitOff_isSome (hle : offset ≤ byteLen s)
    (hfirst : ∀ byte, (asBytes s)[offset]? = some byte → byte.IsUTF8FirstByte) :
    (splitOff s offset).isSome = true := by
  rw [splitOff, isSome_map]
  exact splitScalars_isSome hle hfirst

/-- `split_off` after a beginning of a text returns that beginning. -/
theorem splitOff_append (a b : String) : splitOff (a ++ b) (byteLen a) = some (a, b) := by
  rw [splitOff, String.toList_append, byteLen, asBytes, splitScalars_append]
  simp

/-- A text starts with the first byte of a scalar. -/
theorem isUTF8FirstByte_head (h : (asBytes s)[0]? = some byte) :
    byte.IsUTF8FirstByte := by
  rw [asBytes] at h
  cases hs : s.toList with
  | nil =>
    rw [hs] at h
    cases h
  | cons c cs =>
    have hpos : 0 < (String.utf8EncodeChar c).length := by
      rw [String.length_utf8EncodeChar]
      exact c.utf8Size_pos
    rw [hs, flatMap_cons, getElem?_append_left hpos, getElem?_eq_getElem hpos] at h
    cases h
    exact isUTF8FirstByte_getElem_utf8EncodeChar.mpr rfl

/-- A text whose bytes start another text starts it scalar by scalar. -/
theorem exists_append_of_asBytes_prefix (h : asBytes a <+: asBytes s) :
    ∃ rest, s = a ++ rest := by
  obtain ⟨x, hx⟩ := h
  have hbytes : a.toList.utf8Encode ++ x.toByteArray = s.toList.utf8Encode := by
    rw [List.utf8Encode, List.utf8Encode, ← toByteArray_append]
    exact congrArg List.toByteArray hx
  obtain ⟨rest, hrest⟩ := isPrefix_of_utf8Encode_append_eq_utf8Encode x.toByteArray hbytes
  refine ⟨String.ofList rest, ?_⟩
  apply String.toList_injective
  rw [String.toList_append, String.toList_ofList, hrest]

end LorePia
