import LorePia.Domain.Text
import LorePia.Lib.Scan

namespace LorePia

open Lib List Nat Option UInt32

/-!
# Slices

A slice of a `str` panics unless it begins and ends at a character boundary and lies in range.
The scanners of the core look at bytes, and slice where they stopped: after an ASCII byte, before
one, or at the end.

* `Boundary` — the boundaries, as the ways to cut a text in two;
* `boundary_before`, `boundary_after` — an ASCII byte has a boundary on both sides;
* `boundary_scan`, `boundary_scan_until` — so a scan over ASCII bytes, or up to one, stops at one;
* `slice_eq` — a slice between two boundaries is the piece between them.
-/

/-- `str::is_char_boundary`. -/
def isCharBoundary (value : String) (index : Nat) : Bool := (splitOff value index).isSome

/-- `&value[start..stop]`; `none` where the source panics. -/
def slice (value : String) (start stop : Nat) : Option String := do
  let (head, _) ← splitOff value stop
  let (_, piece) ← splitOff head start
  return piece

/-- `&value[start..]`. -/
def sliceFrom (value : String) (start : Nat) : Option String :=
  (splitOff value start).map Prod.snd

/-- `str::find`, a byte offset. -/
def findStr (value needle : String) : Option Nat := findIn (asBytes needle) (asBytes value)

/-- `bytes[start..].iter().position(p)`; `none` where the slice panics. -/
def positionFrom (p : UInt8 → Bool) (bytes : Bytes) (start : Nat) : Option (Option Nat) :=
  if start ≤ bytes.length then some ((bytes.drop start).findIdx? p) else none

/-- The greatest boundary that is not above an index. -/
def boundaryBelow (value : String) : Nat → Nat
  | 0 => 0
  | index + 1 => if isCharBoundary value (index + 1) then index + 1 else boundaryBelow value index

/-- `floor_char_boundary`. -/
def floorCharBoundary (value : String) (requested : Nat) : Nat :=
  boundaryBelow value (min requested (byteLen value))

/-! ### Boundaries -/

/-- A place at which a text can be cut. -/
def Boundary (value : String) (index : Nat) : Prop :=
  ∃ head tail, head ++ tail = value ∧ byteLen head = index

variable {value : String}

theorem splitOff_of_boundary (h : Boundary value i) :
    ∃ head tail, splitOff value i = some (head, tail) ∧ head ++ tail = value ∧
      byteLen head = i := by
  obtain ⟨head, tail, rfl, rfl⟩ := h
  exact ⟨head, tail, splitOff_append head tail, rfl, rfl⟩

theorem isCharBoundary_iff : isCharBoundary value i = true ↔ Boundary value i := by
  constructor
  · intro h
    obtain ⟨⟨head, tail⟩, hsplit⟩ := isSome_iff_exists.mp h
    obtain ⟨happ, hlen⟩ := splitOff_eq_some hsplit
    exact ⟨head, tail, happ, hlen⟩
  · intro h
    obtain ⟨head, tail, hsplit, _⟩ := splitOff_of_boundary h
    rw [isCharBoundary, hsplit]
    rfl

theorem Boundary.le (h : Boundary value i) : i ≤ byteLen value := by
  obtain ⟨head, tail, rfl, rfl⟩ := h
  rw [byteLen_append]
  exact le_add_right _ _

theorem boundary_zero (value : String) : Boundary value 0 :=
  ⟨"", value, String.empty_append, rfl⟩

theorem boundary_end (value : String) : Boundary value (byteLen value) :=
  ⟨value, "", String.append_empty, rfl⟩

/-- **Before an ASCII byte** there is a boundary. -/
theorem boundary_before (hbyte : (asBytes value)[i]? = some byte) (hascii : byte < 128) :
    Boundary value i := by
  rw [← isCharBoundary_iff]
  refine splitOff_isSome ?_ ?_
  · exact (List.getElem?_eq_some_iff.mp hbyte).1.le
  · intro first hfirst
    cases hbyte.symm.trans hfirst
    have hbits : ∀ n < 128, n &&& 128 = 0 := by decide
    have hnat : byte.toNat < 128 := UInt8.lt_iff_toNat_lt.mp hascii
    refine .inl (UInt8.toNat_inj.mp ?_)
    exact hbits byte.toNat hnat

/-- **After an ASCII byte** there is a boundary. -/
theorem boundary_after (hbyte : (asBytes value)[i]? = some byte) (hascii : byte < 128) :
    Boundary value (i + 1) := by
  obtain ⟨head, tail, rfl, rfl⟩ := boundary_before hbyte hascii
  rw [asBytes_append, byteLen, getElem?_append_right (Nat.le_refl _), Nat.sub_self] at hbyte
  -- the scalar that the byte begins is that byte
  cases hchars : tail.toList with
  | nil =>
    rw [asBytes, hchars] at hbyte
    cases hbyte
  | cons c cs =>
    have hpos : 0 < (String.utf8EncodeChar c).length := by
      rw [String.length_utf8EncodeChar]
      exact c.utf8Size_pos
    rw [asBytes, hchars, flatMap_cons, getElem?_append_left hpos] at hbyte
    have hone := (utf8EncodeChar_of_mem_ascii (mem_of_getElem? hbyte) hascii).1
    refine ⟨head ++ String.ofList [c], String.ofList cs, ?_, ?_⟩
    · rw [String.append_assoc, ← String.ofList_append, singleton_append, ← hchars,
        String.ofList_toList]
    · rw [byteLen_append]
      congr 1
      rw [byteLen, asBytes, String.toList_ofList, flatMap_singleton, hone]
      rfl

/-- The order of two cuts. -/
theorem Boundary.split (hi : Boundary value i) (hj : Boundary value j) (hij : i ≤ j) :
    ∃ head piece tail, head ++ piece ++ tail = value ∧ byteLen head = i ∧
      byteLen (head ++ piece) = j := by
  obtain ⟨head, rest, hhead, rfl⟩ := hi
  obtain ⟨head', tail, rfl, rfl⟩ := hj
  have hbegins : asBytes head <+: asBytes head' := by
    have hwhole : asBytes head <+: asBytes (head' ++ tail) :=
      ⟨asBytes rest, by rw [← asBytes_append, hhead]⟩
    have hwhole' : asBytes head' <+: asBytes (head' ++ tail) :=
      ⟨asBytes tail, by rw [asBytes_append]⟩
    exact prefix_of_prefix_length_le hwhole hwhole' hij
  obtain ⟨piece, rfl⟩ := exists_append_of_asBytes_prefix hbegins
  exact ⟨head, piece, tail, rfl, rfl, rfl⟩

theorem slice_append (head piece tail : String) :
    slice (head ++ piece ++ tail) (byteLen head) (byteLen (head ++ piece)) = some piece := by
  rw [slice, splitOff_append]
  show (splitOff (head ++ piece) (byteLen head)).bind _ = _
  rw [splitOff_append]
  rfl

/-- A slice is a piece of the text. -/
theorem slice_eq_some (h : slice value i j = some piece) :
    ∃ head tail, head ++ piece ++ tail = value ∧ byteLen head = i ∧
      byteLen (head ++ piece) = j := by
  obtain ⟨⟨front, tail⟩, hfront, h⟩ := Option.bind_eq_some_iff.mp h
  obtain ⟨⟨head, piece'⟩, hhead, h⟩ := bind_eq_some_iff.mp h
  cases h
  obtain ⟨happ, hlen⟩ := splitOff_eq_some hfront
  obtain ⟨happ', hlen'⟩ := splitOff_eq_some hhead
  exact ⟨head, tail, by rw [happ', happ], hlen', by rw [happ', hlen]⟩

/-- **A slice between two boundaries.** -/
theorem slice_eq (hi : Boundary value i) (hj : Boundary value j) (hij : i ≤ j) :
    ∃ head piece tail, slice value i j = some piece ∧ head ++ piece ++ tail = value ∧
      byteLen head = i ∧ byteLen (head ++ piece) = j := by
  obtain ⟨head, piece, tail, rfl, rfl, rfl⟩ := hi.split hj hij
  exact ⟨head, piece, tail, slice_append head piece tail, rfl, rfl, rfl⟩

theorem sliceFrom_eq (hi : Boundary value i) :
    ∃ head tail, sliceFrom value i = some tail ∧ head ++ tail = value ∧ byteLen head = i := by
  obtain ⟨head, tail, hsplit, happ, hlen⟩ := splitOff_of_boundary hi
  exact ⟨head, tail, by rw [sliceFrom, hsplit]; rfl, happ, hlen⟩

/-- The slice up to the end. -/
theorem sliceFrom_eq_slice (hi : Boundary value i) :
    ∃ rest, sliceFrom value i = some rest ∧ slice value i (byteLen value) = some rest := by
  obtain ⟨head, rest, hrest, rfl, rfl⟩ := sliceFrom_eq hi
  refine ⟨rest, hrest, ?_⟩
  have happ := slice_append head rest ""
  rwa [String.append_empty] at happ

theorem boundary_boundaryBelow (value : String) (index : Nat) :
    Boundary value (boundaryBelow value index) ∧ boundaryBelow value index ≤ index := by
  induction index with
  | zero => exact ⟨boundary_zero value, le_refl _⟩
  | succ index ih =>
    rw [boundaryBelow]
    by_cases h : isCharBoundary value (index + 1) = true
    · rw [if_pos h]
      exact ⟨isCharBoundary_iff.mp h, le_refl _⟩
    · rw [if_neg h]
      exact ⟨ih.1, ih.2.trans (le_succ _)⟩

theorem boundary_floorCharBoundary (value : String) (requested : Nat) :
    Boundary value (floorCharBoundary value requested) :=
  (boundary_boundaryBelow value _).1

theorem floorCharBoundary_le (value : String) (requested : Nat) :
    floorCharBoundary value requested ≤ requested :=
  (boundary_boundaryBelow value _).2.trans (min_le_left _ _)

theorem byteLen_ofList_singleton (c : Char) : byteLen (String.ofList [c]) = c.utf8Size := by
  rw [byteLen, asBytes, String.toList_ofList, flatMap_singleton, String.length_utf8EncodeChar]

/-- **The scalar at a boundary**, and the boundary behind it. -/
theorem exists_head_of_boundary (hi : Boundary value i) (hlt : i < byteLen value) :
    ∃ rest c, sliceFrom value i = some rest ∧ rest.toList.head? = some c ∧
      Boundary value (i + c.utf8Size) := by
  obtain ⟨head, rest, hrest, rfl, rfl⟩ := sliceFrom_eq hi
  cases hchars : rest.toList with
  | nil =>
    rw [String.toList_eq_nil_iff.mp hchars, String.append_empty] at hlt
    exact absurd hlt (lt_irrefl _)
  | cons c cs =>
    refine ⟨rest, c, hrest, ?_, head ++ String.ofList [c], String.ofList cs, ?_, ?_⟩
    · rw [hchars]
      rfl
    · rw [String.append_assoc, ← String.ofList_append, singleton_append, ← hchars,
        String.ofList_toList]
    · rw [byteLen_append, byteLen_ofList_singleton]

/-- Between the first and the last byte of a scalar there is no boundary. -/
theorem not_boundary_within {head tail : String} (hlow : byteLen head < i)
    (hhigh : i < byteLen head + c.utf8Size) :
    ¬ Boundary (head ++ (String.ofList [c] ++ tail)) i := by
  intro h
  have hhead : Boundary (head ++ (String.ofList [c] ++ tail)) (byteLen head) := ⟨head, _, rfl, rfl⟩
  obtain ⟨head', piece, tail', happ, hlen, hi⟩ := hhead.split h hlow.le
  have hsame : head' = head := by
    have hbytes : asBytes head' = asBytes head := by
      have htake := congrArg (fun text => (asBytes text).take (byteLen head)) happ
      simp only [asBytes_append, append_assoc] at htake
      rwa [← hlen, byteLen, take_left, ← byteLen, hlen, byteLen, take_left] at htake
    exact asBytes_injective hbytes
  subst hsame
  rw [byteLen_append] at hi
  rw [String.append_assoc] at happ
  have hrest : piece.toList ++ tail'.toList = c :: tail.toList := by
    have hchars := congrArg String.toList happ
    simp only [String.toList_append, String.toList_ofList, append_cancel_left_eq] at hchars
    exact hchars
  cases hpiece : piece.toList with
  | nil =>
    have hempty : byteLen piece = 0 := by rw [byteLen, asBytes, hpiece]; rfl
    omega
  | cons d ds =>
    rw [hpiece, cons_append] at hrest
    have hsize : c.utf8Size ≤ byteLen piece := by
      rw [byteLen, asBytes, hpiece, (List.cons.inj hrest).1, flatMap_cons, length_append,
        String.length_utf8EncodeChar]
      exact le_add_right _ _
    omega

theorem boundary_of_sliceFrom (h : sliceFrom value i = some rest) :
    Boundary value i := by
  obtain ⟨⟨head, _⟩, hsplit, rfl⟩ := map_eq_some_iff.mp h
  obtain ⟨happ, hlen⟩ := splitOff_eq_some hsplit
  exact ⟨head, _, happ, hlen⟩

/-! ### Where scans stop -/

/-- **A scan over ASCII bytes** stops at a boundary. -/
theorem boundary_scan (hp : ∀ byte, p byte = true → byte < 128) (hi : Boundary value i) :
    Boundary value (scanWhile p (asBytes value) i) := by
  rcases eq_or_lt_of_le (le_scan (p := p) (l := asBytes value) (i := i)) with heq | hlt
  · rw [← heq]
    exact hi
  · obtain ⟨byte, hbyte, hpass⟩ := exists_of_lt_scan (m := scanWhile p (asBytes value) i - 1)
      (by omega) (by omega : _ < scanWhile p (asBytes value) i)
    have hafter := boundary_after hbyte (hp byte hpass)
    rwa [Nat.sub_add_cancel (by omega)] at hafter

/-- **A scan up to an ASCII byte** stops at a boundary. -/
theorem boundary_scan_until (hp : ∀ byte, p byte = false → byte < 128) (hi : i ≤ byteLen value) :
    Boundary value (scanWhile p (asBytes value) i) := by
  have hle : scanWhile p (asBytes value) i ≤ byteLen value := scan_le hi
  rcases eq_or_lt_of_le hle with heq | hlt
  · rw [heq]
    exact boundary_end value
  · have hget : (asBytes value)[scanWhile p (asBytes value) i]? =
        some ((asBytes value)[scanWhile p (asBytes value) i]) := getElem?_eq_getElem hlt
    exact boundary_before hget (hp _ (not_of_getElem?_scan hget))

theorem positionFrom_eq (hi : i ≤ byteLen value) :
    positionFrom p (asBytes value) i = some (((asBytes value).drop i).findIdx? p) := if_pos hi

/-- A byte that is found from a place on. -/
theorem getElem?_of_findIdx? (h : ((asBytes value).drop i).findIdx? p = some k) :
    ∃ byte, (asBytes value)[i + k]? = some byte ∧ p byte = true := by
  obtain ⟨hlt, hp, _⟩ := findIdx?_eq_some_iff_getElem.mp h
  refine ⟨((asBytes value).drop i)[k], ?_, hp⟩
  rw [← getElem?_drop]
  exact getElem?_eq_getElem hlt

/-! ### Lowercase -/

theorem utf8Size_toLower (c : Char) : c.toLower.utf8Size = c.utf8Size := by
  delta Char.toLower
  by_cases h : c.val ≥ 'A'.val ∧ c.val ≤ 'Z'.val
  · rw [dif_pos h]
    have hhigh : c.val.toNat ≤ 90 := le_iff_toNat_le.mp h.2
    have hone : c.utf8Size = 1 := by
      rw [Char.utf8Size_eq_one_iff, le_iff_toNat_le]
      show c.val.toNat ≤ 127
      omega
    rw [hone, Char.utf8Size_eq_one_iff, le_iff_toNat_le]
    show (c.val + ('a'.val - 'A'.val)).toNat ≤ 127
    have hsum : (c.val + ('a'.val - 'A'.val)).toNat = c.val.toNat + 32 := by
      show (c.val.toNat + 32) % 2 ^ 32 = _
      omega
    omega
  · rw [dif_neg h]

theorem byteLen_toAsciiLowercase (value : String) :
    byteLen (toAsciiLowercase value) = byteLen value := by
  rw [byteLen, byteLen, asBytes, asBytes, toAsciiLowercase, String.toList_ofList]
  induction value.toList with
  | nil => rfl
  | cons c cs ih =>
    rw [map_cons, flatMap_cons, flatMap_cons, length_append,
      length_append, ih, String.length_utf8EncodeChar, String.length_utf8EncodeChar,
      utf8Size_toLower]

theorem toAsciiLowercase_append (a b : String) :
    toAsciiLowercase (a ++ b) = toAsciiLowercase a ++ toAsciiLowercase b := by
  rw [toAsciiLowercase, toAsciiLowercase, toAsciiLowercase, String.toList_append, map_append,
    String.ofList_append]

/-- **The lowercase text** has the boundaries of the text. -/
theorem boundary_toAsciiLowercase : Boundary (toAsciiLowercase value) i ↔ Boundary value i := by
  constructor
  · rintro ⟨head, tail, happ, rfl⟩
    have hchars : value.toList.map Char.toLower = head.toList ++ tail.toList := by
      rw [← String.toList_append, happ, toAsciiLowercase, String.toList_ofList]
    obtain ⟨before, behind, hvalue, hbef, _⟩ := map_eq_append_iff.mp hchars
    refine ⟨String.ofList before, String.ofList behind, ?_, ?_⟩
    · rw [← String.ofList_append, ← hvalue, String.ofList_toList]
    · have hhead : head = toAsciiLowercase (String.ofList before) := by
        rw [toAsciiLowercase, String.toList_ofList, hbef, String.ofList_toList]
      rw [hhead, byteLen_toAsciiLowercase]
  · rintro ⟨head, tail, rfl, rfl⟩
    exact ⟨toAsciiLowercase head, toAsciiLowercase tail, (toAsciiLowercase_append _ _).symm,
      byteLen_toAsciiLowercase head⟩

end LorePia
