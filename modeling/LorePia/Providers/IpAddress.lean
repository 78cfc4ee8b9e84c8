import LorePia.Domain.Url
import LorePia.Lib.Block

namespace LorePia

open Lib Block Nat

/-!
# Classes of network addresses

`classify_ip_address` of the provider URL policy: a cascade of block tests over an address.
An IPv6 address that carries an IPv4 destination is read by that destination where the form
is one a host can route (IPv4-mapped, well-known NAT64), and refused where it is not.

* `classifyIpv6_eq_public_iff` says exactly which IPv6 addresses are public.
-/

variable {s : Ipv6Addr} {v : Ipv4Addr}

/-- `std::net::Ipv4Addr`, by its octets. -/
structure Ipv4Addr where
  a : UInt8
  b : UInt8
  c : UInt8
  d : UInt8

/-- `std::net::Ipv6Addr`, by its segments. -/
abbrev Ipv6Addr := Vector UInt16 8

variable (address : Ipv4Addr)

/-- `IpAddr::V4`. -/
def Ipv4Addr.toIpAddr : IpAddr :=
  .v4 address.a address.b address.c address.d

/-- `Ipv4Addr::octets`. -/
def Ipv4Addr.octets : Bytes :=
  [address.a, address.b, address.c, address.d]

/-- `u32::from` of an IPv4 address. -/
def Ipv4Addr.value : BitVec 32 :=
  address.a.toBitVec ++ address.b.toBitVec ++ address.c.toBitVec ++ address.d.toBitVec

inductive IpAddressClass
  | public_
  | unspecified
  | loopback
  | private_
  | linkLocal
  | carrierGradeNat
  | multicast
  | documentation
  | benchmark
  | metadata
  | reserved
deriving DecidableEq

/-! ### Block tests -/

/-- `ipv6_value`; `u128::from` of an IPv6 address is the same number. -/
def ipv6Value (segments : Ipv6Addr) : BitVec 128 :=
  ((segments.get 0).toBitVec.setWidth 128 <<< 112)
    ||| ((segments.get 1).toBitVec.setWidth 128 <<< 96)
    ||| ((segments.get 2).toBitVec.setWidth 128 <<< 80)
    ||| ((segments.get 3).toBitVec.setWidth 128 <<< 64)
    ||| ((segments.get 4).toBitVec.setWidth 128 <<< 48)
    ||| ((segments.get 5).toBitVec.setWidth 128 <<< 32)
    ||| ((segments.get 6).toBitVec.setWidth 128 <<< 16)
    ||| (segments.get 7).toBitVec.setWidth 128

/-- The mask of the first `length` of `w` bits; a shift by the whole width is avoided. -/
def prefixMask (w length : Nat) : BitVec w :=
  if length = 0 then 0 else BitVec.allOnes w <<< (w - length)

/-- `ipv4_in_prefix`. -/
def ipv4InPrefix (address network : BitVec 32) (length : Nat) : Bool :=
  address &&& prefixMask 32 length == network &&& prefixMask 32 length

/-- `ipv6_in_prefix`. -/
def ipv6InPrefix (address network : BitVec 128) (length : Nat) : Bool :=
  address &&& prefixMask 128 length == network &&& prefixMask 128 length

/-! ### Embedded addresses -/

/-- `ipv4_from_tail`. -/
def ipv4FromTail (high low : UInt16) : Ipv4Addr where
  a := (high >>> 8).toUInt8
  b := high.toUInt8
  c := (low >>> 8).toUInt8
  d := low.toUInt8

/-- `ipv4_mapped`. -/
def ipv4Mapped (address : Ipv6Addr) : Option Ipv4Addr :=
  if address.toList.take 5 = [0, 0, 0, 0, 0] ∧ address.get 5 = 0xffff then
    some (ipv4FromTail (address.get 6) (address.get 7))
  else none

/-- `well_known_nat64_ipv4`. -/
def wellKnownNat64Ipv4 (address : Ipv6Addr) : Option Ipv4Addr :=
  if address.toList.take 6 = [0x0064, 0xff9b, 0, 0, 0, 0] then
    some (ipv4FromTail (address.get 6) (address.get 7))
  else none

/-! ### Classes -/

/-- `classify_ipv4`. -/
def classifyIpv4 : IpAddressClass :=
  let value := address.value
  if address.octets ∈ [[169, 254, 169, 254], [169, 254, 170, 2], [100, 100, 100, 200],
      [168, 63, 129, 16], [192, 0, 0, 192]] then .metadata
  else if ipv4InPrefix value 0x00000000 8 then .unspecified
  else if ipv4InPrefix value 0x7f000000 8 then .loopback
  else if ipv4InPrefix value 0x0a000000 8 || ipv4InPrefix value 0xac100000 12
      || ipv4InPrefix value 0xc0a80000 16 then .private_
  else if ipv4InPrefix value 0xa9fe0000 16 then .linkLocal
  else if ipv4InPrefix value 0x64400000 10 then .carrierGradeNat
  else if ipv4InPrefix value 0xe0000000 4 then .multicast
  else if ipv4InPrefix value 0xc0000200 24 || ipv4InPrefix value 0xc6336400 24
      || ipv4InPrefix value 0xcb007100 24 then .documentation
  else if ipv4InPrefix value 0xc6120000 15 then .benchmark
  else if ipv4InPrefix value 0xc0000000 24 || ipv4InPrefix value 0xc0586300 24
      || ipv4InPrefix value 0xf0000000 4 then .reserved
  else .public_

/-- `is_globally_reachable_ietf_assignment`. -/
def isGloballyReachableIetfAssignment (address : BitVec 128) : Bool :=
  [ipv6Value #v[0x2001, 1, 0, 0, 0, 0, 0, 1], ipv6Value #v[0x2001, 1, 0, 0, 0, 0, 0, 2],
      ipv6Value #v[0x2001, 1, 0, 0, 0, 0, 0, 3]].contains address
    || ipv6InPrefix address (ipv6Value #v[0x2001, 3, 0, 0, 0, 0, 0, 0]) 32
    || ipv6InPrefix address (ipv6Value #v[0x2001, 4, 0x0112, 0, 0, 0, 0, 0]) 48
    || ipv6InPrefix address (ipv6Value #v[0x2001, 0x0020, 0, 0, 0, 0, 0, 0]) 28
    || ipv6InPrefix address (ipv6Value #v[0x2001, 0x0030, 0, 0, 0, 0, 0, 0]) 28

/-- `classify_ipv6`. -/
def classifyIpv6 (address : Ipv6Addr) : IpAddressClass :=
  if let some mapped := ipv4Mapped address then classifyIpv4 mapped
  else if address = #v[0, 0, 0, 0, 0, 0, 0, 0] then .unspecified
  else if address = #v[0, 0, 0, 0, 0, 0, 0, 1] then .loopback
  else
    let value := ipv6Value address
    if ipv6InPrefix value (ipv6Value #v[0xfd00, 0x0ec2, 0, 0, 0, 0, 0, 0]) 64
        && address.get 7 == 0x0254 then .metadata
    else if ipv6InPrefix value (ipv6Value #v[0xfc00, 0, 0, 0, 0, 0, 0, 0]) 7 then .private_
    else if ipv6InPrefix value (ipv6Value #v[0xfe80, 0, 0, 0, 0, 0, 0, 0]) 10 then .linkLocal
    else if ipv6InPrefix value (ipv6Value #v[0xff00, 0, 0, 0, 0, 0, 0, 0]) 8 then .multicast
    else if ipv6InPrefix value (ipv6Value #v[0x2001, 0x0db8, 0, 0, 0, 0, 0, 0]) 32
        || ipv6InPrefix value (ipv6Value #v[0x3fff, 0, 0, 0, 0, 0, 0, 0]) 20 then .documentation
    else if ipv6InPrefix value (ipv6Value #v[0x2001, 0x0002, 0, 0, 0, 0, 0, 0]) 48 then .benchmark
    else if let some translated := wellKnownNat64Ipv4 address then classifyIpv4 translated
    else if ipv6InPrefix value (ipv6Value #v[0x2001, 0, 0, 0, 0, 0, 0, 0]) 23
        && !isGloballyReachableIetfAssignment value then .reserved
    else if ipv6InPrefix value (ipv6Value #v[0x0100, 0, 0, 0, 0, 0, 0, 0]) 64
        || ipv6InPrefix value (ipv6Value #v[0x0064, 0xff9b, 1, 0, 0, 0, 0, 0]) 48
        || ipv6InPrefix value (ipv6Value #v[0x2002, 0, 0, 0, 0, 0, 0, 0]) 16
        || ipv6InPrefix value (ipv6Value #v[0x5f00, 0, 0, 0, 0, 0, 0, 0]) 16
        || ipv6InPrefix value (ipv6Value #v[0xfec0, 0, 0, 0, 0, 0, 0, 0]) 10
        || !ipv6InPrefix value (ipv6Value #v[0x2000, 0, 0, 0, 0, 0, 0, 0]) 3 then .reserved
    else .public_

/-- `classify_ip_address`. -/
def classifyIpAddress : IpAddr → IpAddressClass
  | .v4 a b c d => classifyIpv4 ⟨a, b, c, d⟩
  | .v6 segments => classifyIpv6 segments

/-- `is_public_ip_address`. -/
def isPublicIpAddress (address : IpAddr) : Bool := classifyIpAddress address == .public_

/-- `normalize_ip`. -/
def normalizeIp : IpAddr → IpAddr
  | .v6 segments => ((ipv4Mapped segments).map Ipv4Addr.toIpAddr).getD (.v6 segments)
  | .v4 a b c d => .v4 a b c d

/-! ### The value of an address -/

/-- A number whose low bits are free takes a smaller one by addition. -/
private theorem or_eq_add (ha : 2 ^ k ∣ a) (hb : b < 2 ^ k) : a ||| b = a + b := by
  obtain ⟨c, rfl⟩ := ha
  exact (Nat.two_pow_add_eq_or_of_lt hb c).symm

private theorem toNat_shifted (n : UInt16) (k : Nat) (hk : k ≤ 112) :
    (n.toBitVec.setWidth 128 <<< k).toNat = n.toNat * 2 ^ k := by
  have hn : n.toNat < 2 ^ 16 := n.toNat_lt
  have hpow : 2 ^ 16 * 2 ^ k ≤ 2 ^ 128 := by
    rw [← Nat.pow_add]
    exact Nat.pow_le_pow_right (by omega) (by omega)
  have hlt : n.toNat * 2 ^ k < 2 ^ 128 :=
    Nat.lt_of_lt_of_le (Nat.mul_lt_mul_of_pos_right hn (Nat.two_pow_pos k)) hpow
  have hset : (n.toBitVec.setWidth 128).toNat = n.toNat := by
    rw [BitVec.toNat_setWidth]
    exact mod_eq_of_lt (by have : n.toBitVec.toNat = n.toNat := rfl; omega)
  rw [BitVec.toNat_shiftLeft, hset, Nat.shiftLeft_eq, Nat.mod_eq_of_lt hlt]

/-- An address as a number: its segments are its digits. -/
theorem ipv6Value_toNat (s : Ipv6Addr) :
    (ipv6Value s).toNat = (s.get 0).toNat * 2 ^ 112 + (s.get 1).toNat * 2 ^ 96 + (s.get 2).toNat * 2 ^ 80
      + (s.get 3).toNat * 2 ^ 64 + (s.get 4).toNat * 2 ^ 48 + (s.get 5).toNat * 2 ^ 32 + (s.get 6).toNat * 2 ^ 16
      + (s.get 7).toNat := by
  have h1 := (s.get 1).toNat_lt
  have h2 := (s.get 2).toNat_lt
  have h3 := (s.get 3).toNat_lt
  have h4 := (s.get 4).toNat_lt
  have h5 := (s.get 5).toNat_lt
  have h6 := (s.get 6).toNat_lt
  have h7 := (s.get 7).toNat_lt
  have hlast : ((s.get 7).toBitVec.setWidth 128).toNat = (s.get 7).toNat := by
    simpa using toNat_shifted (s.get 7) 0 (by omega)
  unfold ipv6Value
  simp (disch := omega) only [BitVec.toNat_or, toNat_shifted, hlast]
  -- each segment lies below the bits of those before it
  rw [or_eq_add (b := (s.get 1).toNat * 2 ^ 96) (k := 112) (by omega) (by omega),
    or_eq_add (b := (s.get 2).toNat * 2 ^ 80) (k := 96) (by omega) (by omega),
    or_eq_add (b := (s.get 3).toNat * 2 ^ 64) (k := 80) (by omega) (by omega),
    or_eq_add (b := (s.get 4).toNat * 2 ^ 48) (k := 64) (by omega) (by omega),
    or_eq_add (b := (s.get 5).toNat * 2 ^ 32) (k := 48) (by omega) (by omega),
    or_eq_add (b := (s.get 6).toNat * 2 ^ 16) (k := 32) (by omega) (by omega),
    or_eq_add (b := (s.get 7).toNat) (k := 16) (by omega) (by omega)]

theorem toList_eq_segments (s : Ipv6Addr) :
    s.toList = [s.get 0, s.get 1, s.get 2, s.get 3, s.get 4, s.get 5, s.get 6, s.get 7] := by
  apply List.ext_getElem
  · simp
  · intro i h₁ h₂
    have hi : i < 8 := by simpa using h₁
    rcases i with _ | _ | _ | _ | _ | _ | _ | _ | i
    all_goals first | (exfalso; omega) | (simp; rfl)

/-! ### Blocks of the address plan -/

/-- The addresses that begin as `segments` do. -/
def ipv6Block (segments : Ipv6Addr) (length : Nat) : Block 128 := ⟨ipv6Value segments, length⟩

/-- `::ffff:0:0/96`. -/
def ipv4MappedBlock : Block 128 := ipv6Block #v[0, 0, 0, 0, 0, 0xffff, 0, 0] 96

/-- `::/96`. -/
def ipv4CompatibleBlock : Block 128 := ipv6Block #v[0, 0, 0, 0, 0, 0, 0, 0] 96

/-- `64:ff9b::/96`. -/
def wellKnownNat64Block : Block 128 := ipv6Block #v[0x0064, 0xff9b, 0, 0, 0, 0, 0, 0] 96

/-- `64:ff9b:1::/48`. -/
def localNat64Block : Block 128 := ipv6Block #v[0x0064, 0xff9b, 1, 0, 0, 0, 0, 0] 48

/-- `2002::/16`. -/
def sixToFourBlock : Block 128 := ipv6Block #v[0x2002, 0, 0, 0, 0, 0, 0, 0] 16

/-- `2001::/32`. -/
def teredoBlock : Block 128 := ipv6Block #v[0x2001, 0, 0, 0, 0, 0, 0, 0] 32

/-- `2000::/3`. -/
def globalUnicastBlock : Block 128 := ipv6Block #v[0x2000, 0, 0, 0, 0, 0, 0, 0] 3

/-- `2001:db8::/32` and `3fff::/20`. -/
def documentationBlocks : List (Block 128) :=
  [ipv6Block #v[0x2001, 0x0db8, 0, 0, 0, 0, 0, 0] 32, ipv6Block #v[0x3fff, 0, 0, 0, 0, 0, 0, 0] 20]

/-- `2001:2::/48`. -/
def benchmarkBlock : Block 128 := ipv6Block #v[0x2001, 0x0002, 0, 0, 0, 0, 0, 0] 48

/-- `2001::/23`, the protocol assignments of the IETF. -/
def ietfBlock : Block 128 := ipv6Block #v[0x2001, 0, 0, 0, 0, 0, 0, 0] 23

/-- The parts of `ietfBlock` that are reachable from everywhere. -/
def globalIetfBlocks : List (Block 128) :=
  [ipv6Block #v[0x2001, 1, 0, 0, 0, 0, 0, 1] 128, ipv6Block #v[0x2001, 1, 0, 0, 0, 0, 0, 2] 128,
    ipv6Block #v[0x2001, 1, 0, 0, 0, 0, 0, 3] 128, ipv6Block #v[0x2001, 3, 0, 0, 0, 0, 0, 0] 32,
    ipv6Block #v[0x2001, 4, 0x0112, 0, 0, 0, 0, 0] 48,
    ipv6Block #v[0x2001, 0x0020, 0, 0, 0, 0, 0, 0] 28,
    ipv6Block #v[0x2001, 0x0030, 0, 0, 0, 0, 0, 0] 28]

/-- The addresses that a host can reach as themselves. -/
structure GloballyReachable (v : BitVec 128) : Prop where
  unicast : v ∈ globalUnicastBlock
  documentation : ∀ b ∈ documentationBlocks, v ∉ b
  benchmark : v ∉ benchmarkBlock
  sixToFour : v ∉ sixToFourBlock
  ietf : v ∈ ietfBlock → ∃ b ∈ globalIetfBlocks, v ∈ b

/-- A mask test of the source is membership in a block. -/
theorem ipv6InPrefix_iff {v : BitVec 128} {segments : Ipv6Addr} {length : Nat}
    (hlength : length ≠ 0) :
    ipv6InPrefix v (ipv6Value segments) length = true ↔ v ∈ ipv6Block segments length := by
  unfold ipv6InPrefix prefixMask
  rw [if_neg hlength, beq_iff_eq]
  exact Block.and_mask_iff_mem (ipv6Block segments length) v

/-- The block of one address is that address. -/
theorem mem_ipv6Block_128 {v : BitVec 128} {segments : Ipv6Addr} :
    v ∈ ipv6Block segments 128 ↔ v = ipv6Value segments := by
  rw [Block.mem_iff]
  simp [ipv6Block]

theorem isGloballyReachableIetfAssignment_iff {v : BitVec 128} :
    isGloballyReachableIetfAssignment v = true ↔ ∃ b ∈ globalIetfBlocks, v ∈ b := by
  unfold isGloballyReachableIetfAssignment globalIetfBlocks
  simp only [Bool.or_eq_true, ipv6InPrefix_iff, List.contains_iff_mem, List.mem_cons,
    List.not_mem_nil, or_false, exists_eq_or_imp, exists_eq_left, mem_ipv6Block_128, ne_eq,
    OfNat.ofNat_ne_zero, not_false_eq_true, or_assoc]

/-! ### Embedded addresses and their blocks -/

theorem ipv4Mapped_mem (h : ipv4Mapped s = some v) :
    ipv6Value s ∈ ipv4MappedBlock := by
  unfold ipv4Mapped at h
  split at h
  case isFalse => cases h
  case isTrue hhead =>
    obtain ⟨hzero, hfive⟩ := hhead
    rw [toList_eq_segments] at hzero
    simp only [List.take_succ_cons, List.take_zero, List.cons.injEq, and_true] at hzero
    obtain ⟨h0, h1, h2, h3, h4⟩ := hzero
    have h6 := (s.get 6).toNat_lt
    have h7 := (s.get 7).toNat_lt
    rw [Block.mem_iff_div, ipv6Value_toNat, h0, h1, h2, h3, h4, hfive,
      show ipv4MappedBlock.network.toNat = 0xffff00000000 from by decide,
      show 128 - ipv4MappedBlock.length = 32 from rfl]
    simp only [show (0 : UInt16).toNat = 0 from rfl, show (0xffff : UInt16).toNat = 0xffff from rfl]
    omega

theorem wellKnownNat64Ipv4_mem
    (h : wellKnownNat64Ipv4 s = some v) : ipv6Value s ∈ wellKnownNat64Block := by
  unfold wellKnownNat64Ipv4 at h
  split at h
  case isFalse => cases h
  case isTrue hhead =>
    rw [toList_eq_segments] at hhead
    simp only [List.take_succ_cons, List.take_zero, List.cons.injEq, and_true] at hhead
    obtain ⟨h0, h1, h2, h3, h4, h5⟩ := hhead
    have h6 := (s.get 6).toNat_lt
    have h7 := (s.get 7).toNat_lt
    rw [Block.mem_iff_div, ipv6Value_toNat, h0, h1, h2, h3, h4, h5,
      show wellKnownNat64Block.network.toNat = 0x64ff9b000000000000000000000000 from by decide,
      show 128 - wellKnownNat64Block.length = 32 from rfl]
    simp only [show (0 : UInt16).toNat = 0 from rfl, show (0x64 : UInt16).toNat = 0x64 from rfl,
      show (0xff9b : UInt16).toNat = 0xff9b from rfl]
    omega

/-! ### What the cascade answers -/

private theorem ipv6InPrefix_of_not_mem {v : BitVec 128} {segments : Ipv6Addr} {length : Nat}
    (hlength : length ≠ 0) (h : v ∉ ipv6Block segments length) :
    ipv6InPrefix v (ipv6Value segments) length = false := by
  rw [Bool.eq_false_iff, ne_eq, ipv6InPrefix_iff hlength]
  exact h

/-- A test for a block that is disjoint from one the address lies in fails. -/
private theorem ipv6InPrefix_eq_false {v : BitVec 128} {b : Block 128} {segments : Ipv6Addr}
    {length : Nat} (hmem : v ∈ b) (hlength : length ≠ 0) (hlen : length ≤ b.length)
    (hnet : b.network ∉ ipv6Block segments length) :
    ipv6InPrefix v (ipv6Value segments) length = false :=
  ipv6InPrefix_of_not_mem hlength (Block.not_mem_of_mem hlen hnet hmem)

private theorem ipv4Mapped_eq_none {s : Ipv6Addr} (h : ipv6Value s ∉ ipv4MappedBlock) :
    ipv4Mapped s = none := by
  rcases hm : ipv4Mapped s with _ | v
  · rfl
  · exact absurd (ipv4Mapped_mem hm) h

private theorem wellKnownNat64Ipv4_eq_none {s : Ipv6Addr}
    (h : ipv6Value s ∉ wellKnownNat64Block) : wellKnownNat64Ipv4 s = none := by
  rcases hm : wellKnownNat64Ipv4 s with _ | v
  · rfl
  · exact absurd (wellKnownNat64Ipv4_mem hm) h

/-- An address whose value lies outside `::/96` is neither `::` nor `::1`. -/
private theorem ne_of_not_mem_compatible {s : Ipv6Addr} (h : ipv6Value s ∉ ipv4CompatibleBlock) :
    s ≠ #v[0, 0, 0, 0, 0, 0, 0, 0] ∧ s ≠ #v[0, 0, 0, 0, 0, 0, 0, 1] := by
  constructor
  · rintro rfl
    exact h (by decide)
  · rintro rfl
    exact h (by decide)

/-- An IPv4-mapped address has the class of the address it carries. -/
theorem classifyIpv6_of_mapped (h : ipv4Mapped s = some v) :
    classifyIpv6 s = classifyIpv4 v := by
  unfold classifyIpv6
  rw [h]

/-- A well-known NAT64 address has the class of the address it carries: no block tested before
    it meets the block it lies in. -/
theorem classifyIpv6_of_nat64 (h : wellKnownNat64Ipv4 s = some v) :
    classifyIpv6 s = classifyIpv4 v := by
  have hmem : ipv6Value s ∈ wellKnownNat64Block := wellKnownNat64Ipv4_mem h
  have hmapped : ipv4Mapped s = none :=
    ipv4Mapped_eq_none (Block.not_mem_of_mem (by decide) (by decide) hmem)
  obtain ⟨hzero, hone⟩ := ne_of_not_mem_compatible
    (Block.not_mem_of_mem (show _ ≤ 96 from by decide) (by decide) hmem)
  have hout : ∀ {segments : Ipv6Addr} {length : Nat}, length ≠ 0 → length ≤ 96 →
      wellKnownNat64Block.network ∉ ipv6Block segments length →
        ipv6InPrefix (ipv6Value s) (ipv6Value segments) length = false :=
    ipv6InPrefix_eq_false hmem
  simp only [classifyIpv6, hmapped, h]
  rw [if_neg hzero, if_neg hone, hout (by decide) (by decide) (by decide),
    hout (by decide) (by decide) (by decide), hout (by decide) (by decide) (by decide),
    hout (by decide) (by decide) (by decide), hout (by decide) (by decide) (by decide),
    hout (by decide) (by decide) (by decide), hout (by decide) (by decide) (by decide)]
  rfl

/-- An answer that is not that of the first branch comes from the second. -/
private theorem else_of_ite_eq {c : Prop} [Decidable c] {x y z : IpAddressClass}
    (h : (if c then x else y) = z) (hx : x ≠ z) : ¬ c ∧ y = z := by
  by_cases hc : c
  · rw [if_pos hc] at h
    exact absurd h hx
  · rw [if_neg hc] at h
    exact ⟨hc, h⟩

/-- An address that carries no routable IPv4 destination is public exactly when hosts can reach
    it as itself. -/
theorem classifyIpv6_of_native (hmapped : ipv4Mapped s = none)
    (hnat64 : wellKnownNat64Ipv4 s = none) :
    classifyIpv6 s = .public_ ↔ GloballyReachable (ipv6Value s) := by
  constructor
  · intro h
    simp only [classifyIpv6, hmapped, hnat64] at h
    -- no answer before the last is `public_`, so each test failed
    iterate 6 replace h := (else_of_ite_eq h (by decide)).2
    obtain ⟨hdoc, h⟩ := else_of_ite_eq h (by decide)
    obtain ⟨hbenchmark, h⟩ := else_of_ite_eq h (by decide)
    obtain ⟨hietf, h⟩ := else_of_ite_eq h (by decide)
    obtain ⟨hreserved, -⟩ := else_of_ite_eq h (by decide)
    simp only [Bool.or_eq_true, Bool.and_eq_true, Bool.not_eq_true', not_or, not_and,
      Bool.not_eq_false, ipv6InPrefix_iff, ne_eq, OfNat.ofNat_ne_zero, not_false_eq_true,
      isGloballyReachableIetfAssignment_iff] at hdoc hbenchmark hietf hreserved
    refine ⟨hreserved.2, ?_, hbenchmark, hreserved.1.1.1.2, hietf⟩
    intro b hb
    simp only [documentationBlocks, List.mem_cons, List.not_mem_nil, or_false] at hb
    rcases hb with rfl | rfl
    · exact hdoc.1
    · exact hdoc.2
  · intro h
    have hmem : ipv6Value s ∈ globalUnicastBlock := h.unicast
    obtain ⟨hzero, hone⟩ := ne_of_not_mem_compatible
      (Block.not_mem_of_mem' (show 3 ≤ 96 from by decide) (by decide) hmem)
    have hout : ∀ {segments : Ipv6Addr} {length : Nat}, 3 ≤ length →
        ipv6Value segments ∉ globalUnicastBlock →
        ipv6InPrefix (ipv6Value s) (ipv6Value segments) length = false :=
      fun hlen hnet => ipv6InPrefix_of_not_mem (by omega) (Block.not_mem_of_mem' hlen hnet hmem)
    have hdoc : ∀ {segments : Ipv6Addr} {length : Nat}, length ≠ 0 →
        ipv6Block segments length ∈ documentationBlocks →
        ipv6InPrefix (ipv6Value s) (ipv6Value segments) length = false :=
      fun hlength hb => ipv6InPrefix_of_not_mem hlength (h.documentation _ hb)
    have hunicast : ipv6InPrefix (ipv6Value s)
        (ipv6Value #v[0x2000, 0, 0, 0, 0, 0, 0, 0]) 3 = true :=
      (ipv6InPrefix_iff (by decide)).mpr h.unicast
    have hietf : (ipv6InPrefix (ipv6Value s) (ipv6Value #v[0x2001, 0, 0, 0, 0, 0, 0, 0]) 23
        && !isGloballyReachableIetfAssignment (ipv6Value s)) = false := by
      by_cases hin : ipv6Value s ∈ ietfBlock
      · rw [isGloballyReachableIetfAssignment_iff.mpr (h.ietf hin), Bool.not_true, Bool.and_false]
      · rw [Bool.eq_false_iff.mpr fun ht => hin ((ipv6InPrefix_iff (by decide)).mp ht),
          Bool.false_and]
    simp only [classifyIpv6, hmapped, hnat64]
    rw [if_neg hzero, if_neg hone, hout (by decide) (by decide), hout (by decide) (by decide),
      hout (by decide) (by decide), hout (by decide) (by decide),
      hdoc (by decide) (by simp [documentationBlocks]),
      hdoc (by decide) (by simp [documentationBlocks]),
      ipv6InPrefix_of_not_mem (by decide) h.benchmark, hietf, hout (by decide) (by decide),
      hout (by decide) (by decide), ipv6InPrefix_of_not_mem (by decide) h.sixToFour,
      hout (by decide) (by decide), hout (by decide) (by decide), hunicast]
    rfl

/-- **Public IPv6 addresses.** Those that carry a public IPv4 destination in one of the two
    routable forms, and the globally reachable unicast addresses. -/
theorem classifyIpv6_eq_public_iff (s : Ipv6Addr) :
    classifyIpv6 s = .public_ ↔
      (∃ v, (ipv4Mapped s = some v ∨ wellKnownNat64Ipv4 s = some v) ∧ classifyIpv4 v = .public_)
        ∨ GloballyReachable (ipv6Value s) := by
  rcases hmapped : ipv4Mapped s with _ | v
  · rcases hnat64 : wellKnownNat64Ipv4 s with _ | v
    · rw [classifyIpv6_of_native hmapped hnat64]
      simp
    · have hout : ¬ GloballyReachable (ipv6Value s) := fun h =>
        Block.not_mem_of_mem (by decide) (by decide) (wellKnownNat64Ipv4_mem hnat64) h.unicast
      rw [classifyIpv6_of_nat64 hnat64]
      simp [hout]
  · have hmem := ipv4Mapped_mem hmapped
    have hout : ¬ GloballyReachable (ipv6Value s) := fun h =>
      Block.not_mem_of_mem (by decide) (by decide) hmem h.unicast
    have hnat64 : wellKnownNat64Ipv4 s = none :=
      wellKnownNat64Ipv4_eq_none (Block.not_mem_of_mem (by decide) (by decide) hmem)
    rw [classifyIpv6_of_mapped hmapped, hnat64]
    simp [hout]

/-! ### Embedding IPv4 addresses -/

/-- The last two segments of an address that ends in an IPv4 address. -/
def Ipv4Addr.tail (v : Ipv4Addr) : UInt16 × UInt16 :=
  (v.a.toUInt16 <<< 8 ||| v.b.toUInt16, v.c.toUInt16 <<< 8 ||| v.d.toUInt16)

/-- `::ffff:a.b.c.d`. -/
def Ipv4Addr.toIpv6Mapped (v : Ipv4Addr) : Ipv6Addr :=
  #v[0, 0, 0, 0, 0, 0xffff, v.tail.1, v.tail.2]

/-- `64:ff9b::a.b.c.d`. -/
def Ipv4Addr.toNat64 (v : Ipv4Addr) : Ipv6Addr :=
  #v[0x0064, 0xff9b, 0, 0, 0, 0, v.tail.1, v.tail.2]

variable (a : UInt8)

private theorem octets_toNat (b : UInt8) :
    (a.toUInt16 <<< 8 ||| b.toUInt16).toNat = a.toNat * 256 + b.toNat := by
  have ha := a.toNat_lt
  have hb := b.toNat_lt
  rw [UInt16.toNat_or, UInt16.toNat_shiftLeft]
  simp only [UInt8.toNat_toUInt16, Nat.shiftLeft_eq]
  rw [show (8 : UInt16).toNat % 16 = 8 from rfl, Nat.mod_eq_of_lt (by omega), Nat.mul_comm,
    ← Nat.two_pow_add_eq_or_of_lt (i := 8) hb a.toNat]

private theorem high_octet (b : UInt8) :
    ((a.toUInt16 <<< 8 ||| b.toUInt16) >>> 8).toUInt8 = a := by
  have ha := a.toNat_lt
  have hb := b.toNat_lt
  apply UInt8.toNat_inj.mp
  rw [UInt16.toNat_toUInt8, UInt16.toNat_shiftRight, octets_toNat,
    show (8 : UInt16).toNat % 16 = 8 from rfl, shiftRight_eq_div_pow]
  omega

private theorem low_octet (b : UInt8) : (a.toUInt16 <<< 8 ||| b.toUInt16).toUInt8 = b := by
  have hb := b.toNat_lt
  apply UInt8.toNat_inj.mp
  rw [UInt16.toNat_toUInt8, octets_toNat]
  omega

private theorem octets_eq (n : UInt16) :
    ((n >>> 8).toUInt8.toUInt16 <<< 8 ||| n.toUInt8.toUInt16) = n := by
  have hn := n.toNat_lt
  apply UInt16.toNat_inj.mp
  rw [octets_toNat, UInt16.toNat_toUInt8, UInt16.toNat_toUInt8, UInt16.toNat_shiftRight,
    show (8 : UInt16).toNat % 16 = 8 from rfl, shiftRight_eq_div_pow]
  omega

theorem ipv4FromTail_tail (v : Ipv4Addr) : ipv4FromTail v.tail.1 v.tail.2 = v := by
  unfold ipv4FromTail Ipv4Addr.tail
  rw [high_octet, low_octet, high_octet, low_octet]

theorem tail_ipv4FromTail (high low : UInt16) : (ipv4FromTail high low).tail = (high, low) := by
  unfold ipv4FromTail Ipv4Addr.tail
  rw [octets_eq, octets_eq]

theorem ipv4Mapped_toIpv6Mapped (v : Ipv4Addr) : ipv4Mapped v.toIpv6Mapped = some v := by
  unfold ipv4Mapped
  exact congrArg some (ipv4FromTail_tail v)

theorem wellKnownNat64Ipv4_toNat64 (v : Ipv4Addr) : wellKnownNat64Ipv4 v.toNat64 = some v := by
  unfold wellKnownNat64Ipv4
  exact congrArg some (ipv4FromTail_tail v)

/-- An address with its segments written out. -/
private theorem eq_segments (s : Ipv6Addr) :
    s = #v[s.get 0, s.get 1, s.get 2, s.get 3, s.get 4, s.get 5, s.get 6, s.get 7] := by
  apply Vector.toList_inj.mp
  rw [toList_eq_segments]
  rfl

private theorem toIpv6Mapped_of_tail {high low : UInt16} (h : v.tail = (high, low)) :
    v.toIpv6Mapped = #v[0, 0, 0, 0, 0, 0xffff, high, low] := by
  unfold Ipv4Addr.toIpv6Mapped
  rw [h]

private theorem toNat64_of_tail {high low : UInt16} (h : v.tail = (high, low)) :
    v.toNat64 = #v[0x0064, 0xff9b, 0, 0, 0, 0, high, low] := by
  unfold Ipv4Addr.toNat64
  rw [h]

/-- Only `::ffff:a.b.c.d` is read as IPv4-mapped. -/
theorem eq_toIpv6Mapped (h : ipv4Mapped s = some v) :
    s = v.toIpv6Mapped := by
  unfold ipv4Mapped at h
  split at h
  case isFalse => cases h
  case isTrue hhead =>
    obtain ⟨hzero, hfive⟩ := hhead
    cases h
    rw [toList_eq_segments] at hzero
    simp only [List.take_succ_cons, List.take_zero, List.cons.injEq, and_true] at hzero
    obtain ⟨h0, h1, h2, h3, h4⟩ := hzero
    calc s = #v[s.get 0, s.get 1, s.get 2, s.get 3, s.get 4, s.get 5, s.get 6, s.get 7] := eq_segments s
      _ = (#v[0, 0, 0, 0, 0, 0xffff, s.get 6, s.get 7] : Ipv6Addr) := by rw [h0, h1, h2, h3, h4, hfive]
      _ = (ipv4FromTail (s.get 6) (s.get 7)).toIpv6Mapped :=
        (toIpv6Mapped_of_tail (tail_ipv4FromTail (s.get 6) (s.get 7))).symm

/-- Only `64:ff9b::a.b.c.d` is read as well-known NAT64. -/
theorem eq_toNat64 (h : wellKnownNat64Ipv4 s = some v) :
    s = v.toNat64 := by
  unfold wellKnownNat64Ipv4 at h
  split at h
  case isFalse => cases h
  case isTrue hhead =>
    cases h
    rw [toList_eq_segments] at hhead
    simp only [List.take_succ_cons, List.take_zero, List.cons.injEq, and_true] at hhead
    obtain ⟨h0, h1, h2, h3, h4, h5⟩ := hhead
    calc s = #v[s.get 0, s.get 1, s.get 2, s.get 3, s.get 4, s.get 5, s.get 6, s.get 7] := eq_segments s
      _ = (#v[0x0064, 0xff9b, 0, 0, 0, 0, s.get 6, s.get 7] : Ipv6Addr) := by
        rw [h0, h1, h2, h3, h4, h5]
      _ = (ipv4FromTail (s.get 6) (s.get 7)).toNat64 :=
        (toNat64_of_tail (tail_ipv4FromTail (s.get 6) (s.get 7))).symm

/-- An address outside the two routable forms and the reachable unicast addresses is not public. -/
theorem classifyIpv6_ne_public
    (hmapped : ipv6Value s ∉ ipv4MappedBlock) (hnat64 : ipv6Value s ∉ wellKnownNat64Block)
    (hnative : ¬ GloballyReachable (ipv6Value s)) : classifyIpv6 s ≠ .public_ := by
  rw [ne_eq, classifyIpv6_eq_public_iff, ipv4Mapped_eq_none hmapped,
    wellKnownNat64Ipv4_eq_none hnat64]
  simp [hnative]

/-- Reducing a mapped address to the IPv4 address it carries leaves its class as it is. -/
theorem classifyIpAddress_normalizeIp (address : IpAddr) :
    classifyIpAddress address = classifyIpAddress (normalizeIp address) := by
  cases address with
  | v4 a b c d => rfl
  | v6 s =>
    rcases h : ipv4Mapped s with _ | v
    · simp only [normalizeIp, h, Option.map_none, Option.getD_none]
    · simp only [normalizeIp, h, Option.map_some, Option.getD_some]
      exact classifyIpv6_of_mapped h

/-- **Classes of embedded addresses.** An address that carries an IPv4 destination in a form
    that hosts route has the class of that destination; in the forms they do not route it is
    never public; every other public address is global unicast, outside the blocks set apart
    for documentation, benchmarks and the IETF's local assignments; and a class does not depend
    on whether the address was normalized. -/
theorem classifyIpAddress_embedded :
    (∀ v : Ipv4Addr, classifyIpAddress (.v6 v.toIpv6Mapped) = classifyIpAddress v.toIpAddr) ∧
    (∀ v : Ipv4Addr, classifyIpAddress (.v6 v.toNat64) = classifyIpAddress v.toIpAddr) ∧
    (∀ s : Ipv6Addr, ipv6Value s ∈ ipv4CompatibleBlock ∨ ipv6Value s ∈ sixToFourBlock ∨
      ipv6Value s ∈ teredoBlock ∨ ipv6Value s ∈ localNat64Block →
        classifyIpAddress (.v6 s) ≠ .public_) ∧
    (∀ s : Ipv6Addr, classifyIpAddress (.v6 s) = .public_ →
      (∀ v : Ipv4Addr, s ≠ v.toIpv6Mapped ∧ s ≠ v.toNat64) →
        ipv6Value s ∈ globalUnicastBlock ∧ (∀ b ∈ documentationBlocks, ipv6Value s ∉ b) ∧
        ipv6Value s ∉ benchmarkBlock ∧
        (ipv6Value s ∈ ietfBlock → ∃ b ∈ globalIetfBlocks, ipv6Value s ∈ b)) ∧
    ∀ address : IpAddr, classifyIpAddress address = classifyIpAddress (normalizeIp address) := by
  refine ⟨?_, ?_, ?_, ?_, classifyIpAddress_normalizeIp⟩
  · intro v
    exact classifyIpv6_of_mapped (ipv4Mapped_toIpv6Mapped v)
  · intro v
    exact classifyIpv6_of_nat64 (wellKnownNat64Ipv4_toNat64 v)
  · intro s hblock
    show classifyIpv6 s ≠ .public_
    rcases hblock with hmem | hmem | hmem | hmem
    · exact classifyIpv6_ne_public (not_mem_of_mem (by decide) (by decide) hmem)
        (not_mem_of_mem (by decide) (by decide) hmem)
        fun h => not_mem_of_mem (by decide) (by decide) hmem h.unicast
    · exact classifyIpv6_ne_public (not_mem_of_mem' (by decide) (by decide) hmem)
        (not_mem_of_mem' (by decide) (by decide) hmem) fun h => h.sixToFour hmem
    · refine classifyIpv6_ne_public (not_mem_of_mem' (by decide) (by decide) hmem)
        (not_mem_of_mem' (by decide) (by decide) hmem) fun h => ?_
      -- Teredo lies in the block of the IETF and meets none of its reachable parts
      obtain ⟨b, hb, hin⟩ := h.ietf (mem_of_mem (by decide) (by decide) hmem)
      simp only [globalIetfBlocks, List.mem_cons, List.not_mem_nil, or_false] at hb
      rcases hb with rfl | rfl | rfl | rfl | rfl | rfl | rfl
      all_goals first
        | exact not_mem_of_mem' (by decide) (by decide) hmem hin
        | exact not_mem_of_mem (by decide) (by decide) hmem hin
    · exact classifyIpv6_ne_public (not_mem_of_mem' (by decide) (by decide) hmem)
        (not_mem_of_mem' (by decide) (by decide) hmem)
        fun h => not_mem_of_mem (by decide) (by decide) hmem h.unicast
  · intro s hpublic hform
    have hnative : GloballyReachable (ipv6Value s) := by
      rcases (classifyIpv6_eq_public_iff s).mp hpublic with ⟨v, hv, -⟩ | h
      · rcases hv with hv | hv
        · exact absurd (eq_toIpv6Mapped hv) (hform v).1
        · exact absurd (eq_toNat64 hv) (hform v).2
      · exact h
    exact ⟨hnative.unicast, hnative.documentation, hnative.benchmark, hnative.ietf⟩

/-- The metadata service stays what it is behind NAT64, and is not public behind 6to4. -/
theorem classifyIpAddress_embedded_metadata :
    classifyIpAddress (.v6 (Ipv4Addr.mk 169 254 169 254).toNat64) = .metadata ∧
      classifyIpAddress (.v6 #v[0x2002, 0xa9fe, 0xa9fe, 0, 0, 0, 0, 0]) ≠ .public_ :=
  ⟨(classifyIpAddress_embedded.2.1 _).trans (by decide),
    classifyIpAddress_embedded.2.2.1 _ (Or.inr (Or.inl (by decide)))⟩

end LorePia
