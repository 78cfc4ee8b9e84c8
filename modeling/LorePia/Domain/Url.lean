import LorePia.Domain.Text
import LorePia.Lib.Fallible

namespace LorePia

open Lib

/-!
# URLs and network addresses

URL parsing is the work of an external crate, so it is a parameter: `UrlCrate.parse` stands
for `Url::parse`, its error already rendered as text, and `ParsedUrl` for the parts of a
parsed URL that the core reads.  `HttpUrl`, `CanonicalOrigin` and `EndpointPath` are the
serialized forms that the core stores.
-/

/-- An absolute `http` or `https` URL, in serialized form. -/
structure HttpUrl where
  val : String
deriving DecidableEq

/-- A scheme, host and port, in serialized form. -/
structure CanonicalOrigin where
  val : String
deriving DecidableEq

/-- A normalized absolute endpoint path. -/
structure EndpointPath where
  val : String
deriving DecidableEq

/-- The parts of a parsed URL that the core reads. -/
structure ParsedUrl where
  scheme : String
  host : Option String
  username : String
  password : Option String
  path : String
  query : Option String
  fragment : Option String
  /-- `url.origin().ascii_serialization()`. -/
  originAscii : String

/-- The URL crate. -/
structure UrlCrate where
  parse : String → Except String ParsedUrl

/-- `CanonicalOrigin::parse`. -/
def CanonicalOrigin.parse (U : UrlCrate) (value : String) : Except String CanonicalOrigin := do
  let url ← U.parse value
  require (url.scheme = "http" ∨ url.scheme = "https") "only http and https origins are supported"
  require url.host.isSome "origin must contain a host"
  require (url.username = "" ∧ url.password = none) "origin must not contain embedded credentials"
  require (url.path = "/" ∧ url.query = none ∧ url.fragment = none)
    "origin must not contain a path, query, or fragment"
  return ⟨url.originAscii⟩

/-! ### Addresses -/

/-- `std::net::IpAddr`. -/
inductive IpAddr
  | v4 (a b c d : UInt8)
  | v6 (segments : Vector UInt16 8)
deriving DecidableEq

/-- `Ipv4Addr::is_private` and `Ipv6Addr::is_unique_local`. -/
def isPrivateNetworkAddress : IpAddr → Bool
  | .v4 a b _ _ => a == 10 || (a == 172 && 16 ≤ b && b ≤ 31) || (a == 192 && b == 168)
  | .v6 segments => segments[0] &&& 0xFE00 == 0xFC00

/-- The longest run of zero segments seen so far and the one being scanned, each as its start
    and length; an earlier run wins a tie. -/
private def zeroRunStep (acc : (Nat × Nat) × (Nat × Nat)) (item : UInt16 × Nat) :
    (Nat × Nat) × (Nat × Nat) :=
  if item.1 = 0 then
    let current := if acc.2.2 = 0 then (item.2, 1) else (acc.2.1, acc.2.2 + 1)
    (if acc.1.2 < current.2 then current else acc.1, current)
  else (acc.1, (0, 0))

private def showSegments (segments : List UInt16) : String :=
  String.intercalate ":" (segments.map fun n => String.ofList (Nat.toDigits 16 n.toNat))

/-- The `Display` form of an address: dotted IPv4, IPv6 with its longest zero run elided. -/
def IpAddr.display : IpAddr → String
  | .v4 a b c d => s!"{a}.{b}.{c}.{d}"
  | .v6 segments =>
    let list := segments.toList
    if list.take 5 = [0, 0, 0, 0, 0] ∧ segments[5] = 0xFFFF then
      s!"::ffff:{segments[6] >>> 8}.{segments[6] &&& 0xFF}.{segments[7] >>> 8}.{segments[7] &&& 0xFF}"
    else
      let run := (list.zipIdx.foldl zeroRunStep ((0, 0), (0, 0))).1
      if 1 < run.2 then
        showSegments (list.take run.1) ++ "::" ++ showSegments (list.drop (run.1 + run.2))
      else showSegments list

end LorePia
