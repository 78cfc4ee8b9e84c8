import LorePia.Lib.Canonical
import LorePia.Lib.Search
import LorePia.Providers.IpAddress

namespace LorePia.Network

open Lib List

/-!
# The network policy

Which addresses a request may go to: public ones, loopback ones, or the exact addresses of one
approved local-network origin.  The DNS answers for a host are checked against the policy once
and pinned; a later lookup and the connected peer are compared with the pinned set.

All address sets are kept the same way (`AddressSet`): normalized, sorted, without repetitions,
and searched by halving.

* `AddressSet.contains_iff` — the search decides membership;
* `validateAddressWithPolicy_ok` — which single addresses pass;
* `validateDnsAnswersWithPolicy_iff` — which answer lists pass, and what a pinned set then
  accepts.
-/

variable {validated : ValidatedDnsAnswers} {address : IpAddr} {addresses : List IpAddr}
  {approval : ApprovedLocalNetworkOrigin} {origin : String} {scan : AnswerScan} {set : AddressSet}

/-! ### Types -/

inductive UrlPolicyError
  | emptyUrl
  | urlTooLong
  | invalidUrl (error : String)
  | embeddedControlCharacter
  | unsupportedScheme
  | userInfoNotAllowed
  | missingHost
  | invalidHost
  | hostTooLong
  | invalidPort
  | disallowedIpAddress (address : IpAddr) (addressClass : IpAddressClass)
  | emptyDnsAnswers
  | tooManyDnsAnswers
  | mixedDnsAddressScopes
  | dnsAnswersChanged
  | peerAddressNotValidated
  | lanApprovalMustBeOrigin
  | lanApprovalRequiresPrivateAddresses
  | lanOriginAddressNotApproved
deriving DecidableEq

inductive OriginScheme
  | http
  | https
deriving DecidableEq

structure CanonicalOrigin where
  scheme : OriginScheme
  host : String
  port : UInt16
deriving DecidableEq

/-- `url::Host`. -/
inductive Host
  | domain (name : String)
  | ipv4 (address : Ipv4Addr)
  | ipv6 (address : Ipv6Addr)

/-- The parts of a `url::Url` that an approval reads. -/
structure Url where
  scheme : String
  cannotBeABase : Bool
  username : String
  password : Option String
  host : Option Host
  hostStr : Option String
  port : Option UInt16
  portOrKnownDefault : Option UInt16
  path : String
  query : Option String
  fragment : Option String

/-- The URL crate; `setHost` answers `none` for an error. -/
structure UrlCrate where
  parse : String → Except String Url
  setHost : Url → String → Option Url

/-! ### Sets of addresses -/

/-- The order of `IpAddr`: IPv4 first, then by octets or segments. -/
def ipOrder : IpAddr → List Nat
  | .v4 a b c d => [4, a.toNat, b.toNat, c.toNat, d.toNat]
  | .v6 segments => 6 :: segments.toList.map UInt16.toNat

theorem ipOrder_injective : Function.Injective ipOrder := by
  intro address address' h
  cases address with
  | v4 a b c d =>
    cases address' with
    | v4 a' b' c' d' =>
      simp only [ipOrder, List.cons.injEq, and_true, true_and] at h
      obtain ⟨ha, hb, hc, hd⟩ := h
      rw [UInt8.toNat_inj.mp ha, UInt8.toNat_inj.mp hb, UInt8.toNat_inj.mp hc,
        UInt8.toNat_inj.mp hd]
    | v6 segments' => simp [ipOrder] at h
  | v6 segments =>
    cases address' with
    | v4 a' b' c' d' => simp [ipOrder] at h
    | v6 segments' =>
      simp only [ipOrder, List.cons.injEq, true_and] at h
      have hinj : Function.Injective UInt16.toNat := fun a b hab => UInt16.toNat_inj.mp hab
      rw [Vector.toList_inj.mp (map_injective_iff.mpr hinj h)]

@[simp] theorem normalizeIp_normalizeIp (address : IpAddr) :
    normalizeIp (normalizeIp address) = normalizeIp address := by
  cases address with
  | v4 a b c d => rfl
  | v6 segments =>
    cases hmapped : ipv4Mapped segments with
    | none => simp [normalizeIp, hmapped]
    | some mapped => simp [normalizeIp, hmapped, Ipv4Addr.toIpAddr]

/-- Normalized addresses, in strict order. -/
structure AddressSet where
  addresses : List IpAddr
  normalized : ∀ address ∈ addresses, normalizeIp address = address
  sorted : addresses.Pairwise fun a b => ipOrder a < ipOrder b
deriving DecidableEq

/-- Normalize, `sort_unstable` and `dedup`. -/
def AddressSet.ofAnswers (answers : List IpAddr) : AddressSet where
  addresses := canonical ipOrder (answers.map normalizeIp)
  normalized := by
    intro address haddress
    rw [mem_canonical, mem_map] at haddress
    obtain ⟨original, _, rfl⟩ := haddress
    exact normalizeIp_normalizeIp original
  sorted := pairwise_lt_canonical ipOrder_injective

/-- `binary_search(&normalize_ip(address)).is_ok()`. -/
def AddressSet.contains (set : AddressSet) (address : IpAddr) : Bool :=
  (binarySearch ipOrder set.addresses (ipOrder (normalizeIp address))).isOk

theorem AddressSet.ext_addresses (h : set.addresses = set'.addresses) :
    set = set' := by
  cases set
  cases set'
  cases h
  rfl

@[simp] theorem AddressSet.mem_ofAnswers :
    address ∈ (AddressSet.ofAnswers answers).addresses ↔ ∃ x ∈ answers, normalizeIp x = address := by
  rw [ofAnswers, mem_canonical, mem_map]

/-- **The search decides membership.** -/
theorem AddressSet.contains_iff :
    set.contains address = true ↔ normalizeIp address ∈ set.addresses :=
  isOk_binarySearch_key ipOrder_injective (set.sorted.imp fun h => le_of_lt h)

open AddressSet

/-- Two lists of answers have one set iff they have the same normalized answers. -/
theorem AddressSet.ofAnswers_eq_iff :
    ofAnswers answers = ofAnswers answers' ↔
      ∀ address, (∃ x ∈ answers, normalizeIp x = address) ↔
        ∃ x ∈ answers', normalizeIp x = address := by
  have hmem : ∀ (l : List IpAddr) (address : IpAddr),
      address ∈ l.map normalizeIp ↔ ∃ x ∈ l, normalizeIp x = address := by
    intro l address
    rw [mem_map]
  constructor
  · intro h address
    rw [← mem_ofAnswers, h, mem_ofAnswers]
  · intro h
    apply ext_addresses
    refine (canonical_eq_iff ipOrder_injective).mpr fun address => ?_
    rw [hmem, hmem]
    exact h address

/-! ### Texts of addresses -/

variable (text : List Char)

/-- A decimal octet without leading zeros. -/
def parseOctet : Option UInt8 :=
  let value := text.foldl (fun n c => n * 10 + (c.toNat - '0'.toNat)) 0
  if text ≠ [] ∧ text.length ≤ 3 ∧ text.all Char.isDigit ∧
      (text.length = 1 ∨ text.head? ≠ some '0') ∧ value ≤ 255 then
    some (UInt8.ofNat value)
  else none

/-- `Ipv4Addr::from_str`. -/
def parseIpv4 : Option Ipv4Addr :=
  match (text.splitOn '.').map parseOctet with
  | [some a, some b, some c, some d] => some ⟨a, b, c, d⟩
  | _ => none

def hexDigit (c : Char) : Option Nat :=
  if '0' ≤ c ∧ c ≤ '9' then some (c.toNat - '0'.toNat)
  else if 'a' ≤ c ∧ c ≤ 'f' then some (c.toNat - 'a'.toNat + 10)
  else if 'A' ≤ c ∧ c ≤ 'F' then some (c.toNat - 'A'.toNat + 10)
  else none

/-- One to four hexadecimal digits. -/
def parseSegment : Option UInt16 := do
  let digits ← text.mapM hexDigit
  guard (digits ≠ [] ∧ digits.length ≤ 4)
  return UInt16.ofNat (digits.foldl (fun n digit => n * 16 + digit) 0)

/-- The segments between colons; an IPv4 address may stand for the last two. -/
def parseSegments (ipv4 : Bool) : List (List Char) → Option (List UInt16)
  | [] => some []
  | [last] =>
    match parseSegment last with
    | some segment => some [segment]
    | none => if ipv4 then (parseIpv4 last).map fun v => [v.tail.1, v.tail.2] else none
  | text :: rest => do
    let segment ← parseSegment text
    let segments ← parseSegments ipv4 rest
    return segment :: segments

/-- What stands before and after the first `::`. -/
def splitElision : List Char → Option (List Char × List Char)
  | ':' :: ':' :: rest => some ([], rest)
  | c :: rest => (splitElision rest).map fun halves => (c :: halves.1, halves.2)
  | [] => none

def groups : List (List Char) := if text = [] then [] else text.splitOn ':'

/-- The segments of an IPv6 text; a `::` stands for at least one zero segment. -/
def ipv6Segments : Option (List UInt16) :=
  match splitElision text with
  | none => parseSegments true (groups text)
  | some (head, tail) => do
    let before ← parseSegments false (groups head)
    let after ← parseSegments true (groups tail)
    guard (before.length + after.length ≤ 7)
    return before ++ List.replicate (8 - (before.length + after.length)) 0 ++ after

/-- `Ipv6Addr::from_str`. -/
def parseIpv6 : Option Ipv6Addr := do
  let segments ← ipv6Segments text
  if h : segments.toArray.size = 8 then some ⟨segments.toArray, h⟩ else none

/-- `IpAddr::from_str`. -/
def parseIp (text : String) : Option IpAddr :=
  ((parseIpv4 text.toList).map Ipv4Addr.toIpAddr).or ((parseIpv6 text.toList).map IpAddr.v6)

/-! ### Approvals -/

def maxUrlBytes : Nat := 8 * 1024
def maxHostBytes : Nat := 253
def maxDnsAnswers : Nat := 16

def isAsciiControl (byte : UInt8) : Bool := byte < 0x20 || byte == 0x7f

/-- What follows the first `://`. -/
def afterScheme : List Char → Option (List Char)
  | ':' :: '/' :: '/' :: rest => some rest
  | _ :: rest => afterScheme rest
  | [] => none

def authorityHasUserinfo (input : String) : Bool :=
  (afterScheme input.toList).any fun rest =>
    (rest.takeWhile fun c => !(['/', '?', '#'].contains c)).contains '@'

def validateDomainSyntax (host : String) : Except UrlPolicyError Unit := do
  require (byteLen host ≤ maxHostBytes) .hostTooLong
  require (host ≠ "" ∧ host.toList.all (fun c => c.toNat < 128) ∧
    (splitAt ['.'] host).all fun label => label ≠ "" ∧ byteLen label ≤ 63 ∧
      label.toList.head? ≠ some '-' ∧ label.toList.getLast? ≠ some '-' ∧
      label.toList.all fun c => isAsciiAlphanumeric c || c == '-') .invalidHost

/-- A final dot of a domain is dropped. -/
def canonicalizeHost (U : UrlCrate) (url : Url) : Except UrlPolicyError Url := do
  let host ← okOr url.host .missingHost
  match host with
  | .domain domain => do
    require (strEndsWith domain ".." = false) .invalidHost
    if domain.toList.getLast? = some '.' then do
      let withoutRootDot := String.ofList domain.toList.dropLast
      require (withoutRootDot ≠ "") .invalidHost
      okOr (U.setHost url withoutRootDot) .invalidHost
    else return url
  | .ipv4 _ | .ipv6 _ => return url

/-- `CanonicalOrigin::from_validated_url`. -/
def CanonicalOrigin.fromValidatedUrl (url : Url) : Except UrlPolicyError CanonicalOrigin := do
  let scheme ← if url.scheme = "http" then .ok .http
    else if url.scheme = "https" then .ok .https
    else .error .unsupportedScheme
  let host ← okOr url.hostStr .missingHost
  let port ← okOr url.portOrKnownDefault .invalidPort
  return { scheme, host, port }

/-- A literal host of an approval is a private address. -/
def validateApprovedHost : Host → Except UrlPolicyError Unit
  | .domain host => validateDomainSyntax host
  | .ipv4 address => require (classifyIpAddress address.toIpAddr = .private_)
      .lanApprovalRequiresPrivateAddresses
  | .ipv6 address => require (classifyIpAddress (.v6 address) = .private_)
      .lanApprovalRequiresPrivateAddresses

def canonicalizeApprovedLocalOrigin (U : UrlCrate) (input : String) :
    Except UrlPolicyError CanonicalOrigin := do
  require (input ≠ "") .emptyUrl
  require (byteLen input ≤ maxUrlBytes) .urlTooLong
  require (trim input = input ∧ (asBytes input).any isAsciiControl = false)
    .embeddedControlCharacter
  let url ← (U.parse input).mapError .invalidUrl
  require (url.cannotBeABase = false) .unsupportedScheme
  require (authorityHasUserinfo input = false ∧ url.username = "" ∧ url.password = none)
    .userInfoNotAllowed
  require (url.scheme = "http" ∨ url.scheme = "https") .unsupportedScheme
  let url ← canonicalizeHost U url
  require (url.port ≠ some 0 ∧ url.portOrKnownDefault.isSome) .invalidPort
  require (url.path = "/" ∧ url.query = none ∧ url.fragment = none) .lanApprovalMustBeOrigin
  let host ← okOr url.host .missingHost
  validateApprovedHost host
  CanonicalOrigin.fromValidatedUrl url

def validateApprovedLocalAddresses (addresses : List IpAddr) :
    Except UrlPolicyError AddressSet := do
  require (addresses ≠ [] ∧ addresses.length ≤ maxDnsAnswers) .lanApprovalRequiresPrivateAddresses
  let normalized := addresses.map normalizeIp
  require (normalized.all fun address => classifyIpAddress address = .private_)
    .lanApprovalRequiresPrivateAddresses
  return .ofAnswers addresses

structure ApprovedLocalNetworkOrigin where
  origin : CanonicalOrigin
  addresses : AddressSet
deriving DecidableEq

/-- `ApprovedLocalNetworkOrigin::new`.  The text of an IPv6 host is in brackets, which is no
    address, so only an IPv4 host is compared. -/
def ApprovedLocalNetworkOrigin.new (U : UrlCrate) (origin : String) (addresses : List IpAddr) :
    Except UrlPolicyError ApprovedLocalNetworkOrigin := do
  let origin ← canonicalizeApprovedLocalOrigin U origin
  let addresses ← validateApprovedLocalAddresses addresses
  forSome (fun literal => require (addresses.addresses = [normalizeIp literal])
    .lanOriginAddressNotApproved) (parseIp origin.host)
  return { origin, addresses }

def ApprovedLocalNetworkOrigin.permitsAddress (approval : ApprovedLocalNetworkOrigin)
    (address : IpAddr) : Bool :=
  approval.addresses.contains address

/-! ### Policies -/

inductive UrlPolicyKind
  | public_
  | localLoopback
  | approvedLocalNetwork (approval : ApprovedLocalNetworkOrigin)

structure UrlPolicy where
  kind : UrlPolicyKind

def validateAddressWithPolicy (address : IpAddr) (policy : UrlPolicy) :
    Except UrlPolicyError Unit :=
  let address := normalizeIp address
  let addressClass := classifyIpAddress address
  match policy.kind with
  | .public_ => require (addressClass = .public_) (.disallowedIpAddress address addressClass)
  | .localLoopback => require (addressClass = .loopback) (.disallowedIpAddress address addressClass)
  | .approvedLocalNetwork approval => do
    require (addressClass = .private_) (.disallowedIpAddress address addressClass)
    require (approval.permitsAddress address) .lanOriginAddressNotApproved

/-! ### Answers -/

structure ValidatedDnsAnswers where
  policy : UrlPolicy
  addresses : AddressSet

/-- The variables of the loop over the answers. -/
structure AnswerScan where
  firstDisallowed : Option UrlPolicyError
  hasAllowed : Bool
  hasDisallowed : Bool

def AnswerScan.answer (policy : UrlPolicy) (scan : AnswerScan) (original : IpAddr) : AnswerScan :=
  match validateAddressWithPolicy (normalizeIp original) policy with
  | .ok _ => { scan with hasAllowed := true }
  | .error error =>
    { scan with hasDisallowed := true, firstDisallowed := scan.firstDisallowed.or (some error) }

def validateDnsAnswersWithPolicy (policy : UrlPolicy) (answers : List IpAddr) :
    Except UrlPolicyError ValidatedDnsAnswers := do
  require (answers ≠ []) .emptyDnsAnswers
  require (answers.length ≤ maxDnsAnswers) .tooManyDnsAnswers
  let scan := answers.foldl (AnswerScan.answer policy)
    { firstDisallowed := none, hasAllowed := false, hasDisallowed := false }
  require (¬ (scan.hasAllowed = true ∧ scan.hasDisallowed = true)) .mixedDnsAddressScopes
  forSome (fun error => .error error) scan.firstDisallowed
  return { policy, addresses := .ofAnswers answers }

def ValidatedDnsAnswers.contains (validated : ValidatedDnsAnswers) (address : IpAddr) : Bool :=
  validated.addresses.contains address

def ValidatedDnsAnswers.revalidate (validated : ValidatedDnsAnswers) (answers : List IpAddr) :
    Except UrlPolicyError Unit := do
  let current ← validateDnsAnswersWithPolicy validated.policy answers
  require (current.addresses.addresses = validated.addresses.addresses) .dnsAnswersChanged

def ValidatedDnsAnswers.validatePeer (validated : ValidatedDnsAnswers) (peer : IpAddr) :
    Except UrlPolicyError Unit := do
  validateAddressWithPolicy peer validated.policy
  require (validated.contains peer) .peerAddressNotValidated

/-! ### What passes -/

/-- The addresses a policy is about. -/
def UrlPolicy.Allows (policy : UrlPolicy) (address : IpAddr) : Prop :=
  match policy.kind with
  | .public_ => classifyIpAddress address = .public_
  | .localLoopback => classifyIpAddress address = .loopback
  | .approvedLocalNetwork approval =>
    classifyIpAddress address = .private_ ∧ address ∈ approval.addresses.addresses

variable {policy : UrlPolicy} {answers : List IpAddr} {U : UrlCrate}

theorem validateAddressWithPolicy_ok :
    validateAddressWithPolicy address policy = .ok u ↔ policy.Allows (normalizeIp address) := by
  cases hkind : policy.kind with
  | public_ => simp only [validateAddressWithPolicy, UrlPolicy.Allows, hkind, require_ok]
  | localLoopback => simp only [validateAddressWithPolicy, UrlPolicy.Allows, hkind, require_ok]
  | approvedLocalNetwork approval =>
    simp only [validateAddressWithPolicy, UrlPolicy.Allows, hkind, guard_ok,
      require_ok, ApprovedLocalNetworkOrigin.permitsAddress, AddressSet.contains_iff,
      normalizeIp_normalizeIp]

open AnswerScan

/-- What the loop over the answers has found. -/
theorem scan_answers :
    (answers.foldl (AnswerScan.answer policy) scan).firstDisallowed = none ↔
      scan.firstDisallowed = none ∧ ∀ address ∈ answers, policy.Allows (normalizeIp address) := by
  induction answers generalizing scan with
  | nil => simp
  | cons address answers ih =>
    rw [foldl_cons, ih, forall_mem_cons]
    cases hcheck : validateAddressWithPolicy (normalizeIp address) policy with
    | ok u =>
      have hallows : policy.Allows (normalizeIp address) := by
        have hpass := validateAddressWithPolicy_ok.mp hcheck
        rwa [normalizeIp_normalizeIp] at hpass
      simp [answer, hcheck, hallows]
    | error error =>
      have hallows : ¬ policy.Allows (normalizeIp address) := by
        intro hpass
        rw [← normalizeIp_normalizeIp, ← validateAddressWithPolicy_ok (u := ()), hcheck] at hpass
        cases hpass
      simp [answer, hcheck, hallows]

/-- Where every answer passes, none is found to be disallowed. -/
theorem scan_hasDisallowed (h : ∀ address ∈ answers, policy.Allows (normalizeIp address)) :
    (answers.foldl (AnswerScan.answer policy) scan).hasDisallowed = scan.hasDisallowed := by
  induction answers generalizing scan with
  | nil => rfl
  | cons address answers ih =>
    rw [forall_mem_cons] at h
    have hcheck : validateAddressWithPolicy (normalizeIp address) policy = .ok () := by
      rw [validateAddressWithPolicy_ok, normalizeIp_normalizeIp]
      exact h.1
    rw [foldl_cons, ih h.2]
    simp [answer, hcheck]

/-- **Which answers pass.** They become one address set. -/
theorem validateDnsAnswersWithPolicy_ok :
    validateDnsAnswersWithPolicy policy answers = .ok validated ↔
      (answers ≠ [] ∧ answers.length ≤ maxDnsAnswers ∧
        ∀ address ∈ answers, policy.Allows (normalizeIp address)) ∧
      validated = { policy, addresses := .ofAnswers answers } := by
  rw [validateDnsAnswersWithPolicy, guard_ok, guard_ok, guard_ok, bind_ok]
  constructor
  · rintro ⟨hne, hlen, _, _, hfirst, hres⟩
    refine ⟨⟨hne, hlen, ?_⟩, (pure_inj hres).symm⟩
    have hnone := Option.eq_none_iff_forall_ne_some.mpr fun error herr => by
      have := forSome_ok.mp hfirst error herr
      cases this
    exact (scan_answers.mp hnone).2
  · rintro ⟨⟨hne, hlen, hallows⟩, rfl⟩
    refine ⟨hne, hlen, ?_, (), ?_, rfl⟩
    · rintro ⟨_, hdisallowed⟩
      rw [scan_hasDisallowed hallows] at hdisallowed
      cases hdisallowed
    · rw [scan_answers.mpr ⟨rfl, hallows⟩]
      rfl

/-- What a pinned set answers for a later lookup. -/
theorem ValidatedDnsAnswers.revalidate_ok :
    validated.revalidate answers = .ok u ↔ (answers ≠ [] ∧ answers.length ≤ maxDnsAnswers ∧
        ∀ address ∈ answers, validated.policy.Allows (normalizeIp address)) ∧
      AddressSet.ofAnswers answers = validated.addresses := by
  rw [revalidate, bind_ok]
  constructor
  · rintro ⟨current, hcur, hsame⟩
    obtain ⟨hpass, rfl⟩ := validateDnsAnswersWithPolicy_ok.mp hcur
    exact ⟨hpass, AddressSet.ext_addresses (require_ok.mp hsame)⟩
  · rintro ⟨hpass, hsame⟩
    refine ⟨_, validateDnsAnswersWithPolicy_ok.mpr ⟨hpass, rfl⟩, require_ok.mpr ?_⟩
    exact congrArg AddressSet.addresses hsame

theorem ValidatedDnsAnswers.validatePeer_ok : validated.validatePeer peer = .ok u ↔
      validated.policy.Allows (normalizeIp peer) ∧
        normalizeIp peer ∈ validated.addresses.addresses := by
  rw [validatePeer, bind_ok]
  constructor
  · rintro ⟨_, hpolicy, hpeer⟩
    exact ⟨validateAddressWithPolicy_ok.mp hpolicy,
      AddressSet.contains_iff.mp (require_ok.mp hpeer)⟩
  · rintro ⟨hpolicy, hpeer⟩
    exact ⟨(), validateAddressWithPolicy_ok.mpr hpolicy, require_ok.mpr (contains_iff.mpr hpeer)⟩

/-- The addresses of an approval are the given ones, normalized, and all private. -/
theorem ApprovedLocalNetworkOrigin.new_ok (h : new U origin addresses = .ok approval) :
    approval.addresses = .ofAnswers addresses ∧
      ∀ address ∈ addresses, classifyIpAddress (normalizeIp address) = .private_ := by
  obtain ⟨canonicalOrigin, _, set, hset, _, _, h⟩ := steps₃ h
  obtain ⟨_, hprivate, hset⟩ := guards₂ hset
  have happroval := pure_inj h
  subst happroval
  refine ⟨(pure_inj hset).symm, ?_⟩
  simpa using hprivate

/-- The policies a client can have. -/
inductive UrlPolicy.Built (U : UrlCrate) : UrlPolicy → Prop
  | public_ : Built U ⟨.public_⟩
  | localLoopback : Built U ⟨.localLoopback⟩
  | approvedLocalNetwork {origin : String} {addresses : List IpAddr}
      {approval : ApprovedLocalNetworkOrigin}
      (h : ApprovedLocalNetworkOrigin.new U origin addresses = .ok approval) :
      Built U ⟨.approvedLocalNetwork approval⟩

/-- Under an approval, an address passes iff it is one of the approved ones. -/
theorem UrlPolicy.allows_approved
    (h : ApprovedLocalNetworkOrigin.new U origin addresses = .ok approval) :
    UrlPolicy.Allows ⟨.approvedLocalNetwork approval⟩ address ↔
      ∃ x ∈ addresses, normalizeIp x = address := by
  obtain ⟨hset, hprivate⟩ := ApprovedLocalNetworkOrigin.new_ok h
  show classifyIpAddress address = .private_ ∧ address ∈ approval.addresses.addresses ↔ _
  rw [hset, mem_ofAnswers]
  constructor
  · exact fun h => h.2
  · rintro ⟨x, hx, rfl⟩
    exact ⟨hprivate x hx, x, hx, rfl⟩

/-- **DNS answers under a policy.** A lookup passes iff it has 1 to 16 answers that the policy
    allows once they are normalized.  The pinned set is sorted, without repetitions, and has the
    normalized answers.  A later lookup passes iff it has the same normalized answers, in any
    order and multiplicity, and a peer iff it is one of them.  Under an approval every accepted
    peer is one of the approved addresses. -/
theorem validateDnsAnswersWithPolicy_iff (hpolicy : UrlPolicy.Built U policy) :
    ((∃ validated, validateDnsAnswersWithPolicy policy answers = .ok validated) ↔
      1 ≤ answers.length ∧ answers.length ≤ 16 ∧
        ∀ address ∈ answers, policy.Allows (normalizeIp address)) ∧
    ∀ validated, validateDnsAnswersWithPolicy policy answers = .ok validated →
      validated.addresses.addresses.Pairwise (fun a b => ipOrder a < ipOrder b) ∧
      validated.addresses.addresses.Nodup ∧
      (∀ address, address ∈ validated.addresses.addresses ↔
        ∃ x ∈ answers, normalizeIp x = address) ∧
      (∀ current : List IpAddr, current.length ≤ 16 → (validated.revalidate current = .ok () ↔
          ∀ address, (∃ x ∈ current, normalizeIp x = address) ↔
            ∃ x ∈ answers, normalizeIp x = address)) ∧
      (∀ peer, validated.validatePeer peer = .ok () ↔
        normalizeIp peer ∈ validated.addresses.addresses) ∧
      ∀ (origin : String) (addresses : List IpAddr) (approval : ApprovedLocalNetworkOrigin),
        ApprovedLocalNetworkOrigin.new U origin addresses = .ok approval →
        policy = ⟨.approvedLocalNetwork approval⟩ →
        ∀ peer, validated.validatePeer peer = .ok () →
          ∃ x ∈ addresses, normalizeIp x = normalizeIp peer := by
  have hlen : answers ≠ [] ↔ 1 ≤ answers.length := length_pos_iff.symm
  constructor
  · simp only [validateDnsAnswersWithPolicy_ok, exists_and_left, exists_eq, and_true, hlen,
      maxDnsAnswers]
  · intro validated hvalidated
    obtain ⟨⟨hne, _, hallows⟩, rfl⟩ := validateDnsAnswersWithPolicy_ok.mp hvalidated
    have hset := (AddressSet.ofAnswers answers).sorted
    refine ⟨hset, hset.imp fun hlt heq => ?_, fun address => mem_ofAnswers, ?_, ?_, ?_⟩
    · exact absurd (heq ▸ hlt) (lt_irrefl _)
    · intro current hcur
      rw [ValidatedDnsAnswers.revalidate_ok]
      show _ ∧ ofAnswers current = .ofAnswers answers ↔ _
      rw [ofAnswers_eq_iff]
      refine ⟨fun h => h.2, fun hsame => ⟨⟨?_, hcur, ?_⟩, hsame⟩⟩
      · -- some answer was pinned, and the new lookup has it too
        rintro rfl
        obtain ⟨x, hx⟩ := exists_mem_of_ne_nil answers hne
        obtain ⟨y, hy, _⟩ := (hsame (normalizeIp x)).mpr ⟨x, hx, rfl⟩
        cases hy
      · intro address haddress
        obtain ⟨x, hx, heq⟩ := (hsame (normalizeIp address)).mp ⟨address, haddress, rfl⟩
        rw [← heq]
        exact hallows x hx
    · intro peer
      rw [ValidatedDnsAnswers.validatePeer_ok]
      refine ⟨fun h => h.2, fun hpeer => ⟨?_, hpeer⟩⟩
      obtain ⟨x, hx, heq⟩ := mem_ofAnswers.mp hpeer
      rw [← heq]
      exact hallows x hx
    · rintro origin addresses approval happroval rfl peer hpeer
      obtain ⟨hpass, _⟩ := ValidatedDnsAnswers.validatePeer_ok.mp hpeer
      exact (UrlPolicy.allows_approved happroval).mp hpass

/-- A URL crate that reads every text as one origin. -/
def oneOrigin : UrlCrate where
  parse := fun _ => .ok
    { scheme := "http", cannotBeABase := false, username := "", password := none,
      host := some (.domain "nas"), hostStr := some "nas", port := some 8080,
      portOrKnownDefault := some 8080, path := "/", query := none, fragment := none }
  setHost := fun _ _ => none

/-- An approval of one device, by its IPv4 address and by a unique local one. -/
def approvedNas : ApprovedLocalNetworkOrigin where
  origin := { scheme := .http, host := "nas", port := 8080 }
  addresses := .ofAnswers [.v6 #v[0xfd00, 0, 0, 0, 0, 0, 0, 7], .v4 192 168 0 7]

theorem validateDnsAnswersWithPolicy_iff_approvedNas :
    (∃ validated, validateDnsAnswersWithPolicy ⟨.approvedLocalNetwork approvedNas⟩
      [.v6 #v[0, 0, 0, 0, 0, 0xffff, 0xc0a8, 7], .v4 192 168 0 7] = .ok validated) ∧
    ¬ ∃ validated, validateDnsAnswersWithPolicy ⟨.approvedLocalNetwork approvedNas⟩
      [.v4 192 168 0 8] = .ok validated := by
  have hnew : ApprovedLocalNetworkOrigin.new oneOrigin "http://nas:8080"
      [.v6 #v[0xfd00, 0, 0, 0, 0, 0, 0, 7], .v4 192 168 0 7] = .ok approvedNas := by decide
  have hbuilt := UrlPolicy.Built.approvedLocalNetwork hnew
  constructor
  · rw [(validateDnsAnswersWithPolicy_iff hbuilt).1]
    refine ⟨by decide, by decide, ?_⟩
    simp only [UrlPolicy.allows_approved hnew]
    decide
  · rw [(validateDnsAnswersWithPolicy_iff hbuilt).1]
    simp only [UrlPolicy.allows_approved hnew]
    decide

end LorePia.Network
