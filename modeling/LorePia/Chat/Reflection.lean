import LorePia.Domain.Error
import LorePia.Lib.Border
import LorePia.Lib.Fallible

namespace LorePia.Chat

open Lib List

/-!
# Chat — the reflection guard

A provider must not be able to send the user's credential back to the screen.  Every text
channel runs through a `ReflectionStream`, which holds back the longest beginning of the
credential that the text so far ends with, and fails when the credential is complete.

The search is the border search of `Lib/Border.lean` over bytes, run again on the retained
text for every fragment.

* `ReflectionStream.Tracks` — what a stream knows after a text;
* `push_tracks`, `push_reflected` — one fragment, without and with the credential;
* `reflection_stream_exact` — any fragmentation: the first fragment that completes the
    credential fails, and otherwise nothing is lost.
-/

variable {fragment value : String} {fragments : List String}

/-! ### The guard -/

/-- `CREDENTIAL_REFLECTION_ERROR_MESSAGE`. -/
def credentialReflectionErrorMessage : String :=
  "provider response contained protected credential material"

variable (uuid : String)

def credentialReflectionError : CoreError :=
  .new uuid .providerUnavailable credentialReflectionErrorMessage false

/-- `build_credential_prefix_table`. -/
def buildCredentialPrefixTable (credential : String) : List Nat :=
  failureTable (asBytes credential)

/-- `credential_suffix_after_linear_scan`: the longest proper credential prefix at the end of
    the value, or `none` on a full match. -/
def credentialSuffixAfterLinearScan (value credential : String) (prefixTable : List Nat) :
    Option Nat :=
  scan (asBytes credential) prefixTable 0 (asBytes value)

structure CredentialReflectionGuard where
  credential : Option String
  prefixTable : Option (List Nat)

def CredentialReflectionGuard.new (credential : Option String) : CredentialReflectionGuard :=
  let credential := credential.filter fun credential => credential ≠ ""
  { credential, prefixTable := credential.map buildCredentialPrefixTable }

def CredentialReflectionGuard.isEnabled (guard : CredentialReflectionGuard) : Bool :=
  guard.credential.isSome

def CredentialReflectionGuard.contains (guard : CredentialReflectionGuard) (value : String) :
    Bool :=
  guard.credential.any fun credential => strContains value credential

structure ReflectionStream where
  guard : CredentialReflectionGuard
  pending : String

namespace ReflectionStream

def new (guard : CredentialReflectionGuard) : ReflectionStream := ⟨guard, ""⟩

def push (stream : ReflectionStream) (fragment : String) :
    Except Fault (String × ReflectionStream) :=
  match stream.guard.credential with
  | none => .ok (fragment, stream)
  | some credential => do
    let pending := stream.pending ++ fragment
    let prefixTable ← okOr stream.guard.prefixTable .panicked
    match credentialSuffixAfterLinearScan pending credential prefixTable with
    | none => .error (.error (credentialReflectionError uuid))
    | some retainedBytes =>
      if byteLen pending - retainedBytes = 0 then .ok ("", ⟨stream.guard, pending⟩)
      else do
        let cut ← okOr (splitOff pending (byteLen pending - retainedBytes)) .panicked
        return (cut.1, ⟨stream.guard, cut.2⟩)

def finish (stream : ReflectionStream) : String × ReflectionStream :=
  (stream.pending, ⟨stream.guard, ""⟩)

end ReflectionStream

/-! ### What a stream knows -/

@[simp] theorem guard_new_credential {credential : String} (hc : credential ≠ "") :
    (CredentialReflectionGuard.new (some credential)).credential = some credential := by
  simp [CredentialReflectionGuard.new, Option.filter, hc]

theorem guard_new_prefixTable {credential : String} (hc : credential ≠ "") :
    (CredentialReflectionGuard.new (some credential)).prefixTable =
      some (buildCredentialPrefixTable credential) := by
  simp [CredentialReflectionGuard.new, Option.filter, hc]

/-- After the text `all`, of which `released` went out, the stream holds the rest: the state
    of the search over the whole text. -/
structure ReflectionStream.Tracks (credential all released : String)
    (stream : ReflectionStream) : Prop where
  guard : stream.guard = .new (some credential)
  text : released ++ stream.pending = all
  state : credentialSuffixAfterLinearScan all credential (buildCredentialPrefixTable credential) =
    some (byteLen stream.pending)

section Tracking

variable {credential all : String} {stream : ReflectionStream}

theorem scan_empty (credential : String) :
    credentialSuffixAfterLinearScan "" credential (buildCredentialPrefixTable credential) =
      some 0 := by
  rw [credentialSuffixAfterLinearScan, asBytes_empty, scan]

theorem tracks_new (credential : String) :
    (ReflectionStream.new (.new (some credential))).Tracks credential "" "" :=
  ⟨rfl, rfl, by rw [scan_empty]; rfl⟩

/-- The scan of a text stops exactly if the text contains the credential. -/
theorem scan_eq_none_iff_contains (hc : credential ≠ "") (value : String) :
    credentialSuffixAfterLinearScan value credential (buildCredentialPrefixTable credential) =
      none ↔ strContains value credential = true := by
  rw [strContains_iff]
  exact scan_eq_none_iff (mt asBytes_eq_nil.mp hc)

/-- The bytes a stream holds are the beginning of the credential that the search has matched. -/
theorem ReflectionStream.Tracks.pending_bytes (hc : credential ≠ "")
    (h : stream.Tracks credential all released) :
    asBytes stream.pending = (asBytes credential).take (byteLen stream.pending) := by
  obtain ⟨_, hlt, hlongest⟩ := (scan_eq_some_iff (mt asBytes_eq_nil.mp hc)).mp h.state
  have hend : asBytes stream.pending <:+ asBytes all := by
    rw [← h.text, asBytes_append]
    exact suffix_append _ _
  have hlen : ((asBytes credential).take (byteLen stream.pending)).length =
      (asBytes stream.pending).length := length_take_of_le (Nat.le_of_lt hlt)
  have hsub : asBytes stream.pending <:+ (asBytes credential).take (byteLen stream.pending) :=
    suffix_of_suffix_length_le hend hlongest.overlap.2 (Nat.le_of_eq hlen.symm)
  exact hsub.eq_of_length hlen.symm

/-- Scanning the retained text and a fragment is scanning everything. -/
theorem ReflectionStream.Tracks.scan_pending (hc : credential ≠ "")
    (h : stream.Tracks credential all released) (fragment : String) :
    credentialSuffixAfterLinearScan (stream.pending ++ fragment) credential
        (buildCredentialPrefixTable credential) =
      credentialSuffixAfterLinearScan (all ++ fragment) credential
        (buildCredentialPrefixTable credential) := by
  have hresume := scan_resume (mt asBytes_eq_nil.mp hc) h.state (asBytes fragment)
  rw [← h.pending_bytes hc, ← asBytes_append, ← asBytes_append] at hresume
  exact hresume

/-- Cutting a text in front of a beginning of the credential does not panic. -/
theorem splitOff_retained (hend : (asBytes credential).take n <:+ asBytes value)
    (hn : n ≤ byteLen credential) :
    ∃ cut, splitOff value (byteLen value - n) = some cut ∧ cut.1 ++ cut.2 = value ∧
      byteLen cut.2 = n := by
  have hlen : ((asBytes credential).take n).length = n := length_take_of_le hn
  have hle : n ≤ byteLen value := by
    have h := hend.length_le
    rwa [hlen] at h
  have hfirst : ∀ byte, (asBytes value)[byteLen value - n]? = some byte → byte.IsUTF8FirstByte := by
    intro byte hbyte
    obtain ⟨before, hbef⟩ := hend
    have hsize : before.length = byteLen value - n := by
      have h := congrArg List.length hbef
      rw [length_append, hlen] at h
      have hvalue : (asBytes value).length = byteLen value := rfl
      omega
    -- the byte at the cut is the first one of the credential
    rw [← hbef, getElem?_append_right (by omega), hsize, Nat.sub_self, getElem?_take] at hbyte
    split at hbyte
    · exact isUTF8FirstByte_head hbyte
    · cases hbyte
  obtain ⟨cut, hcut⟩ := Option.isSome_iff_exists.mp
    (splitOff_isSome (Nat.sub_le (byteLen value) n) hfirst)
  obtain ⟨htext, hsize⟩ := splitOff_eq_some (a := cut.1) (b := cut.2) hcut
  refine ⟨cut, hcut, htext, ?_⟩
  have htotal : byteLen cut.1 + byteLen cut.2 = byteLen value := by rw [← byteLen_append, htext]
  omega

/-- A fragment that completes the credential fails. -/
theorem push_reflected (hc : credential ≠ "") (h : stream.Tracks credential all released) (hcont : strContains (all ++ fragment) credential = true) :
    stream.push uuid fragment = .error (.error (credentialReflectionError uuid)) := by
  have hscan := (scan_eq_none_iff_contains hc _).mpr hcont
  rw [← h.scan_pending hc] at hscan
  unfold ReflectionStream.push
  rw [h.guard, guard_new_credential hc, guard_new_prefixTable hc]
  simp only [okOr, ok_bind, hscan]

/-- Any other fragment goes through, up to a new retained text. -/
theorem push_tracks (hc : credential ≠ "") (h : stream.Tracks credential all released) (hcont : strContains (all ++ fragment) credential = false) :
    ∃ out stream', stream.push uuid fragment = .ok (out, stream') ∧
      stream'.Tracks credential (all ++ fragment) (released ++ out) := by
  have hp : asBytes credential ≠ [] := mt asBytes_eq_nil.mp hc
  cases hscan : credentialSuffixAfterLinearScan (all ++ fragment) credential
      (buildCredentialPrefixTable credential) with
  | none =>
    rw [scan_eq_none_iff_contains hc, hcont] at hscan
    cases hscan
  | some n =>
    have hpend := hscan
    rw [← h.scan_pending hc] at hpend
    obtain ⟨_, hn, hlongest⟩ := (scan_eq_some_iff hp).mp hpend
    obtain ⟨cut, hcut, htext, hsize⟩ := splitOff_retained hlongest.overlap.2 (Nat.le_of_lt hn)
    have hall : released ++ (stream.pending ++ fragment) = all ++ fragment := by
      rw [← String.append_assoc, h.text]
    unfold ReflectionStream.push
    rw [h.guard, guard_new_credential hc, guard_new_prefixTable hc]
    simp only [okOr, ok_bind, hpend, hcut]
    by_cases hzero : byteLen (stream.pending ++ fragment) - n = 0
    · -- nothing can be released: the whole text is a beginning of the credential
      rw [if_pos hzero]
      refine ⟨"", _, rfl, rfl, by rw [String.append_empty]; exact hall, ?_⟩
      have hle := hlongest.overlap.le_length
      have hlen : (asBytes (stream.pending ++ fragment)).length =
          byteLen (stream.pending ++ fragment) := rfl
      have hfull : byteLen (stream.pending ++ fragment) = n := by omega
      rw [hscan, hfull]
    · rw [if_neg hzero]
      refine ⟨cut.1, _, rfl, rfl, ?_, by rw [hscan, hsize]⟩
      rw [String.append_assoc, htext, hall]

/-- The retained text is the longest proper beginning of the credential that ends the text. -/
structure RetainsLongest (credential all pending : String) : Prop where
  proper : ∃ rest, rest ≠ "" ∧ credential = pending ++ rest
  ends : ∃ before, all = before ++ pending
  longest : ∀ q rest before, credential = q ++ rest → rest ≠ "" → all = before ++ q →
    byteLen q ≤ byteLen pending

theorem ReflectionStream.Tracks.retainsLongest (hc : credential ≠ "")
    (h : stream.Tracks credential all released) :
    RetainsLongest credential all stream.pending := by
  obtain ⟨_, hlt, hlongest⟩ := (scan_eq_some_iff (mt asBytes_eq_nil.mp hc)).mp h.state
  refine ⟨?_, ⟨released, h.text.symm⟩, ?_⟩
  · have hpref : asBytes stream.pending <+: asBytes credential := by
      rw [h.pending_bytes hc]
      exact take_prefix _ _
    obtain ⟨rest, hrest⟩ := exists_append_of_asBytes_prefix hpref
    refine ⟨rest, ?_, hrest⟩
    rintro rfl
    have hlen : byteLen stream.pending < byteLen credential := hlt
    rw [hrest, String.append_empty] at hlen
    exact Nat.lt_irrefl _ hlen
  · rintro q rest before hq _ hall
    refine hlongest.max _ ⟨?_, ?_⟩
    · have hsplit : byteLen credential = byteLen q + byteLen rest := by rw [hq, byteLen_append]
      have hcred : (asBytes credential).length = byteLen credential := rfl
      omega
    · have htake : (asBytes credential).take (byteLen q) = asBytes q := by
        rw [hq, asBytes_append]
        exact take_left
      rw [htake, hall, asBytes_append]
      exact suffix_append _ _

/-- What went out does not contain the credential. -/
theorem ReflectionStream.Tracks.released_clean (hc : credential ≠ "")
    (h : stream.Tracks credential all released) : strContains released credential = false := by
  have hall : strContains all credential = false := by
    rw [← Bool.not_eq_true, ← scan_eq_none_iff_contains hc, h.state]
    exact fun hnone => nomatch hnone
  rw [← h.text] at hall
  exact strContains_of_append_eq_false hall

end Tracking

/-! ### Any guard

A generation may have no credential to protect, and then a stream passes everything on.  The
relation below covers both cases, so that a proof about a generation need not tell them
apart. -/

/-- After the text `all`, of which `released` went out, the stream of this guard holds the
    rest. -/
structure ReflectionStream.Follows (G : CredentialReflectionGuard) (all released : String)
    (stream : ReflectionStream) : Prop where
  guard : stream.guard = G
  text : released ++ stream.pending = all
  idle : G.credential = none → stream.pending = ""
  state : ∀ credential, G.credential = some credential →
    credentialSuffixAfterLinearScan all credential (buildCredentialPrefixTable credential) =
      some (byteLen stream.pending)

/-- A guard protects nothing, or a non-empty credential. -/
theorem guard_new_cases (credential : Option String) :
    CredentialReflectionGuard.new credential = .new none ∨
      ∃ value, value ≠ "" ∧ credential = some value := by
  cases credential with
  | none => exact .inl rfl
  | some value =>
    by_cases hvalue : value = ""
    · subst hvalue
      exact .inl rfl
    · exact .inr ⟨value, hvalue, rfl⟩

section Following

variable {all : String} {stream : ReflectionStream}

theorem follows_iff_tracks (hvalue : value ≠ "") :
    stream.Follows (.new (some value)) all released ↔ stream.Tracks value all released := by
  constructor
  · intro h
    exact ⟨h.guard, h.text, h.state value (guard_new_credential hvalue)⟩
  · intro h
    refine ⟨h.guard, h.text, fun hnone => ?_, fun c hc => ?_⟩
    · rw [guard_new_credential hvalue] at hnone
      cases hnone
    · rw [guard_new_credential hvalue] at hc
      cases hc
      exact h.state

theorem follows_new (credential : Option String) :
    (ReflectionStream.new (.new credential)).Follows (.new credential) "" "" := by
  rcases guard_new_cases credential with hnone | ⟨value, hvalue, rfl⟩
  · refine ⟨rfl, rfl, fun _ => rfl, fun c hc => ?_⟩
    rw [hnone] at hc
    cases hc
  · exact (follows_iff_tracks hvalue).mpr (tracks_new value)

/-- **One fragment.** It goes through, up to what the stream holds back, or the push fails with
    the reflection error; it does not panic. -/
theorem push_follows (h : stream.Follows (.new credential) all released) (fragment : String) :
    Ensures
      (fun pushed => pushed.2.Follows (.new credential) (all ++ fragment) (released ++ pushed.1))
      (fun fault => fault = .error (credentialReflectionError uuid))
      (stream.push uuid fragment) := by
  rcases guard_new_cases credential with hnone | ⟨value, hvalue, rfl⟩
  · -- nothing to protect: the fragment is released as it is
    rw [hnone] at h ⊢
    have hcred : stream.guard.credential = none := by rw [h.guard]; rfl
    have hpend : stream.pending = "" := h.idle rfl
    have hreleased : released = all := by rw [← h.text, hpend, String.append_empty]
    unfold ReflectionStream.push
    rw [hcred]
    refine ⟨h.guard, ?_, fun _ => hpend, fun c hc => nomatch hc⟩
    rw [hpend, String.append_empty, hreleased]
  · rw [follows_iff_tracks hvalue] at h
    cases hcont : strContains (all ++ fragment) value with
    | true =>
      rw [push_reflected uuid hvalue h hcont]
      exact rfl
    | false =>
      obtain ⟨out, stream', hpush, htracks⟩ := push_tracks uuid hvalue h hcont
      rw [hpush]
      exact (follows_iff_tracks hvalue).mpr htracks

theorem guard_new_contains {text : String} (hvalue : value ≠ "") :
    (CredentialReflectionGuard.new (some value)).contains text = strContains text value := by
  simp [CredentialReflectionGuard.contains, guard_new_credential hvalue]

theorem guard_contains_empty (credential : Option String) :
    (CredentialReflectionGuard.new credential).contains "" = false := by
  rcases guard_new_cases credential with hnone | ⟨value, hvalue, rfl⟩
  · rw [hnone]
    rfl
  · rw [guard_new_contains hvalue, strContains_eq_false_iff, asBytes_empty, infix_nil,
      asBytes_eq_nil]
    exact hvalue

/-- Neither what came in nor what went out contains the credential. -/
theorem ReflectionStream.Follows.clean (h : stream.Follows (.new credential) all released) :
    (CredentialReflectionGuard.new credential).contains all = false ∧
      (CredentialReflectionGuard.new credential).contains released = false := by
  rcases guard_new_cases credential with hnone | ⟨value, hvalue, rfl⟩
  · rw [hnone]
    exact ⟨rfl, rfl⟩
  · rw [follows_iff_tracks hvalue] at h
    rw [guard_new_contains hvalue, guard_new_contains hvalue]
    refine ⟨?_, h.released_clean hvalue⟩
    rw [← Bool.not_eq_true, ← scan_eq_none_iff_contains hvalue, h.state]
    exact fun hnone => nomatch hnone

/-- A stream holds fewer bytes than the credential has. -/
theorem ReflectionStream.Follows.pending_le (h : stream.Follows (.new credential) all released)
    (hbd : ∀ value ∈ credential, byteLen value ≤ bound) :
    byteLen stream.pending ≤ bound := by
  rcases guard_new_cases credential with hnone | ⟨value, hvalue, rfl⟩
  · rw [hnone] at h
    rw [h.idle rfl]
    exact Nat.zero_le bound
  · rw [follows_iff_tracks hvalue] at h
    have hlt := ((scan_eq_some_iff (mt asBytes_eq_nil.mp hvalue)).mp h.state).2.1
    have hlen : byteLen value ≤ bound := hbd value rfl
    have hvalueLen : (asBytes value).length = byteLen value := rfl
    omega

end Following

/-! ### Any fragmentation -/

/-- Push fragments one after the other: what each released, and the stream at the end. -/
def ReflectionStream.pushAll (stream : ReflectionStream) :
    List String → Except Fault (List String × ReflectionStream)
  | [] => .ok ([], stream)
  | fragment :: fragments => do
    let pushed ← stream.push uuid fragment
    let rest ← ReflectionStream.pushAll pushed.2 fragments
    return (pushed.1 :: rest.1, rest.2)

section Fragments

variable {uuid} {all : String} {stream : ReflectionStream}

variable (uuid) in
/-- Fragments that do not complete the credential all go through. -/
theorem pushAll_tracks (hc : credential ≠ "") (fragments : List String)
    (h : stream.Tracks credential all released)
    (hclean : strContains (all ++ concat fragments) credential = false) :
    ∃ outs stream', stream.pushAll uuid fragments = .ok (outs, stream') ∧
      stream'.Tracks credential (all ++ concat fragments) (released ++ concat outs) := by
  induction fragments generalizing stream all released with
  | nil =>
    refine ⟨[], stream, rfl, ?_⟩
    simpa using h
  | cons fragment fragments ih =>
    rw [concat_cons, ← String.append_assoc] at hclean
    obtain ⟨out, stream₁, hpush, htracks⟩ :=
      push_tracks uuid hc h (strContains_of_append_eq_false hclean)
    obtain ⟨outs, stream₂, hrest, htracks₂⟩ := ih htracks hclean
    refine ⟨out :: outs, stream₂, ?_, ?_⟩
    · rw [ReflectionStream.pushAll, hpush, ok_bind, hrest, ok_bind]
      rfl
    · rw [concat_cons, concat_cons, ← String.append_assoc, ← String.append_assoc]
      exact htracks₂

theorem pushAll_append {before after : List String} :
    stream.pushAll uuid (before ++ after) = (do
      let pushed ← stream.pushAll uuid before
      let rest ← pushed.2.pushAll uuid after
      return (pushed.1 ++ rest.1, rest.2)) := by
  induction before generalizing stream with
  | nil =>
    simp only [nil_append, ReflectionStream.pushAll, ok_bind]
    cases stream.pushAll uuid after <;> rfl
  | cons fragment before ih =>
    simp only [cons_append, ReflectionStream.pushAll]
    cases stream.push uuid fragment with
    | error e => rfl
    | ok pushed =>
      simp only [ok_bind, ih]
      cases pushed.2.pushAll uuid before with
      | error e => rfl
      | ok rest =>
        simp only [ok_bind, pure_ok]
        cases rest.2.pushAll uuid after <;> rfl

/-- Among fragments that together contain the credential, one completes it. -/
theorem exists_completing_fragment
    (hc : credential ≠ "") (hcont : strContains (concat fragments) credential = true) :
    ∃ before fragment after, fragments = before ++ fragment :: after ∧
      strContains (concat before) credential = false ∧
      strContains (concat (before ++ [fragment])) credential = true := by
  induction fragments using List.reverseRecOn with
  | nil =>
    rw [concat_nil, strContains_iff, asBytes_empty, infix_nil, asBytes_eq_nil] at hcont
    exact absurd hcont hc
  | append_singleton fragments fragment ih =>
    cases hbef : strContains (concat fragments) credential with
    | false => exact ⟨fragments, fragment, [], rfl, hbef, hcont⟩
    | true =>
      obtain ⟨before, first, after, rfl, hclean, hcompl⟩ := ih hbef
      exact ⟨before, first, after ++ [fragment], by simp, hclean, hcompl⟩

variable (uuid) in
/-- What a whole fragmentation amounts to: the text released and the stream left, or the
    failure. -/
def ReflectionStream.outcome (stream : ReflectionStream) (fragments : List String) :
    Except Fault (String × ReflectionStream) :=
  (stream.pushAll uuid fragments).map fun pushed => (concat pushed.1, pushed.2)

/-- A fragmentation that contains the credential fails with the reflection error. -/
theorem outcome_reflected (hc : credential ≠ "")
    (hcont : strContains (concat fragments) credential = true) :
    (ReflectionStream.new (.new (some credential))).outcome uuid fragments =
      .error (.error (credentialReflectionError uuid)) := by
  obtain ⟨before, fragment, after, rfl, hclean, hcompl⟩ := exists_completing_fragment hc hcont
  obtain ⟨outs, stream, hpush, htracks⟩ :=
    pushAll_tracks uuid hc before (tracks_new credential) (by rwa [String.empty_append])
  have hfail : stream.push uuid fragment = .error (.error (credentialReflectionError uuid)) := by
    refine push_reflected uuid hc htracks ?_
    simpa using hcompl
  simp only [ReflectionStream.outcome, pushAll_append, hpush, ok_bind,
    ReflectionStream.pushAll, hfail, error_bind]
  rfl

/-- Two tracked streams of one text that hold the same number of bytes are the same. -/
theorem ReflectionStream.Tracks.unique (h : stream.Tracks credential all released)
    (h' : stream'.Tracks credential all released') :
    released = released' ∧ stream = stream' := by
  have hsize : byteLen stream.pending = byteLen stream'.pending := by
    have hst := h.state.symm.trans h'.state
    exact Option.some.inj hst
  have hbytes : asBytes released ++ asBytes stream.pending =
      asBytes released' ++ asBytes stream'.pending := by
    rw [← asBytes_append, ← asBytes_append, h.text, h'.text]
  obtain ⟨hreleased, hpend⟩ := append_inj' hbytes hsize
  refine ⟨asBytes_injective hreleased, ?_⟩
  have hpend : stream.pending = stream'.pending := asBytes_injective hpend
  have hguard : stream.guard = stream'.guard := h.guard.trans h'.guard.symm
  cases stream
  cases stream'
  cases hpend
  cases hguard
  rfl

end Fragments

/-- **The reflection guard is exact.** For every non-empty credential and every sequence of
    fragments: without the credential in their concatenation every push succeeds, what was
    released is free of the credential, what is retained is the longest proper beginning of
    it at the end of the text, and the two make up the text; with it, the first push that
    completes it fails with the reflection error; and only the concatenation matters. -/
theorem reflection_stream_exact (credential : String) (hc : credential ≠ "") :
    (∀ fragments, strContains (concat fragments) credential = false →
      ∃ outs stream, (ReflectionStream.new (.new (some credential))).pushAll uuid fragments =
          .ok (outs, stream) ∧
        concat outs ++ stream.finish.1 = concat fragments ∧
        strContains (concat outs) credential = false ∧
        RetainsLongest credential (concat fragments) stream.pending) ∧
    (∀ fragments, strContains (concat fragments) credential = true →
      ∃ before fragment after, fragments = before ++ fragment :: after ∧
        strContains (concat before) credential = false ∧
        strContains (concat (before ++ [fragment])) credential = true ∧
        ∃ outs stream, (ReflectionStream.new (.new (some credential))).pushAll uuid before =
            .ok (outs, stream) ∧
          stream.push uuid fragment = .error (.error (credentialReflectionError uuid))) ∧
    (∀ fragments fragments', concat fragments = concat fragments' →
      (ReflectionStream.new (.new (some credential))).outcome uuid fragments =
        (ReflectionStream.new (.new (some credential))).outcome uuid fragments') := by
  have hrun (fragments : List String) (hclean : strContains (concat fragments) credential = false) :
      ∃ outs stream, (ReflectionStream.new (.new (some credential))).pushAll uuid fragments =
          .ok (outs, stream) ∧ stream.Tracks credential (concat fragments) (concat outs) := by
    have h := pushAll_tracks uuid hc fragments (tracks_new credential)
      (by rwa [String.empty_append])
    simpa only [String.empty_append] using h
  refine ⟨?_, ?_, ?_⟩
  · intro fragments hclean
    obtain ⟨outs, stream, hpush, htracks⟩ := hrun fragments hclean
    exact ⟨outs, stream, hpush, htracks.text, htracks.released_clean hc, htracks.retainsLongest hc⟩
  · intro fragments hcont
    obtain ⟨before, fragment, after, hsplit, hclean, hcompl⟩ :=
      exists_completing_fragment hc hcont
    obtain ⟨outs, stream, hpush, htracks⟩ := hrun before hclean
    refine ⟨before, fragment, after, hsplit, hclean, hcompl, outs, stream, hpush, ?_⟩
    refine push_reflected uuid hc htracks ?_
    simpa using hcompl
  · intro fragments fragments' hsame
    cases hcont : strContains (concat fragments) credential with
    | true => rw [outcome_reflected hc hcont, outcome_reflected hc (hsame ▸ hcont)]
    | false =>
      obtain ⟨outs, stream, hpush, htracks⟩ := hrun fragments hcont
      obtain ⟨outs', stream', hpush', htracks'⟩ := hrun fragments' (hsame ▸ hcont)
      rw [← hsame] at htracks'
      obtain ⟨houts, hstrm⟩ := htracks.unique htracks'
      rw [ReflectionStream.outcome, ReflectionStream.outcome, hpush, hpush']
      show Except.ok (concat outs, stream) = Except.ok (concat outs', stream')
      rw [houts, hstrm]

theorem reflection_stream_exact_abab :
    "abab" ≠ "" ∧ ∃ before fragment after,
      ["say aba", "a ab", "ab!"] = before ++ fragment :: after ∧
      strContains (concat before) "abab" = false ∧
      strContains (concat (before ++ [fragment])) "abab" = true ∧
      ∃ outs stream, (ReflectionStream.new (.new (some "abab"))).pushAll "id" before =
          .ok (outs, stream) ∧
        stream.push "id" fragment = .error (.error (credentialReflectionError "id")) :=
  ⟨by decide, (reflection_stream_exact "id" "abab" (by decide)).2.1 ["say aba", "a ab", "ab!"]
    (by decide)⟩

end LorePia.Chat
