import LorePia.Domain.Text
import LorePia.Lib.Stateful

namespace LorePia.Platform

open Lib Stateful

/-!
# The keychain

A credential is kept in the protected store of the system; an earlier version kept it in the legacy
store, from which it is moved.  Every call of the system can fail, and a write can store something
else than it was given, so the plugin reads back what it wrote and restores what was there.

* `Always` — what a program does whatever the system answers, with a rule for each call;
* `Kept` — what an operation leaves of the credentials;
* `played_kept` — every operation of a run keeps them, unless it asks for recovery.
-/

inductive PlatformErrorCode
  | invalidInput
  | busy
  | permissionDenied
  | storageUnavailable
  | credentialUnavailable
  | credentialRecoveryRequired
  | selectionFailed
  | selectedFileTooLarge
  | unsupportedPlatform
  | internal
deriving DecidableEq

/-- A `PlatformError` is its code. -/
abbrev PlatformResult := Except PlatformErrorCode

def maximumCredentialReadBytes : Nat := 32 * 1024
def maximumCredentialWriteBytes : Nat := 16 * 1024

def validateCredentialRead (value : String) : PlatformResult Unit :=
  require (trim value ≠ "" ∧ byteLen value ≤ maximumCredentialReadBytes) .invalidInput

def validateCredentialWrite (value : String) : PlatformResult Unit :=
  require (trim value ≠ "" ∧ byteLen value ≤ maximumCredentialWriteBytes) .invalidInput

def normalizeCredential (value : String) : PlatformResult String := do
  let normalized := trim value
  validateCredentialWrite normalized
  return normalized

/-! ### The system -/

inductive KeychainStore
  | dataProtection
  | legacy
deriving DecidableEq

inductive KeychainAccessibility
  | required
  | other (name : String)
  | legacy
deriving DecidableEq

structure KeychainRecord where
  value : String
  accessibility : KeychainAccessibility
deriving DecidableEq

/-- The items of one service and reference. -/
structure Keychain where
  dataProtection : Option KeychainRecord
  legacy : Option KeychainRecord
deriving DecidableEq

def Keychain.item (keychain : Keychain) : KeychainStore → Option KeychainRecord
  | .dataProtection => keychain.dataProtection
  | .legacy => keychain.legacy

def Keychain.without (keychain : Keychain) : KeychainStore → Keychain
  | .dataProtection => { keychain with dataProtection := none }
  | .legacy => { keychain with legacy := none }

/-- How the system answers a call.  A write can store another record, and a deletion in the legacy
    store can fail after it took effect. -/
inductive Answer
  | done
  | stored (record : KeychainRecord)
  | failed (code : PlatformErrorCode)
  | failedAfter (code : PlatformErrorCode)

/-- The keychain and the answers to come; further calls are done. -/
structure Backend where
  keychain : Keychain
  answers : List Answer

abbrev Keyring := Stateful Backend PlatformErrorCode

namespace Backend

def next (backend : Backend) : Answer × Backend :=
  (backend.answers.head?.getD .done, { backend with answers := backend.answers.tail })

def read (store : KeychainStore) : Keyring (Option KeychainRecord) :=
  ExceptT.mk fun backend =>
    let (answer, backend) := backend.next
    match answer with
    | .done | .stored _ => (.ok (backend.keychain.item store), backend)
    | .failed code | .failedAfter code => (.error code, backend)

def upsertDataProtection (record : KeychainRecord) : Keyring Unit :=
  ExceptT.mk fun backend =>
    let (answer, backend) := backend.next
    let write := fun record =>
      { backend with keychain := { backend.keychain with dataProtection := some record } }
    match answer with
    | .done => (.ok (), write record)
    | .stored record => (.ok (), write record)
    | .failed code | .failedAfter code => (.error code, backend)

def delete (store : KeychainStore) : Keyring Unit :=
  ExceptT.mk fun backend =>
    let (answer, backend) := backend.next
    let deleted := { backend with keychain := backend.keychain.without store }
    match answer, store with
    | .done, _ | .stored _, _ => (.ok (), deleted)
    | .failed code, _ | .failedAfter code, .dataProtection => (.error code, backend)
    | .failedAfter code, .legacy => (.error code, deleted)

end Backend

/-! ### Verification -/

def readValidatedRecord (store : KeychainStore) : Keyring (Option KeychainRecord) := do
  match ← Backend.read store with
  | none => return none
  | some record =>
    check ((validateCredentialRead record.value).mapError fun _ => .credentialUnavailable)
    return some record

def verifyDataProtection (expected : KeychainRecord) : Keyring Unit := do
  let actual ← readValidatedRecord .dataProtection
  check (require (actual = some expected) .credentialUnavailable)

def verifyAbsent (store : KeychainStore) : Keyring Unit := do
  let actual ← Backend.read store
  check (require (actual = none) .credentialUnavailable)

def restoreDataProtection : Option KeychainRecord → Keyring Unit
  | some previous => do
    Backend.upsertDataProtection previous
    verifyDataProtection previous
  | none => do
    Backend.delete .dataProtection
    verifyAbsent .dataProtection

/-- `if let Err(error) = attempt { restore.map_err(credential_recovery_required)?; Err(error) }`. -/
def restoring (restore attempt : Keyring Unit) : Keyring Unit := do
  match ← observe attempt with
  | .ok () => return ()
  | .error error =>
    match ← observe restore with
    | .ok () => check (.error error)
    | .error _ => check (.error .credentialRecoveryRequired)

/-! ### Operations -/

/-- Write a record and read it back; when it cannot be verified, the previous one is restored. -/
def writeDataProtection (previous : Option KeychainRecord) (record : KeychainRecord) :
    Keyring Unit := do
  Backend.upsertDataProtection record
  restoring (restoreDataProtection previous) (verifyDataProtection record)

/-- `if migrate_legacy { backend.delete(service, reference, KeychainStore::Legacy)?; }`. -/
def deleteLegacy (migrateLegacy : Bool) : Keyring Unit :=
  if migrateLegacy then Backend.delete .legacy else return ()

def hardenDataProtectionIfNeeded (previous : KeychainRecord) (normalized : String) : Keyring Unit :=
  if previous.accessibility = .required ∧ previous.value = normalized then return ()
  else writeDataProtection (some previous) ⟨normalized, .required⟩

def migrateLegacyCredential (value : String) : Keyring Unit := do
  let normalized ← check ((normalizeCredential value).mapError fun _ => .credentialUnavailable)
  writeDataProtection none ⟨normalized, .required⟩
  -- the verified copy stays when the legacy one cannot be deleted
  Backend.delete .legacy

def readCurrentCredential (migrateLegacy : Bool) : Keyring (Option String) := do
  match ← readValidatedRecord .dataProtection with
  | some record =>
    let normalized ← check ((normalizeCredential record.value).mapError fun _ =>
      .credentialUnavailable)
    hardenDataProtectionIfNeeded record normalized
    deleteLegacy migrateLegacy
    return some normalized
  | none =>
    if !migrateLegacy then return none
    else
      match ← readValidatedRecord .legacy with
      | none => return none
      | some record =>
        let normalized ← check ((normalizeCredential record.value).mapError fun _ =>
          .credentialUnavailable)
        migrateLegacyCredential normalized
        return some normalized

def storeCredentialWith (value : String) (migrateLegacy : Bool) : Keyring Unit := do
  let normalized ← check (normalizeCredential value)
  let previous ← readValidatedRecord .dataProtection
  writeDataProtection previous ⟨normalized, .required⟩
  -- a new item is not deleted again: it is the only verified copy
  restoring (if previous.isSome then restoreDataProtection previous else return ())
    (deleteLegacy migrateLegacy)

def deleteCredentialWith (migrateLegacy : Bool) : Keyring Unit := do
  let previous ← readValidatedRecord .dataProtection
  restoring (restoreDataProtection previous) do
    Backend.delete .dataProtection
    verifyAbsent .dataProtection
    deleteLegacy migrateLegacy

/-! ### Whatever the system answers -/

/-- From a keychain, a program that returns leaves `ok` and one that fails leaves `error`, whatever
    the system answers. -/
def Always {α : Type} (k : Keychain) (x : Keyring α) (ok : α → Keychain → Prop)
    (error : PlatformErrorCode → Keychain → Prop) : Prop :=
  ∀ answers r b, exec x ⟨k, answers⟩ = (r, b) →
    (∀ a, r = .ok a → ok a b.keychain) ∧ ∀ e, r = .error e → error e b.keychain

variable {α β : Type} {k : Keychain} {ok : α → Keychain → Prop} {ok' : β → Keychain → Prop}
  {done : Unit → Keychain → Prop} {error : PlatformErrorCode → Keychain → Prop}
  {store : KeychainStore} {record expected old : KeychainRecord} {value normalized : String}
  {migrateLegacy : Bool}

theorem Always.bind (h : Always k x (fun a k' => Always k' (f a) ok' error) error) :
    Always k (x >>= f) ok' error := by
  intro answers r b hexec
  rcases bind_cases hexec with ⟨e, hx, rfl⟩ | ⟨a, ⟨k', answers'⟩, hx, hf⟩
  · simpa using (h _ _ _ hx).2 e rfl
  · exact (h _ _ _ hx).1 a rfl _ _ _ hf

theorem Always.pure (h : ok a k) : Always k (Pure.pure a) ok error := by
  rintro answers _ _ ⟨⟩
  simpa using h

theorem Always.check (hok : ∀ a, y = .ok a → ok a k) (herror : ∀ e, error e k) :
    Always k (check y) ok error := by
  rintro answers _ _ ⟨⟩
  exact ⟨hok, fun e _ => herror e⟩

theorem Always.read {ok : Option KeychainRecord → Keychain → Prop} (hok : ok (k.item store) k)
    (herror : ∀ e, error e k) : Always k (Backend.read store) ok error := by
  intro answers r b h
  simp only [exec, Backend.read, ExceptT.run, ExceptT.mk, StateT.run, Backend.next] at h
  split at h
  all_goals
    cases h
    simp [hok, herror]

theorem Always.upsertDataProtection
    (hok : ∀ written, done () { k with dataProtection := some written }) (herror : ∀ e, error e k) :
    Always k (Backend.upsertDataProtection record) done error := by
  intro answers r b h
  simp only [exec, Backend.upsertDataProtection, ExceptT.run, ExceptT.mk, StateT.run,
    Backend.next] at h
  split at h
  all_goals
    cases h
    simp [hok, herror]

theorem Always.delete (hok : done () (k.without store)) (herror : ∀ e, error e k)
    (hafter : store = .legacy → ∀ e, error e (k.without .legacy)) :
    Always k (Backend.delete store) done error := by
  intro answers r b h
  simp only [exec, Backend.delete, ExceptT.run, ExceptT.mk, StateT.run, Backend.next] at h
  split at h
  all_goals
    cases h
    simp [hok, herror, hafter]

/-- A failed attempt is undone, or recovery is required. -/
theorem Always.restoring {restore attempt : Keyring Unit}
    (h : Always k attempt done fun e k' => Always k' restore (fun _ => error e)
      fun _ => error .credentialRecoveryRequired) :
    Always k (restoring restore attempt) done error := by
  intro answers r b hexec
  obtain ⟨answer, ⟨k', answers'⟩, hattempt⟩ : ∃ answer m, exec attempt ⟨k, answers⟩ = (answer, m) :=
    ⟨_, _, rfl⟩
  rw [Platform.restoring, exec_observe_bind, hattempt] at hexec
  obtain ⟨hok, herror⟩ := h _ _ _ hattempt
  cases answer with
  | ok =>
    cases hexec
    exact ⟨fun a _ => hok a rfl, by simp⟩
  | error e =>
    obtain ⟨answer, m, hrestore⟩ : ∃ answer m, exec restore ⟨k', answers'⟩ = (answer, m) :=
      ⟨_, _, rfl⟩
    obtain ⟨hrestored, hlost⟩ := herror e rfl _ _ _ hrestore
    simp only [exec_observe_bind, hrestore] at hexec
    cases answer with
    | ok =>
      cases hexec
      simpa using hrestored _ rfl
    | error =>
      cases hexec
      simpa using hlost _ rfl

/-- A record that the plugin accepts when it reads it. -/
def Valid (record : KeychainRecord) : Prop := validateCredentialRead record.value = .ok ()

theorem Always.readValidatedRecord {ok : Option KeychainRecord → Keychain → Prop}
    (hok : (∀ record ∈ k.item store, Valid record) → ok (k.item store) k)
    (herror : ∀ e, error e k) : Always k (readValidatedRecord store) ok error := by
  refine .bind (.read ?_ herror)
  cases hitem : k.item store with
  | none =>
    rw [hitem] at hok
    exact .pure (hok fun _ h => by cases h)
  | some record =>
    rw [hitem] at hok
    refine .bind (.check (fun _ hvalid => .pure (hok ?_)) herror)
    rintro _ ⟨⟩
    exact mapError_ok.mp hvalid

theorem Always.verifyDataProtection
    (hok : k.dataProtection = some expected → Valid expected → done () k)
    (herror : ∀ e, error e k) : Always k (verifyDataProtection expected) done error := by
  refine .bind (.readValidatedRecord (fun hvalid => .check (fun _ h => ?_) herror) herror)
  have hsame := require_ok.mp h
  exact hok hsame (hvalid expected hsame)

/-- What is restored is what was there. -/
theorem Always.restoreDataProtection (hok : done () { k with dataProtection := previous })
    (herror : ∀ e k', error e k') : Always k (restoreDataProtection previous) done error := by
  cases previous with
  | some previous =>
    refine .bind (.upsertDataProtection (fun written => ?_) fun e => herror e k)
    refine .verifyDataProtection (fun hsame _ => ?_) fun e => herror e _
    cases hsame
    exact hok
  | none =>
    refine .bind (.delete (.bind (.read (.check (fun _ _ => hok) ?_) ?_)) ?_ ?_)
    · exact fun e => herror e _
    · exact fun e => herror e _
    · exact fun e => herror e _
    · exact fun _ e => herror e _

/-- A record is written and verified, or the one before it is back. -/
theorem Always.writeDataProtection (hprevious : k.dataProtection = previous)
    (hok : Valid record → done () { k with dataProtection := some record })
    (herror : ∀ e, error e k) (hrecovery : ∀ k', error .credentialRecoveryRequired k') :
    Always k (writeDataProtection previous record) done error := by
  subst hprevious
  refine .bind (.upsertDataProtection (fun written => .restoring ?_) herror)
  refine .verifyDataProtection (fun hsame hvalid => ?_) fun e => ?_
  · cases hsame
    exact hok hvalid
  · exact .restoreDataProtection (herror e) fun _ => hrecovery

theorem Always.deleteLegacy (hok : ∀ legacy, (migrateLegacy = true → legacy = none) →
      done () { k with legacy := legacy }) (herror : ∀ e legacy, error e { k with legacy := legacy }) :
    Always k (deleteLegacy migrateLegacy) done error := by
  cases migrateLegacy with
  | false => exact .pure (hok k.legacy fun h => by cases h)
  | true =>
    exact .delete (hok none fun _ => rfl) (fun e => herror e k.legacy) fun _ e => herror e none

/-! ### What an operation leaves -/

inductive Operation
  | read (migrateLegacy : Bool)
  | store (value : String) (migrateLegacy : Bool)
  | delete (migrateLegacy : Bool)

def Operation.perform : Operation → Keyring (Option String)
  | .read migrateLegacy => readCurrentCredential migrateLegacy
  | .store value migrateLegacy => do
    storeCredentialWith value migrateLegacy
    return none
  | .delete migrateLegacy => do
    deleteCredentialWith migrateLegacy
    return none

/-- The credential that a read finds. -/
def Keychain.current (keychain : Keychain) (migrateLegacy : Bool) : Option KeychainRecord :=
  keychain.dataProtection.or (if migrateLegacy then keychain.legacy else none)

/-- The keychain holds exactly this credential. -/
def Keychain.Holds (keychain : Keychain) (value : String) (migrateLegacy : Bool) : Prop :=
  keychain.dataProtection = some ⟨value, .required⟩ ∧
    (migrateLegacy = true → keychain.legacy = none)

/-- A valid record of the stores in use is still in one of them, or another old one is, or what
    `text` is normalized to. -/
def KeepsCopy (migrateLegacy : Bool) (text : Option String) (before after : Keychain) : Prop :=
  ∀ store, (store = .dataProtection ∨ migrateLegacy = true) →
    ∀ old, before.item store = some old → Valid old →
      ∃ store record, (store = .dataProtection ∨ migrateLegacy = true) ∧
        after.item store = some record ∧ Valid record ∧
        ((∃ store, before.item store = some record) ∨
          ∃ value ∈ text, normalizeCredential value = .ok record.value)

def Operation.Keeps (before after : Keychain) : Operation → Prop
  | .read migrateLegacy =>
    KeepsCopy migrateLegacy ((before.current migrateLegacy).map KeychainRecord.value) before after
  | .store value migrateLegacy => KeepsCopy migrateLegacy (some value) before after
  | .delete _ => True

/-- What an operation leaves that succeeds. -/
def Operation.Leaves (before after : Keychain) : Operation → Option String → Prop
  | .read _, none => True
  | .read migrateLegacy, some value => after.Holds value migrateLegacy ∧
      ∃ old, before.current migrateLegacy = some old ∧ normalizeCredential old.value = .ok value
  | .store value migrateLegacy, _ => ∃ normalized, normalizeCredential value = .ok normalized ∧
      after.Holds normalized migrateLegacy
  | .delete migrateLegacy, _ => after.dataProtection = none ∧
      (migrateLegacy = true → after.legacy = none)

/-- What an operation leaves that fails. -/
def Operation.Restores (before after : Keychain) : Operation → Prop
  | .read _ => True
  | .store _ _ => before.dataProtection.isSome → after.dataProtection = before.dataProtection
  | .delete _ => after.dataProtection = before.dataProtection

/-- What an operation leaves of the credentials. -/
structure Kept (operation : Operation) (before : Keychain) (result : PlatformResult (Option String))
    (after : Keychain) : Prop where
  keeps : operation.Keeps before after
  leaves : ∀ found, result = .ok found → operation.Leaves before after found
  restores : ∀ e, result = .error e → operation.Restores before after

variable {before after : Keychain} {text found : Option String} {operation : Operation}
  {e : PlatformErrorCode}

theorem Kept.returned (hkeeps : operation.Keeps before after)
    (hleaves : operation.Leaves before after found) : Kept operation before (.ok found) after :=
  ⟨hkeeps, by rintro _ ⟨⟩; exact hleaves, by rintro _ ⟨⟩⟩

theorem Kept.failed (hkeeps : operation.Keeps before after)
    (hrestores : operation.Restores before after) : Kept operation before (.error e) after :=
  ⟨hkeeps, by rintro _ ⟨⟩, fun _ _ => hrestores⟩

theorem KeepsCopy.refl : KeepsCopy migrateLegacy text before before :=
  fun store huses old hold hvalid => ⟨store, old, huses, hold, hvalid, .inl ⟨store, hold⟩⟩

/-- One record in the protected store accounts for all of them. -/
theorem KeepsCopy.of_dataProtection (hafter : after.dataProtection = some record)
    (hvalid : Valid record) (hfrom : (∃ store, before.item store = some record) ∨
      ∃ value ∈ text, normalizeCredential value = .ok record.value) :
    KeepsCopy migrateLegacy text before after :=
  fun _ _ _ _ _ => ⟨.dataProtection, record, .inl rfl, hafter, hvalid, hfrom⟩

theorem normalizeCredential_normalized (h : normalizeCredential value = .ok normalized) :
    normalizeCredential normalized = .ok normalized := by
  obtain ⟨_, hwrite, rfl⟩ := last_step h
  rw [normalizeCredential, trim_trim, hwrite]
  rfl

theorem Always.hardenDataProtectionIfNeeded (hold : k.dataProtection = some old)
    (hvalid : Valid old) (hok : Valid ⟨normalized, .required⟩ →
      done () { k with dataProtection := some ⟨normalized, .required⟩ })
    (herror : ∀ e, error e k) (hrecovery : ∀ k', error .credentialRecoveryRequired k') :
    Always k (hardenDataProtectionIfNeeded old normalized) done error := by
  rw [Platform.hardenDataProtectionIfNeeded]
  split
  case isTrue hsame =>
    obtain ⟨hrequired, rfl⟩ := hsame
    have hrecord : (⟨old.value, .required⟩ : KeychainRecord) = old := by rw [← hrequired]
    rw [hrecord, ← hold] at hok
    exact .pure (hok hvalid)
  case isFalse => exact .writeDataProtection hold hok herror hrecovery

/-- The operation keeps the credentials, unless it asks for recovery. -/
def Operation.Safe (operation : Operation) (k : Keychain) : Prop :=
  Always k operation.perform (fun found => Kept operation k (.ok found))
    fun e k' => e ≠ .credentialRecoveryRequired → Kept operation k (.error e) k'

open Keychain

open Operation

theorem read_safe : (read migrateLegacy).Safe k := by
  have hsame : ∀ e, e ≠ .credentialRecoveryRequired →
      Kept (.read migrateLegacy) k (.error e) k := fun _ _ => .failed .refl trivial
  refine .bind (.readValidatedRecord (fun hvalid => ?_) hsame)
  -- what is read is written back as it is normalized
  have hkeeps : ∀ old value legacy, k.current migrateLegacy = some old →
      normalizeCredential old.value = .ok value → Valid ⟨value, .required⟩ →
        (read migrateLegacy).Keeps k ⟨some ⟨value, .required⟩, legacy⟩ := by
    intro old value legacy hcurrent hvalue hnew
    refine .of_dataProtection rfl hnew (.inr ⟨old.value, ?_, hvalue⟩)
    rw [hcurrent]
    rfl
  cases hprotected : k.dataProtection with
  | some old =>
    have hcurrent : k.current migrateLegacy = some old := by
      rw [current, hprotected]
      rfl
    rw [item, hprotected] at hvalid ⊢
    refine .bind (.check (fun value hvalue => ?_) hsame)
    have hvalue := mapError_ok.mp hvalue
    refine .bind (.hardenDataProtectionIfNeeded hprotected (hvalid old rfl) (fun hnew => ?_)
      hsame fun _ h => absurd rfl h)
    refine .bind (.deleteLegacy (fun legacy hlegacy => .pure ?_) fun _ legacy _ => ?_)
    · exact .returned (hkeeps old value legacy hcurrent hvalue hnew)
        ⟨⟨rfl, hlegacy⟩, old, hcurrent, hvalue⟩
    · exact .failed (hkeeps old value legacy hcurrent hvalue hnew) trivial
  | none =>
    rw [item, hprotected]
    cases migrateLegacy with
    | false => exact .pure (.returned .refl trivial)
    | true =>
      refine .bind (.readValidatedRecord (fun _ => ?_) hsame)
      cases hlegacy : k.legacy with
      | none =>
        rw [item, hlegacy]
        exact .pure (.returned .refl trivial)
      | some old =>
        have hcurrent : k.current true = some old := by
          rw [current, hprotected]
          exact hlegacy
        rw [item, hlegacy]
        refine .bind (.check (fun value hvalue => ?_) hsame)
        have hvalue := mapError_ok.mp hvalue
        rw [migrateLegacyCredential, normalizeCredential_normalized hvalue]
        refine .bind (.bind (.check ?_ hsame))
        rintro _ ⟨⟩
        refine .bind (.writeDataProtection hprotected (fun hnew => ?_) hsame
          fun _ h => absurd rfl h)
        refine .delete (.pure ?_) (fun _ _ => ?_) fun _ _ _ => ?_
        · exact .returned (hkeeps old value _ hcurrent hvalue hnew)
            ⟨⟨rfl, fun _ => rfl⟩, old, hcurrent, hvalue⟩
        · exact .failed (hkeeps old value _ hcurrent hvalue hnew) trivial
        · exact .failed (hkeeps old value _ hcurrent hvalue hnew) trivial

theorem store_safe : (Operation.store value migrateLegacy).Safe k := by
  have hsame : ∀ e, e ≠ .credentialRecoveryRequired →
      Kept (.store value migrateLegacy) k (.error e) k := fun _ _ => .failed .refl fun _ => rfl
  refine .bind (.bind (.check (fun normalized hnormalized => ?_) hsame))
  refine .bind (.readValidatedRecord (fun hvalid => ?_) hsame)
  refine .bind (.writeDataProtection rfl (fun hnew => .restoring ?_) hsame fun _ h => absurd rfl h)
  have hkeeps : ∀ legacy, (store value migrateLegacy).Keeps k
      ⟨some ⟨normalized, .required⟩, legacy⟩ := fun legacy =>
    .of_dataProtection rfl hnew (.inr ⟨value, rfl, hnormalized⟩)
  refine .deleteLegacy (fun legacy hlegacy => ?_) fun e legacy => ?_
  · exact .pure (.returned (hkeeps legacy) ⟨normalized, hnormalized, rfl, hlegacy⟩)
  rw [item] at hvalid ⊢
  cases hprevious : k.dataProtection with
  | none =>
    refine .pure fun _ => .failed (hkeeps legacy) fun h => ?_
    rw [hprevious] at h
    cases h
  | some previous =>
    show Always _ (restoreDataProtection (some previous)) _ _
    refine .restoreDataProtection (fun _ => .failed ?_ fun _ => hprevious.symm)
      fun _ _ h => absurd rfl h
    exact .of_dataProtection rfl (hvalid previous hprevious) (.inl ⟨.dataProtection, hprevious⟩)

theorem delete_safe : (delete migrateLegacy).Safe k := by
  refine .bind (.bind (.readValidatedRecord (fun _ => .restoring ?_)
    fun _ _ => .failed trivial rfl))
  have hrestore : ∀ e k', Always k' (restoreDataProtection k.dataProtection)
      (fun _ k' => e ≠ .credentialRecoveryRequired →
        Kept (.delete migrateLegacy) k (.error e) k')
      fun _ k' => PlatformErrorCode.credentialRecoveryRequired ≠ .credentialRecoveryRequired →
        Kept (.delete migrateLegacy) k (.error .credentialRecoveryRequired) k' := fun _ _ =>
    .restoreDataProtection (fun _ => .failed trivial rfl) fun _ _ h => absurd rfl h
  refine .bind (.delete (.bind (.bind (.read ?_ fun e => hrestore e _))) (fun e => hrestore e _)
    fun _ e => hrestore e _)
  refine .check (fun _ _ => .deleteLegacy (fun legacy hlegacy => .pure ?_) fun e _ => hrestore e _)
    fun e => hrestore e _
  exact .returned trivial ⟨rfl, hlegacy⟩

/-! ### Runs -/

theorem Operation.safe (operation : Operation) (k : Keychain) : operation.Safe k := by
  cases operation with
  | read => exact read_safe
  | store => exact store_safe
  | delete => exact delete_safe

/-- One operation of a run. -/
structure Played where
  operation : Operation
  before : Backend
  result : PlatformResult (Option String)
  after : Backend

/-- The operations of a run, one after the other. -/
def played (backend : Backend) : List Operation → List Played
  | [] => []
  | operation :: operations =>
    let answer := exec operation.perform backend
    ⟨operation, backend, answer.1, answer.2⟩ :: played answer.2 operations

/-- **The only copy of a credential.**  Every operation of a run that does not ask for recovery keeps
    the credentials, whatever the system answers. -/
theorem played_kept (backend : Backend) (operations : List Operation) :
    ∀ p ∈ played backend operations, p.result ≠ .error .credentialRecoveryRequired →
      Kept p.operation p.before.keychain p.result p.after.keychain := by
  induction operations generalizing backend with
  | nil => exact List.forall_mem_nil _
  | cons operation operations ih =>
    rw [played, List.forall_mem_cons]
    refine ⟨fun hrecovery => ?_, ih _⟩
    obtain ⟨hok, herror⟩ := operation.safe backend.keychain backend.answers _ _ rfl
    cases hresult : (exec operation.perform backend).1 with
    | ok found => exact hok found hresult
    | error e =>
      refine herror e hresult ?_
      rintro rfl
      exact hrecovery hresult

/-- A credential in the legacy store; the first write stores another one, and the first deletion in
    the legacy store fails after it took effect. -/
def driftingBackend : Backend where
  keychain := ⟨none, some ⟨" secret", .legacy⟩⟩
  answers := [.done, .done, .stored ⟨"other", .required⟩, .done, .done, .done,
    .done, .done, .done, .done, .failedAfter .credentialUnavailable]

def driftingOperations : List Operation := [.read true, .read true, .store "new" true, .delete true]

theorem played_kept_drifting : (played driftingBackend driftingOperations).Forall fun p =>
    Kept p.operation p.before.keychain p.result p.after.keychain := by
  have hrecovery : ∀ p ∈ played driftingBackend driftingOperations,
      p.result ≠ .error .credentialRecoveryRequired := by decide
  exact List.forall_iff_forall_mem.mpr fun p hp => played_kept _ _ p hp (hrecovery p hp)

end LorePia.Platform
