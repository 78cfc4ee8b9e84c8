import LorePia.Domain.Error
import LorePia.Lib.Admission
import LorePia.Lib.Table
import Mathlib.Data.List.Pairwise

namespace LorePia

open Lib List Admission Or Table

/-!
# The paths of an archive

`register_archive_path` keeps a map from the collision keys seen so far to whether each is a
directory, and refuses a key that is taken, lies under a file, or is a file above a key
already seen.  Each entry is checked against the earlier ones only.

* `registerArchivePath_ok` — what one registration checks, as a relation of paths;
* `registerArchivePaths_spec` — a list is registered exactly when it is a consistent tree.
-/

variable {p q s : String} {separator : Char}

/-- `unsafe_archive`. -/
def unsafeArchive (operationId message : String) : CoreError :=
  .new operationId .unsafeArchive message false

/-- `unsupported_archive`. -/
def unsupportedArchive (operationId message : String) : CoreError :=
  .new operationId .unsupportedContent message false

/-- `str::rsplit_once`. -/
def rsplitOnce (separator : Char) (s : String) : Option (String × String) :=
  match s.toList.reverse.dropWhile (· ≠ separator) with
  | [] => none
  | _ :: before =>
    some (String.ofList before.reverse,
      String.ofList (s.toList.reverse.takeWhile (· ≠ separator)).reverse)

/-- `archive_paths`: whether each key seen so far is a directory. -/
abbrev ArchivePaths := Table String (String × Bool) Prod.fst

/-- The loop over `ancestor`: some parent of it is registered as a file.  Every turn drops a
    character, so as many turns as characters are enough. -/
def descendsThroughFile (archivePaths : ArchivePaths) : Nat → String → Bool
  | 0, _ => false
  | turns + 1, ancestor =>
    match rsplitOnce '/' ancestor with
    | none => false
    | some (parent, _) =>
      (archivePaths.find? parent).any (fun entry => !entry.2) ||
        descendsThroughFile archivePaths turns parent

/-- `register_archive_path`. -/
def registerArchivePath (operationId : String) (archivePaths : ArchivePaths)
    (collisionKey : String) (isDirectory : Bool) (originalName : String) :
    CoreResult ArchivePaths := do
  require (archivePaths.find? collisionKey = none) (unsafeArchive operationId
      ("archive path collides after normalization: " ++ originalName))
  require (descendsThroughFile archivePaths (charCount collisionKey) collisionKey = false)
    (unsafeArchive operationId ("archive path descends through a file: " ++ originalName))
  require (isDirectory = true ∨
      (archivePaths.rows.any fun entry => strStartsWith entry.1 (collisionKey ++ "/")) = false)
    (unsafeArchive operationId ("archive file path collides with a directory: " ++ originalName))
  return archivePaths.upsert (collisionKey, isDirectory) (fun entry => (entry.1, isDirectory))
    fun _ => rfl

/-- What an archive says of one entry's path. -/
structure PathEntry where
  collisionKey : String
  isDirectory : Bool
  originalName : String

/-- The registrations of an archive, in the order of its entries. -/
def registerArchivePaths (operationId : String) (entries : List PathEntry) :
    CoreResult ArchivePaths :=
  entries.foldlM (fun archivePaths entry =>
    registerArchivePath operationId archivePaths entry.collisionKey entry.isDirectory
      entry.originalName) Table.empty

/-! ### Ancestors -/

/-- `p` is a proper ancestor of `q`. -/
def IsAncestor (p q : String) : Prop := ∃ rest, q = p ++ "/" ++ rest

theorem IsAncestor.ne (h : IsAncestor p q) : p ≠ q := by
  obtain ⟨rest, rfl⟩ := h
  intro heq
  have hlen := congrArg charCount heq
  simp only [charCount_append] at hlen
  have : charCount "/" = 1 := by decide
  omega

theorem isAncestor_iff_isPrefixOf :
    IsAncestor p q ↔ p.toList ++ ['/'] <+: q.toList := by
  constructor
  · rintro ⟨rest, rfl⟩
    exact ⟨rest.toList, by simp⟩
  · rintro ⟨rest, h⟩
    refine ⟨String.ofList rest, ?_⟩
    apply String.toList_injective
    rw [← h]
    simp

/-- The prefix scan of the source finds the descendants. -/
theorem strStartsWith_slash_iff :
    strStartsWith q (p ++ "/") = true ↔ IsAncestor p q := by
  rw [strStartsWith, decide_eq_true_eq]
  constructor
  · intro h
    exact exists_append_of_asBytes_prefix h
  · rintro ⟨rest, rfl⟩
    rw [asBytes_append (p ++ "/")]
    exact prefix_append _ _

theorem rsplitOnce_eq_some {before after : String}
    (h : rsplitOnce separator s = some (before, after)) :
    s.toList = before.toList ++ separator :: after.toList ∧ separator ∉ after.toList := by
  unfold rsplitOnce at h
  split at h
  case h_1 => cases h
  case h_2 c rest hdrop =>
    cases h
    have hc : c = separator := by
      have hhead := head?_dropWhile_not (· ≠ separator) s.toList.reverse
      rw [hdrop] at hhead
      simpa using hhead
    have hsplit := takeWhile_append_dropWhile (p := (· ≠ separator)) (l := s.toList.reverse)
    rw [hdrop, hc] at hsplit
    constructor
    · have hreverse := congrArg List.reverse hsplit
      simpa using hreverse.symm
    · intro hmem
      rw [String.toList_ofList, mem_reverse] at hmem
      simpa using mem_takeWhile_imp hmem

theorem not_mem_of_rsplitOnce_eq_none
    (h : rsplitOnce separator s = none) : separator ∉ s.toList := by
  unfold rsplitOnce at h
  split at h
  case h_2 => cases h
  case h_1 hdrop =>
    intro hmem
    have hall := dropWhile_eq_nil_iff.mp hdrop separator (by simpa using hmem)
    simp at hall

/-- The ancestors of a path are its parent and the ancestors of that. -/
theorem isAncestor_iff_parent {parent last : String} (h : rsplitOnce '/' q = some (parent, last)) :
    IsAncestor p q ↔ p = parent ∨ IsAncestor p parent := by
  obtain ⟨hq, hlast⟩ := rsplitOnce_eq_some h
  rw [isAncestor_iff_isPrefixOf, isAncestor_iff_isPrefixOf, hq]
  constructor
  · rintro ⟨rest, hrest⟩
    rcases append_eq_append_iff.mp hrest with ⟨mid, hpar, -⟩ | ⟨mid, hp, hmid⟩
    · exact inr ⟨mid, hpar.symm⟩
    · cases mid with
      | nil => exact inr ⟨[], by rw [append_nil, hp, append_nil]⟩
      | cons c mid =>
        obtain ⟨rfl, hend⟩ := List.cons.inj hmid
        rcases mid.eq_nil_or_concat with rfl | ⟨mid', d, rfl⟩
        · exact inl (String.toList_injective (append_inj_left' hp rfl))
        · -- a slash of `p` would lie in the last component
          rw [concat_eq_append, ← cons_append, ← append_assoc] at hp
          have hd : ['/'] = [d] := append_inj_right' hp rfl
          exact absurd (by rw [hend, ← (List.cons.inj hd).1]; simp) hlast
  · rintro (rfl | hpar)
    · exact ⟨last.toList, by simp⟩
    · exact hpar.trans (prefix_append _ _)

/-- The loop finds the ancestors that are files. -/
theorem descendsThroughFile_iff (hturns : charCount ancestor ≤ turns) :
    descendsThroughFile archivePaths turns ancestor = true ↔
      ∃ entry ∈ archivePaths.rows, entry.2 = false ∧ IsAncestor entry.1 ancestor := by
  induction turns generalizing ancestor with
  | zero =>
    have hnil : ancestor.toList = [] := length_eq_zero_iff.mp (Nat.le_zero.mp hturns)
    simp [descendsThroughFile, isAncestor_iff_isPrefixOf, hnil]
  | succ turns ih =>
    rw [descendsThroughFile]
    split
    case h_1 hnone =>
      have hslash := not_mem_of_rsplitOnce_eq_none hnone
      constructor
      · simp
      · rintro ⟨entry, -, -, hanc⟩
        exact absurd ((isAncestor_iff_isPrefixOf.mp hanc).subset (by simp)) hslash
    case h_2 parent last hsome =>
      have hlen : charCount parent ≤ turns := by
        have hq := congrArg List.length (rsplitOnce_eq_some hsome).1
        rw [length_append, length_cons] at hq
        unfold charCount at hturns ⊢
        omega
      rw [Bool.or_eq_true, ih hlen, Option.any_eq_true]
      constructor
      · rintro (⟨entry, hfind, hfile⟩ | ⟨entry, hmem, hfile, hanc⟩)
        · obtain ⟨hmem, hkey⟩ := find?_eq_some.mp hfind
          exact ⟨entry, hmem, by simpa using hfile, (isAncestor_iff_parent hsome).mpr (inl hkey)⟩
        · exact ⟨entry, hmem, hfile, (isAncestor_iff_parent hsome).mpr (inr hanc)⟩
      · rintro ⟨entry, hmem, hfile, hanc⟩
        rcases (isAncestor_iff_parent hsome).mp hanc with hkey | hanc
        · exact inl ⟨entry, find?_eq_some.mpr ⟨hmem, hkey⟩, by simp [hfile]⟩
        · exact inr ⟨entry, hmem, hfile, hanc⟩

/-! ### One registration -/

/-- Two entries that a file tree can hold together. -/
def Compatible (e e' : String × Bool) : Prop :=
  e.1 ≠ e'.1 ∧ (e.2 = false → ¬ IsAncestor e.1 e'.1) ∧ (e'.2 = false → ¬ IsAncestor e'.1 e.1)

theorem Compatible.symm (h : Compatible e e') : Compatible e' e :=
  ⟨h.1.symm, h.2.2, h.2.1⟩

instance compatible_symm : Std.Symm Compatible := ⟨fun _ _ h => h.symm⟩

variable {operationId : String} {archivePaths : ArchivePaths}

/-- A key is registered exactly when it is compatible with every key before it. -/
theorem registerArchivePath_ok :
    registerArchivePath operationId archivePaths collisionKey isDirectory originalName =
        .ok archivePaths' ↔
      (∀ entry ∈ archivePaths.rows, Compatible entry (collisionKey, isDirectory)) ∧
        archivePaths'.rows = archivePaths.rows ++ [(collisionKey, isDirectory)] := by
  have hscan : (isDirectory = true ∨
      (archivePaths.rows.any fun entry => strStartsWith entry.1 (collisionKey ++ "/")) = false) ↔
      (isDirectory = false → ∀ entry ∈ archivePaths.rows, ¬ IsAncestor collisionKey entry.1) := by
    cases isDirectory with
    | true => simp
    | false => simp [any_eq_false, strStartsWith_slash_iff]
  have hloop : descendsThroughFile archivePaths (charCount collisionKey) collisionKey = false ↔
      ∀ entry ∈ archivePaths.rows, entry.2 = false → ¬ IsAncestor entry.1 collisionKey := by
    rw [Bool.eq_false_iff, ne_eq, descendsThroughFile_iff le_rfl]
    simp
  have hchecks : (archivePaths.find? collisionKey = none ∧
      (∀ entry ∈ archivePaths.rows, entry.2 = false → ¬ IsAncestor entry.1 collisionKey) ∧
      (isDirectory = false → ∀ entry ∈ archivePaths.rows, ¬ IsAncestor collisionKey entry.1)) ↔
      ∀ entry ∈ archivePaths.rows, Compatible entry (collisionKey, isDirectory) := by
    rw [Table.find?_eq_none]
    constructor
    · rintro ⟨hfree, hup, hdown⟩ entry hent
      exact ⟨hfree entry hent, hup entry hent, fun hfile => hdown hfile entry hent⟩
    · intro h
      exact ⟨fun entry hent => (h entry hent).1, fun entry hent => (h entry hent).2.1,
        fun hfile entry hent => (h entry hent).2.2 hfile⟩
  unfold registerArchivePath
  rw [guard_ok, guard_ok, guard_ok, hloop, hscan]
  constructor
  · rintro ⟨hfree, hup, hdown, h⟩
    cases pure_inj h
    exact ⟨hchecks.mp ⟨hfree, hup, hdown⟩, rows_upsert_of_free hfree⟩
  · rintro ⟨hcompatible, hrows⟩
    obtain ⟨hfree, hup, hdown⟩ := hchecks.mpr hcompatible
    refine ⟨hfree, hup, hdown, ?_⟩
    exact congrArg Except.ok (ext_rows ((rows_upsert_of_free hfree).trans hrows.symm))

/-! ### All registrations -/

/-- The registrations of an archive as an admission. -/
def registration (operationId : String) :
    Admission ArchivePaths PathEntry (String × Bool) CoreError where
  step archivePaths entry :=
    registerArchivePath operationId archivePaths entry.collisionKey entry.isDirectory
      entry.originalName
  item entry := (entry.collisionKey, entry.isDirectory)
  held archivePaths := archivePaths.rows
  Compatible := Compatible
  symm := Compatible.symm
  step_ok h := registerArchivePath_ok.mp h
  step_isOk := by
    intro archivePaths entry h
    obtain ⟨t, ht⟩ : ∃ t, archivePaths.insert? (entry.collisionKey, entry.isDirectory) = some t :=
      Option.ne_none_iff_exists'.mp (Table.insert?_ne_none
        (Table.find?_eq_none.mpr fun row hrow => (h row hrow).1))
    exact ⟨t, registerArchivePath_ok.mpr ⟨h, (Table.insert?_eq_some.mp ht).2⟩⟩

/-- Distinct paths, no file above another path. -/
structure ConsistentTree (entries : List (String × Bool)) : Prop where
  distinct : (entries.map Prod.fst).Nodup
  files : ∀ entry ∈ entries, entry.2 = false → ∀ other ∈ entries, ¬ IsAncestor entry.1 other.1

theorem pairwise_compatible_iff :
    entries.Pairwise Compatible ↔ ConsistentTree entries := by
  constructor
  · intro h
    refine ⟨pairwise_map.mpr (h.imp fun hc => hc.1), ?_⟩
    intro entry hent hfile other hoth
    by_cases heq : entry = other
    · rw [heq]
      exact fun hanc => hanc.ne rfl
    · exact (h.forall hent hoth heq).2.1 hfile
  · intro h
    refine (pairwise_map.mp h.distinct).imp_of_mem fun {e e'} he he' hne => ?_
    exact ⟨hne, fun hfile => h.files e he hfile e' he', fun hfile => h.files e' he' hfile e he⟩

/-- **Registering an archive.** The registrations succeed exactly when the paths are distinct and
    no file lies above another path, so in every order of the entries or in none; and what is
    registered in the end is the entries, as a consistent tree. -/
theorem registerArchivePaths_spec (operationId : String) (entries : List PathEntry) :
    ((∃ archivePaths, registerArchivePaths operationId entries = .ok archivePaths) ↔
      ConsistentTree (entries.map fun entry => (entry.collisionKey, entry.isDirectory))) ∧
    (∀ entries' : List PathEntry, entries.Perm entries' →
      ((∃ archivePaths, registerArchivePaths operationId entries = .ok archivePaths) ↔
        ∃ archivePaths, registerArchivePaths operationId entries' = .ok archivePaths)) ∧
    ∀ archivePaths, registerArchivePaths operationId entries = .ok archivePaths →
      archivePaths.rows = entries.map (fun entry => (entry.collisionKey, entry.isDirectory)) ∧
        ConsistentTree archivePaths.rows := by
  have hempty : (registration operationId).held empty = [] := rfl
  have hiff : (∃ archivePaths, registerArchivePaths operationId entries = .ok archivePaths) ↔
      ConsistentTree (entries.map fun entry => (entry.collisionKey, entry.isDirectory)) :=
    (foldlM_isOk_iff (A := registration operationId) hempty).trans pairwise_compatible_iff
  refine ⟨hiff, fun entries' hperm => ?_, fun archivePaths h => ?_⟩
  · exact foldlM_perm (A := registration operationId) hempty hperm
  · obtain ⟨hrows, -, -⟩ := foldlM_ok (A := registration operationId) h
    have hrows' : archivePaths.rows
        = entries.map fun entry => (entry.collisionKey, entry.isDirectory) := hrows
    exact ⟨hrows', hrows'.symm ▸ hiff.mp ⟨archivePaths, h⟩⟩

end LorePia
