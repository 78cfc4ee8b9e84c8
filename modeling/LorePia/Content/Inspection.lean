import LorePia.Content.Reading
import Mathlib.Algebra.GroupWithZero.Nat

namespace LorePia

open Lib List Nat Option String ZipEntry

/-!
# What an accepted archive is known for

The loop over the entries: what one entry adds to the running totals, and from it what a whole
inspection reports.  A card is never counted as an asset, because a text keeps its ASCII ending
under normalization.

* `inspectEntry_ok` — what one entry adds;
* `inspectArchiveInternal_spec` — what an accepted archive is known for;
* `inspectArchiveInternal_congr` — nothing reported depends on how the reads were cut.
-/

variable {archive : List (Except String ZipEntry)} {name : String} {index : Nat} {read : EntryRead}

/-! ### The name of the card -/

/-- Every character is ASCII. -/
def IsAscii (s : String) : Prop := ∀ c ∈ s.toList, c.val < 128

/-- What the Unicode standard promises of ASCII text at the end of another text: its characters
    neither compose with what stands before them nor change, and their lower case does not
    depend on it. -/
structure UnicodeTables.AsciiStable (U : UnicodeTables) : Prop where
  nfkc_append : ∀ s t, IsAscii t → U.nfkc (s ++ t) = U.nfkc s ++ t
  toLowercase_append : ∀ s t, IsAscii t → ∃ s', U.toLowercase (s ++ t) = s' ++ toAsciiLowercase t

/-- A text that ends without a slash has a component that ends so. -/
theorem exists_mem_splitAt_of_suffix (base : List Char) {ending : List Char}
    (hslash : '/' ∉ ending) :
    ∃ before, ofList (before ++ ending) ∈
      splitAt ['/'] (ofList (base ++ ending)) := by
  rcases hsplit : rsplitOnce '/' (ofList base) with _ | ⟨parent, last⟩
  · have hbase := not_mem_of_rsplitOnce_eq_none hsplit
    rw [toList_ofList] at hbase
    refine ⟨base, ?_⟩
    rw [splitAt_slash_eq_singleton]
    · exact mem_singleton.mpr rfl
    · rw [toList_ofList, mem_append]
      exact fun h => h.elim hbase hslash
  · obtain ⟨hbase, hlast⟩ := rsplitOnce_eq_some hsplit
    refine ⟨last.toList, ?_⟩
    have hwhole : ofList (base ++ ending)
        = parent ++ "/" ++ ofList (last.toList ++ ending) := by
      apply toList_injective
      simp [hbase]
    have hpiece : '/' ∉ (ofList (last.toList ++ ending)).toList := by
      rw [toList_ofList, mem_append]
      exact fun h => h.elim hlast hslash
    rw [hwhole, splitAt_append_slash, splitAt_slash_eq_singleton hpiece]
    simp

/-- A name is its file name with the directories before it and the slashes after it. -/
theorem toList_eq_fileName (name : String) :
    ∃ base slashes, name.toList = base ++ (fileName name).toList ++ slashes ∧
      ∀ c ∈ slashes, c = '/' := by
  have houter := takeWhile_append_dropWhile (p := (· = '/')) (l := name.toList.reverse)
  have hinner := takeWhile_append_dropWhile (p := (· ≠ '/'))
    (l := name.toList.reverse.dropWhile (· = '/'))
  refine ⟨((name.toList.reverse.dropWhile (· = '/')).dropWhile (· ≠ '/')).reverse,
    (name.toList.reverse.takeWhile (· = '/')).reverse, ?_, ?_⟩
  · have hreverse := congrArg List.reverse houter
    rw [← hinner] at hreverse
    simp only [reverse_append, reverse_reverse] at hreverse
    rw [fileName, toList_ofList]
    exact hreverse.symm
  · intro c hc
    simpa using mem_takeWhile_imp (mem_reverse.mp hc)

/-- A name whose file name ends in an extension has a component that ends so. -/
theorem exists_mem_namedComponents {before : String}
    (h : rsplitOnce '.' (fileName name) = some (before, extension)) (hne : extension ≠ "")
    (hslash : '/' ∉ extension.toList) (hbackslash : '\\' ∉ extension.toList) :
    ∃ s, s ++ extension ∈ namedComponents name := by
  obtain ⟨hfile, -⟩ := rsplitOnce_eq_some h
  obtain ⟨base, slashes, hname, hslashes⟩ := toList_eq_fileName name
  rw [hfile] at hname
  have hkeep : ∀ chars : List Char, '\\' ∉ chars →
      chars.map (fun c => if c = '\\' then '/' else c) = chars := by
    intro chars hchars
    calc chars.map (fun c => if c = '\\' then '/' else c) = chars.map id :=
          map_congr_left fun c hc => if_neg fun (heq : c = '\\') => hchars (heq ▸ hc)
      _ = chars := List.map_id chars
  have hslashes' : '\\' ∉ slashes := fun hmem => absurd (hslashes _ hmem) (by decide)
  obtain ⟨base', hreplaced⟩ : ∃ base' : List Char,
      replaceChar '\\' '/' name = ofList (base' ++ extension.toList ++ slashes) := by
    refine ⟨(base ++ before.toList ++ ['.']).map fun c => if c = '\\' then '/' else c, ?_⟩
    have hsplit : base ++ (before.toList ++ '.' :: extension.toList) ++ slashes
        = (base ++ before.toList ++ ['.']) ++ extension.toList ++ slashes := by simp
    rw [replaceChar, hname, hsplit, map_append, map_append, hkeep _ hbackslash, hkeep _ hslashes']
  obtain ⟨start, hpiece⟩ := exists_mem_splitAt_of_suffix base' hslash
  have hmem : ofList (start ++ extension.toList) ∈ pathComponents name := by
    rw [pathComponents, hreplaced]
    cases slashes with
    | nil => rwa [append_nil]
    | cons c slashes =>
      obtain rfl : c = '/' := hslashes c (by simp)
      have hcut : ofList (base' ++ extension.toList ++ '/' :: slashes)
          = ofList (base' ++ extension.toList) ++ "/" ++ ofList slashes := by
        apply toList_injective
        simp
      rw [hcut, splitAt_append_slash]
      exact mem_append_left _ hpiece
  have heq : ofList (start ++ extension.toList) = ofList start ++ extension := by
    apply toList_injective
    simp
  refine ⟨ofList start, mem_filter.mpr ⟨heq ▸ hmem, ?_⟩⟩
  have hne' : ofList start ++ extension ≠ "" := by
    intro hempty
    have hlist := congrArg String.toList hempty
    rw [toList_append] at hlist
    exact hne (toList_injective (append_eq_nil_iff.mp hlist).2)
  exact decide_eq_true hne'

/-- The extensions of assets are lower-case words. -/
private theorem plain_of_isAssetExtension (h : isAssetExtension e = true) :
    e ≠ "" ∧ '/' ∉ e.toList ∧ '\\' ∉ e.toList ∧ (e.toList.all fun c => c.val < 128) = true ∧
      ¬ e.toList <:+ cardMetadataPath.toList := by
  have hmem : e ∈ ["png", "jpg", "jpeg", "gif", "webp", "avif", "mp3", "wav", "ogg"] := by
    simpa [isAssetExtension] using h
  have hall : ∀ e ∈ ["png", "jpg", "jpeg", "gif", "webp", "avif", "mp3", "wav", "ogg"],
      e ≠ "" ∧ '/' ∉ e.toList ∧ '\\' ∉ e.toList ∧ (e.toList.all fun c => c.val < 128) = true ∧
        ¬ e.toList <:+ cardMetadataPath.toList := by
    decide
  exact hall e hmem

theorem toLower_lt_ascii {c : Char} (h : c.toLower.val < 128) : c.val < 128 := by
  unfold Char.toLower at h
  split at h
  case isTrue hupper => exact UInt32.lt_of_le_of_lt hupper.2 (by decide)
  case isFalse => exact h

/-- A text whose lower case is an asset's extension is ASCII, without separators. -/
theorem ascii_of_isAssetExtension (h : isAssetExtension (toAsciiLowercase extension) = true) :
    IsAscii extension ∧ extension ≠ "" ∧ '/' ∉ extension.toList ∧ '\\' ∉ extension.toList := by
  obtain ⟨hne, hslash, hbackslash, hascii, -⟩ := plain_of_isAssetExtension h
  have hlower : (toAsciiLowercase extension).toList = extension.toList.map Char.toLower := by
    rw [toAsciiLowercase, toList_ofList]
  rw [hlower] at hslash hbackslash hascii
  refine ⟨?_, ?_, ?_, ?_⟩
  · intro c hc
    have hlow : c.toLower.val < 128 := by simpa using all_eq_true.mp hascii _ (mem_map_of_mem hc)
    exact toLower_lt_ascii hlow
  · rintro rfl
    exact hne (by decide)
  · intro hc
    exact hslash (mem_map.mpr ⟨'/', hc, by decide⟩)
  · intro hc
    exact hbackslash (mem_map.mpr ⟨'\\', hc, by decide⟩)

/-- An entry kept as the card has no asset's extension. -/
theorem not_isAssetExtension_of_card (hU : U.AsciiStable)
    (h : validateArchivePath U name = .ok cardMetadataPath) :
    isAssetExtension (entryExtension name) = false := by
  rw [Bool.eq_false_iff]
  intro hasset
  unfold entryExtension at hasset
  obtain ⟨before, extension, hsplit, hext⟩ : ∃ before extension,
      rsplitOnce '.' (fileName name) = some (before, extension) ∧
        isAssetExtension (toAsciiLowercase extension) = true := by
    unfold pathExtension at hasset
    rcases hsplit : rsplitOnce '.' (fileName name) with _ | ⟨before, extension⟩
    · rw [hsplit] at hasset
      exact absurd hasset (by decide)
    · rw [hsplit] at hasset
      by_cases hbef : before = ""
      · simp only [hbef, if_true] at hasset
        exact absurd hasset (by decide)
      · simp only [if_neg hbef, getD_some] at hasset
        exact ⟨before, extension, rfl, hasset⟩
  obtain ⟨hascii, hne, hslash, hbackslash⟩ := ascii_of_isAssetExtension hext
  obtain ⟨s, hs⟩ := exists_mem_namedComponents hsplit hne hslash hbackslash
  -- the form of that component ends in the extension, in lower case
  obtain ⟨start, hform⟩ := hU.toLowercase_append (U.nfkc s) extension hascii
  rw [← hU.nfkc_append s extension hascii] at hform
  obtain ⟨-, hlowerSlash, -, -, hnotCard⟩ := plain_of_isAssetExtension hext
  obtain ⟨start', hpiece⟩ := exists_mem_splitAt_of_suffix start.toList hlowerSlash
  have hform' : U.collisionComponent (s ++ extension)
      = ofList (start.toList ++ (toAsciiLowercase extension).toList) := by
    rw [UnicodeTables.collisionComponent, hform]
    apply toList_injective
    simp
  rw [← hform'] at hpiece
  obtain ⟨hkey, hnamed, -⟩ := validateArchivePath_ok h
  have hforms : (namedComponents name).map U.collisionComponent ≠ [] := by simpa using hnamed
  have hcard : ofList (start' ++ (toAsciiLowercase extension).toList)
      ∈ splitAt ['/'] cardMetadataPath := by
    rw [hkey, splitAt_join hforms, mem_flatMap]
    exact ⟨_, mem_map_of_mem hs, hpiece⟩
  have hsuf : (toAsciiLowercase extension).toList <:+ cardMetadataPath.toList := by
    rw [splitAt_slash_eq_singleton (by decide), mem_singleton] at hcard
    rw [← hcard, toList_ofList]
    exact suffix_append _ _
  exact hnotCard hsuf

/-! ### One entry of a run -/

section

variable {μ : Type} {X : ArchiveExternals μ} {operationId : String} {limits : ImportLimits}
  {entry entry' : ZipEntry} {plan : EntryPlan} {assetPath : Option String}

/-- An entry that is not a directory and has the extension of an asset. -/
def ZipEntry.isAssetEntry (entry : ZipEntry) : Bool :=
  !entry.isDir && isAssetExtension (entryExtension ((fromUtf8 entry.nameRaw).getD ""))

/-- The number of bytes an entry decodes to. -/
def ZipEntry.decodedLength (entry : ZipEntry) : Nat := (entry.decoded.getD []).length

theorem prepareEntry_congr (h : SameEntry entry entry') :
    prepareEntry X operationId limits entry state =
      prepareEntry X operationId limits entry' state := by
  unfold prepareEntry validateEntryTypeAndSize
  rw [h.nameRaw, h.isDir, h.isSymlink, h.encrypted, h.size, h.compressedSize]

/-- What a prepared entry is known for. -/
theorem prepareEntry_ok (hU : X.unicode.AsciiStable)
    (h : prepareEntry X operationId limits entry state = .ok (plan, state')) :
    plan.isAsset = entry.isAssetEntry ∧ (plan.isMetadata = true → plan.isAsset = false) ∧
      state'.totalUncompressed = state.totalUncompressed ∧
      state'.assetCount = state.assetCount := by
  obtain ⟨name, hname, collisionKey, hkey, h⟩ := steps₂ h
  obtain ⟨archivePaths, -, declaredTotal, -, h⟩ := steps₂ h
  obtain ⟨-, h⟩ := guard_ok.mp h
  obtain ⟨hplan, hst⟩ := Prod.mk.inj (pure_inj h)
  have hname' : fromUtf8 entry.nameRaw = some name := okOr_ok.mp hname
  have hasset : plan.isAsset = (isAssetExtension (entryExtension name) && !entry.isDir) := by
    rw [← hplan]
  have hmeta : plan.isMetadata = (collisionKey == cardMetadataPath && !entry.isDir) := by
    rw [← hplan]
  refine ⟨?_, fun hcard => ?_, by rw [← hst], by rw [← hst]⟩
  · rw [hasset, ZipEntry.isAssetEntry, hname', Option.getD_some, Bool.and_comm]
  · rw [hmeta, Bool.and_eq_true, beq_iff_eq] at hcard
    have hplain := not_isAssetExtension_of_card hU (hcard.1 ▸ mapError_ok.mp hkey)
    rw [hasset, hplain, Bool.false_and]

theorem recordAsset_ok (h : recordAsset operationId plan read state = .ok (read', state')) :
    state'.assetCount = state.assetCount + 1 ∧
      state'.totalUncompressed = state.totalUncompressed := by
  obtain ⟨-, h⟩ := guard_ok.mp h
  cases pure_inj h
  constructor
  · split
    · rfl
    · split <;> rfl
  · split
    · rfl
    · split <;> rfl

theorem recordEntry_ok (hcard : read.metadata.isSome = true →
      plan.isAsset = false) (h : recordEntry operationId plan read state = .ok (read', state')) :
    state'.assetCount = state.assetCount + (if plan.isAsset = true then 1 else 0) ∧
      state'.totalUncompressed = state.totalUncompressed := by
  unfold recordEntry at h
  by_cases hm : read.metadata.isSome = true
  · rw [if_pos hm] at h
    cases h
    rw [hcard hm, if_neg Bool.false_ne_true]
    exact ⟨rfl, rfl⟩
  · rw [if_neg hm] at h
    by_cases ha : plan.isAsset = true
    · rw [if_pos ha] at h
      rw [if_pos ha]
      exact recordAsset_ok h
    · rw [if_neg ha] at h
      cases h
      rw [if_neg ha]
      exact ⟨rfl, rfl⟩

/-- What one entry adds to the report. -/
theorem inspectEntry_ok (hU : X.unicode.AsciiStable)
    (h : inspectEntry X operationId limits entry state assetPath = .ok state') :
    (∃ content, entry.decoded = some content ∧ content.length = entry.size ∧
      content.length ≤ limits.maxEntryBytes) ∧
    state'.totalUncompressed = state.totalUncompressed + entry.decodedLength ∧
    (state.totalUncompressed ≤ limits.maxTotalUncompressedBytes →
      state'.totalUncompressed ≤ limits.maxTotalUncompressedBytes) ∧
    state'.assetCount = state.assetCount + (if entry.isAssetEntry = true then 1 else 0) := by
  obtain ⟨⟨plan, prepared⟩, hprepare, ⟨read, total⟩, hread, ⟨read', kept⟩, hkept, h⟩ := steps₃ h
  cases pure_inj h
  obtain ⟨hasset, hcard, htotal, hcount⟩ := prepareEntry_ok hU hprepare
  obtain ⟨content, hdec, hsize, hle, hsum, hmax, hmeta, -⟩ := readEntry_ok hread
  have hlen : entry.decodedLength = content.length := by rw [decodedLength, hdec, getD_some]
  obtain ⟨hassets, hkeep⟩ := recordEntry_ok (fun hm => hcard (hmeta ▸ hm)) hkept
  refine ⟨⟨content, hdec, hsize, hle⟩, ?_, fun hst => ?_, ?_⟩
  · show kept.totalUncompressed = _
    rw [hkeep, hlen]
    show total = _
    rw [hsum, htotal]
  · show kept.totalUncompressed ≤ _
    rw [hkeep]
    exact hmax (htotal ▸ hst)
  · show kept.assetCount = _
    rw [hassets, hasset]
    show prepared.assetCount + _ = _
    rw [hcount]

theorem inspectEntry_congr (h : SameEntry entry entry') :
    inspectEntry X operationId limits entry state assetPath = .ok state' ↔
      inspectEntry X operationId limits entry' state assetPath = .ok state' := by
  unfold inspectEntry
  rw [prepareEntry_congr h, bind_ok, bind_ok]
  refine exists_congr fun prepared => and_congr_right fun _ => ?_
  rw [bind_ok, bind_ok]
  refine exists_congr fun result => and_congr_left fun _ => ?_
  exact readEntry_congr h

/-! ### Whole runs -/

variable {staging : Option AssetStaging}

/-- What a run over entries adds to the report. -/
theorem inspectEntries_ok (hU : X.unicode.AsciiStable)
    (h : inspectEntries X operationId limits staging index archive state = .ok state') :
    ∃ entries : List ZipEntry, archive = entries.map .ok ∧
      (∀ entry ∈ entries, ∃ content, entry.decoded = some content ∧
        content.length = entry.size ∧ content.length ≤ limits.maxEntryBytes) ∧
      state'.totalUncompressed
        = state.totalUncompressed + (entries.map decodedLength).sum ∧
      (state.totalUncompressed ≤ limits.maxTotalUncompressedBytes →
        state'.totalUncompressed ≤ limits.maxTotalUncompressedBytes) ∧
      state'.assetCount = state.assetCount + entries.countP isAssetEntry := by
  induction archive generalizing index state with
  | nil =>
    cases h
    exact ⟨[], rfl, by simp, by simp, id, by simp⟩
  | cons first rest ih =>
    obtain ⟨entry, hent, middle, hmid, h⟩ := steps₂ h
    obtain ⟨entries, hrest, hgood, hsum, hmax, hcount⟩ := ih h
    obtain ⟨hdec, htotal, hbd, hasset⟩ := inspectEntry_ok hU hmid
    refine ⟨entry :: entries, ?_, ?_, ?_, fun hst => hmax (hbd hst), ?_⟩
    · rw [map_cons, ← hrest, mapError_ok.mp hent]
    · rw [forall_mem_cons]
      exact ⟨hdec, hgood⟩
    · rw [hsum, htotal, map_cons, sum_cons, add_assoc]
    · rw [hcount, hasset, countP_cons]
      omega

/-- Two archives whose entries decode alike, whatever their reads. -/
inductive SameArchive : List (Except String ZipEntry) → List (Except String ZipEntry) → Prop
  | nil : SameArchive [] []
  | entry {entry entry' archive archive'} (hent : SameEntry entry entry')
      (hrest : SameArchive archive archive') :
      SameArchive (.ok entry :: archive) (.ok entry' :: archive')
  | unreadable {error archive archive'} (hrest : SameArchive archive archive') :
      SameArchive (.error error :: archive) (.error error :: archive')

theorem SameArchive.length_eq (h : SameArchive archive archive') :
    archive.length = archive'.length := by
  induction h with
  | nil => rfl
  | entry _ _ ih => simpa using ih
  | unreadable _ ih => simpa using ih

theorem inspectEntries_congr (h : SameArchive archive archive') :
    inspectEntries X operationId limits staging index archive state = .ok state' ↔
      inspectEntries X operationId limits staging index archive' state = .ok state' := by
  induction h generalizing index state with
  | nil => rfl
  | entry hent _ ih =>
    rw [inspectEntries, inspectEntries]
    simp only [Except.mapError, ok_bind]
    rw [bind_ok, bind_ok]
    exact exists_congr fun middle => and_congr (inspectEntry_congr hent) ih
  | unreadable _ ih =>
    rw [inspectEntries, inspectEntries]
    simp only [Except.mapError, error_bind]

/-- **Nothing reported depends on the cuts.** Archives whose entries decode alike are accepted
    alike, with the same report. -/
theorem inspectArchiveInternal_congr (h : SameArchive archive archive') :
    inspectArchiveInternal X operationId limits staging file (.ok archive) = .ok inspection ↔
      inspectArchiveInternal X operationId limits staging file (.ok archive') = .ok inspection := by
  unfold inspectArchiveInternal
  simp only [Except.mapError, ok_bind, h.length_eq]
  rw [bind_ok, bind_ok]
  refine exists_congr fun declared => and_congr_right fun _ => ?_
  rw [guard_ok, guard_ok, guard_ok, guard_ok, bind_ok, bind_ok]
  refine and_congr_right fun _ => and_congr_right fun _ => ?_
  exact exists_congr fun state => and_congr_left fun _ => inspectEntries_congr h

/-- **An accepted archive.** Every entry decodes to its declared size within the limit; the
    total is the sum of the decoded lengths, within its limit; the assets are the entries with an
    asset's extension that are no directories; the header captured of an asset is the beginning
    of what it decodes to; and an archive whose entries decode alike, in whatever reads, is
    accepted with the same report. -/
theorem inspectArchiveInternal_spec (hU : X.unicode.AsciiStable) {file : Bytes}
    {archive : Except String (List (Except String ZipEntry))} {inspection : ArchiveInspection μ}
    (h : inspectArchiveInternal X operationId limits staging file archive = .ok inspection) :
    ∃ entries : List ZipEntry, archive = .ok (entries.map .ok) ∧
      (∀ entry ∈ entries, ∃ content, entry.decoded = some content ∧
        content.length = entry.size ∧ content.length ≤ limits.maxEntryBytes) ∧
      inspection.totalUncompressed = (entries.map ZipEntry.decodedLength).sum ∧
      inspection.totalUncompressed ≤ limits.maxTotalUncompressedBytes ∧
      inspection.assetCount = entries.countP ZipEntry.isAssetEntry ∧
      (∀ entry ∈ entries, ∀ content, entry.decoded = some content →
        ∀ plan total assetPath read total',
          readEntry X operationId limits entry plan total assetPath = .ok (read, total') →
          plan.isAsset = true → read.assetHeader = content.take (min 16 content.length)) ∧
      ∀ archive', SameArchive (entries.map .ok) archive' →
        inspectArchiveInternal X operationId limits staging file (.ok archive')
          = .ok inspection := by
  have hrun := h
  obtain ⟨declared, -, -, hrun⟩ := step_guard hrun
  obtain ⟨archive, harchive, -, hrun⟩ := step_guard hrun
  obtain ⟨state, hst, bytes, -, metadata, -, hrun⟩ := steps₃ hrun
  cases pure_inj hrun
  obtain rfl := mapError_ok.mp harchive
  obtain ⟨entries, rfl, hgood, hsum, hmax, hcount⟩ := inspectEntries_ok hU hst
  refine ⟨entries, rfl, hgood, ?_, hmax (zero_le _), ?_, ?_, ?_⟩
  · exact hsum.trans (zero_add _)
  · exact hcount.trans (zero_add _)
  · intro entry _ content hcontent plan total assetPath read total' hread hasset
    obtain ⟨content', hcontent', -, -, -, -, -, hheader⟩ := readEntry_ok hread
    obtain rfl : content = content' := some.inj (hcontent.symm.trans hcontent')
    rw [hheader hasset, ← take_take, take_length]
    rfl
  · intro archive' hsame
    exact (inspectArchiveInternal_congr hsame).mp h

end

/-! ### A package of a card and a portrait -/

theorem sampleTables_asciiStable : sampleTables.AsciiStable where
  nfkc_append s t ht := by
    have hkeep : t.toList.flatMap (fun c =>
        if c = '\u2025' then ['.', '.'] else if c = '\uFF0F' then ['/']
        else if c = '\uFF1A' then [':'] else [c]) = t.toList := by
      have hone : ∀ c ∈ t.toList, (if c = '\u2025' then ['.', '.'] else if c = '\uFF0F' then ['/']
          else if c = '\uFF1A' then [':'] else [c]) = [c] := by
        intro c hc
        have hascii := ht c hc
        rw [if_neg, if_neg, if_neg]
        · rintro rfl
          exact absurd hascii (by decide)
        · rintro rfl
          exact absurd hascii (by decide)
        · rintro rfl
          exact absurd hascii (by decide)
      rw [flatMap_congr hone]
      simp
    apply toList_injective
    simp [sampleTables, hkeep]
  toLowercase_append s t _ := ⟨toAsciiLowercase s, by
    apply toList_injective
    simp [sampleTables, toAsciiLowercase]⟩

/-- A file entry that is stored and read at once. -/
def sampleEntry (name : String) (content : Bytes)
    (hcontent : 1 ≤ content.length ∧ content.length ≤ readBufferBytes) : ZipEntry where
  nameRaw := asBytes name
  isDir := false
  isSymlink := false
  encrypted := false
  size := content.length
  compressedSize := content.length
  reads := [content]
  outcome := .ok ()
  reads_length piece hpiece := by
    rw [mem_singleton.mp hpiece]
    exact hcontent

def sampleArchive : List ZipEntry :=
  [sampleEntry "card.json" (asBytes "card") (by decide),
    sampleEntry "hero.png" [0x89, 0x50, 0x4E, 0x47, 0x0D, 0x0A, 0x1A, 0x0A] (by decide)]

/-- The end of a central directory of two entries. -/
def sampleFile : Bytes :=
  [0x50, 0x4B, 0x05, 0x06, 0, 0, 0, 0, 2, 0, 2, 0, 0, 0, 0, 0, 0, 0, 0, 0, 0, 0]

def sampleArchiveExternals : ArchiveExternals Unit where
  unicode := sampleTables
  sha256Hex _ := ""
  parseCardJson _ := .ok ()
  disk := {
    createNew := fun _ => .ok ()
    writeAll := fun _ _ _ => .ok ()
    syncAll := fun _ => .ok ()
    writeAll_append := fun _ _ _ _ => by simp }

def sampleInspection : ArchiveInspection Unit where
  metadata := ()
  assetCount := 1
  totalUncompressed := 12
  warnings := []
  blockedReasons := []
  representativeImage := some {
    logicalAssetId := "hero.png"
    mediaType := "image/png"
    sizeBytes := 8 }
  stagedAssets := []

/-- The package is accepted, and its one asset is the portrait. -/
theorem inspectArchiveInternal_spec_sample :
    ∃ entries : List ZipEntry,
      (Except.ok (sampleArchive.map .ok) : Except String (List (Except String ZipEntry)))
        = .ok (entries.map .ok) ∧
      sampleInspection.assetCount = entries.countP ZipEntry.isAssetEntry := by
  have hacc : inspectArchiveInternal sampleArchiveExternals "" ⟨8, 64, 128, 100⟩ none
      sampleFile (.ok (sampleArchive.map .ok)) = .ok sampleInspection := by decide
  obtain ⟨entries, harchive, -, -, -, hcount, -⟩ :=
    inspectArchiveInternal_spec sampleTables_asciiStable hacc
  exact ⟨entries, harchive, hcount⟩

end LorePia
