import LorePia.Content.Archive
import LorePia.Lib.Reading

namespace LorePia

open Lib List

/-!
# Reading an entry

The loop over the reads of an entry as a consumer: what it checks of a read and where it leads
are sums and concatenations, so the loop sees the decoded bytes and not how they were cut.

* `readEntry_congr` — two entries that decode alike are read alike;
* `readEntry_ok` — what a successful read is known for.
-/

variable {bytes : Bytes} {current : Nat} {state : ReadState}

section

variable {μ : Type} {X : ArchiveExternals μ} {operationId : String} {limits : ImportLimits}
  {plan : EntryPlan} {assetFile : Option String}

/-! ### The checks of one read -/

/-- The header after more bytes; a full header takes none. -/
def headerAfter (plan : EntryPlan) (header bytes : Bytes) : Bytes :=
  if plan.isAsset = true then header ++ bytes.take (assetHeaderBytes - header.length) else header

/-- The result after more bytes. -/
def EntryRead.advance (plan : EntryPlan) (result : EntryRead) (bytes : Bytes) : EntryRead :=
  { result with
    metadata := result.metadata.map (· ++ bytes)
    assetHeader := headerAfter plan result.assetHeader bytes }

theorem collectEntryBytes_ok {result result' : EntryRead} :
    collectEntryBytes operationId result plan bytes = .ok result' ↔
      (∀ collected, result.metadata = some collected →
        collected.length + bytes.length ≤ maxMetadataBytes) ∧
        result.advance plan bytes = result' := by
  have hheader : (if plan.isAsset = true ∧ result.assetHeader.length < assetHeaderBytes then
      result.assetHeader ++ bytes.take (assetHeaderBytes - result.assetHeader.length)
      else result.assetHeader) = headerAfter plan result.assetHeader bytes := by
    unfold headerAfter
    by_cases hasset : plan.isAsset = true
    · by_cases hfull : result.assetHeader.length < assetHeaderBytes
      · rw [if_pos ⟨hasset, hfull⟩, if_pos hasset]
      · rw [if_neg fun h => hfull h.2, if_pos hasset,
          show assetHeaderBytes - result.assetHeader.length = 0 from by omega, take_zero,
          append_nil]
    · rw [if_neg fun h => hasset h.1, if_neg hasset]
  unfold collectEntryBytes
  rw [guard_ok, hheader, pure_ok, Except.ok.injEq]
  cases hmeta : result.metadata with
  | none => simp [EntryRead.advance, hmeta]
  | some collected => simp [EntryRead.advance, hmeta]

/-! ### The loop as a consumer -/

/-- What the loop asks of more bytes. -/
structure PieceFits (X : ArchiveExternals μ) (limits : ImportLimits) (assetFile : Option String)
    (state : ReadState) (bytes : Bytes) : Prop where
  entryMax : state.entryUncompressed + bytes.length ≤ u64Max
  entry : state.entryUncompressed + bytes.length ≤ limits.maxEntryBytes
  totalMax : state.totalUncompressed + bytes.length ≤ u64Max
  total : state.totalUncompressed + bytes.length ≤ limits.maxTotalUncompressedBytes
  metadata : ∀ collected, state.result.metadata = some collected →
    collected.length + bytes.length ≤ maxMetadataBytes
  file : ∀ path, assetFile = some path → X.disk.writeAll path state.entryUncompressed bytes = .ok ()

/-- Where more bytes lead the loop. -/
def ReadState.advance (plan : EntryPlan) (state : ReadState) (bytes : Bytes) : ReadState where
  result := state.result.advance plan bytes
  entryUncompressed := state.entryUncompressed + bytes.length
  totalUncompressed := state.totalUncompressed + bytes.length
  assetDigest := state.assetDigest.map (· ++ bytes)

theorem readPiece_ok :
    readPiece X operationId limits plan assetFile state bytes = .ok state' ↔
      PieceFits X limits assetFile state bytes ∧ state.advance plan bytes = state' := by
  simp only [readPiece, checkedEntrySize, checkedTotalSize, bind_ok, okOr_ok, checkedAdd_eq_some,
    require_ok, collectEntryBytes_ok, forSome_ok, mapError_ok, pure_ok, Except.ok.injEq, and_assoc,
    exists_and_left, exists_eq_left', exists_const]
  constructor
  · rintro ⟨hentMax, hentLe, htotalMax, htotalLe, hmeta, hfile, rfl⟩
    exact ⟨⟨hentMax, hentLe, htotalMax, htotalLe, hmeta, hfile⟩, rfl⟩
  · rintro ⟨hfits, rfl⟩
    exact ⟨hfits.entryMax, hfits.entry, hfits.totalMax, hfits.total, hfits.metadata, hfits.file,
      rfl⟩

theorem headerAfter_nil (plan : EntryPlan) (header : Bytes) :
    headerAfter plan header [] = header := by
  simp [headerAfter]

theorem headerAfter_append (plan : EntryPlan) (header a b : Bytes) :
    headerAfter plan header (a ++ b) = headerAfter plan (headerAfter plan header a) b := by
  unfold headerAfter
  by_cases hasset : plan.isAsset = true
  · rw [if_pos hasset, if_pos hasset, if_pos hasset, take_append, ← append_assoc]
    rw [length_append, length_take, show assetHeaderBytes - header.length - a.length =
        assetHeaderBytes - (header.length + min (assetHeaderBytes - header.length) a.length)
        from by omega]
  · rw [if_neg hasset, if_neg hasset, if_neg hasset]

theorem append_fits_iff {a b : Bytes} :
    used + (a ++ b).length ≤ limit ↔ used + a.length + b.length ≤ limit := by
  rw [length_append, Nat.add_assoc]

theorem PieceFits.append_iff :
    PieceFits X limits assetFile state (a ++ b) ↔ PieceFits X limits assetFile state a ∧
        PieceFits X limits assetFile (state.advance plan a) b := by
  constructor
  · intro h
    have hfirst {used limit : Nat} (h : used + (a ++ b).length ≤ limit) :
        used + a.length ≤ limit :=
      (Nat.le_add_right _ _).trans (append_fits_iff.mp h)
    refine ⟨⟨hfirst h.entryMax, hfirst h.entry, hfirst h.totalMax, hfirst h.total,
        fun m hm => hfirst (h.metadata m hm), fun path hpath => ?_⟩,
      ⟨append_fits_iff.mp h.entryMax, append_fits_iff.mp h.entry, append_fits_iff.mp h.totalMax,
        append_fits_iff.mp h.total, fun m hm => ?_, fun path hpath => ?_⟩⟩
    · exact ((X.disk.writeAll_append _ _ _ _).mp (h.file path hpath)).1
    · obtain ⟨m', hm', rfl⟩ := Option.map_eq_some_iff.mp hm
      rw [length_append]
      exact append_fits_iff.mp (h.metadata m' hm')
    · exact ((X.disk.writeAll_append _ _ _ _).mp (h.file path hpath)).2
  · rintro ⟨ha, hb⟩
    refine ⟨append_fits_iff.mpr hb.entryMax, append_fits_iff.mpr hb.entry,
      append_fits_iff.mpr hb.totalMax, append_fits_iff.mpr hb.total, fun m hm => ?_,
      fun path hpath => ?_⟩
    · have hmeta := hb.metadata (m ++ a) (Option.map_eq_some_iff.mpr ⟨m, hm, rfl⟩)
      rw [length_append] at hmeta
      exact append_fits_iff.mpr hmeta
    · exact (X.disk.writeAll_append _ _ _ _).mpr ⟨ha.file path hpath, hb.file path hpath⟩

/-- The loop of `read_entry_inner`. -/
def readLoop (X : ArchiveExternals μ) (operationId : String) (limits : ImportLimits)
    (plan : EntryPlan) (assetFile : Option String) : Consumer ReadState UInt8 CoreError where
  step := readPiece X operationId limits plan assetFile
  Fits := PieceFits X limits assetFile
  advance := ReadState.advance plan
  step_eq_ok := readPiece_ok
  advance_nil state := by simp [ReadState.advance, EntryRead.advance, headerAfter_nil]
  advance_append state a b := by
    simp [ReadState.advance, EntryRead.advance, headerAfter_append, Nat.add_assoc,
      Function.comp_def]
  fits_append := PieceFits.append_iff

/-! ### One entry -/

/-- Two entries with the same metadata that decode alike, whatever their reads. -/
structure SameEntry (entry entry' : ZipEntry) : Prop where
  nameRaw : entry.nameRaw = entry'.nameRaw
  isDir : entry.isDir = entry'.isDir
  isSymlink : entry.isSymlink = entry'.isSymlink
  encrypted : entry.encrypted = entry'.encrypted
  size : entry.size = entry'.size
  compressedSize : entry.compressedSize = entry'.compressedSize
  decoded : entry.decoded = entry'.decoded

theorem decoded_eq_some {entry : ZipEntry} :
    entry.decoded = some content ↔ entry.outcome = .ok () ∧ entry.reads.flatten = content := by
  unfold ZipEntry.decoded
  cases houtcome : entry.outcome with
  | ok u => simp [Except.isOk, Except.toBool]
  | error e => simp [Except.isOk, Except.toBool]

variable {read : EntryRead}

/-- Reading an entry is one step of the loop over what it decodes to. -/
theorem readEntry_eq_ok :
    readEntry X operationId limits entry plan totalUncompressed assetPath =
        .ok (read, totalUncompressed') ↔
      ∃ content, entry.decoded = some content ∧
        (∀ path, (if plan.isAsset = true then assetPath else none) = some path →
          X.disk.createNew path = .ok () ∧ X.disk.syncAll path = .ok ()) ∧
        (content ≠ [] → PieceFits X limits (if plan.isAsset = true then assetPath else none)
          (ReadState.start plan totalUncompressed
            (if plan.isAsset = true then assetPath else none)) content) ∧
        content.length = entry.size ∧
        ((ReadState.start plan totalUncompressed
          (if plan.isAsset = true then assetPath else none)).advance plan content).finish X plan
            (if plan.isAsset = true then assetPath else none) = read ∧
        totalUncompressed + content.length = totalUncompressed' := by
  generalize hfile : (if plan.isAsset = true then assetPath else none) = assetFile
  have hne : ∀ piece ∈ entry.reads, piece ≠ [] := by
    intro piece hpiece hnil
    have hlen := (entry.reads_length piece hpiece).1
    rw [hnil] at hlen
    exact absurd hlen (by decide)
  unfold readEntry
  rw [hfile]
  constructor
  · intro h
    obtain ⟨_, hcreate, state, hloop, _, houtcome, h⟩ := steps₃ h
    obtain ⟨hsize, _, hsync, h⟩ := guard_step h
    cases pure_inj h
    obtain ⟨hfits, rfl⟩ :=
      (Consumer.foldlM_eq_ok (C := readLoop X operationId limits plan assetFile) hne).mp hloop
    refine ⟨entry.reads.flatten, decoded_eq_some.mpr ⟨mapError_ok.mp houtcome, rfl⟩,
      fun path hpath => ?_, hfits, ?_, rfl, rfl⟩
    · exact ⟨mapError_ok.mp (forSome_ok.mp hcreate path hpath),
        mapError_ok.mp (forSome_ok.mp hsync path hpath)⟩
    · rw [← hsize]
      exact (Nat.zero_add _).symm
  · rintro ⟨content, hdec, hdisk, hfits, hsize, rfl, rfl⟩
    obtain ⟨houtcome, rfl⟩ := decoded_eq_some.mp hdec
    refine bind_ok.mpr ⟨(), forSome_ok.mpr fun path hpath =>
      mapError_ok.mpr (hdisk path hpath).1, ?_⟩
    refine then_ok ((Consumer.foldlM_eq_ok
      (C := readLoop X operationId limits plan assetFile) hne).mpr ⟨hfits, rfl⟩) ?_
    refine then_ok (mapError_ok.mpr houtcome) ?_
    refine guarded ((Nat.zero_add _).trans hsize) ?_
    exact bind_ok.mpr ⟨(), forSome_ok.mpr fun path hpath =>
      mapError_ok.mpr (hdisk path hpath).2, rfl⟩

/-- **Cuts do not matter.** Entries that decode alike are read alike. -/
theorem readEntry_congr (hsame : SameEntry entry entry') :
    readEntry X operationId limits entry plan totalUncompressed assetPath =
        .ok (read, totalUncompressed') ↔
      readEntry X operationId limits entry' plan totalUncompressed assetPath =
        .ok (read, totalUncompressed') := by
  rw [readEntry_eq_ok, readEntry_eq_ok, hsame.decoded, hsame.size]

/-- What a successful read is known for. -/
theorem readEntry_ok
    (h : readEntry X operationId limits entry plan totalUncompressed assetPath =
      .ok (read, totalUncompressed')) :
    ∃ content, entry.decoded = some content ∧ content.length = entry.size ∧
      content.length ≤ limits.maxEntryBytes ∧
      totalUncompressed' = totalUncompressed + content.length ∧
      (totalUncompressed ≤ limits.maxTotalUncompressedBytes →
        totalUncompressed' ≤ limits.maxTotalUncompressedBytes) ∧
      read.metadata.isSome = plan.isMetadata ∧
      (plan.isAsset = true → read.assetHeader = content.take assetHeaderBytes) := by
  obtain ⟨content, hdec, -, hfits, hsize, rfl, rfl⟩ := readEntry_eq_ok.mp h
  have hheader (hasset : plan.isAsset = true) :
      headerAfter plan [] content = content.take assetHeaderBytes := by
    rw [headerAfter, if_pos hasset]
    simp
  refine ⟨content, hdec, hsize, ?_, rfl, fun htotal => ?_, ?_, hheader⟩
  · by_cases hempty : content = []
    · simp [hempty]
    · have := (hfits hempty).entry
      simpa [ReadState.start] using this
  · by_cases hempty : content = []
    · simpa [hempty] using htotal
    · exact (hfits hempty).total
  · show ((if plan.isMetadata = true then some [] else none).map (· ++ content)).isSome
      = plan.isMetadata
    cases plan.isMetadata <;> rfl

end

end LorePia
