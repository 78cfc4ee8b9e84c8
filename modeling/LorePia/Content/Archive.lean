import LorePia.Content.Path
import LorePia.Content.Registry
import LorePia.Domain.Machine
import LorePia.Lib.Canonical
import Mathlib.Data.Prod.Lex
import Mathlib.Data.String.Basic

namespace LorePia

open Lib

/-!
# Inspecting an archive

`inspect_archive_internal` reads a package entry by entry: it checks what the directory of the
archive declares of an entry, decodes the entry piece by piece against running totals, keeps
the card's bytes and the first bytes of every asset, and reports what it found.

The zip crate is taken at what it yields (`ZipEntry`): an entry's metadata and the pieces in
which its bytes are decoded.  Whatever is outside (hashing, the card parser, the staging
directory) is a parameter.
-/

/-! ### Limits, reports and what the crate yields -/

/-- The limits an inspection reads of `ImportLimits`. -/
structure ImportLimits where
  maxEntries : Nat
  maxEntryBytes : Nat
  maxTotalUncompressedBytes : Nat
  maxCompressionRatio : Nat

structure ImportWarning where
  code : String
  message : String
deriving DecidableEq

structure ImportImagePreview where
  logicalAssetId : String
  mediaType : String
  sizeBytes : Nat
deriving DecidableEq

structure StagedAsset where
  originalPath : String
  stagedPath : String
  sha256 : String
  mediaType : String
  sizeBytes : Nat
  signatureValid : Bool
deriving DecidableEq

def assetHeaderBytes : Nat := 16

def readBufferBytes : Nat := 64 * 1024

/-- `adapters::MAX_METADATA_BYTES`. -/
def maxMetadataBytes : Nat := 4 * 1024 * 1024

/-- `CARD_METADATA_PATH`. -/
def cardMetadataPath : String := "card.json"

/-- `ZipFile`: an entry's metadata, and what reading it yields until the end or an error.  A
    read fills at most the buffer, and an empty one is the end. -/
structure ZipEntry where
  nameRaw : Bytes
  isDir : Bool
  isSymlink : Bool
  encrypted : Bool
  size : Nat
  compressedSize : Nat
  reads : List Bytes
  outcome : Except String Unit
  reads_length : ∀ piece ∈ reads, 1 ≤ piece.length ∧ piece.length ≤ readBufferBytes

/-- What an entry decodes to. -/
def ZipEntry.decoded (entry : ZipEntry) : Option Bytes :=
  if entry.outcome.isOk = true then some entry.reads.flatten else none

/-- The staging directory.  Writing two pieces is writing them as one. -/
structure StagingDisk where
  createNew : String → Except String Unit
  /-- `write_all` to a file of which so many bytes are written. -/
  writeAll : String → Nat → Bytes → Except String Unit
  syncAll : String → Except String Unit
  writeAll_append : ∀ path written a b, writeAll path written (a ++ b) = .ok () ↔
    writeAll path written a = .ok () ∧ writeAll path (written + a.length) b = .ok ()

/-- What an inspection calls. -/
structure ArchiveExternals (μ : Type) where
  unicode : UnicodeTables
  sha256Hex : Bytes → String
  parseCardJson : Bytes → CoreResult μ
  disk : StagingDisk

structure AssetStaging where
  directory : String
  inspectionId : String

structure EntryPlan where
  name : String
  logicalAssetId : String
  extension : String
  isMetadata : Bool
  isAsset : Bool

structure EntryRead where
  metadata : Option Bytes
  /-- `asset_header[..asset_header_len]`. -/
  assetHeader : Bytes
  sizeBytes : Nat
  stagedAsset : Option StagedAsset

structure InspectionState where
  archivePaths : ArchivePaths
  declaredTotal : Nat
  totalUncompressed : Nat
  metadataBytes : Option Bytes
  assetCount : Nat
  warnings : List ImportWarning
  blockedReasons : List String
  representativeImage : Option ImportImagePreview
  stagedAssets : List StagedAsset

/-- `InspectionState::default`. -/
def InspectionState.default : InspectionState where
  archivePaths := Table.empty
  declaredTotal := 0
  totalUncompressed := 0
  metadataBytes := none
  assetCount := 0
  warnings := []
  blockedReasons := []
  representativeImage := none
  stagedAssets := []

structure ArchiveInspection (μ : Type) where
  metadata : μ
  assetCount : Nat
  totalUncompressed : Nat
  warnings : List ImportWarning
  blockedReasons : List String
  representativeImage : Option ImportImagePreview
  stagedAssets : List StagedAsset
deriving DecidableEq

/-- `archive_io_error`. -/
def archiveIoError (operationId error : String) : CoreError :=
  .new operationId .storageUnavailable ("cannot read archive: " ++ error) true

/-! ### Extensions and signatures -/

variable (name : String)

/-- `Path::file_name` of a name with checked components: what follows the last slash that is not
    at the end. -/
def fileName : String :=
  String.ofList (((name.toList.reverse.dropWhile (· = '/')).takeWhile (· ≠ '/')).reverse)

/-- `Path::extension`: what follows the last dot of the file name, unless only that dot begins
    it. -/
def pathExtension : Option String :=
  match rsplitOnce '.' (fileName name) with
  | none => none
  | some (before, after) => if before = "" then none else some after

/-- `extension` of an entry. -/
def entryExtension : String := toAsciiLowercase ((pathExtension name).getD "")

variable (extension : String)

/-- `is_asset_extension`. -/
def isAssetExtension : Bool :=
  extension ∈ ["png", "jpg", "jpeg", "gif", "webp", "avif", "mp3", "wav", "ogg"]

/-- `asset_media_type`. -/
def assetMediaType : String :=
  if extension = "png" then "image/png"
  else if extension ∈ ["jpg", "jpeg"] then "image/jpeg"
  else if extension = "gif" then "image/gif"
  else if extension = "webp" then "image/webp"
  else if extension = "avif" then "image/avif"
  else if extension = "mp3" then "audio/mpeg"
  else if extension = "wav" then "audio/wav"
  else if extension = "ogg" then "audio/ogg"
  else "application/octet-stream"

/-- `slice::get` of a range. -/
def getRange (bytes : Bytes) (start stop : Nat) : Option Bytes :=
  if stop ≤ bytes.length then some ((bytes.drop start).take (stop - start)) else none

/-- `asset_signature_matches`. -/
def assetSignatureMatches (header : Bytes) : Bool :=
  if extension = "png" then [0x89, 0x50, 0x4E, 0x47, 0x0D, 0x0A, 0x1A, 0x0A].isPrefixOf header
  else if extension ∈ ["jpg", "jpeg"] then [0xFF, 0xD8, 0xFF].isPrefixOf header
  else if extension = "gif" then
    (asBytes "GIF87a").isPrefixOf header || (asBytes "GIF89a").isPrefixOf header
  else if extension = "webp" then
    (asBytes "RIFF").isPrefixOf header && getRange header 8 12 == some (asBytes "WEBP")
  else if extension = "avif" then
    getRange header 4 8 == some (asBytes "ftyp") &&
      (getRange header 8 12 == some (asBytes "avif") || getRange header 8 12 == some (asBytes "avis"))
  else if extension = "wav" then
    (asBytes "RIFF").isPrefixOf header && getRange header 8 12 == some (asBytes "WAVE")
  else if extension = "ogg" then (asBytes "OggS").isPrefixOf header
  else if extension = "mp3" then
    (asBytes "ID3").isPrefixOf header || (getRange header 0 2).any fun bytes =>
        bytes.head? == some 0xFF && (bytes.drop 1).head?.any fun b => b &&& 0xE0 == 0xE0
  else true

/-! ### The end of the central directory -/

/-- `read_u16`. -/
def readU16 (bytes : Bytes) (offset : Nat) : Nat :=
  (bytes.getD offset 0).toNat + 256 * (bytes.getD (offset + 1) 0).toNat

def endOfCentralDirectoryMagic : Bytes := [0x50, 0x4B, 0x05, 0x06]

def endOfCentralDirectoryBytes : Nat := 22

/-- `find_end_of_central_directory`: the last record whose comment ends the file. -/
def findEndOfCentralDirectory (tail : Bytes) : Option Bytes :=
  if tail.length < endOfCentralDirectoryBytes then none
  else (List.range (tail.length - 3)).reverse.findSome? fun position =>
    let eocd := tail.drop position
    if eocd.take 4 ≠ endOfCentralDirectoryMagic ∨
        tail.length < position + endOfCentralDirectoryBytes then none
    else if endOfCentralDirectoryBytes + readU16 eocd 20 = eocd.length then some eocd
    else none

/-- `declared_entry_count`. -/
def declaredEntryCount (operationId : String) (file : Bytes) : CoreResult Nat := do
  let tail := file.drop (file.length - min file.length (65535 + endOfCentralDirectoryBytes))
  let eocd ← okOr (findEndOfCentralDirectory tail)
    (unsafeArchive operationId "archive has no valid central directory")
  require (readU16 eocd 4 = 0 ∧ readU16 eocd 6 = 0 ∧ readU16 eocd 8 = readU16 eocd 10)
    (unsupportedArchive operationId "multi-disk ZIP archives are not supported")
  require (readU16 eocd 10 ≠ 65535)
    (unsupportedArchive operationId "ZIP64 entry counts are not supported")
  return readU16 eocd 10

/-! ### One entry -/

section Entry

variable {μ : Type} (X : ArchiveExternals μ) (operationId : String) (limits : ImportLimits)

/-- `validate_entry_type_and_size`; the new `declared_total`. -/
def validateEntryTypeAndSize (entry : ZipEntry) (name : String) (isDirectory : Bool)
    (declaredTotal : Nat) : CoreResult Nat := do
  require (entry.isSymlink = false)
    (unsafeArchive operationId ("symbolic links are not allowed: " ++ name))
  require (entry.encrypted = false)
    (unsupportedArchive operationId ("encrypted archive entries are not supported: " ++ name))
  require (¬ (isDirectory = true ∧ entry.size ≠ 0))
    (unsafeArchive operationId ("archive directory contains file data: " ++ name))
  require (entry.size ≤ limits.maxEntryBytes)
    (unsafeArchive operationId ("archive entry exceeds size limit: " ++ name))
  let declaredTotal ← okOr (checkedAdd declaredTotal entry.size)
    (unsafeArchive operationId "archive size overflow")
  require (declaredTotal ≤ limits.maxTotalUncompressedBytes)
    (unsafeArchive operationId "archive exceeds total uncompressed size limit")
  require (¬ (0 < entry.size ∧ (entry.compressedSize = 0 ∨
      min (entry.compressedSize * limits.maxCompressionRatio) u64Max < entry.size)))
    (unsafeArchive operationId ("archive entry exceeds compression ratio limit: " ++ name))
  return declaredTotal

/-- `prepare_entry`. -/
def prepareEntry (entry : ZipEntry) (state : InspectionState) :
    CoreResult (EntryPlan × InspectionState) := do
  let name ← okOr (fromUtf8 entry.nameRaw)
    (unsafeArchive operationId "archive entry path is not valid UTF-8")
  let collisionKey ← (validateArchivePath X.unicode name).mapError (unsafeArchive operationId)
  let isDirectory := entry.isDir
  let archivePaths ←
    registerArchivePath operationId state.archivePaths collisionKey isDirectory name
  let declaredTotal ←
    validateEntryTypeAndSize operationId limits entry name isDirectory state.declaredTotal
  let extension := entryExtension name
  let isMetadata := collisionKey == cardMetadataPath && !isDirectory
  require (¬ (isMetadata = true ∧ maxMetadataBytes < entry.size))
    (unsupportedArchive operationId "character metadata exceeds 4 MiB")
  let plan : EntryPlan := {
    name := name
    logicalAssetId := collisionKey
    extension := extension
    isMetadata := isMetadata
    isAsset := isAssetExtension extension && !isDirectory }
  return (plan, { state with archivePaths := archivePaths, declaredTotal := declaredTotal })

/-- `checked_entry_size`. -/
def checkedEntrySize (current read : Nat) (name : String) : CoreResult Nat := do
  let updated ← okOr (checkedAdd current read)
    (unsafeArchive operationId "archive entry size overflow")
  require (updated ≤ limits.maxEntryBytes)
    (unsafeArchive operationId ("archive entry exceeds size limit while decoding: " ++ name))
  return updated

/-- `checked_total_size`. -/
def checkedTotalSize (current read : Nat) : CoreResult Nat := do
  let updated ← okOr (checkedAdd current read)
    (unsafeArchive operationId "archive size overflow")
  require (updated ≤ limits.maxTotalUncompressedBytes)
    (unsafeArchive operationId "archive exceeds total uncompressed size limit while decoding")
  return updated

/-- `collect_entry_bytes`. -/
def collectEntryBytes (result : EntryRead) (plan : EntryPlan) (bytes : Bytes) :
    CoreResult EntryRead := do
  let metadata := result.metadata.map (· ++ bytes)
  require (metadata.all fun collected => collected.length ≤ maxMetadataBytes)
    (unsupportedArchive operationId "character metadata exceeds 4 MiB")
  let assetHeader :=
    if plan.isAsset = true ∧ result.assetHeader.length < assetHeaderBytes then
      result.assetHeader ++ bytes.take (assetHeaderBytes - result.assetHeader.length)
    else result.assetHeader
  return { result with metadata := metadata, assetHeader := assetHeader }

/-- The variables of the loop of `read_entry_inner`; `assetDigest` is what was hashed so far. -/
structure ReadState where
  result : EntryRead
  entryUncompressed : Nat
  totalUncompressed : Nat
  assetDigest : Option Bytes

variable (plan : EntryPlan)

/-- The body of the loop of `read_entry_inner`, for the bytes of one read. -/
def readPiece (assetFile : Option String) (state : ReadState)
    (bytes : Bytes) : CoreResult ReadState := do
  let entryUncompressed ←
    checkedEntrySize operationId limits state.entryUncompressed bytes.length plan.name
  let totalUncompressed ←
    checkedTotalSize operationId limits state.totalUncompressed bytes.length
  let result ← collectEntryBytes operationId state.result plan bytes
  forSome (fun path => (X.disk.writeAll path state.entryUncompressed bytes).mapError
    (archiveIoError operationId)) assetFile
  return {
    result := result
    entryUncompressed := entryUncompressed
    totalUncompressed := totalUncompressed
    assetDigest := state.assetDigest.map (· ++ bytes) }

/-- The variables of `read_entry_inner` before its loop. -/
def ReadState.start (totalUncompressed : Nat) (assetFile : Option String) :
    ReadState where
  result := {
    metadata := if plan.isMetadata = true then some [] else none
    assetHeader := []
    sizeBytes := 0
    stagedAsset := none }
  entryUncompressed := 0
  totalUncompressed := totalUncompressed
  assetDigest := assetFile.map fun _ => []

/-- What `read_entry_inner` makes of its variables after the loop. -/
def ReadState.finish (assetFile : Option String) (state : ReadState) :
    EntryRead :=
  { state.result with
    sizeBytes := state.entryUncompressed
    stagedAsset := assetFile.map fun path => {
      originalPath := plan.logicalAssetId
      stagedPath := path
      sha256 := X.sha256Hex (state.assetDigest.getD [])
      mediaType := assetMediaType plan.extension
      sizeBytes := state.entryUncompressed
      signatureValid := true } }

/-- `read_entry` and `read_entry_inner`: what was read, and the new `total_uncompressed`.  That a
    failed read removes its staged file is not seen in the result. -/
def readEntry (entry : ZipEntry) (plan : EntryPlan) (totalUncompressed : Nat)
    (assetPath : Option String) : CoreResult (EntryRead × Nat) := do
  let assetFile := if plan.isAsset = true then assetPath else none
  forSome (fun path => (X.disk.createNew path).mapError (archiveIoError operationId)) assetFile
  let state ← entry.reads.foldlM (readPiece X operationId limits plan assetFile)
    (ReadState.start plan totalUncompressed assetFile)
  entry.outcome.mapError fun error =>
    unsafeArchive operationId ("cannot decode " ++ plan.name ++ ": " ++ error)
  require (state.entryUncompressed = entry.size) (unsafeArchive operationId
      ("archive entry size does not match its header: " ++ plan.name))
  forSome (fun path => (X.disk.syncAll path).mapError (archiveIoError operationId)) assetFile
  return (state.finish X plan assetFile, state.totalUncompressed)

/-- What `inspect_entry` keeps of an asset that was read. -/
def recordAsset (read : EntryRead) (state : InspectionState) :
    CoreResult (EntryRead × InspectionState) := do
  require (state.assetCount + 1 ≤ u32Max) (unsafeArchive operationId "archive asset count overflow")
  let signatureValid := assetSignatureMatches plan.extension read.assetHeader
  let mediaType := assetMediaType plan.extension
  let state := { state with assetCount := state.assetCount + 1 }
  let state :=
    if signatureValid = false then { state with
      warnings := state.warnings ++ [{
        code := "mime_mismatch"
        message := "Asset extension does not match file signature: " ++ plan.name }]
      blockedReasons := state.blockedReasons ++
        ["Asset file signature does not match its declared extension: " ++ plan.name] }
    else if state.representativeImage = none ∧ strStartsWith mediaType "image/" = true then
      { state with
        representativeImage := some {
          logicalAssetId := plan.logicalAssetId
          mediaType := mediaType
          sizeBytes := read.sizeBytes } }
    else state
  let stagedAsset := read.stagedAsset.map fun asset => { asset with
    signatureValid := signatureValid
    mediaType := if signatureValid = true then asset.mediaType else "application/octet-stream" }
  return ({ read with stagedAsset := stagedAsset }, state)

/-- The branches of `inspect_entry`: the card's bytes, an asset, or neither. -/
def recordEntry (read : EntryRead) (state : InspectionState) :
    CoreResult (EntryRead × InspectionState) :=
  if read.metadata.isSome = true then .ok (read, { state with metadataBytes := read.metadata })
  else if plan.isAsset = true then recordAsset operationId plan read state
  else .ok (read, state)

/-- `inspect_entry`. -/
def inspectEntry (entry : ZipEntry) (state : InspectionState) (assetPath : Option String) :
    CoreResult InspectionState := do
  let (plan, state) ← prepareEntry X operationId limits entry state
  let (read, totalUncompressed) ←
    readEntry X operationId limits entry plan state.totalUncompressed assetPath
  let (read, state) ← recordEntry operationId plan read
    { state with totalUncompressed := totalUncompressed }
  return { state with stagedAssets := state.stagedAssets ++ read.stagedAsset.toList }

/-- The loop of `inspect_archive_internal`, from an index on. -/
def inspectEntries (staging : Option AssetStaging) :
    Nat → List (Except String ZipEntry) → InspectionState → CoreResult InspectionState
  | _, [], state => .ok state
  | index, entry :: rest, state => do
    let entry ← entry.mapError (unsafeArchive operationId)
    let assetPath := staging.map fun s =>
      s.directory ++ "/inspection-" ++ s.inspectionId ++ "-asset-" ++ toString index ++ ".partial"
    let state ← inspectEntry X operationId limits entry state assetPath
    inspectEntries staging (index + 1) rest state

/-- `inspect_archive_internal` on the bytes of a file and what the zip crate reads in it.  That
    staged files are removed after an error is not seen in the result. -/
def inspectArchiveInternal (staging : Option AssetStaging) (file : Bytes)
    (archive : Except String (List (Except String ZipEntry))) :
    CoreResult (ArchiveInspection μ) := do
  let declaredEntries ← declaredEntryCount operationId file
  require (declaredEntries ≤ limits.maxEntries)
    (unsafeArchive operationId ("archive has " ++ toString declaredEntries ++
      " entries; maximum is " ++ toString limits.maxEntries))
  let archive ← archive.mapError (unsafeArchive operationId)
  require (archive.length = declaredEntries)
    (unsafeArchive operationId "archive central directory contains duplicate file names")
  let state ← inspectEntries X operationId limits staging 0 archive .default
  let bytes ← okOr state.metadataBytes
    (unsupportedArchive operationId "CHARX package must contain a root card.json")
  let metadata ← X.parseCardJson bytes
  return {
    metadata := metadata
    assetCount := state.assetCount
    totalUncompressed := state.totalUncompressed
    warnings := sortByKey (fun warning => toLex (warning.code, warning.message)) state.warnings
    blockedReasons := canonical id state.blockedReasons
    representativeImage := state.representativeImage
    stagedAssets := state.stagedAssets }

end Entry

end LorePia
