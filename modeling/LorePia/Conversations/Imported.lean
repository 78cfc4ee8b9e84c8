import LorePia.Conversations.Constraints
import LorePia.Conversations.Planner
import Mathlib.Data.List.Dedup
import Mathlib.Data.String.Basic

namespace LorePia.Conversations

open Lib List
open DiscoveryStore (SqliteJson)

/-!
# The conversation store — imported characters

The importer bounds the text of a card, the planner bounds the JSON text of the profile together
with the system policy and the message.  Escaping makes a text up to six times as long, so the
first bound does not imply the second.

* `parseCardJson_ok` — what the importer lets through;
* `chattable_iff` — an imported character can be chatted with exactly when its escaped texts leave
  room for the longest message.
-/

/-! ### Card metadata -/

def maxMetadataBytes : Nat := 4 * 1024 * 1024
def maxCharacterNameBytes : Nat := 1024
def maxCharacterNameChars : Nat := 256
def maxCharacterDescriptionBytes : Nat := 256 * 1024
def maxCharacterDescriptionChars : Nat := 64 * 1024
def maxUnsupportedOptionalFields : Nat := 128
def maxOptionalFieldKeyBytes : Nat := 256
def maxOptionalFieldKeyChars : Nat := 128
def characterCardV3Spec : String := "chara_card_v3"

structure CardMetadata where
  name : String
  description : String
  unsupportedOptionalFields : List String
  lenBytes : Nat

variable (uuid : String)

def unsupported (message : String) : CoreError := .new uuid .unsupportedContent message false

def validateMetadataText (field value : String) (maxBytes maxChars : Nat) : CoreResult Unit :=
  require (byteLen value ≤ maxBytes ∧ charCount value ≤ maxChars)
    (unsupported uuid ("CCv3 " ++ field ++ " exceeds the " ++ toString maxBytes ++ "-byte or " ++
      toString maxChars ++ "-character limit"))

/-- The loop over the keys. -/
def collectFields (descriptionField : Option String) (fields : List String) :
    List String → CoreResult (List String)
  | [] => .ok fields
  | key :: keys =>
    if key = "name" ∨ descriptionField = some key then collectFields descriptionField fields keys
    else do
      require (key ≠ "" ∧ hasControl key = false ∧ byteLen key ≤ maxOptionalFieldKeyBytes ∧
          charCount key ≤ maxOptionalFieldKeyChars)
        (unsupported uuid ("CCv3 optional data field name must be non-empty, printable, and at " ++
          "most " ++ toString maxOptionalFieldKeyBytes ++ " bytes or " ++
          toString maxOptionalFieldKeyChars ++ " characters"))
      require (fields.length ≠ maxUnsupportedOptionalFields)
        (unsupported uuid ("CCv3 metadata has more than " ++
          toString maxUnsupportedOptionalFields ++ " unsupported optional data fields"))
      collectFields descriptionField (fields ++ [key]) keys

def collectUnsupportedOptionalFields (keys : List String) (descriptionField : Option String) :
    CoreResult (List String) := do
  let fields ← collectFields uuid descriptionField [] keys
  return (fields.mergeSort fun a b => decide (a ≤ b)).dedup

/-- The field that is taken as the description, and its trimmed text. -/
def cardDescription (data : Json) : Option String × String :=
  match (data.get? "description").bind Json.asStr? with
  | some description => (some "description", trim description)
  | none =>
    match (data.get? "personality").bind Json.asStr? with
    | some personality => (some "personality", trim personality)
    | none => (none, "")

/-- `parse_card_json`, under `serde_json::from_slice`. -/
def parseCardJson (fromSlice : Bytes → Except String Json) (bytes : Bytes) :
    CoreResult CardMetadata := do
  require (bytes ≠ []) (unsupported uuid "character metadata is empty")
  require (bytes.length ≤ maxMetadataBytes) (unsupported uuid "character metadata exceeds 4 MiB")
  let value ← (fromSlice bytes).mapError fun error =>
    unsupported uuid ("invalid character JSON: " ++ error)
  require (value.isObject = true) (unsupported uuid "character metadata must be a JSON object")
  let spec ← okOr ((value.get? "spec").bind Json.asStr?)
    (unsupported uuid "character metadata must declare a string spec")
  require (spec = characterCardV3Spec) (unsupported uuid ("unsupported character spec: " ++ spec))
  let data ← okOr ((value.get? "data").bind Json.asObject?)
    (unsupported uuid "CCv3 metadata must contain a data object")
  let name ← okOr (((Json.object data).get? "name").bind Json.asStr?)
    (unsupported uuid "CCv3 metadata must contain a string data.name")
  require (trim name ≠ "") (unsupported uuid "CCv3 data.name must not be empty")
  validateMetadataText uuid "data.name" (trim name) maxCharacterNameBytes maxCharacterNameChars
  validateMetadataText uuid "data.description" (cardDescription (.object data)).2
    maxCharacterDescriptionBytes maxCharacterDescriptionChars
  let fields ← collectUnsupportedOptionalFields uuid (data.map Prod.fst)
    (cardDescription (.object data)).1
  return { name := trim name
           description := (cardDescription (.object data)).2
           unsupportedOptionalFields := fields
           lenBytes := bytes.length }

/-- `commit_import`: the character of a card, under the identifier it draws. -/
def CardMetadata.character (metadata : CardMetadata) (id : String) : Character where
  id := id
  name := metadata.name
  description := metadata.description

/-! ### Conversations -/

def maxConversationTitleBytes : Nat := 1024
def maxConversationTitleChars : Nat := 256

def normalizeBoundedText (field value : String) (maxBytes maxChars : Nat) : CoreResult String := do
  require (trim value ≠ "") (invalid uuid (field ++ " cannot be empty"))
  require (byteLen (trim value) ≤ maxBytes ∧ charCount (trim value) ≤ maxChars)
    (invalid uuid (field ++ " exceeds the " ++ toString maxBytes ++ "-byte or " ++
      toString maxChars ++ "-character limit"))
  return trim value

/-- The identifiers and the times that a new conversation draws. -/
structure ConversationDraws where
  conversationId : String
  createdAt : String
  branchId : String
  now : String

variable (X : Externals) (characters : String → Option Character) (catalog : Catalog)
  (fresh : ConversationDraws) (store : Store)

def getCharacter (id : String) : CoreResult Character :=
  okOr (characters id) (notFound uuid "character was not found")

def createConversation (characterId title : String) (mode : ConversationMode) :
    CoreResult (Store × Conversation) := do
  let _ ← getCharacter uuid characters characterId
  let title ← normalizeBoundedText uuid "conversation title" title maxConversationTitleBytes
    maxConversationTitleChars
  let conversation : Conversation :=
    { id := fresh.conversationId
      characterId
      title
      createdAt := fresh.createdAt
      updatedAt := fresh.createdAt }
  let saved ← saveConversationWithMode X uuid catalog conversation mode fresh.branchId fresh.now store
  return (saved.1, conversation)

def openConversation (characterId : String) : CoreResult (Store × Conversation) := do
  let character ← getCharacter uuid characters characterId
  createConversation uuid X characters catalog fresh store character.id character.name .chat

/-! ### JSON texts -/

def hexDigit (n : Nat) : Char := "0123456789abcdef".toList.getD n '0'

/-- What `serde_json` writes for a character of a string. -/
def escapeChar (c : Char) : List Char :=
  if c = '\x22' then ['\\', '\x22']
  else if c = '\\' then ['\\', '\\']
  else if c = '\x08' then ['\\', 'b']
  else if c = '\t' then ['\\', 't']
  else if c = '\n' then ['\\', 'n']
  else if c = '\x0c' then ['\\', 'f']
  else if c = '\r' then ['\\', 'r']
  else if c.toNat < 0x20 then
    ['\\', 'u', '0', '0', hexDigit (c.toNat / 16), hexDigit (c.toNat % 16)]
  else [c]

def escape (s : String) : String := String.ofList (s.toList.flatMap escapeChar)

/-- The text of an `UntrustedCharacterProfile`. -/
def profileJson (name description : String) : String :=
  "\x7b\"name\":\"" ++ escape name ++ "\",\"description\":\"" ++ escape description ++ "\"\x7d"

/-- How many characters a text has once it is escaped. -/
def escapedChars (s : String) : Nat := (s.toList.map fun c => (escapeChar c).length).sum

theorem charCount_escape (s : String) : charCount (escape s) = escapedChars s := by
  rw [escape, charCount, String.toList_ofList, length_flatMap]
  rfl

theorem charCount_profileJson (name description : String) :
    charCount (profileJson name description) = 28 + escapedChars name + escapedChars description := by
  simp only [profileJson, charCount_append, charCount_escape]
  have hopen : charCount "\x7b\"name\":\"" = 9 := by decide
  have hbetween : charCount "\",\"description\":\"" = 17 := by decide
  have hclose : charCount "\"\x7d" = 2 := by decide
  omega

/-! ### What the importer lets through -/

variable {uuid X characters catalog fresh store} {fromSlice : Bytes → Except String Json}
  {bytes : Bytes} {metadata : CardMetadata} {id : String} {message : Message}

theorem trim_cardDescription (data : Json) :
    trim (cardDescription data).2 = (cardDescription data).2 := by
  unfold cardDescription
  split
  · exact trim_trim
  · split
    · exact trim_trim
    · exact trim_eq_self fun c hc => by cases hc

/-- A text that passes the limits of a field. -/
structure Within (text : String) (maxBytes maxChars : Nat) : Prop where
  trimmed : trim text = text
  bytes : byteLen text ≤ maxBytes
  chars : charCount text ≤ maxChars

theorem parseCardJson_ok (h : parseCardJson uuid fromSlice bytes = .ok metadata) :
    metadata.name ≠ "" ∧ Within metadata.name maxCharacterNameBytes maxCharacterNameChars ∧
      Within metadata.description maxCharacterDescriptionBytes maxCharacterDescriptionChars := by
  obtain ⟨_, _, h⟩ := guards₂ h
  obtain ⟨value, _, _, h⟩ := step_guard h
  obtain ⟨spec, _, _, h⟩ := step_guard h
  obtain ⟨data, _, name, _, h⟩ := steps₂ h
  obtain ⟨hname, hnameLims, h⟩ := guards₂ h
  obtain ⟨hdescLims, fields, _, h⟩ := guard_step h
  obtain rfl := pure_inj h
  exact ⟨hname, ⟨trim_trim, hnameLims.1, hnameLims.2⟩,
    ⟨trim_cardDescription _, hdescLims.1, hdescLims.2⟩⟩

/-! ### Opening a conversation -/

/-- The drawn identifiers are unused. -/
structure ConversationDraws.Unused (fresh : ConversationDraws) (store : Store) : Prop where
  conversation : store.conversations.find? fresh.conversationId = none
  branch : store.branches.find? fresh.branchId = none

theorem exists_insert? {κ ρ : Type} [DecidableEq κ] {key : ρ → κ} {t : Table κ ρ key} {row : ρ}
    (h : t.find? (key row) = none) :
    ∃ t', t.insert? row = some t' ∧ t'.rows = t.rows ++ [row] := by
  obtain ⟨t', hins⟩ := Option.ne_none_iff_exists'.mp (Table.insert?_ne_none h)
  exact ⟨t', hins, (Table.insert?_eq_some.mp hins).2⟩

/-- A conversation of a stored character can be saved under unused identifiers. -/
theorem exists_saveConversationWithMode {conversation : Conversation}
    (hstore : Enforced X.sqlite store) (hunused : fresh.Unused store)
    (hid : conversation.id = fresh.conversationId)
    (hcharacter : catalog.hasCharacter conversation.characterId = true) :
    ∃ saved, saveConversationWithMode X uuid catalog conversation mode fresh.branchId fresh.now
      store = .ok saved := by
  have hconstrained := hstore.constrained
  obtain ⟨conversations, hinsConv, hconvs⟩ := exists_insert? (hid ▸ hunused.conversation)
  have hwithConv : Constrained X.sqlite { store with conversations } :=
    hconstrained.addConversation hconvs
  let branch := ConversationBranch.root conversation.id fresh.branchId fresh.now
  have hbranch : store.branches.find? branch.id = none := hunused.branch
  obtain ⟨branches, hinsBr, hbrs⟩ := exists_insert? hbranch
  have hmem : ∃ row ∈ conversations.rows, row.id = conversation.id :=
    ⟨conversation, by simp [hconvs], rfl⟩
  have hwithBr : Constrained X.sqlite { store with conversations, branches } :=
    hwithConv.addRoot hbrs hmem
  let state : ConversationState :=
    { conversationId := conversation.id
      activeBranchId := fresh.branchId
      selectedMode := mode
      updatedAt := conversation.updatedAt }
  -- no state belongs to a conversation that did not exist
  have hnoState : store.states.find? state.conversationId = none := by
    refine Table.find?_eq_none.mpr fun state hstate hconv => ?_
    obtain ⟨row, hrow, hrowId⟩ := hconstrained.stateConversation state hstate
    exact Table.find?_eq_none.mp hunused.conversation row hrow (hrowId.trans (hconv.trans hid))
  obtain ⟨states, hinsState, hstates⟩ := exists_insert? hnoState
  have hall : Constrained X.sqlite { store with conversations, branches, states } :=
    { hwithBr with
      stateConversation := by
        rw [hstates, forall_mem_append, forall_mem_singleton]
        exact ⟨hwithBr.stateConversation, hmem⟩
      stateBranch := by
        rw [hstates, forall_mem_append, forall_mem_singleton]
        exact ⟨hwithBr.stateBranch, branch, by simp [hbrs], rfl, rfl⟩ }
  refine ⟨_, then_ok (execute_ok.mpr (then_ok (okOr_ok.mpr hinsConv)
    (guarded hcharacter (enforce_eq_ok.mpr ⟨rfl, hwithConv.enforced⟩)))) (then_ok (execute_ok.mpr
    (then_ok (okOr_ok.mpr hinsBr) (enforce_eq_ok.mpr ⟨rfl, hwithBr.enforced⟩)))
    (then_ok (execute_ok.mpr (then_ok (okOr_ok.mpr hinsState) (enforce_eq_ok.mpr
    ⟨rfl, hall.enforced⟩))) rfl))⟩

theorem parseCardJson_opens (hparse : parseCardJson uuid fromSlice bytes = .ok metadata)
    (hstored : characters id = some (metadata.character id))
    (hrow : catalog.hasCharacter id = true) (hstore : Enforced X.sqlite store)
    (hunused : fresh.Unused store) :
    ∃ opened, openConversation uuid X characters catalog fresh store id = .ok opened := by
  obtain ⟨hname, hlims, _⟩ := parseCardJson_ok hparse
  have hget : getCharacter uuid characters id = .ok (metadata.character id) := okOr_ok.mpr hstored
  have htitle : normalizeBoundedText uuid "conversation title" metadata.name
      maxConversationTitleBytes maxConversationTitleChars = .ok (trim metadata.name) := by
    refine guarded ?_ (guarded ?_ rfl)
    · rw [hlims.trimmed]
      exact hname
    · rw [hlims.trimmed]
      exact ⟨hlims.bytes, hlims.chars⟩
  let conversation : Conversation :=
    { id := fresh.conversationId
      characterId := id
      title := trim metadata.name
      createdAt := fresh.createdAt
      updatedAt := fresh.createdAt }
  have hid : conversation.id = fresh.conversationId := rfl
  obtain ⟨saved, hsaved⟩ := exists_saveConversationWithMode hstore hunused hid hrow
  exact ⟨_, then_ok hget (then_ok hget (then_ok htitle (then_ok hsaved rfl)))⟩

/-! ### The first message -/

def cardPlanner : PlannerExternals where
  profileJson := fun name description => some (profileJson name description)
  clampTemperature := clampTemperature

/-- A conversation with the character opens, and the planner takes every first message of it. -/
structure Chattable (uuid : String) (X : Externals) (characters : String → Option Character)
    (catalog : Catalog) (fresh : ConversationDraws) (store : Store) (character : Character) :
    Prop where
  opens : ∃ opened,
    openConversation uuid X characters catalog fresh store character.id = .ok opened
  plans : ∀ opened, openConversation uuid X characters catalog fresh store character.id =
      .ok opened → ∀ mode model temperature maxOutputTokens,
    Chat.validateRequestControls uuid model (some temperature) maxOutputTokens = .ok () →
    ∀ text content, validateUserMessageText uuid text = .ok content →
    ∀ message : Message, message.role = .user → message.content = content →
      message.conversationId = opened.2.id → ∀ draws, ∃ request, planWithMode uuid cardPlanner
        draws character opened.2.id mode [message] model temperature maxOutputTokens = .ok request

def systemContent (mode : ConversationMode) : String :=
  trustedSystemPolicy ++ "\n\n" ++ modeInstruction mode

/-- The escaped texts of the card leave room for the longest message.  The profile has 28
    characters besides them. -/
def LeavesRoom (metadata : CardMetadata) : Prop :=
  ∀ mode, charCount (systemContent mode) + charCount untrustedProfilePrefix + 28 +
    escapedChars metadata.name + escapedChars metadata.description + maxUserMessageChars ≤
      Chat.maxPromptChars

theorem byteLen_le_four_mul (s : String) : byteLen s ≤ 4 * charCount s := by
  rw [charCount, byteLen, asBytes]
  induction s.toList with
  | nil => exact Nat.le_refl 0
  | cons c cs ih =>
    have hc : (String.utf8EncodeChar c).length ≤ 4 := by
      rw [String.length_utf8EncodeChar]
      exact c.utf8Size_le_four
    rw [flatMap_cons, length_append, length_cons]
    omega

theorem validateUserMessageText_ok {text content : String}
    (h : validateUserMessageText uuid text = .ok content) :
    byteLen content ≤ maxUserMessageBytes ∧ charCount content ≤ maxUserMessageChars := by
  obtain ⟨_, hlims, h⟩ := guards₂ h
  obtain rfl := pure_inj h
  omega

section FirstMessage

variable (hparse : parseCardJson uuid fromSlice bytes = .ok metadata)
include hparse

theorem LeavesRoom.plans (hroom : LeavesRoom metadata) (hcontrols :
      Chat.validateRequestControls uuid model (some temperature) maxOutputTokens = .ok ())
    (hbytes : byteLen message.content ≤ maxUserMessageBytes)
    (hchars : charCount message.content ≤ maxUserMessageChars) (huser : message.role = .user)
    (hconv : message.conversationId = conversationId) :
    ∃ request, planWithMode uuid cardPlanner draws (metadata.character id) conversationId mode
      [message] model temperature maxOutputTokens = .ok request := by
  obtain ⟨_, hname, hdesc⟩ := parseCardJson_ok hparse
  have hlims : maxCharacterNameBytes + maxCharacterDescriptionBytes ≤ Chat.maxPromptBytes ∧
      maxCharacterNameChars + maxCharacterDescriptionChars ≤ Chat.maxPromptChars ∧
      Chat.maxPromptBytes ≤ u64Max ∧ Chat.maxPromptChars ≤ u64Max ∧
      maxUserMessageBytes ≤ maxHistoryMessageBytes ∧
      maxUserMessageChars ≤ maxHistoryMessageChars ∧
      4 * Chat.maxPromptChars = Chat.maxPromptBytes := by decide
  have hnameBytes := hname.bytes
  have hnameChars := hname.chars
  have hdescBytes := hdesc.bytes
  have hdescChars := hdesc.chars
  have hprofile : validateCharacterProfileInput uuid (metadata.character id) = .ok () := by
    refine then_ok (okOr_ok.mpr (checkedAdd_of_le ?_)) (guarded ?_
      (then_ok (okOr_ok.mpr (checkedAdd_of_le ?_)) (require_ok.mpr ?_)))
    all_goals
      simp only [CardMetadata.character]
      omega
  have hjson : cardPlanner.profileJson (trim (metadata.character id).name)
      (trim (metadata.character id).description) =
        some (profileJson metadata.name metadata.description) := by
    simp only [cardPlanner, CardMetadata.character, hname.trimmed, hdesc.trimmed]
  -- a prompt within the characters is within the bytes
  have htotal := hroom mode
  have hprofChars := charCount_profileJson metadata.name metadata.description
  have hsystemBytes := byteLen_le_four_mul (systemContent mode)
  have hprofBytes := byteLen_le_four_mul
    (untrustedProfilePrefix ++ profileJson metadata.name metadata.description)
  have hmsgBytes := byteLen_le_four_mul message.content
  have hsplit := charCount_append untrustedProfilePrefix
    (profileJson metadata.name metadata.description)
  have hfitsBytes : byteLen (systemContent mode) + byteLen (untrustedProfilePrefix ++
      profileJson metadata.name metadata.description) ≤ Chat.maxPromptBytes := by
    omega
  have hfitsChars : charCount (systemContent mode) + charCount (untrustedProfilePrefix ++
      profileJson metadata.name metadata.description) ≤ Chat.maxPromptChars := by
    omega
  obtain ⟨staticPrompt, hstatic, hstaticBytes, hstaticChars⟩ := exists_buildStaticPrompt uuid draws
    conversationId hprofile hjson hfitsBytes hfitsChars
  change staticPrompt.totalBytes = byteLen (systemContent mode) + _ at hstaticBytes
  change staticPrompt.totalChars = charCount (systemContent mode) + _ at hstaticChars
  have hfits : FitsNext staticPrompt.totalBytes staticPrompt.totalChars 0 message :=
    ⟨by decide, by omega, by omega, by omega, by omega⟩
  obtain ⟨selected, hsel⟩ := exists_selectHistory [] hfits
  have honly : ([message].reverse.filter fun message => message.role != .system) = [message] := by
    simp [huser]
  rw [← honly] at hsel
  have hhist : validateHistoryConversation uuid [message] conversationId = .ok () :=
    guarded (Nat.le_of_ble_eq_true rfl) (require_ok.mpr (by simp [hconv]))
  exact ⟨_, then_ok hcontrols (then_ok hhist (then_ok hstatic (then_ok hsel rfl)))⟩

/-- What a planned first message says about the texts of the card. -/
theorem charCount_le_of_planned (huser : message.role = .user)
    (h : planWithMode uuid cardPlanner draws (metadata.character id) conversationId mode [message]
      model temperature maxOutputTokens = .ok request) :
    charCount (systemContent mode) + charCount untrustedProfilePrefix + 28 +
      escapedChars metadata.name + escapedChars metadata.description + charCount message.content ≤
        Chat.maxPromptChars := by
  obtain ⟨_, hname, hdesc⟩ := parseCardJson_ok hparse
  obtain ⟨_, _, _, _, h⟩ := steps₂ h
  obtain ⟨staticPrompt, hstatic, selected, hsel, _⟩ := steps₂ h
  obtain ⟨_, hsystem, _, _, ⟨json, hjson, hprofile⟩, _, _, hchars, _⟩ := buildStaticPrompt_ok hstatic
  have honly : ([message].reverse.filter fun message => message.role != .system) = [message] := by
    simp [huser]
  rw [honly] at hsel
  have hfits : FitsNext staticPrompt.totalBytes staticPrompt.totalChars ([] : List Message).length
      message := by
    by_contra hmisfit
    obtain ⟨e, hends⟩ := selectHistory_misfit hmisfit
    rw [hends] at hsel
    cases hsel
  have htotal := hfits.2.2.2.2
  cases hjson
  have hprofChars := charCount_profileJson metadata.name metadata.description
  rw [hchars, hsystem, hprofile, charCount_append untrustedProfilePrefix] at htotal
  change charCount (systemContent mode) + (_ + charCount (profileJson (trim metadata.name)
    (trim metadata.description))) + _ ≤ _ at htotal
  rw [hname.trimmed, hdesc.trimmed] at htotal
  omega

end FirstMessage

/-! ### Characters that can be chatted with -/

/-- A text of one character. -/
def repeated (n : Nat) (c : Char) : String := String.ofList (replicate n c)

theorem mem_repeated (h : c ∈ (repeated n a).toList) : c = a := by
  rw [repeated, String.toList_ofList] at h
  exact eq_of_mem_replicate h

@[simp] theorem charCount_repeated : charCount (repeated n a) = n := by
  rw [charCount, repeated, String.toList_ofList, length_replicate]

theorem byteLen_repeated (ha : a.val ≤ 127) : byteLen (repeated n a) = n :=
  (byteLen_of_ascii fun _ hc => mem_repeated hc ▸ ha).trans charCount_repeated

theorem trim_repeated (ha : isWhitespace a = false) : trim (repeated n a) = repeated n a :=
  trim_eq_self fun _ hc => mem_repeated hc ▸ ha

/-- The longest message there is. -/
def longestText : String := repeated maxUserMessageChars 'a'

theorem validateUserMessageText_longestText :
    validateUserMessageText uuid longestText = .ok longestText := by
  have htrim : trim longestText = longestText := trim_repeated (by decide)
  have hchars : charCount longestText = maxUserMessageChars := charCount_repeated
  have hbytes : byteLen longestText = maxUserMessageChars := byteLen_repeated (by decide)
  have hlims : maxUserMessageChars ≤ maxUserMessageBytes ∧ 0 < maxUserMessageChars := by decide
  rw [validateUserMessageText, htrim]
  refine guarded ?_ (guarded (by omega) rfl)
  intro hempty
  rw [hempty] at hchars
  exact hlims.2.ne hchars

theorem Chattable.leavesRoom (hparse : parseCardJson uuid fromSlice bytes = .ok metadata)
    (h : Chattable uuid X characters catalog fresh store (metadata.character id)) :
    LeavesRoom metadata := by
  intro mode
  obtain ⟨opened, hopens⟩ := h.opens
  let message : Message :=
    { id := ""
      conversationId := opened.2.id
      parentId := none
      role := .user
      content := longestText
      status := .complete
      generationId := none
      createdAt := "" }
  obtain ⟨request, hplan⟩ := h.plans opened hopens mode "m" defaultTemperature none rfl
    longestText longestText validateUserMessageText_longestText message rfl rfl rfl
    ⟨"", "", "", "", ""⟩
  have hchars : charCount message.content = maxUserMessageChars := charCount_repeated
  rw [← hchars]
  exact charCount_le_of_planned hparse rfl hplan

/-- **Imported characters.** A character built from an accepted card can be opened, and takes every
    first message exactly when its escaped texts leave room for the longest one. -/
theorem chattable_iff (hparse : parseCardJson uuid fromSlice bytes = .ok metadata)
    (hstored : characters id = some (metadata.character id))
    (hrow : catalog.hasCharacter id = true) (hstore : Enforced X.sqlite store)
    (hunused : fresh.Unused store) :
    (∃ opened, openConversation uuid X characters catalog fresh store id = .ok opened) ∧
      (Chattable uuid X characters catalog fresh store (metadata.character id) ↔
        LeavesRoom metadata) := by
  have hopens := parseCardJson_opens hparse hstored hrow hstore hunused
  refine ⟨hopens, Chattable.leavesRoom hparse, fun hroom => ⟨hopens, ?_⟩⟩
  rintro opened - mode model temperature maxOutputTokens hcontrols text content htext message
    huser rfl hconv draws
  obtain ⟨hbytes, hchars⟩ := validateUserMessageText_ok htext
  exact hroom.plans hparse hcontrols hbytes hchars huser hconv

/-! ### A card of quotation marks -/

def quotes : String := repeated maxCharacterDescriptionChars '\x22'

def quotedCardText : String :=
  "\x7b\"data\":\x7b\"description\":\"" ++ escape quotes ++
    "\",\"name\":\"q\"\x7d,\"spec\":\"chara_card_v3\"\x7d"

def quotedCard : Json :=
  .object [("data", .object [("description", .string quotes), ("name", .string "q")]),
    ("spec", .string characterCardV3Spec)]

/-- The reader of the one text. -/
def readsQuotedCard (bytes : Bytes) : Except String Json :=
  if bytes = asBytes quotedCardText then .ok quotedCard else .error "expected value"

def quotedMetadata : CardMetadata where
  name := "q"
  description := quotes
  unsupportedOptionalFields := []
  lenBytes := byteLen quotedCardText

theorem escapedChars_quotes : escapedChars quotes = 2 * maxCharacterDescriptionChars := by
  rw [escapedChars, quotes, repeated, String.toList_ofList, map_replicate, sum_replicate_nat,
    Nat.mul_comm]
  rfl

theorem parseCardJson_quoted :
    parseCardJson uuid readsQuotedCard (asBytes quotedCardText) = .ok quotedMetadata := by
  have htrim : trim quotes = quotes := trim_repeated (by decide)
  have hlength : charCount quotedCardText = 61 + 2 * maxCharacterDescriptionChars := by
    have hopen : charCount "\x7b\"data\":\x7b\"description\":\"" = 24 := by decide
    have hclose :
        charCount "\",\"name\":\"q\"\x7d,\"spec\":\"chara_card_v3\"\x7d" = 37 := by
      decide
    have hmiddle := (charCount_escape quotes).trans escapedChars_quotes
    unfold quotedCardText
    rw [charCount_append, charCount_append]
    omega
  have htext : 0 < byteLen quotedCardText ∧ byteLen quotedCardText ≤ maxMetadataBytes := by
    have hatLeast := charCount_le_byteLen quotedCardText
    have hatMost := byteLen_le_four_mul quotedCardText
    have hmax : maxCharacterDescriptionChars = 65536 ∧ maxMetadataBytes = 4194304 := by decide
    omega
  have hdesc : byteLen quotes ≤ maxCharacterDescriptionBytes ∧
      charCount quotes ≤ maxCharacterDescriptionChars := by
    rw [quotes, byteLen_repeated (by decide), charCount_repeated]
    decide
  have hread : readsQuotedCard (asBytes quotedCardText) = .ok quotedCard := if_pos rfl
  refine guarded ?_ (guarded htext.2 (then_ok (mapError_ok.mpr hread) (guarded rfl (then_ok rfl
    (guarded rfl (then_ok rfl (then_ok rfl (guarded (by decide) (guarded (by decide)
    (guarded ?_ (bind_ok.mpr ⟨[], ?_, ?_⟩)))))))))))
  · exact length_pos_iff.mp htext.1
  · rw [← htrim] at hdesc
    exact hdesc
  · show collectUnsupportedOptionalFields uuid ["description", "name"] (some "description") = _
    simp [collectUnsupportedOptionalFields, collectFields]
  · show Except.ok (CardMetadata.mk (trim "q") (trim quotes) _ _) = .ok quotedMetadata
    rw [htrim]
    rfl

def quotedDraws : ConversationDraws where
  conversationId := "c"
  createdAt := "t"
  branchId := "b"
  now := "t"

def quotedCharacters (id : String) : Option Character := some (quotedMetadata.character id)

/-- The quotation marks alone fill a prompt. -/
theorem quoted_not_chattable :
    parseCardJson "" readsQuotedCard (asBytes quotedCardText) = .ok quotedMetadata ∧
      Enforced plainExternals.sqlite Store.empty ∧ quotedDraws.Unused Store.empty ∧
      ¬ Chattable "" plainExternals quotedCharacters plainCatalog quotedDraws Store.empty
        (quotedMetadata.character "x") := by
  refine ⟨parseCardJson_quoted, ⟨rfl, rfl, rfl⟩, ⟨rfl, rfl⟩, fun hchattable => ?_⟩
  have hroom := hchattable.leavesRoom parseCardJson_quoted .chat
  have hquotes : escapedChars quotedMetadata.description = _ := escapedChars_quotes
  have hlims : Chat.maxPromptChars = 2 * maxCharacterDescriptionChars := by decide
  omega

theorem chattable_iff_quoted :
    (∃ opened, openConversation "" plainExternals quotedCharacters plainCatalog quotedDraws
        Store.empty "x" = .ok opened) ∧
      (Chattable "" plainExternals quotedCharacters plainCatalog quotedDraws Store.empty
          (quotedMetadata.character "x") ↔
        LeavesRoom quotedMetadata) :=
  chattable_iff parseCardJson_quoted rfl rfl ⟨rfl, rfl, rfl⟩ ⟨rfl, rfl⟩

end LorePia.Conversations
