import LorePia.Domain.Provider

namespace LorePia.Chat

open Lib

/-!
# Chat — checks on an assembled request

`validate_generation_request`, which a generation runs before it starts.  Its messages are
fixed texts: only limits are written into them.
-/

def maxPromptMessages : Nat := 128
def maxPromptBytes : Nat := 512 * 1024
def maxPromptChars : Nat := 128 * 1024
def maxModelIdBytes : Nat := 1024
def maxModelIdChars : Nat := 256

def modelIdMessage : String :=
  "provider model must be a non-empty identifier of at most " ++ toString maxModelIdBytes ++
    " bytes and " ++ toString maxModelIdChars ++ " characters"

def promptLimitMessage : String :=
  "prompt exceeds the " ++ toString maxPromptBytes ++ "-byte or " ++ toString maxPromptChars ++
    "-character limit"

def messageLimitMessage : String :=
  "provider request exceeds the " ++ toString maxPromptMessages ++ "-message limit"

variable (uuid : String)

/-- `CoreError::invalid`. -/
def invalid (message : String) : CoreError := .new uuid .invalidInput message false

/-- `f64::is_finite`: the exponent is not all ones. -/
def isFinite (bits : UInt64) : Bool := (bits >>> 52) &&& 0x7FF != 0x7FF

def validateRequestControls (model : String) (temperature : Option UInt64)
    (maxOutputTokens : Option Nat) : CoreResult Unit := do
  require (¬ (trim model = "" ∨ trim model ≠ model ∨ byteLen model > maxModelIdBytes ∨
      charCount model > maxModelIdChars ∨ hasControl model = true))
    (invalid uuid modelIdMessage)
  require (temperature.all isFinite = true)
    (invalid uuid "provider temperature must be a finite number")
  require (maxOutputTokens ≠ some 0)
    (invalid uuid "provider max output tokens must be greater than zero")

/-- The loop of `validate_generation_request`: the position, the totals so far and whether a
    system message was seen. -/
def validateMessages (conversationId : String) (index totalBytes totalChars : Nat)
    (sawSystem : Bool) : List Message → CoreResult Unit
  | [] => .ok ()
  | message :: messages => do
    require (message.conversationId = conversationId)
      (invalid uuid "provider request contains a message from another conversation")
    require (¬ (message.role = .system ∧ (index ≠ 0 ∨ sawSystem = true)))
      (invalid uuid "provider request system message must be unique and first")
    let totalBytes ← okOr (checkedAdd totalBytes (byteLen message.content))
      (invalid uuid promptLimitMessage)
    let totalChars ← okOr (checkedAdd totalChars (charCount message.content))
      (invalid uuid promptLimitMessage)
    require (¬ (totalBytes > maxPromptBytes ∨ totalChars > maxPromptChars))
      (invalid uuid promptLimitMessage)
    validateMessages conversationId (index + 1) totalBytes totalChars
      (sawSystem || message.role = .system) messages

def validateGenerationRequest (request : GenerationRequest) : CoreResult Unit := do
  validateRequestControls uuid request.model request.temperature request.maxOutputTokens
  require (request.messages.length ≤ maxPromptMessages) (invalid uuid messageLimitMessage)
  validateMessages uuid request.conversationId 0 0 0 false request.messages

/-- Every text that a request check can fail with. -/
def requestMessages : List String :=
  [ modelIdMessage, "provider temperature must be a finite number",
    "provider max output tokens must be greater than zero",
    messageLimitMessage,
    "provider request contains a message from another conversation",
    "provider request system message must be unique and first",
    promptLimitMessage ]

theorem get_mem_requestMessages (position : Fin 7) :
    requestMessages.get position ∈ requestMessages :=
  List.get_mem requestMessages position

theorem validateRequestControls_message (model : String) (temperature : Option UInt64)
    (maxOutputTokens : Option Nat) :
    Ensures (fun _ => True) (fun error => error.message ∈ requestMessages)
      (validateRequestControls uuid model temperature maxOutputTokens) := by
  refine (ensures_require fun _ => ?_).bind fun _ _ =>
    (ensures_require fun _ => ?_).bind fun _ _ =>
    (ensures_require fun _ => ?_).mono (fun _ _ => trivial) (fun _ h => h)
  · exact get_mem_requestMessages 0
  · exact get_mem_requestMessages 1
  · exact get_mem_requestMessages 2

theorem validateMessages_message (conversationId : String) (index totalBytes totalChars : Nat)
    (sawSystem : Bool) (messages : List Message) :
    Ensures (fun _ => True) (fun error => error.message ∈ requestMessages)
      (validateMessages uuid conversationId index totalBytes totalChars sawSystem messages) := by
  induction messages generalizing index totalBytes totalChars sawSystem with
  | nil => exact trivial
  | cons message messages ih =>
    refine (ensures_require fun _ => ?_).bind fun _ _ =>
      (ensures_require fun _ => ?_).bind fun _ _ =>
      (ensures_okOr fun _ => ?_).bind fun _ _ =>
      (ensures_okOr fun _ => ?_).bind fun _ _ =>
      (ensures_require fun _ => ?_).bind fun _ _ => ih _ _ _ _
    · exact get_mem_requestMessages 4
    · exact get_mem_requestMessages 5
    · exact get_mem_requestMessages 6
    · exact get_mem_requestMessages 6
    · exact get_mem_requestMessages 6

/-- Nothing of the request reaches the text of its error. -/
theorem validateGenerationRequest_message (request : GenerationRequest) :
    Ensures (fun _ => True) (fun error => error.message ∈ requestMessages)
      (validateGenerationRequest uuid request) := by
  refine (validateRequestControls_message uuid _ _ _).bind fun _ _ =>
    (ensures_require fun _ => ?_).bind fun _ _ => validateMessages_message uuid _ _ _ _ _ _
  exact get_mem_requestMessages 3

end LorePia.Chat
