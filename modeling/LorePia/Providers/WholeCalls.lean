import LorePia.Providers.Stream
import Mathlib.Data.Finset.Insert

namespace LorePia.Providers

open Lib After ProviderEvent

/-!
# Providers — calls that arrive whole

Gemini and Ollama deliver a function call in one piece: identifier, name and arguments
together.  Both adapters count the calls, give a call without identifier one of their own, and
refuse an identifier that was used before.  The two functions differ in their words and are
one definition with the words as parameters.

`emitWholeCall_after`: a call is sent as its start, its arguments and its completion, under an
identifier that was not used.
-/

/-- The words of an adapter. -/
structure WholeCallWords where
  /-- The name that its messages begin with. -/
  provider : String
  /-- What its own identifiers begin with. -/
  generatedId : String
  maxToolCalls : Nat

/-- A function call as it arrives. -/
structure WholeCall where
  id : Option String
  name : Option String
  arguments : Option Json

/-- The calls of a response so far. -/
structure WholeCalls where
  nextToolCallIndex : Nat
  toolCallIds : Finset ToolCallId

def WholeCalls.default : WholeCalls := ⟨0, ∅⟩

section Emitting

variable (X : ProviderExternals) (words : WholeCallWords)

/-- An error in the words of the adapter. -/
def WholeCallWords.error (message : String) : CoreError :=
  streamingError X.uuid (words.provider ++ message)

/-- The identifier of a call: its own, or one made from its index. -/
def wholeCallId (index : Nat) (id : Option String) : CoreResult ToolCallId :=
  (ToolCallId.parse (id.getD (words.generatedId ++ toString index))).mapError fun _ =>
    words.error X " returned an invalid tool-call id"

/-- The arguments of a call in one fragment; none are an empty object. -/
def wholeCallArguments (arguments : Option Json) : CoreResult ToolCallArgumentsDelta := do
  let value := arguments.getD (.object [])
  require (value.isObject = true) (words.error X " returned non-object tool-call arguments")
  let text ← okOr (X.printJson value) (words.error X " returned invalid tool-call arguments")
  (ToolCallArgumentsDelta.parse text).mapError fun _ =>
    words.error X " tool-call arguments exceeded its safety limit"

/-- `emit_gemini_function_call` and `emit_ollama_tool_call`. -/
def emitWholeCall (call : WholeCall) (s : WholeCalls) : Response WholeCalls := do
  let index := s.nextToolCallIndex
  require (index + 1 ≤ u32Max ∧ index + 1 ≤ words.maxToolCalls)
    (words.error X " returned too many tool calls")
  let id ← wholeCallId X words index call.id
  require (id ∉ s.toolCallIds) (words.error X " reused a tool-call identifier")
  let name ← okOr call.name (words.error X " returned a tool call without a name")
  let name ← (ToolName.parse name).mapError fun _ => words.error X " returned an invalid tool name"
  let arguments ← wholeCallArguments X words call.arguments
  .send (.toolCallStarted id name)
  .send (.toolCallArgumentsDelta id arguments)
  .send (.toolCallCompleted id)
  return ⟨index + 1, insert id s.toolCallIds⟩

end Emitting

/-! ### The books -/

/-- Every call that was started is completed, and its identifier is on record. -/
def WholeCalls.Settled (log : List ProviderEvent) (s : WholeCalls) : Prop :=
  Ledger ProviderEvent.call? log ∅ (s.toolCallIds : Set ToolCallId)

variable {words : WholeCallWords} {log : List ProviderEvent} {s : WholeCalls}

theorem WholeCalls.Settled.default : WholeCalls.default.Settled [] := by
  show Ledger call? [] ∅ ((∅ : Finset ToolCallId) : Set ToolCallId)
  rw [Finset.coe_empty]
  exact Ledger.nil

theorem WholeCalls.Settled.skip (h : s.Settled log) (hview : event.call? = none) :
    s.Settled (log ++ [event]) :=
  Ledger.skip h hview

/-- **One call.** -/
theorem emitWholeCall_after (call : WholeCall) (h : s.Settled log) :
    After log (emitWholeCall X words call s) fun log' s' => s'.Settled log' := by
  refine require_bind fun _ => lift_bind fun id _ => require_bind fun hnew =>
    lift_bind fun _ _ => lift_bind fun name _ => lift_bind fun arguments _ => ?_
  refine send_bind (send_bind (send_bind (after_pure ?_)))
  show Ledger call? _ ∅ ((insert id s.toolCallIds : Finset ToolCallId) : Set ToolCallId)
  rw [Finset.coe_insert]
  exact Ledger.whole h rfl rfl rfl (by simpa using hnew)

end LorePia.Providers
