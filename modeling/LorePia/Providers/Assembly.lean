import LorePia.Providers.OpenAiCompatible

namespace LorePia.Providers.OpenAiCompatible

open List Option PartialToolCall Prod

open Lib Providers Providers.OpenRouter

/-!
# Providers — the assembly of tool calls

What the events of a tool call carry, traced back to the fragments that the chunks brought.  The
fragments of an index are the history of its call; `ready` says of a history that it is enough to
announce the call, and `announcing` is the part of the history that the announcement shows.

* `Collected` — a call that is not announced holds its whole history;
* `Announced` — a call that is announced has sent its whole history;
* `observeDelta_assembling` — one delta adds one fragment to one history;
* `runChunks_assembled` — a response that ends has sent every call, and nothing else.
-/

variable {out : List ProviderEvent × ToolCallTracker} {history : List Fragment} {rest : List Nat}
  {name : ToolName}

/-! ### Fragments -/

/-- What a delta adds to the call of an index; an empty text adds nothing. -/
structure Fragment where
  index : Nat
  id : Option String
  name : Option String
  arguments : Option String

/-- The fragments of the tool calls of a delta, from a position on. -/
def toolCallFragments : Nat → List ToolCallDelta → List Fragment
  | _, [] => []
  | position, delta :: deltas =>
    ⟨delta.index.getD position, nonEmpty delta.id,
      nonEmpty (delta.function.bind FunctionCallDelta.name),
      nonEmpty (delta.function.bind FunctionCallDelta.arguments)⟩ ::
      toolCallFragments (position + 1) deltas

/-- The fragment of the function call of the older protocol. -/
def functionCallFragments : Option FunctionCallDelta → List Fragment
  | none => []
  | some function =>
    [⟨legacyFunctionCallIndex, none, nonEmpty function.name, nonEmpty function.arguments⟩]

def StreamDelta.fragments (delta : StreamDelta) : List Fragment :=
  toolCallFragments 0 delta.toolCalls ++ functionCallFragments delta.functionCall

/-- The fragments that a list of choices brings. -/
def choiceFragments (choices : List StreamChoice) : List Fragment :=
  choices.flatMap fun choice => choice.delta.fragments

/-- The fragments that a list of chunks brings. -/
def received (chunks : List StreamChunk) : List Fragment :=
  chunks.flatMap fun chunk => choiceFragments chunk.choices

/-- The history of an index. -/
def fragmentsAt (index : Nat) (fragments : List Fragment) : List Fragment :=
  fragments.filter fun fragment => fragment.index = index

/-- The texts of one kind, one after the other. -/
def joined (field : Fragment → Option String) (fragments : List Fragment) : String :=
  concat (fragments.filterMap field)

/-- The identifier that a history spells; the function call of the older protocol has its own. -/
def identity (index : Nat) (fragments : List Fragment) : String :=
  if index = legacyFunctionCallIndex then legacyFunctionCallId else joined Fragment.id fragments

/-- A history that is enough to announce the call: identifier, name and a first argument. -/
def ready (index : Nat) (fragments : List Fragment) : Bool :=
  identity index fragments ≠ "" && joined Fragment.name fragments ≠ "" &&
    fragments.any fun fragment => fragment.arguments.isSome

/-- The part of a history that the announcement shows: up to the fragment that makes it ready, or
all of it if the finish reason comes first. -/
def announcing (index : Nat) (fragments : List Fragment) : List Fragment :=
  (fragments.inits.find? (ready index)).getD fragments

variable {index : Nat} {fragments : List Fragment} {fragment : Fragment}

theorem joined_concat (field : Fragment → Option String) :
    joined field (fragments ++ [fragment]) =
      joined field fragments ++ (field fragment).getD "" := by
  rw [joined, filterMap_append, concat_append, joined]
  cases hfield : field fragment <;> simp [hfield]

theorem find?_inits_concat (p : List Fragment → Bool) :
    (fragments ++ [fragment]).inits.find? p = (fragments.inits.find? p).or
        (if p (fragments ++ [fragment]) then some (fragments ++ [fragment]) else none) := by
  split <;> simp_all

/-! ### The events of a call -/

/-- The events of a log that belong to a call. -/
def callEvents (log : List ProviderEvent) (id : ToolCallId) : List ProviderEvent :=
  log.filter fun event => event.call?.map Prod.fst = some id

variable {log events : List ProviderEvent} {id : ToolCallId}

theorem callEvents_append :
    callEvents (log ++ events) id = callEvents log id ++ callEvents events id :=
  filter_append _ _

/-- A call has every event in which nothing else is mentioned. -/
theorem callEvents_eq_self (h : ∀ event ∈ events, event.call?.map fst = some id) :
    callEvents events id = events :=
  filter_eq_self.mpr fun event hev => decide_eq_true (h event hev)

theorem callEvents_eq_nil (h : ∀ event ∈ events, event.call?.map fst ≠ some id) :
    callEvents events id = [] :=
  filter_eq_nil_iff.mpr fun event hev htrue => h event hev (of_decide_eq_true htrue)

theorem call_argumentEvents {pending : List ToolCallArgumentsDelta} :
    ∀ event ∈ argumentEvents id pending, event.call?.map fst = some id := by
  intro event hev
  rw [view_argumentEvents event hev]
  rfl

/-! ### One call -/

/-- The text of a list of argument deltas. -/
def argumentText (deltas : List ToolCallArgumentsDelta) : String :=
  concat (deltas.map ToolCallArgumentsDelta.val)

/-- A call that is not announced holds its whole history. -/
structure Collected (index : Nat) (fragments : List Fragment) (call : PartialToolCall) : Prop where
  silent : call.started = none
  id : call.id = identity index fragments
  name : call.name = joined Fragment.name fragments
  arguments : argumentText call.pendingArguments = joined Fragment.arguments fragments
  kept : call.pendingArguments = [] ↔ ¬ fragments.any (fun fragment => fragment.arguments.isSome)

/-- A call that is announced has sent its history: the start shows the beginning `start` of it,
the argument deltas carry all of it. -/
structure Announced (index : Nat) (start fragments : List Fragment) (log : List ProviderEvent)
    (id : ToolCallId) (call : PartialToolCall) : Prop where
  started : call.started = some id
  taken : call.pendingArguments = []
  identified : id.val = identity index start
  sent : ∃ name deltas, name.val = joined Fragment.name start ∧
    argumentText deltas = joined Fragment.arguments fragments ∧
    callEvents log id = .toolCallStarted id name :: argumentEvents id deltas

/-- A call in the middle of a response. -/
inductive CallState (index : Nat) (fragments : List Fragment) (log : List ProviderEvent)
    (call : PartialToolCall) : Prop
  | waiting (collected : Collected index fragments call)
      (unready : fragments.inits.find? (ready index) = none)
  | announced {id : ToolCallId} {start : List Fragment}
      (found : fragments.inits.find? (ready index) = some start)
      (announced : Announced index start fragments log id call)

variable {X : ProviderExternals} {call : PartialToolCall}

theorem appendFragment_ok {target text message : String}
    (h : appendFragment X target piece maxBytes message = .ok text) :
    text = target ++ piece.getD "" := by
  cases piece with
  | none =>
    cases h
    simp
  | some piece =>
    obtain ⟨_, h⟩ := guard_ok.mp h
    exact (pure_inj h).symm

/-- The arguments of a delta are appended to the pending ones. -/
theorem observeArguments_ok (h : observeArguments X arguments call = .ok call') :
    ∃ deltas, call'.pendingArguments = call.pendingArguments ++ deltas ∧
      argumentText deltas = arguments.getD "" ∧ (deltas = [] ↔ arguments = none) ∧
      call'.id = call.id ∧ call'.name = call.name ∧ call'.started = call.started := by
  cases arguments with
  | none =>
    cases h
    exact ⟨[], (append_nil _).symm, rfl, by simp, rfl, rfl, rfl⟩
  | some arguments =>
    obtain ⟨delta, hparse, _, h⟩ := step_guard h
    cases h
    obtain ⟨_, rfl⟩ := exists_of_parseBounded_ok (mapError_ok.mp hparse)
    exact ⟨_, rfl, by simp [argumentText], by simp, rfl, rfl, rfl⟩

/-- A call that is not announced collects one more fragment. -/
theorem Collected.observe (h : Collected index fragments call)
    (hleg : index = legacyFunctionCallIndex → fragment.id = none)
    (hident : observeIdentity X fragment.id fragment.name call = .ok call₁)
    (hargs : observeArguments X fragment.arguments call₁ = .ok call') :
    Collected index (fragments ++ [fragment]) call' := by
  obtain ⟨deltas, hpend, htext, hnone, hid', hname', hstarted'⟩ := observeArguments_ok hargs
  have hsil : ¬ call.started.isSome = true := by simp [h.silent]
  rw [observeIdentity, if_neg hsil] at hident
  obtain ⟨newId, hid, newName, hname, hident⟩ := steps₂ hident
  cases hident
  refine ⟨hstarted'.trans h.silent, ?_, ?_, ?_, ?_⟩
  · rw [hid', identity]
    show newId = _
    rw [appendFragment_ok hid, h.id, identity]
    by_cases hidx : index = legacyFunctionCallIndex
    · rw [if_pos hidx, if_pos hidx, hleg hidx]
      simp
    · rw [if_neg hidx, if_neg hidx, joined_concat]
  · rw [hname', joined_concat]
    show newName = _
    rw [appendFragment_ok hname, h.name]
  · rw [hpend, joined_concat, ← htext, ← h.arguments]
    simp [argumentText]
  · rw [hpend, append_eq_nil_iff, h.kept, hnone]
    simp [isSome_iff_ne_none]

/-- The book that an unknown index starts with. -/
theorem collected_default
    (hdflt : index = legacyFunctionCallIndex → defaultId = some legacyFunctionCallId)
    (hplain : index ≠ legacyFunctionCallIndex → defaultId = none) :
    Collected index [] { PartialToolCall.default with id := defaultId.getD "" } := by
  refine ⟨rfl, ?_, rfl, rfl, by simp [PartialToolCall.default]⟩
  rw [identity]
  by_cases hidx : index = legacyFunctionCallIndex
  · rw [if_pos hidx, hdflt hidx]
    rfl
  · rw [if_neg hidx, hplain hidx]
    rfl

/-- The default identifier changes nothing in a call that has a history. -/
theorem Collected.withDefault (h : Collected index fragments call)
    (hplain : index ≠ legacyFunctionCallIndex → defaultId = none) :
    (if call.id = "" then { call with id := defaultId.getD "" } else call) = call := by
  by_cases hid : call.id = ""
  · rw [if_pos hid]
    have hidx : index ≠ legacyFunctionCallIndex := by
      intro hidx
      have heq := h.id
      rw [hid, identity, if_pos hidx] at heq
      exact absurd heq (by decide)
    rw [hplain hidx]
    cases call
    cases hid
    rfl
  · rw [if_neg hid]

/-- The history of a call is ready iff the tracker announces the call. -/
theorem Collected.ready_iff (h : Collected index fragments call) :
    ready index fragments = true ↔ call.id ≠ "" ∧ call.name ≠ "" ∧ call.pendingArguments ≠ [] := by
  have hkept : call.pendingArguments ≠ [] ↔
      fragments.any (fun fragment => fragment.arguments.isSome) = true := by
    rw [← not_iff_not, not_not]
    exact h.kept
  rw [ready, ← h.id, ← h.name, hkept]
  simp [and_assoc]

/-! ### The tracker -/

variable {t : ToolCallTracker}

/-- What `start_if_ready` does with a call: it sends the pending arguments of an announced one,
waits, or announces. -/
theorem startIfReady_cases {complete : Bool}
    (hget : t.calls.get? index = some call) (hok : startIfReady X index complete t = .ok out) :
    (∃ id, call.started = some id ∧ out = (argumentEvents id call.pendingArguments,
      { t with calls := t.calls.insert index call.flushed })) ∨
    (call.started = none ∧ complete = false ∧
      ¬ (call.id ≠ "" ∧ call.name ≠ "" ∧ call.pendingArguments ≠ []) ∧ out = ([], t)) ∨
    (call.started = none ∧
      (call.id ≠ "" ∧ call.name ≠ "" ∧ call.pendingArguments ≠ [] ∨ complete = true) ∧
      ∃ id name, id.val = call.id ∧ name.val = call.name ∧ id ∉ t.startedIds ∧
        out = (.toolCallStarted id name :: argumentEvents id call.pendingArguments,
          { calls := t.calls.insert index { call.flushed with started := some id }
            startedIds := insert id t.startedIds })) := by
  unfold startIfReady at hok
  rw [hget] at hok
  obtain ⟨_, hcall, hok⟩ := bind_ok.mp hok
  cases hcall
  cases hstarted : call.started with
  | some id =>
    simp only [hstarted] at hok
    cases hok
    exact .inl ⟨id, rfl, rfl⟩
  | none =>
    simp only [hstarted] at hok
    right
    split at hok
    · next hident =>
      obtain ⟨hcompl, hok⟩ := guard_ok.mp hok
      cases hok
      refine .inl ⟨rfl, hcompl, ?_, rfl⟩
      rintro ⟨hid, hname, _⟩
      exact hident.elim hid hname
    · next hident =>
      rw [not_or] at hident
      split at hok
      · next hpend =>
        cases hok
        exact .inl ⟨rfl, hpend.2, fun hall => hall.2.2 hpend.1, rfl⟩
      · next hpend =>
        obtain ⟨id, hid, name, hname, hok⟩ := steps₂ hok
        obtain ⟨hnew, hok⟩ := guard_ok.mp hok
        cases hok
        obtain ⟨_, rfl⟩ := exists_of_parseBounded_ok (mapError_ok.mp hid)
        obtain ⟨_, rfl⟩ := exists_of_parseBounded_ok (mapError_ok.mp hname)
        refine .inr ⟨rfl, ?_, _, _, rfl, rfl, hnew, rfl⟩
        by_cases hcompl : complete = true
        · exact .inr hcompl
        · have hpend : call.pendingArguments ≠ [] := by
            intro hnil
            exact hpend ⟨hnil, by simpa using hcompl⟩
          exact .inl ⟨hident.1, hident.2, hpend⟩

/-- The calls of the tracker, each with its history. -/
structure Assembling (fragments : List Fragment) (log : List ProviderEvent) (t : ToolCallTracker) :
    Prop where
  books : Books (fun _ => True) log t
  seen : ∀ index, t.calls.get? index = none ↔ fragmentsAt index fragments = []
  each : ∀ index call, t.calls.get? index = some call →
    CallState index (fragmentsAt index fragments) log call
  owned : ∀ event ∈ log, ∀ id mark, event.call? = some (id, mark) → ∃ index, AnnouncedAt t index id

theorem fragmentsAt_concat (other : Nat) :
    fragmentsAt other (fragments ++ [fragment]) =
      fragmentsAt other fragments ++ if fragment.index = other then [fragment] else [] := by
  rw [fragmentsAt, filter_append, fragmentsAt]
  by_cases h : fragment.index = other <;> simp [h]

/-- A call announced at another index keeps its events. -/
theorem CallState.frame {other : Nat} (h : CallState other history log call)
    (hforeign : ∀ id, call.started = some id → ∀ event ∈ events,
      event.call?.map fst ≠ some id) : CallState other history (log ++ events) call := by
  cases h with
  | waiting hcoll hunr => exact .waiting hcoll hunr
  | announced hfound hannd =>
    obtain ⟨name, deltas, hname, htext, hevs⟩ := hannd.sent
    refine .announced hfound ⟨hannd.started, hannd.taken, hannd.identified, name,
      deltas, hname, htext, ?_⟩
    rw [callEvents_append, callEvents_eq_nil (hforeign _ hannd.started), append_nil]
    exact hevs

/-- One call of the tracker moves on by one fragment. -/
theorem Assembling.step (h : Assembling fragments log t) (hidx : fragment.index = index)
    (hcalls : ∀ other, t'.calls.get? other = if other = index then some call' else t.calls.get? other)
    (hbooks : Books (fun _ => True) (log ++ events) t')
    (hcall : CallState index (fragmentsAt index fragments ++ [fragment]) (log ++ events) call')
    (hevs : ∀ event ∈ events, ∀ id mark, event.call? = some (id, mark) →
      AnnouncedAt t' index id) (hkeep : ∀ id, AnnouncedAt t index id → AnnouncedAt t' index id) :
    Assembling (fragments ++ [fragment]) (log ++ events) t' := by
  have hkeeps : ∀ other id, AnnouncedAt t other id → AnnouncedAt t' other id := by
    intro other id hat
    by_cases hoth : other = index
    · subst hoth
      exact hkeep id hat
    · rw [announcedAt_iff] at hat ⊢
      rw [hcalls, if_neg hoth]
      exact hat
  refine ⟨hbooks, fun other => ?_, fun other found hget => ?_, fun event hev id mark hview => ?_⟩
  · rw [hcalls, fragmentsAt_concat, hidx]
    by_cases hoth : other = index
    · simp [hoth]
    · simp [hoth, Ne.symm hoth, h.seen other]
  · rw [fragmentsAt_concat, hidx]
    have hget' := hget
    rw [hcalls] at hget
    by_cases hoth : other = index
    · subst hoth
      rw [if_pos rfl] at hget
      rw [if_pos rfl, ← Option.some.inj hget]
      exact hcall
    · rw [if_neg hoth] at hget
      rw [if_neg (Ne.symm hoth), append_nil]
      refine (h.each other found hget).frame ?_
      intro id hstarted event hev hment
      obtain ⟨⟨id', mark⟩, hview, rfl⟩ := map_eq_some_iff.mp hment
      have hat : AnnouncedAt t' other id' :=
        announcedAt_iff.mpr (bind_eq_some_iff.mpr ⟨found, hget', hstarted⟩)
      exact hoth (hbooks.distinct _ _ _ hat (hevs event hev id' mark hview))
  · rcases mem_append.mp hev with hold | hnew
    · obtain ⟨other, hat⟩ := h.owned event hold id mark hview
      exact ⟨other, hkeeps other id hat⟩
    · exact ⟨index, hevs event hnew id mark hview⟩

/-- A new identifier has no events yet. -/
theorem Assembling.callEvents_new (h : Assembling fragments log t) (hnew : id ∉ t.startedIds) :
    callEvents log id = [] := by
  refine callEvents_eq_nil fun event hev hment => ?_
  obtain ⟨⟨id', mark⟩, hview, rfl⟩ := Option.map_eq_some_iff.mp hment
  obtain ⟨other, hat⟩ := h.owned event hev id' mark hview
  exact hnew (h.books.linked other id' hat)

theorem call_started :
    ∀ event ∈ .toolCallStarted id name :: argumentEvents id deltas,
      event.call?.map fst = some id :=
  forall_mem_cons.mpr ⟨rfl, call_argumentEvents⟩

/-- A call is announced with all that it holds. -/
theorem Collected.announced (h : Collected index history call) (hid : id.val = call.id) (hname : name.val = call.name)
    (hnone : callEvents log id = []) :
    Announced index history history
      (log ++ .toolCallStarted id name :: argumentEvents id call.pendingArguments) id
      { call.flushed with started := some id } := by
  refine ⟨rfl, rfl, hid.trans h.id, name, call.pendingArguments, hname.trans h.name, h.arguments, ?_⟩
  rw [callEvents_append, hnone, nil_append]
  exact callEvents_eq_self call_started

/-- Events that mention one call belong to the index at which it was announced. -/
theorem announcedAt_of_mentions (hat : AnnouncedAt t index id)
    (h : ∀ event ∈ events, event.call?.map fst = some id) :
    ∀ event ∈ events, ∀ id' mark, event.call? = some (id', mark) → AnnouncedAt t index id' := by
  intro event hev id' mark hview
  have hment := h event hev
  rw [hview] at hment
  have hsame : id' = id := Option.some.inj hment
  rw [hsame]
  exact hat

/-- An announced call sends the arguments of one more fragment. -/
theorem Announced.observe {start : List Fragment} (h : Announced index start history log id call)
    (hident : observeIdentity X fragment.id fragment.name call = .ok call₁)
    (hargs : observeArguments X fragment.arguments call₁ = .ok call') :
    call'.started = some id ∧ Announced index start (history ++ [fragment])
        (log ++ argumentEvents id call'.pendingArguments) id call'.flushed := by
  obtain ⟨added, hpend, htext, -, -, -, hstarted'⟩ := observeArguments_ok hargs
  have hstarted : call.started.isSome = true := by simp [h.started]
  rw [observeIdentity, if_pos hstarted] at hident
  obtain ⟨_, hident⟩ := guard_ok.mp hident
  cases hident
  rw [h.taken, nil_append] at hpend
  obtain ⟨name, deltas, hname, hdeltas, hevs⟩ := h.sent
  have hsome : call'.started = some id := hstarted'.trans h.started
  refine ⟨hsome, hsome, rfl, h.identified, name, deltas ++ added, hname, ?_, ?_⟩
  · rw [joined_concat, ← htext, ← hdeltas]
    simp [argumentText]
  · rw [callEvents_append, hevs, callEvents_eq_self call_argumentEvents, hpend]
    simp [argumentEvents]

section

variable (h : Assembling fragments log t)
include h

/-- The call that a delta finds at its index. -/
theorem Assembling.before
    (hdflt : index = legacyFunctionCallIndex → defaultId = some legacyFunctionCallId)
    (hplain : index ≠ legacyFunctionCallIndex → defaultId = none)
    (hcall₀ : (t.calls.get? index).getD .default = call₀)
    (hcall₁ : (if call₀.id = "" then { call₀ with id := defaultId.getD "" } else call₀) = call₁) :
    CallState index (fragmentsAt index fragments) log call₁ ∧
      call₁.started = (t.calls.get? index).bind started := by
  subst hcall₀ hcall₁
  have hsame : ∀ call : PartialToolCall,
      (if call.id = "" then { call with id := defaultId.getD "" } else call).started =
        call.started := by
    intro call
    split <;> rfl
  rw [hsame]
  cases hget : t.calls.get? index with
  | none =>
    rw [(h.seen index).mp hget]
    refine ⟨.waiting (collected_default hdflt hplain) ?_, rfl⟩
    simp [ready, joined]
  | some call =>
    refine ⟨?_, rfl⟩
    rw [getD_some]
    cases h.each index call hget with
    | waiting hcoll hunr =>
      rw [hcoll.withDefault hplain]
      exact .waiting hcoll hunr
    | announced hfound hannd =>
      obtain ⟨hstarted, htaken, hidentified, hsent⟩ := hannd
      by_cases hid : call.id = ""
      · rw [if_pos hid]
        exact .announced hfound ⟨hstarted, htaken, hidentified, hsent⟩
      · rw [if_neg hid]
        exact .announced hfound ⟨hstarted, htaken, hidentified, hsent⟩

/-- **One delta of a call** adds one fragment to the history of its index, and to no other. -/
theorem observeDelta_assembling {kind : Option String}
    (hok : observeDelta X index defaultId kind idFragment function t = .ok out)
    (hidx : fragment.index = index) (hid : fragment.id = nonEmpty idFragment)
    (hname : fragment.name = nonEmpty (function.bind FunctionCallDelta.name))
    (hargs : fragment.arguments = nonEmpty (function.bind FunctionCallDelta.arguments))
    (hleg : index = legacyFunctionCallIndex →
      defaultId = some legacyFunctionCallId ∧ fragment.id = none)
    (hplain : index ≠ legacyFunctionCallIndex → defaultId = none) :
    Assembling (fragments ++ [fragment]) (log ++ out.1) out.2 := by
  have hbooks := observeDelta_books h.books trivial hok
  unfold observeDelta at hok
  rw [← hid, ← hname, ← hargs] at hok
  obtain ⟨_, hok⟩ := guard_ok.mp hok
  obtain ⟨identified, hident, completed, hargs, hok⟩ := steps₂ hok
  obtain ⟨hbef, hbefStarted⟩ := h.before (fun hl => (hleg hl).1) hplain rfl rfl
  have hget : (t.calls.insert index completed).get? index = some completed := by
    rw [SortedMap.get?_insert, if_pos rfl]
  have hinsert : ∀ last : PartialToolCall, ∀ other,
      ((t.calls.insert index completed).insert index last).get? other =
        if other = index then some last else t.calls.get? other := by
    intro last other
    rw [SortedMap.get?_insert, SortedMap.get?_insert]
    split <;> rfl
  have hcases := startIfReady_cases (t := { t with calls := t.calls.insert index completed }) hget hok
  cases hbef with
  | waiting hcoll hunr =>
    have hmore := hcoll.observe (fun hl => (hleg hl).2) hident hargs
    have hkeep : ∀ id t', AnnouncedAt t index id → AnnouncedAt t' index id := by
      intro id t' hat
      rw [announcedAt_iff, ← hbefStarted, hcoll.silent] at hat
      cases hat
    rcases hcases with ⟨id, hstarted, -⟩ | ⟨-, -, hnot, rfl⟩ | ⟨-, hgo, id, name, hid, hname, hnew, rfl⟩
    · rw [hmore.silent] at hstarted
      cases hstarted
    · -- the history is still not enough
      refine h.step hidx (fun other => SortedMap.get?_insert) hbooks ?_ (forall_mem_nil _)
        (fun id => hkeep id _)
      refine .waiting hmore ?_
      rw [find?_inits_concat, hunr, if_neg (fun hready => hnot (hmore.ready_iff.mp hready))]
      rfl
    · have hready := hmore.ready_iff.mpr (hgo.resolve_right Bool.false_ne_true)
      have hat : AnnouncedAt
          { calls := (t.calls.insert index completed).insert index
              { completed.flushed with started := some id }
            startedIds := insert id t.startedIds } index id := by
        rw [announcedAt_iff, hinsert, if_pos rfl]
        rfl
      refine h.step hidx (hinsert _) hbooks ?_
        (announcedAt_of_mentions hat call_started) (fun id => hkeep id _)
      refine .announced ?_ (hmore.announced hid hname (h.callEvents_new hnew))
      rw [find?_inits_concat, hunr, if_pos hready]
      rfl
  | @announced id start hfound hannd =>
    obtain ⟨hstarted, hmore⟩ := hannd.observe hident hargs
    rcases hcases with ⟨id', hstarted', rfl⟩ | ⟨hnone, -⟩ | ⟨hnone, -⟩
    · obtain rfl : id = id' := Option.some.inj (hstarted.symm.trans hstarted')
      have hat : AnnouncedAt { t with
          calls := (t.calls.insert index completed).insert index completed.flushed } index id := by
        rw [announcedAt_iff, hinsert, if_pos rfl]
        exact hstarted
      refine h.step hidx (hinsert _) hbooks ?_ ?_ ?_
      · refine .announced ?_ hmore
        rw [find?_inits_concat, hfound]
        rfl
      · exact announcedAt_of_mentions hat call_argumentEvents
      · intro id' hat'
        rw [announcedAt_iff, ← hbefStarted, hannd.started] at hat'
        rw [← Option.some.inj hat']
        exact hat
    · rw [hstarted] at hnone
      cases hnone
    · rw [hstarted] at hnone
      cases hnone

/-- The tool calls of a delta, one after the other. -/
theorem observeToolCalls_assembling (position : Nat) (deltas : List ToolCallDelta)
    (hok : observeToolCalls X position deltas t = .ok out) :
    Assembling (fragments ++ toolCallFragments position deltas) (log ++ out.1) out.2 := by
  induction deltas generalizing position fragments log t out with
  | nil =>
    cases hok
    rw [toolCallFragments, append_nil, append_nil]
    exact h
  | cons delta deltas ih =>
    obtain ⟨_, hplain, hok⟩ := guards₂ hok
    obtain ⟨⟨events, t₁⟩, hdelta, ⟨later, t₂⟩, hlater, hok⟩ := steps₂ hok
    cases hok
    have hhere : Assembling (fragments ++ [⟨delta.index.getD position, nonEmpty delta.id,
        nonEmpty (delta.function.bind FunctionCallDelta.name),
        nonEmpty (delta.function.bind FunctionCallDelta.arguments)⟩]) (log ++ events) t₁ :=
      observeDelta_assembling h hdelta rfl rfl rfl rfl (fun hl => absurd hl hplain) fun _ => rfl
    rw [toolCallFragments, append_cons, ← append_assoc]
    exact ih hhere (position + 1) hlater

theorem observeChoice_assembling (hok : observeChoice X delta t = .ok out) :
    Assembling (fragments ++ delta.fragments) (log ++ out.1) out.2 := by
  obtain ⟨⟨events, t₁⟩, hcalls, ⟨later, t₂⟩, hlater, hok⟩ := steps₂ hok
  cases hok
  have hhere := observeToolCalls_assembling h 0 delta.toolCalls hcalls
  rw [StreamDelta.fragments, ← append_assoc, ← append_assoc]
  cases hfunction : delta.functionCall with
  | none =>
    rw [hfunction] at hlater
    cases hlater
    rw [functionCallFragments, append_nil, append_nil]
    exact hhere
  | some function =>
    rw [hfunction] at hlater
    have hlast : observeDelta X legacyFunctionCallIndex (some legacyFunctionCallId)
        (some "function") none (some function) t₁ = .ok (later, t₂) := hlater
    have hafter : Assembling (fragments ++ toolCallFragments 0 delta.toolCalls ++
        [⟨legacyFunctionCallIndex, none, nonEmpty function.name, nonEmpty function.arguments⟩])
        (log ++ events ++ later) t₂ :=
      observeDelta_assembling hhere hlast rfl rfl rfl rfl (fun _ => ⟨rfl, rfl⟩)
        fun hne => absurd rfl hne
    exact hafter

end

/-! ### The finish reason -/

/-- A call that was sent as a whole: one start, which shows the identifier and the name that the
announcing part of the history spells, the arguments of the history, and one completion. -/
structure AssembledCall (index : Nat) (history : List Fragment) (log : List ProviderEvent)
    (id : ToolCallId) : Prop where
  identified : id.val = identity index (announcing index history)
  sent : ∃ name deltas, name.val = joined Fragment.name (announcing index history) ∧
    argumentText deltas = joined Fragment.arguments history ∧
    callEvents log id =
      .toolCallStarted id name :: argumentEvents id deltas ++ [.toolCallCompleted id]

/-- The completion of an announced call. -/
theorem Announced.complete (h : Announced index (announcing index history) history log id call) :
    AssembledCall index history (log ++ [.toolCallCompleted id]) id := by
  obtain ⟨name, deltas, hname, htext, hevs⟩ := h.sent
  refine ⟨h.identified, name, deltas, hname, htext, ?_⟩
  rw [callEvents_append, hevs, callEvents_eq_self (forall_mem_singleton.mpr rfl)]

theorem AssembledCall.frame (h : AssembledCall index history log id)
    (hforeign : ∀ event ∈ events, event.call?.map fst ≠ some id) :
    AssembledCall index history (log ++ events) id := by
  obtain ⟨name, deltas, hname, htext, hevs⟩ := h.sent
  refine ⟨h.identified, name, deltas, hname, htext, ?_⟩
  rw [callEvents_append, callEvents_eq_nil hforeign, append_nil]
  exact hevs

/-- The finish reason announces a call that was still waiting, with all of its history. -/
theorem startIfReady_finish (h : CallState index history log call)
    (hget : t.calls.get? index = some call) (hnew : ∀ id ∉ t.startedIds, callEvents log id = []) (hok : startIfReady X index true t = .ok out) :
    ∃ id call', (∀ other, out.2.calls.get? other =
        if other = index then some call' else t.calls.get? other) ∧
      Announced index (announcing index history) history (log ++ out.1) id call' ∧
      (∀ event ∈ out.1, event.call?.map fst = some id) ∧
      ∀ id', call.started = some id' → id' = id := by
  cases h with
  | waiting hcoll hunr =>
    rcases startIfReady_cases hget hok with ⟨id, hstarted, -⟩ | ⟨-, hcompl, -⟩ |
      ⟨-, -, id, name, hid, hname, hfresh, rfl⟩
    · rw [hcoll.silent] at hstarted
      cases hstarted
    · cases hcompl
    · have hwhole : announcing index history = history := by
        rw [announcing, hunr]
        rfl
      rw [hwhole]
      exact ⟨id, _, fun other => SortedMap.get?_insert,
        hcoll.announced hid hname (hnew id hfresh), call_started,
        fun id' hstarted => absurd (hcoll.silent.symm.trans hstarted) nofun⟩
  | @announced id start hfound hannd =>
    have hstart : announcing index history = start := by
      rw [announcing, hfound]
      rfl
    rcases startIfReady_cases hget hok with ⟨id', hstarted, rfl⟩ | ⟨hnone, -⟩ | ⟨hnone, -⟩
    · obtain rfl : id = id' := Option.some.inj (hannd.started.symm.trans hstarted)
      obtain ⟨-, htaken, hidentified, hsent⟩ := hannd
      refine ⟨id, _, fun other => SortedMap.get?_insert, ?_, call_argumentEvents,
        fun id' hstarted' => Option.some.inj (hstarted'.symm.trans hstarted)⟩
      rw [hstart, htaken, argumentEvents, map_nil, append_nil]
      exact ⟨hstarted, rfl, hidentified, hsent⟩
    · rw [hannd.started] at hnone
      cases hnone
    · rw [hannd.started] at hnone
      cases hnone

/-- The calls while the finish reason completes them: those at the indexes of `rest` are open, the
others are sent. -/
structure Finishing (fragments : List Fragment) (rest : List Nat) (log : List ProviderEvent)
    (t : ToolCallTracker) : Prop where
  books : Books (· ∈ rest) log t
  seen : ∀ index, t.calls.get? index = none ↔ fragmentsAt index fragments = []
  waiting : ∀ index ∈ rest, ∀ call, t.calls.get? index = some call →
    CallState index (fragmentsAt index fragments) log call
  done : ∀ index, index ∉ rest → ∀ call, t.calls.get? index = some call →
    ∃ id, call.started = some id ∧ AssembledCall index (fragmentsAt index fragments) log id
  owned : ∀ event ∈ log, ∀ id mark, event.call? = some (id, mark) → ∃ index, AnnouncedAt t index id

theorem Finishing.callEvents_new (h : Finishing fragments rest log t)
    (hnew : id ∉ t.startedIds) : callEvents log id = [] := by
  refine callEvents_eq_nil fun event hev hment => ?_
  obtain ⟨⟨id', mark⟩, hview, rfl⟩ := Option.map_eq_some_iff.mp hment
  obtain ⟨other, hat⟩ := h.owned event hev id' mark hview
  exact hnew (h.books.linked other id' hat)

/-- The call at one index is completed. -/
theorem Finishing.step (h : Finishing fragments (index :: rest) log t) (hidx : index ∉ rest)
    (hok : startIfReady X index true t = .ok out)
    (hid : (out.2.calls.get? index).bind started = some id) :
    Finishing fragments rest (log ++ (out.1 ++ [.toolCallCompleted id])) out.2 := by
  have hopen := startIfReady_books h.books mem_cons_self hok
  have hbooks := hopen.complete hidx (announcedAt_iff.mpr hid)
  rw [append_assoc] at hbooks
  have hcall : ∃ call, t.calls.get? index = some call := by
    obtain ⟨call, hcall, -⟩ := bind_ok.mp hok
    exact ⟨call, okOr_ok.mp hcall⟩
  obtain ⟨call, hget⟩ := hcall
  obtain ⟨id', call', hcalls, hannd, hment, hbef⟩ := startIfReady_finish
    (h.waiting index mem_cons_self call hget) hget (fun _ => h.callEvents_new) hok
  have hsame : id = id' := by
    rw [hcalls, if_pos rfl, bind_some, hannd.started] at hid
    exact (some.inj hid).symm
  subst hsame
  have hall : ∀ event ∈ out.1 ++ [.toolCallCompleted id], event.call?.map fst = some id := by
    intro event hev
    rcases mem_append.mp hev with hev | hev
    · exact hment event hev
    · rw [mem_singleton.mp hev]
      rfl
  have hat : AnnouncedAt out.2 index id := announcedAt_iff.mpr hid
  have hoth : ∀ other found, other ≠ index → out.2.calls.get? other = some found →
      ∀ id', found.started = some id' → ∀ event ∈ out.1 ++ [.toolCallCompleted id],
        event.call?.map fst ≠ some id' := by
    intro other found hne hfound id' hstarted event hev hment'
    have hids : id = id' := some.inj ((hall event hev).symm.trans hment')
    refine hne (hbooks.distinct _ _ id ?_ hat)
    rw [announcedAt_iff, hfound, hids]
    exact hstarted
  refine ⟨hbooks, fun other => ?_, fun other hmem found hfound => ?_,
    fun other hmem found hfound => ?_, fun event hev id' mark hview => ?_⟩
  · rw [hcalls, ← h.seen other]
    by_cases heq : other = index
    · simp [heq, hget]
    · rw [if_neg heq]
  · have hne : other ≠ index := fun heq => hidx (heq ▸ hmem)
    refine (h.waiting other (mem_cons_of_mem index hmem) found ?_).frame
      (hoth other found hne hfound)
    rw [← hfound, hcalls, if_neg hne]
  · by_cases heq : other = index
    · subst heq
      rw [hcalls, if_pos rfl] at hfound
      cases hfound
      refine ⟨id, hannd.started, ?_⟩
      rw [← append_assoc]
      exact hannd.complete
    · have hold : t.calls.get? other = some found := by rw [← hfound, hcalls, if_neg heq]
      obtain ⟨id', hstarted, hassembled⟩ :=
        h.done other (fun hin => (mem_cons.mp hin).elim heq hmem) found hold
      exact ⟨id', hstarted, hassembled.frame (hoth other found heq hfound id' hstarted)⟩
  · rcases mem_append.mp hev with hold | hnew
    · obtain ⟨other, hat'⟩ := h.owned event hold id' mark hview
      by_cases heq : other = index
      · subst heq
        rw [announcedAt_iff, hget] at hat'
        rw [hbef id' hat']
        exact ⟨other, hat⟩
      · refine ⟨other, ?_⟩
        rw [announcedAt_iff] at hat' ⊢
        rw [hcalls, if_neg heq]
        exact hat'
    · exact ⟨index, announcedAt_of_mentions hat hall event hnew id' mark hview⟩

theorem finishCalls_finishing (h : Finishing fragments rest log t) (hnodup : rest.Nodup)
    (hok : finishCalls X rest t = .ok out) : Finishing fragments [] (log ++ out.1) out.2 := by
  induction rest generalizing t log out with
  | nil =>
    cases hok
    rw [append_nil]
    exact h
  | cons index rest ih =>
    obtain ⟨hidx, hrest⟩ := nodup_cons.mp hnodup
    obtain ⟨⟨events, t₁⟩, hstart, id, hid, ⟨later, t₂⟩, hlater, hok⟩ := steps₃ hok
    cases hok
    rw [append_cons, ← append_assoc]
    exact ih (h.step hidx hstart (okOr_ok.mp hid)) hrest hlater

/-- **The finish reason** sends every call. -/
theorem finishAll_finishing (h : Assembling fragments log t) (hok : finishAll X t = .ok out) :
    Finishing fragments [] (log ++ out.1) out.2 := by
  refine finishCalls_finishing ?_ t.calls.nodup_keys hok
  refine ⟨h.books.keys, h.seen, fun index _ => h.each index, fun index hidx call hget => ?_, h.owned⟩
  exact absurd (mem_map.mpr ⟨(index, call), SortedMap.get?_eq_some.mp hget, rfl⟩) hidx

/-! ### A whole response -/

section Stream

variable {mode : Mode} {s : State}

/-- One chunk of a response: behind the finish reason only the trailer is read. -/
def processStreamChunk (X : ProviderExternals) (mode : Mode) (chunk : StreamChunk) (s : State) :
    Response State :=
  if s.stream = .terminal then liftM (processTerminalTrailer X chunk s)
  else processChunk X mode chunk s

/-- The chunks of a response, one after the other. -/
def runChunks (X : ProviderExternals) (mode : Mode) (chunks : List StreamChunk) (s : State) :
    Response State :=
  forEachSend (processStreamChunk X mode) chunks s

theorem Assembling.skip (h : Assembling fragments log t) (hview : event.call? = none) :
    Assembling fragments (log ++ [event]) t := by
  have hforeign : ∀ id, ∀ other ∈ [event], other.call?.map Prod.fst ≠ some id := by
    intro id other hoth
    rw [mem_singleton.mp hoth, hview]
    nofun
  refine ⟨h.books.skip hview, h.seen, fun index call hget =>
    (h.each index call hget).frame fun id _ => hforeign id, fun other hoth id mark hview' => ?_⟩
  rcases mem_append.mp hoth with hold | hnew
  · exact h.owned other hold id mark hview'
  · rw [mem_singleton.mp hnew, hview] at hview'
    cases hview'

theorem Assembling.skipAll (h : Assembling fragments log t)
    (hview : ∀ event ∈ events, event.call? = none) : Assembling fragments (log ++ events) t := by
  induction events generalizing log with
  | nil =>
    rw [append_nil]
    exact h
  | cons event events ih =>
    rw [forall_mem_cons] at hview
    rw [append_cons]
    exact ih (h.skip hview.1) hview.2

theorem sendFragment_assembling (hmake : ∀ text, (make text).call? = none) (text : Option String)
    (h : Assembling fragments log t) :
    After log (sendFragment make text) fun log' _ => Assembling fragments log' t := by
  unfold sendFragment
  split
  · exact after_pure h
  · exact after_send (h.skip (hmake _))

open After

/-- One choice. -/
theorem emitChoiceDelta_assembling (choice : StreamChoice) (h : Assembling fragments log s.toolCalls) :
    After log (emitChoiceDelta X mode choice s) fun log' s' => s'.stream = s.stream ∧
      Assembling (fragments ++ choice.delta.fragments) log' s'.toolCalls := by
  refine After.lift_bind fun reasoning _ => After.lift_bind fun details _ => ?_
  refine (sendFragment_assembling (fun _ => rfl) reasoning h).bind fun log₁ _ h₁ => ?_
  refine (sendFragment_assembling (fun _ => rfl) choice.delta.content h₁).bind fun log₂ _ h₂ => ?_
  refine lift_bind fun out hout => ?_
  obtain ⟨events, toolCalls⟩ := out
  refine (after_sendAll (R := fun log' _ => log' = log₂ ++ events) rfl).bind fun log₃ _ hlog => ?_
  subst hlog
  exact after_pure ⟨rfl, observeChoice_assembling h₂ hout⟩

theorem emitChoiceDeltas_assembling (choices : List StreamChoice)
    (h : Assembling fragments log s.toolCalls) :
    After log (emitChoiceDeltas X mode choices s) fun log' s' => s'.stream = s.stream ∧
      Assembling (fragments ++ choiceFragments choices) log' s'.toolCalls := by
  induction choices generalizing fragments log s with
  | nil =>
    rw [choiceFragments, flatMap_nil, append_nil]
    exact after_pure ⟨rfl, h⟩
  | cons choice choices ih =>
    rw [choiceFragments, flatMap_cons, ← append_assoc]
    refine (emitChoiceDelta_assembling choice h).bind fun log₁ s₁ h₁ => ?_
    refine (ih h₁.2).mono fun log₂ s₂ h₂ => ⟨h₂.1.trans h₁.1, h₂.2⟩

/-- The calls of a response: being collected, or all sent. -/
inductive Assembles (fragments : List Fragment) (log : List ProviderEvent) (s : State) : Prop
  | collecting (hstrm : s.stream ≠ .terminal) (h : Assembling fragments log s.toolCalls)
  | finished (hstrm : s.stream = .terminal) (h : Finishing fragments [] log s.toolCalls)

theorem concludeCalls_assembles (h : Assembling fragments log s.toolCalls) :
    After log (concludeCalls X s) (Assembles fragments) := by
  refine After.lift_bind fun opaqueOut hopaque => ?_
  refine (after_sendAll (R := fun log' _ => Assembling fragments log' s.toolCalls)
    (h.skipAll (finish_silent hopaque))).bind fun log₁ _ h₁ => ?_
  refine lift_bind fun out hout => ?_
  obtain ⟨events, toolCalls⟩ := out
  refine (after_sendAll (R := fun log' _ => log' = log₁ ++ events) rfl).bind fun log₂ _ hlog => ?_
  subst hlog
  exact after_pure (.finished rfl (finishAll_finishing h₁ hout))

/-- **One chunk** adds its fragments. -/
theorem processStreamChunk_assembles (chunk : StreamChunk) (h : Assembles fragments log s) :
    After log (processStreamChunk X mode chunk s)
      (Assembles (fragments ++ choiceFragments chunk.choices)) := by
  cases h with
  | finished hstrm h =>
    refine After.ite (fun _ => after_lift fun s' hs' => ?_) fun hne => absurd hstrm hne
    obtain ⟨hempty, hs'⟩ := guard_ok.mp hs'
    cases hs'
    rw [List.isEmpty_iff.mp hempty, choiceFragments, flatMap_nil, append_nil]
    exact .finished hstrm h
  | collecting hstrm h =>
    refine After.ite (fun hterm => absurd hterm hstrm) fun _ => ?_
    have hsame : ∀ stream, Assembling fragments log
        { s with stream, usage := updateUsage X chunk.usage s.usage }.toolCalls := fun _ => h
    refine .bind (Q := fun log' (s' : State) => s'.stream ≠ .terminal ∧
      Assembling (fragments ++ choiceFragments chunk.choices) log' s'.toolCalls) ?_
      fun log' s' h' => ?_
    · refine (emitChoiceDeltas_assembling chunk.choices (hsame _)).mono fun log' s' h' => ⟨?_, h'.2⟩
      rw [h'.1]
      show (if _ then SseStreamState.streaming else s.stream) ≠ .terminal
      split
      · nofun
      · exact hstrm
    refine lift_bind fun reasons _ => ?_
    refine .ite (fun _ => ?_) fun _ => after_pure (.collecting h'.1 h'.2)
    exact require_bind fun _ => concludeCalls_assembles h'.2

theorem runChunks_assembles (chunks : List StreamChunk) (h : Assembles fragments log s) :
    After log (runChunks X mode chunks s) (Assembles (fragments ++ received chunks)) := by
  induction chunks generalizing fragments log s with
  | nil =>
    rw [received, flatMap_nil, append_nil]
    exact after_pure h
  | cons chunk chunks ih =>
    rw [received, flatMap_cons, ← append_assoc]
    exact (processStreamChunk_assembles chunk h).bind fun _ _ h' => ih h'

/-- The events of a response whose calls are all sent. -/
theorem Finishing.wellBracketed (h : Finishing fragments [] log t) :
    WellBracketed ProviderEvent.call? log := by
  have hnone : announced (· ∈ ([] : List Nat)) t = ∅ := by
    refine Set.eq_empty_iff_forall_notMem.mpr ?_
    rintro id ⟨index, hidx, _⟩
    cases hidx
  have hledger := h.books.ledger
  rw [hnone] at hledger
  exact hledger.wellBracketed

/-- **An event** of the stream: a chunk, or the end of a response that is finished. -/
theorem processEvent_keeps :
    (reader X decodeChunk mode).Keeps (fun log _ s => ∃ fragments, Assembles fragments log s)
      (fun log _ s => ∃ fragments, Finishing fragments [] log s.toolCalls) := by
  rintro log frames s event ⟨fragments, h⟩
  show After log (processEvent X decodeChunk mode event s) _
  refine After.lift_bind fun data _ => ?_
  cases data with
  | none => exact after_pure ⟨fragments, h⟩
  | some data =>
    refine After.ite (fun _ => after_lift fun out hout => ?_) fun _ => ?_
    · unfold processDone at hout
      cases h with
      | collecting hstrm _ =>
        cases hs : s.stream <;> simp only [hs] at hout
        · cases hout
        · cases hout
        · exact absurd hs hstrm
      | finished hstrm h =>
        simp only [hstrm] at hout
        cases hout
        exact ⟨fragments, h⟩
    · refine lift_bind fun chunk _ => ?_
      -- the branches are those of `processStreamChunk`
      have hchunk : After log (processStreamChunk X mode chunk s) _ :=
        processStreamChunk_assembles chunk h
      unfold processStreamChunk at hchunk
      refine .ite (fun hterm => ?_) fun hterm => ?_
      · rw [if_pos hterm] at hchunk
        exact hchunk.bind fun _ _ h' => after_pure ⟨_, h'⟩
      · rw [if_neg hterm] at hchunk
        exact hchunk.bind fun _ _ h' => after_pure ⟨_, h'⟩

theorem assembling_default : Assembling [] [] ToolCallTracker.default := by
  refine ⟨books_default, fun index => iff_of_true rfl rfl, fun index call hget => ?_, ?_⟩
  · cases hget
  · exact forall_mem_nil _

/-- **The OpenAI-compatible adapter.** -/
theorem consumeStream_wellBracketed
    (h : (consumeStream X decodeChunk mode arrivals).result = .ok usage) :
    WellBracketed ProviderEvent.call? (consumeStream X decodeChunk mode arrivals).sent := by
  have hstart : ∃ fragments, Assembles fragments [] State.default :=
    ⟨[], .collecting nofun assembling_default⟩
  rcases SseReader.consume_run processEvent_keeps hstart h with
    ⟨_, _, s, _, ⟨_, hfin⟩, _⟩ | ⟨s, _, hfinish⟩
  · exact hfin.wellBracketed
  · cases hfinish

/-- **The calls of a response.** In a response that has reached its finish reason, every index
that the chunks mention has its own identifier, under which its call is sent as a whole, and
every event of a call belongs to one of these indexes. -/
theorem runChunks_assembled {chunks : List StreamChunk} {s : State}
    (hok : (runChunks X mode chunks .default).result = .ok s) (hend : s.stream = .terminal) :
    ∃ idOf : Nat → Option ToolCallId,
      (∀ index, (idOf index).isSome = true ↔ fragmentsAt index (received chunks) ≠ []) ∧
      (∀ index index' id, idOf index = some id → idOf index' = some id → index = index') ∧
      (∀ index id, idOf index = some id → AssembledCall index (fragmentsAt index (received chunks))
          (runChunks X mode chunks .default).sent id) ∧
      ∀ event ∈ (runChunks X mode chunks .default).sent, ∀ id mark,
        event.call? = some (id, mark) → ∃ index, idOf index = some id := by
  have hstart : Assembles [] [] State.default := .collecting nofun assembling_default
  have hafter : After [] (runChunks X mode chunks State.default)
      (Assembles ([] ++ received chunks)) := runChunks_assembles chunks hstart
  have hrun := hafter s hok
  rw [nil_append, nil_append] at hrun
  cases hrun with
  | collecting hstrm => exact absurd hend hstrm
  | finished _ h =>
    refine ⟨fun index => (s.toolCalls.calls.get? index).bind started,
      fun index => ?_, fun index index' id hid hid' => ?_, fun index id hid => ?_,
      fun event hev id mark hview => ?_⟩
    · rw [Ne, ← h.seen index]
      show ((s.toolCalls.calls.get? index).bind started).isSome = true ↔ _
      cases hget : s.toolCalls.calls.get? index with
      | none => simp
      | some call =>
        obtain ⟨id, hstarted, -⟩ := h.done index not_mem_nil call hget
        rw [bind_some, hstarted]
        simp
    · exact h.books.distinct index index' id (announcedAt_iff.mpr hid) (announcedAt_iff.mpr hid')
    · obtain ⟨call, hget, hstarted⟩ := bind_eq_some_iff.mp hid
      obtain ⟨id', hstarted', hassembled⟩ := h.done index not_mem_nil call hget
      rw [hstarted] at hstarted'
      rw [some.inj hstarted']
      exact hassembled
    · obtain ⟨index, hat⟩ := h.owned event hev id mark hview
      exact ⟨index, announcedAt_iff.mp hat⟩

end Stream

/-! ### Two responses -/

section Samples

/-- A world in which no operation outside the tracker is looked at. -/
def plainExternals : ProviderExternals where
  uuid := "operation-1"
  parseJson _ := none
  printJson _ := none
  sizes := ⟨fun _ => 0, fun _ => 0, fun _ => 0, fun _ => some 0⟩
  decodeBase64 _ := none
  encodeBase64 _ := ""

def plainMode : Mode := ⟨.standard, false⟩

/-- A chunk with one choice. -/
def sampleChunk (toolCalls : List ToolCallDelta) (functionCall : Option FunctionCallDelta)
    (finishReason : Option String) : StreamChunk :=
  ⟨[⟨0, ⟨none, none, none, none, toolCalls, functionCall⟩, finishReason⟩], none⟩

/-- Two calls whose fragments arrive in turn. -/
def interleavedChunks : List StreamChunk :=
  [sampleChunk [⟨some 0, some "call-1", some "function", some ⟨some "look", none⟩⟩,
      ⟨some 1, some "call-2", some "function", some ⟨some "find", some "\x7b"⟩⟩] none none,
    sampleChunk [⟨some 0, none, none, some ⟨some "up", none⟩⟩] none none,
    sampleChunk [⟨some 1, none, none, some ⟨none, some "\x7d"⟩⟩,
      ⟨some 0, none, none, some ⟨none, some "\x7b\x7d"⟩⟩] none (some "tool_calls")]

/-- A function call of the older protocol. -/
def functionCallChunks : List StreamChunk :=
  [sampleChunk [] (some ⟨some "lookup", some "\x7b\x7d"⟩) (some "function_call")]

/-- The state that a response ends in. -/
def endOf (chunks : List StreamChunk) : State :=
  match (runChunks plainExternals plainMode chunks .default).result with
  | .ok s => s
  | .error _ => .default

theorem interleavedChunks_end : (runChunks plainExternals plainMode interleavedChunks .default).result =
    .ok (endOf interleavedChunks) := by rfl

/-- Both calls of the interleaved response are sent as a whole. -/
theorem runChunks_assembled_interleaved :
    ∃ idOf : Nat → Option ToolCallId, (∀ index, (idOf index).isSome = true ↔
        fragmentsAt index (received interleavedChunks) ≠ []) ∧
      (∀ index index' id, idOf index = some id → idOf index' = some id → index = index') ∧
      (∀ index id, idOf index = some id →
        AssembledCall index (fragmentsAt index (received interleavedChunks))
          (runChunks plainExternals plainMode interleavedChunks .default).sent id) ∧
      ∀ event ∈ (runChunks plainExternals plainMode interleavedChunks .default).sent, ∀ id mark,
        event.call? = some (id, mark) → ∃ index, idOf index = some id :=
  runChunks_assembled interleavedChunks_end rfl

/-- The function call of the older protocol is announced under an identifier of the adapter's own,
which no fragment brought. -/
theorem functionCall_identifier :
    ∃ s, (runChunks plainExternals plainMode functionCallChunks .default).result = .ok s ∧
      s.stream = .terminal ∧
      ∃ event ∈ (runChunks plainExternals plainMode functionCallChunks .default).sent,
        ∃ id name, event = .toolCallStarted id name ∧
          id.val ≠ joined Fragment.id (fragmentsAt legacyFunctionCallIndex
            (received functionCallChunks)) := by
  refine ⟨endOf functionCallChunks, rfl, rfl, _, mem_cons_self, _, _, rfl, ?_⟩
  decide

end Samples

end LorePia.Providers.OpenAiCompatible
