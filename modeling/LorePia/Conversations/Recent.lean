import LorePia.Conversations.Sends

namespace LorePia.Conversations

open Lib List Chat Except Nat

/-!
# The conversation store — the newest messages of a lineage

A prompt is planned from a bounded query, which leaves out the messages over the limits of one
message and those more than 511 links from the head.  The planner stops at the first message that
does not fit, so the two agree as long as no message that is left out stands where the planner
would have stopped, or gone on.

* `selectHistory_eq_iff` — where one history goes on with a message that the other has not;
* `selectHistory_query_iff` — the induction over a lineage;
* `planWithMode_query_iff` — the query and the complete lineage.
-/

variable {uuid : String} {bytes chars count depth : Nat} {message row user : Message}
  {selected older rows lineage : List Message} {conversationId branchId : String}

/-- The messages of a lineage that a prompt may show. -/
def isEligible (row : Message) : Bool :=
  row.role != .system && row.status != .pending && (row.status == .complete || row.content != "")

/-- The rows of the query for a prompt. -/
def isQueried (row : Message) : Bool :=
  isPromptEligible maxHistoryMessageBytes maxHistoryMessageChars row

theorem isEligible_of_isQueried (h : isQueried row = true) : isEligible row = true := by
  simp only [isQueried, isPromptEligible, isEligible, Bool.and_eq_true, Bool.or_eq_true,
    bne_iff_ne, beq_iff_eq, decide_eq_true_eq] at h ⊢
  obtain ⟨⟨⟨⟨hrole, hstat⟩, hcontent⟩, _⟩, _⟩ := h
  refine ⟨⟨hrole, hstat⟩, hcontent.imp_right ?_⟩
  intro hlen hempty
  rw [hempty] at hlen
  exact absurd hlen (by decide)

/-! ### One selection from two histories -/

/-- The planner never reads further than its limit of messages. -/
theorem selectHistory_take (hsel : selected ≠ [])
    (hcount : selected.length ≤ maxPromptMessages - 2)
    (hn : maxPromptMessages - 2 ≤ selected.length + n) (older : List Message) :
    selectHistory uuid bytes chars selected (older.take n) =
      selectHistory uuid bytes chars selected older := by
  induction older generalizing bytes chars selected n with
  | nil => rw [take_nil]
  | cons message older ih =>
    by_cases hfits : FitsNext bytes chars selected.length message
    · obtain ⟨n, rfl⟩ : ∃ m, n = m + 1 := ⟨n - 1, by have := hfits.1; omega⟩
      have hne := hfits.1
      rw [take_succ_cons, selectHistory_fits hfits, selectHistory_fits hfits]
      refine ih (cons_ne_nil _ _) ?_ ?_
      all_goals
        rw [length_cons]
        omega
    · rw [selectHistory_stops hsel hfits]
      cases n with
      | zero => rfl
      | succ n => rw [take_succ_cons, selectHistory_stops hsel hfits]

/-- Where one list goes on with a message that the other does not have next, the planner takes the
    same of both if it stops in both. -/
theorem selectHistory_eq_iff (hsel : selected ≠ []) (hne : ∀ next ∈ ys.head?, next ≠ row) :
    selectHistory uuid bytes chars selected (row :: older) =
        selectHistory uuid bytes chars selected ys ↔
      ¬ FitsNext bytes chars selected.length row ∧
        ∀ next ∈ ys.head?, ¬ FitsNext bytes chars selected.length next := by
  -- what is taken ends with the first message taken, behind what was selected
  have hlast : ∀ {message} xs, FitsNext bytes chars selected.length message →
      ∃ front, selectHistory uuid bytes chars selected (message :: xs) =
        .ok (front ++ message :: selected) := by
    intro message xs hfits
    obtain ⟨k, hk⟩ := exists_selectHistory_take (cons_ne_nil message selected) xs
    exact ⟨_, (selectHistory_fits hfits).trans hk⟩
  have hgrows : ∀ {message : Message} {front : List Message},
      front ++ message :: selected ≠ selected := by
    intro message front heq
    have hlen := congrArg List.length heq
    rw [length_append, length_cons] at hlen
    omega
  by_cases hrow : FitsNext bytes chars selected.length row
  · refine iff_of_false (fun heq => ?_) fun h => h.1 hrow
    obtain ⟨front, hfront⟩ := hlast older hrow
    rw [hfront] at heq
    cases ys with
    | nil => exact hgrows (ok.inj heq)
    | cons next ys =>
      by_cases hnext : FitsNext bytes chars selected.length next
      · obtain ⟨front', hfront'⟩ := hlast ys hnext
        rw [hfront'] at heq
        have hsame := (append_inj' (ok.inj heq) rfl).2
        exact hne next rfl (List.cons.inj hsame).1.symm
      · rw [selectHistory_stops hsel hnext] at heq
        exact hgrows (ok.inj heq)
  · rw [selectHistory_stops hsel hrow]
    cases ys with
    | nil => exact iff_of_true rfl ⟨hrow, fun _ h => by cases h⟩
    | cons next ys =>
      by_cases hnext : FitsNext bytes chars selected.length next
      · obtain ⟨front, hfront⟩ := hlast ys hnext
        rw [hfront]
        exact iff_of_false (fun heq => hgrows (ok.inj heq).symm) fun h => h.2 next rfl hnext
      · rw [selectHistory_stops hsel hnext]
        refine iff_of_true rfl ⟨hrow, ?_⟩
        rintro _ ⟨⟩
        exact hnext

/-! ### What the query leaves out -/

/-- From the newest message on, as long as they fit: the first eligible message that the query
    leaves out does not fit, and neither does the next one of the query. -/
def Unaltered (bytes chars count : Nat) : Nat → List Message → Prop
  | _, [] => True
  | depth, row :: older =>
    if isEligible row = false then Unaltered bytes chars count (depth - 1) older
    else if depth = 0 ∨ isQueried row = false then
      ¬ FitsNext bytes chars count row ∧ ∀ next ∈ ((older.take (depth - 1)).filter isQueried).head?,
          ¬ FitsNext bytes chars count next
    else FitsNext bytes chars count row →
      Unaltered (bytes + byteLen row.content) (chars + charCount row.content) (count + 1)
        (depth - 1) older

/-- The induction over the lineage, from the newest message on. -/
theorem selectHistory_query_iff (hsel : selected ≠ []) :
    selectHistory uuid bytes chars selected (lineage.filter isEligible) =
        selectHistory uuid bytes chars selected ((lineage.take depth).filter isQueried) ↔
      Unaltered bytes chars selected.length depth lineage := by
  induction lineage generalizing bytes chars selected depth with
  | nil =>
    rw [take_nil]
    exact iff_of_true rfl trivial
  | cons row older ih =>
    -- a row that the query leaves out is passed over
    have hskip : depth = 0 ∨ isQueried row = false →
        ((row :: older).take depth).filter isQueried = (older.take (depth - 1)).filter isQueried := by
      intro hout
      cases depth with
      | zero => rfl
      | succ depth =>
        rw [take_succ_cons, filter_cons_of_neg, Nat.add_sub_cancel]
        rw [hout.resolve_left (succ_ne_zero depth)]
        decide
    rw [Unaltered]
    by_cases heligible : isEligible row = false
    · have hout : isQueried row = false := by
        by_contra hqueried
        rw [isEligible_of_isQueried (by simpa using hqueried)] at heligible
        cases heligible
      rw [filter_cons_of_neg (by simp [heligible]), if_pos heligible, hskip (.inr hout), ih hsel]
    rw [filter_cons_of_pos (by simpa using heligible), if_neg heligible]
    by_cases hout : depth = 0 ∨ isQueried row = false
    · rw [hskip hout, if_pos hout]
      refine selectHistory_eq_iff hsel ?_
      rintro next hnext rfl
      have hqueried := (mem_filter.mp (mem_of_head? hnext)).2
      rcases hout with rfl | hout
      · cases hnext
      · rw [hout] at hqueried
        cases hqueried
    · obtain ⟨depth, rfl⟩ := exists_eq_succ_of_ne_zero fun h => hout (.inl h)
      have hqueried : isQueried row = true := by simpa using fun h => hout (.inr h)
      rw [take_succ_cons, filter_cons_of_pos hqueried, if_neg hout]
      by_cases hfits : FitsNext bytes chars selected.length row
      · rw [selectHistory_fits hfits, selectHistory_fits hfits, ih (cons_ne_nil row selected)]
        exact (imp_iff_right hfits).symm
      · rw [selectHistory_stops hsel hfits, selectHistory_stops hsel hfits]
        exact iff_of_true rfl fun h => absurd h hfits

/-! ### The plans of two histories -/

variable {P : PlannerExternals} {draws : PlannerDraws} {character : Character}
  {mode : ConversationMode} {model : String} {temperature : UInt64} {maxOutputTokens : Option Nat}
  {history : List Message} {store : Store} {branch : ConversationBranch}

/-- The messages that the planner reads, newest first. -/
def readable (history : List Message) : List Message :=
  history.reverse.filter fun message => message.role != .system

theorem planWithMode_eq_iff
    (hhist : validateHistoryConversation uuid history conversationId = .ok ())
    (hhist' : validateHistoryConversation uuid history' conversationId = .ok ()) :
    planWithMode uuid P draws character conversationId mode history model temperature
        maxOutputTokens =
      planWithMode uuid P draws character conversationId mode history' model temperature
        maxOutputTokens ↔
    (validateRequestControls uuid model (some temperature) maxOutputTokens = .ok () →
      ∀ static, buildStaticPrompt uuid P draws character conversationId mode = .ok static →
        selectHistory uuid static.totalBytes static.totalChars [] (readable history) =
          selectHistory uuid static.totalBytes static.totalChars [] (readable history')) := by
  unfold planWithMode readable
  cases validateRequestControls uuid model (some temperature) maxOutputTokens with
  | error e => exact iff_of_true rfl fun h => by cases h
  | ok =>
    simp only [hhist, hhist', ok_bind]
    cases hstatic : buildStaticPrompt uuid P draws character conversationId mode with
    | error e => exact iff_of_true rfl fun _ _ h => by cases h
    | ok static =>
      simp only [ok_bind, ok.injEq, forall_eq', true_imp_iff]
      constructor
      · intro h
        generalize selectHistory uuid static.totalBytes static.totalChars [] _ = r at h ⊢
        generalize selectHistory uuid static.totalBytes static.totalChars [] _ = r' at h ⊢
        cases r <;> cases r' <;> simp_all
      · intro h
        rw [h]

/-- A history of one conversation that is not too long is readable whole. -/
theorem validateHistoryConversation_ok (hlen : rows.length < maxPromptInputMessages)
    (hrows : ∀ row ∈ rows, row.conversationId = conversationId)
    (huser : user.conversationId = conversationId) :
    validateHistoryConversation uuid (rows.reverse ++ [user]) conversationId = .ok () := by
  rw [validateHistoryConversation, guard_ok, require_ok]
  refine ⟨?_, ?_⟩
  · rw [length_append, length_reverse]
    exact hlen
  · simpa [huser] using hrows

theorem readable_reverse (hrows : ∀ row ∈ rows, row.role ≠ .system) (huser : user.role ≠ .system) :
    readable (rows.reverse ++ [user]) = user :: rows := by
  rw [readable, reverse_append, reverse_reverse]
  exact filter_eq_self.mpr (by simpa [huser] using hrows)

theorem role_of_isEligible (h : isEligible row = true) : row.role ≠ .system := by
  simp only [isEligible, Bool.and_eq_true, bne_iff_ne] at h
  exact h.1.1

/-- What the query returns of a lineage, newest first. -/
def queried (lineage : List Message) : List Message :=
  ((lineage.take 512).filter isQueried).take (Chat.maxPromptMessages - 2)

theorem isEligible_of_mem_queried (h : row ∈ queried lineage) :
    row ∈ lineage ∧ isEligible row = true := by
  obtain ⟨htake, hrow⟩ := mem_filter.mp (mem_of_mem_take h)
  exact ⟨mem_of_mem_take htake, isEligible_of_isQueried hrow⟩

/-- The plan from what the query returns, and the plan from all that a prompt may show. -/
theorem planWithMode_queried_iff (hlen : lineage.length < maxPromptInputMessages)
    (hrows : ∀ row ∈ lineage, row.conversationId = conversationId) (hrole : user.role ≠ .system)
    (huser : user.conversationId = conversationId) :
    planWithMode uuid P draws character conversationId mode ((queried lineage).reverse ++ [user])
        model temperature maxOutputTokens =
      planWithMode uuid P draws character conversationId mode
        ((lineage.filter isEligible).reverse ++ [user]) model temperature maxOutputTokens ↔
    (validateRequestControls uuid model (some temperature) maxOutputTokens = .ok () →
      ∀ static, buildStaticPrompt uuid P draws character conversationId mode = .ok static →
        FitsNext static.totalBytes static.totalChars 0 user →
        Unaltered (static.totalBytes + byteLen user.content)
          (static.totalChars + charCount user.content) 1 512 lineage) := by
  have hqueriedLen : (queried lineage).length < maxPromptInputMessages :=
    (length_take_le _ _).trans_lt (by decide)
  rw [planWithMode_eq_iff (validateHistoryConversation_ok hqueriedLen
      (fun row hrow => hrows row (isEligible_of_mem_queried hrow).1) huser)
    (validateHistoryConversation_ok ((length_filter_le _ _).trans_lt hlen)
      (fun row hrow => hrows row (mem_of_mem_filter hrow)) huser),
    readable_reverse (fun row hrow => role_of_isEligible (isEligible_of_mem_queried hrow).2) hrole,
    readable_reverse (fun row hrow => role_of_isEligible (mem_filter.mp hrow).2) hrole]
  refine imp_congr_right fun _ => forall_congr' fun static => imp_congr_right fun _ => ?_
  by_cases hfits : FitsNext static.totalBytes static.totalChars ([] : List Message).length user
  · rw [selectHistory_fits hfits, selectHistory_fits hfits, queried,
      selectHistory_take (cons_ne_nil user []) (le_of_ble_eq_true rfl)
        (le_of_ble_eq_true rfl), eq_comm, selectHistory_query_iff (cons_ne_nil user [])]
    exact (imp_iff_right hfits).symm
  · obtain ⟨e, hends⟩ := selectHistory_misfit hfits
    rw [hends, hends]
    exact iff_of_true rfl fun h => absurd h hfits

/-! ### The query -/

theorem recentLineage_queried (hlin : Chain store.parentOf (store.branchHead branchId) lineage) :
    recentLineage store (store.branchHead branchId) (maxPromptMessages - 2)
      maxHistoryMessageBytes maxHistoryMessageChars = (queried lineage).reverse := by
  rw [recentLineage, hlin.ancestry_eq_take]
  rfl

theorem checkLimits_prompt : checkLimits uuid (maxPromptMessages - 2) maxHistoryMessageBytes
    maxHistoryMessageChars = .ok () := by
  rfl

theorem listRecentBranchMessagesForPrompt_queried
    (hlin : Chain store.parentOf (store.branchHead branchId) lineage) :
    listRecentBranchMessagesForPrompt uuid branchId (maxPromptMessages - 2)
      maxHistoryMessageBytes maxHistoryMessageChars store = .ok (queried lineage).reverse := by
  rw [listRecentBranchMessagesForPrompt, if_neg (by decide), checkLimits_prompt,
    recentLineage_queried hlin]
  rfl

/-- **The bounded query.** A plan from the rows of the query is the plan from the complete lineage
    exactly when no row that is left out comes before the end of the selection; and the query
    from the head of the branch returns the same rows. -/
theorem planWithMode_query_iff (hbr : store.branches.find? branchId = some branch)
    (hlin : Chain store.parentOf (store.branchHead branchId) lineage)
    (hlen : lineage.length < maxPromptInputMessages) (hrole : user.role ≠ .system)
    (huser : user.conversationId = branch.conversationId) :
    ∃ recent, listRecentBranchMessagesForPrompt uuid branchId (Chat.maxPromptMessages - 2)
          maxHistoryMessageBytes maxHistoryMessageChars store = .ok recent ∧
      listRecentMessageLineageForPrompt uuid branch.conversationId branch.headMessageId
          (Chat.maxPromptMessages - 2) maxHistoryMessageBytes maxHistoryMessageChars store =
        .ok recent ∧
      (planWithMode uuid P draws character branch.conversationId mode (recent ++ [user]) model
            temperature maxOutputTokens =
          planWithMode uuid P draws character branch.conversationId mode
            ((lineage.filter isEligible).reverse ++ [user]) model temperature maxOutputTokens ↔
        (Chat.validateRequestControls uuid model (some temperature) maxOutputTokens = .ok () →
          ∀ static,
            buildStaticPrompt uuid P draws character branch.conversationId mode = .ok static →
            FitsNext static.totalBytes static.totalChars 0 user →
            Unaltered (static.totalBytes + byteLen user.content)
              (static.totalChars + charCount user.content) 1 512 lineage)) := by
  have hhead : store.branchHead branchId =
      branch.headMessageId.bind (store.messageIn branch.conversationId) := by
    rw [Store.branchHead, hbr]
    rfl
  refine ⟨(queried lineage).reverse, listRecentBranchMessagesForPrompt_queried hlin, ?_,
    planWithMode_queried_iff hlen ?_ hrole huser⟩
  · rw [listRecentMessageLineageForPrompt, checkLimits_prompt, ← hhead, recentLineage_queried hlin]
    by_cases hnone : branch.headMessageId = none
    · rw [hhead, hnone] at hlin
      cases hlin
      rw [if_pos (.inl hnone)]
      rfl
    · rw [if_neg (by simp [hnone]; decide)]
      rfl
  · refine hlin.forall_mem (fun row hrow => ?_) fun a b ha hb => ?_
    · rw [hhead] at hrow
      obtain ⟨id, _, hid⟩ := Option.bind_eq_some_iff.mp hrow
      exact (messageIn_eq_some.mp hid).2.2
    · exact (parentOf_eq_some.mp hb).2.2.trans ha

/-! ### A run of one turn -/

def replyWith (content : String) : Message :=
  { plainReply "a" "u" "g" with content, status := .complete }

/-- The first turn of the example run ends with a reply of the given text. -/
def turnRepliedWith (content : String) : Store :=
  runAll plainExternals turnStarted
    [.finalizeGenerationWithProtocolState plainCatalog (replyWith content) none [] none true "t"]

theorem chain_turnRepliedWith (content : String) :
    Chain (turnRepliedWith content).parentOf ((turnRepliedWith content).branchHead "b")
      [replyWith content, plainUser "u" none] := by
  have hhead : (turnRepliedWith content).branchHead "b" = some (replyWith content) := rfl
  have huser : (turnRepliedWith content).parentOf (replyWith content) =
      some (plainUser "u" none) := rfl
  have hroot : (turnRepliedWith content).parentOf (plainUser "u" none) = none := rfl
  rw [hhead]
  refine .cons ?_
  rw [huser]
  refine .cons ?_
  exact .nil

/-- A short reply is in the query, and the plans agree. -/
theorem planWithMode_query_iff_hello : ∃ recent,
    listRecentBranchMessagesForPrompt "" "b" (Chat.maxPromptMessages - 2) maxHistoryMessageBytes
        maxHistoryMessageChars (turnRepliedWith "hello") = .ok recent ∧
      planWithMode "" plainPlanner plainArgs.draws plainCharacter "c" .chat
          (recent ++ [plainArgs.userMessage "next"]) "m" defaultTemperature (some 1024) =
        planWithMode "" plainPlanner plainArgs.draws plainCharacter "c" .chat
          [plainUser "u" none, replyWith "hello", plainArgs.userMessage "next"] "m"
          defaultTemperature (some 1024) := by
  obtain ⟨branch, hbr, hc⟩ : ∃ branch,
      (turnRepliedWith "hello").branches.find? "b" = some branch ∧ "c" = branch.conversationId :=
    ⟨_, rfl, rfl⟩
  obtain ⟨recent, hrecent, _, hplan⟩ := planWithMode_query_iff hbr
    (chain_turnRepliedWith "hello") (le_of_ble_eq_true rfl)
    (show (plainArgs.userMessage "next").role ≠ .system by decide) hc
  rw [← hc] at hplan
  refine ⟨recent, hrecent, hplan.mpr fun _ static _ _ => ?_⟩
  intro _
  exact fun _ => trivial

/-- A reply over the limit of one message is dropped from the middle. -/
theorem planWithMode_ne_of_long (hlong : maxHistoryMessageBytes < byteLen content) :
    planWithMode "" plainPlanner plainArgs.draws plainCharacter "c" .chat
        ((queried [replyWith content, plainUser "u" none]).reverse ++
          [plainArgs.userMessage "next"]) "m" defaultTemperature (some 1024) ≠
      planWithMode "" plainPlanner plainArgs.draws plainCharacter "c" .chat
        [plainUser "u" none, replyWith content, plainArgs.userMessage "next"] "m"
        defaultTemperature (some 1024) := by
  intro heq
  have h := (planWithMode_queried_iff (le_of_ble_eq_true rfl)
    (by simp [replyWith, plainReply, plainUser]) (by decide)
    (show (plainArgs.userMessage "next").conversationId = "c" from rfl)).mp heq
  obtain ⟨static, hstatic, hbytes, hchars⟩ := exists_staticPrompt
  have htext : byteLen (plainArgs.userMessage "next").content = 4 ∧
    charCount (plainArgs.userMessage "next").content = 4 := by decide
  have hunaltered := h (by decide) static hstatic
    (fitsNext_short (by omega) (by omega) (zero_le _) (by omega))
  have hout : isQueried (replyWith content) = false := by
    simp [isQueried, isPromptEligible, replyWith, not_le.mpr hlong]
  rw [Unaltered, if_neg (by simp [isEligible, replyWith, plainReply]), if_pos (.inr hout)]
    at hunaltered
  exact hunaltered.2 (plainUser "u" none) rfl
    (fitsNext_short (by omega) (by omega) (by decide) (by decide))

theorem byteLen_replicate (n : Nat) : byteLen (String.ofList (List.replicate n 'x')) = n := by
  rw [byteLen, asBytes, String.toList_ofList, flatMap_replicate, length_flatten,
    map_replicate, sum_replicate_nat]
  exact mul_one n

/-- The reply of 262145 bytes. -/
theorem query_drops_reply : ∃ content recent, content = String.ofList (List.replicate 262145 'x') ∧
    Chain (turnRepliedWith content).parentOf ((turnRepliedWith content).branchHead "b")
      [replyWith content, plainUser "u" none] ∧
    listRecentBranchMessagesForPrompt "" "b" (Chat.maxPromptMessages - 2) maxHistoryMessageBytes
        maxHistoryMessageChars (turnRepliedWith content) = .ok recent ∧
      planWithMode "" plainPlanner plainArgs.draws plainCharacter "c" .chat
          (recent ++ [plainArgs.userMessage "next"]) "m" defaultTemperature (some 1024) ≠
        planWithMode "" plainPlanner plainArgs.draws plainCharacter "c" .chat
          [plainUser "u" none, replyWith content, plainArgs.userMessage "next"] "m"
          defaultTemperature (some 1024) := by
  refine ⟨_, _, rfl, chain_turnRepliedWith _,
    listRecentBranchMessagesForPrompt_queried (chain_turnRepliedWith _), ?_⟩
  refine planWithMode_ne_of_long ?_
  rw [byteLen_replicate]
  exact le_of_ble_eq_true rfl

end LorePia.Conversations
