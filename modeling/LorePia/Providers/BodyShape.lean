import LorePia.Domain.Reasoning

namespace LorePia.Providers.RequestPlan

open List

/-!
# Request previews — the shape of a body

A preview shows the shape of a request's body: the types of its values, and the names of its
fields.  A field with a sensitive name is collapsed, whatever is in it.  The traversal is bounded in
depth, in the items and fields of one value, and in its nodes altogether; what it leaves out is
marked.

`contains_credential_like_token` is a parameter: it measures Shannon entropy in floating point.

* `requestBodyShape_spec` — the nodes that a shape costs, and when it is marked as truncated;
* `requestBodyShape_congr` — bodies that are `Alike` have the same shape.
-/

variable {element : Element} {shape : RequestBodyShape} {P : Json → Prop} {condition : Bool}
  {elements : List Element} {shapes : List RequestBodyShape}

def maxPreviewBodyDepth : Nat := 16
def maxPreviewBodyNodes : Nat := 256
def maxPreviewObjectFields : Nat := 32
def maxPreviewArrayItems : Nat := 8
def maxPreviewBodyFieldNameBytes : Nat := 128
def redactedBodyFieldName : String := "__redacted_field__"

/-- `RequestBodyShape`; a `RequestBodyField` is the pair of its name and its shape. -/
inductive RequestBodyShape
  | null
  | boolean
  | number
  | string
  | array (items : List RequestBodyShape) (truncated : Bool)
  | object (fields : List (String × RequestBodyShape)) (truncated : Bool)
  | redacted
  | truncated

/-! ### Names -/

/-- `normalize_name`: the letters and digits, in lowercase. -/
def normalizeName (value : String) : String :=
  String.ofList ((value.toList.filter isAsciiAlphanumeric).map Char.toLower)

def redactedBodyFields : List String :=
  ["authorization", "proxyauthorization", "apikey", "xapikey", "xgoogapikey", "accesstoken",
    "refreshtoken", "idtoken", "credential", "credentials", "secret", "password", "cookie",
    "setcookie", "messages", "message", "content", "contents", "text", "prompt", "input",
    "instructions", "system", "systeminstruction", "signature", "thoughtsignature",
    "encryptedcontent", "reasoningsignature", "reasoningstate", "opaquereasoningstate",
    "previousresponseid", "continuationtoken", "sessionid", "conversationid"]

def bodyFieldRequiresRedaction (value : String) : Bool :=
  redactedBodyFields.contains (normalizeName value)

variable (containsCredentialLikeToken : String → Bool)

def isBodyFieldNameChar (c : Char) : Bool :=
  isAsciiAlphanumeric c || c ∈ ['_', '-', '.', ':', '$', '[', ']']

def safeBodyFieldName (value : String) : String :=
  if value ≠ "" ∧ byteLen value ≤ maxPreviewBodyFieldNameBytes ∧
      value.toList.all isBodyFieldNameChar = true ∧ containsCredentialLikeToken value = false then
    value
  else redactedBodyFieldName

/-! ### The budget -/

structure BodyShapeBudget where
  remainingNodes : Nat
  truncated : Bool
deriving DecidableEq

namespace BodyShapeBudget

def new : BodyShapeBudget := ⟨maxPreviewBodyNodes, false⟩

def markTruncated (budget : BodyShapeBudget) : BodyShapeBudget := { budget with truncated := true }

/-- `mark_truncated` on a condition. -/
def markIf (condition : Bool) (budget : BodyShapeBudget) : BodyShapeBudget :=
  if condition then budget.markTruncated else budget

/-- `consume`: whether a node was left, and the budget then. -/
def consume (budget : BodyShapeBudget) : Bool × BodyShapeBudget :=
  match budget.remainingNodes with
  | 0 => (false, budget.markTruncated)
  | remaining + 1 => (true, { budget with remainingNodes := remaining })

end BodyShapeBudget

/-! ### The traversal -/

/-- The checks in front of a value: how they end the visit, or the budget to go on with. -/
def enterValue (fieldName : Option String) (depth : Nat) (budget : BodyShapeBudget) :
    Except (RequestBodyShape × BodyShapeBudget) BodyShapeBudget :=
  let consumed := budget.consume
  if consumed.1 = false then .error (.truncated, consumed.2)
  else if fieldName.any bodyFieldRequiresRedaction = true then .error (.redacted, consumed.2)
  else if maxPreviewBodyDepth ≤ depth then .error (.truncated, consumed.2.markTruncated)
  else .ok consumed.2

mutual
/-- `request_body_shape`, with the budget that is left. -/
def requestBodyShape : Json → Option String → Nat → BodyShapeBudget →
    RequestBodyShape × BodyShapeBudget
  | value, fieldName, depth, budget =>
    match enterValue fieldName depth budget with
    | .error visited => visited
    | .ok budget =>
      match value with
      | .null => (.null, budget)
      | .bool _ => (.boolean, budget)
      | .number _ => (.number, budget)
      | .string _ => (.string, budget)
      | .array values =>
        let shapes := itemShapes values maxPreviewArrayItems depth budget
        let truncated := decide (shapes.1.length < values.length)
        (.array shapes.1 truncated, shapes.2.markIf truncated)
      | .object values =>
        let shapes := fieldShapes values maxPreviewObjectFields depth budget
        let truncated := decide (shapes.1.length < values.length)
        (.object shapes.1 truncated, shapes.2.markIf truncated)

/-- The loop over the items, with the number of items that it may still take. -/
def itemShapes : List Json → Nat → Nat → BodyShapeBudget →
    List RequestBodyShape × BodyShapeBudget
  | [], _, _, budget => ([], budget)
  | _ :: _, 0, _, budget => ([], budget)
  | value :: values, limit + 1, depth, budget =>
    if budget.remainingNodes = 0 then ([], budget.markTruncated)
    else
      let first := requestBodyShape value none (depth + 1) budget
      let rest := itemShapes values limit depth first.2
      (first.1 :: rest.1, rest.2)

/-- The loop over the fields. -/
def fieldShapes : List (String × Json) → Nat → Nat → BodyShapeBudget →
    List (String × RequestBodyShape) × BodyShapeBudget
  | [], _, _, budget => ([], budget)
  | _ :: _, 0, _, budget => ([], budget)
  | (name, value) :: fields, limit + 1, depth, budget =>
    if budget.remainingNodes = 0 then ([], budget.markTruncated)
    else
      let first := requestBodyShape value (some name) (depth + 1) budget
      let rest := fieldShapes fields limit depth first.2
      ((safeBodyFieldName containsCredentialLikeToken name, first.1) :: rest.1, rest.2)
end

/-! ### Induction over a value -/

mutual
/-- What holds of a value whenever it holds of its children holds of every value. -/
theorem json_induction
    (step : ∀ value : Json, (∀ child ∈ value.children, P child) → P value) : ∀ value, P value
  | .null => step .null fun _ hmem => absurd hmem not_mem_nil
  | .bool b => step (.bool b) fun _ hmem => absurd hmem not_mem_nil
  | .number n => step (.number n) fun _ hmem => absurd hmem not_mem_nil
  | .string s => step (.string s) fun _ hmem => absurd hmem not_mem_nil
  | .array items => step (.array items) (items_induction step items)
  | .object fields => step (.object fields) (fields_induction step fields)

theorem items_induction (step : ∀ value : Json, (∀ child ∈ value.children, P child) → P value) :
    ∀ items : List Json, ∀ item ∈ items, P item
  | [] => fun _ hmem => absurd hmem not_mem_nil
  | first :: items => forall_mem_cons.mpr ⟨json_induction step first, items_induction step items⟩

theorem fields_induction (step : ∀ value : Json, (∀ child ∈ value.children, P child) → P value) :
    ∀ fields : List (String × Json), ∀ child ∈ fields.map Prod.snd, P child
  | [] => fun _ hmem => absurd hmem not_mem_nil
  | (_, value) :: fields =>
    forall_mem_cons.mpr ⟨json_induction step value, fields_induction step fields⟩
end

/-! ### The loop over children -/

section Loop

variable {α β : Type}

/-- Visit the elements of a list as long as the limit and the budget last. -/
def visitBounded (visit : α → BodyShapeBudget → β × BodyShapeBudget) :
    List α → Nat → BodyShapeBudget → List β × BodyShapeBudget
  | [], _, budget => ([], budget)
  | _ :: _, 0, budget => ([], budget)
  | a :: as, limit + 1, budget =>
    if budget.remainingNodes = 0 then ([], budget.markTruncated)
    else
      let first := visit a budget
      let rest := visitBounded visit as limit first.2
      (first.1 :: rest.1, rest.2)

variable {containsCredentialLikeToken} {depth : Nat}

/-- What is visited of a field. -/
def visitField (containsCredentialLikeToken : String → Bool) (depth : Nat)
    (field : String × Json) (budget : BodyShapeBudget) :
    (String × RequestBodyShape) × BodyShapeBudget :=
  let visited := requestBodyShape containsCredentialLikeToken field.2 (some field.1) (depth + 1)
    budget
  ((safeBodyFieldName containsCredentialLikeToken field.1, visited.1), visited.2)

theorem itemShapes_eq {values : List Json} :
    itemShapes containsCredentialLikeToken values limit depth budget =
      visitBounded (fun value budget =>
        requestBodyShape containsCredentialLikeToken value none (depth + 1) budget)
        values limit budget := by
  induction values generalizing limit budget with
  | nil => rfl
  | cons value values ih =>
    cases limit with
    | zero => rfl
    | succ limit => simp only [itemShapes, visitBounded, ih]

theorem fieldShapes_eq :
    fieldShapes containsCredentialLikeToken fields limit depth budget =
      visitBounded (visitField containsCredentialLikeToken depth) fields limit budget := by
  induction fields generalizing limit budget with
  | nil => rfl
  | cons field fields ih =>
    cases limit with
    | zero => rfl
    | succ limit => simp only [fieldShapes, visitBounded, visitField, ih]

end Loop

/-! ### What a shape shows of a value -/

/-- A value with the name of the field that it stands in. -/
structure Element where
  fieldName : Option String
  value : Json

def Element.isRedacted (element : Element) : Bool :=
  element.fieldName.any bodyFieldRequiresRedaction

/-- The elements directly below a value. -/
def Element.children (element : Element) : List Element :=
  match element.value with
  | .array items => items.map fun item => ⟨none, item⟩
  | .object fields => fields.map fun field => ⟨some field.1, field.2⟩
  | _ => []

/-- The element at a position: nothing is below a redacted field. -/
def Element.at? (element : Element) : List Nat → Option Element
  | [] => some element
  | i :: path =>
    if element.isRedacted then none
    else element.children[i]?.bind fun child => child.at? path

def RequestBodyShape.children : RequestBodyShape → List RequestBodyShape
  | .array items _ => items
  | .object fields _ => fields.map Prod.snd
  | _ => []

/-- The shape at a position. -/
def RequestBodyShape.at? (shape : RequestBodyShape) : List Nat → Option RequestBodyShape
  | [] => some shape
  | i :: path => shape.children[i]?.bind fun child => child.at? path

/-- A shape of the same JSON type. -/
def RequestBodyShape.HasType : RequestBodyShape → Json → Prop
  | .null, .null | .boolean, .bool _ | .number, .number _ | .string, .string _ => True
  | .array _ _, .array _ | .object _ _, .object _ => True
  | _, _ => False

/-- The shape stands for the element: it is of its type, or the marker of a redacted field. -/
def RequestBodyShape.Represents (shape : RequestBodyShape) (element : Element) : Prop :=
  if element.isRedacted then shape = .redacted else shape.HasType element.value

/-- Every element that is not inside a redacted field is represented in the shape. -/
def Covers (shape : RequestBodyShape) (element : Element) : Prop :=
  ∀ path found, element.at? path = some found →
    ∃ node, shape.at? path = some node ∧ node.Represents found

mutual
/-- The nodes of a shape. -/
def nodes : RequestBodyShape → Nat
  | .array items _ => 1 + nodesOfItems items
  | .object fields _ => 1 + nodesOfFields fields
  | _ => 1

def nodesOfItems : List RequestBodyShape → Nat
  | [] => 0
  | item :: items => nodes item + nodesOfItems items

def nodesOfFields : List (String × RequestBodyShape) → Nat
  | [] => 0
  | (_, shape) :: fields => nodes shape + nodesOfFields fields
end

theorem covers_redacted
    (h : element.isRedacted = true) : Covers shape element ↔ shape = .redacted := by
  constructor
  · intro hcovers
    obtain ⟨node, hnode, hrepresents⟩ := hcovers [] element rfl
    cases hnode
    rwa [RequestBodyShape.Represents, if_pos h] at hrepresents
  · rintro rfl path found hfound
    cases path with
    | nil =>
      cases hfound
      exact ⟨.redacted, rfl, by rw [RequestBodyShape.Represents, if_pos h]⟩
    | cons i path =>
      rw [Element.at?, if_pos h] at hfound
      cases hfound

/-- Every element of a list is covered by the shape in its place. -/
def CoversAll (shapes : List RequestBodyShape) (elements : List Element) : Prop :=
  ∀ (i : Nat) child, elements[i]? = some child → ∃ node, shapes[i]? = some node ∧ Covers node child

/-- An element is covered iff it is represented and its children are covered by those of the
    shape. -/
theorem covers_iff (h : element.isRedacted = false) :
    Covers shape element ↔ shape.HasType element.value ∧
      CoversAll shape.children element.children := by
  have hnot : ¬ element.isRedacted = true := by simp [h]
  constructor
  · intro hcovers
    constructor
    · obtain ⟨node, hnode, hrepresents⟩ := hcovers [] element rfl
      cases hnode
      rwa [RequestBodyShape.Represents, if_neg hnot] at hrepresents
    · intro i child hchild
      have hbelow : ∀ path found, child.at? path = some found →
          ∃ node, shape.at? (i :: path) = some node ∧ node.Represents found := by
        intro path found hfound
        apply hcovers (i :: path) found
        rw [Element.at?, if_neg hnot, hchild, Option.bind_some, hfound]
      obtain ⟨node, hnode, _⟩ := hbelow [] child rfl
      rw [RequestBodyShape.at?, Option.bind_eq_some_iff] at hnode
      obtain ⟨first, hfirst, _⟩ := hnode
      refine ⟨first, hfirst, fun path found hfound => ?_⟩
      obtain ⟨node, hnode, hrepresents⟩ := hbelow path found hfound
      rw [RequestBodyShape.at?, hfirst, Option.bind_some] at hnode
      exact ⟨node, hnode, hrepresents⟩
  · rintro ⟨htype, hchildren⟩ path found hfound
    cases path with
    | nil =>
      cases hfound
      exact ⟨shape, rfl, by rwa [RequestBodyShape.Represents, if_neg hnot]⟩
    | cons i path =>
      rw [Element.at?, if_neg hnot, Option.bind_eq_some_iff] at hfound
      obtain ⟨child, hchild, hfound⟩ := hfound
      obtain ⟨node, hnode, hcovers⟩ := hchildren i child hchild
      rw [RequestBodyShape.at?, hnode, Option.bind_some]
      exact hcovers path found hfound

theorem coversAll_nil : CoversAll shapes [] :=
  fun _ _ hchild => by simp at hchild

theorem not_coversAll_nil_cons :
    ¬ CoversAll [] (element :: elements) := by
  intro h
  obtain ⟨_, hnode, _⟩ := h 0 element rfl
  cases hnode

theorem coversAll_cons :
    CoversAll (shape :: shapes) (element :: elements) ↔
      Covers shape element ∧ CoversAll shapes elements := by
  constructor
  · intro h
    constructor
    · obtain ⟨node, hnode, hcovers⟩ := h 0 element rfl
      cases hnode
      exact hcovers
    · intro i child hchild
      exact h (i + 1) child hchild
  · rintro ⟨hfirst, hrest⟩ i child hchild
    cases i with
    | zero =>
      cases hchild
      exact ⟨shape, rfl, hfirst⟩
    | succ i => exact hrest i child hchild

/-! ### What a visit costs and marks -/

/-- A visit pays one node of the budget for each node of the shape, and marks the budget iff the
    shape leaves something out. -/
structure Visited (before : BodyShapeBudget) (element : Element)
    (visited : RequestBodyShape × BodyShapeBudget) : Prop where
  cost : nodes visited.1 + visited.2.remainingNodes = before.remainingNodes
  marked : visited.2.truncated = true ↔ before.truncated = true ∨ ¬ Covers visited.1 element

section Loop

variable {α β : Type} {visit : α → BodyShapeBudget → β × BodyShapeBudget}
  {elementOf : α → Element} {shapeOf : β → RequestBodyShape} {as : List α} {limit : Nat}
  {budget : BodyShapeBudget}

@[simp] theorem remainingNodes_markIf :
    (budget.markIf condition).remainingNodes = budget.remainingNodes := by
  cases condition <;> rfl

@[simp] theorem truncated_markIf :
    (budget.markIf condition).truncated = (budget.truncated || condition) := by
  cases condition <;> simp [BodyShapeBudget.markIf, BodyShapeBudget.markTruncated]

/-- The loop pays for the shapes it makes, and it leaves an element out iff the budget is marked or
    there are fewer shapes than elements. -/
theorem visitBounded_spec (hvisit : ∀ a ∈ as, ∀ budget : BodyShapeBudget,
      0 < budget.remainingNodes →
        Visited budget (elementOf a) (shapeOf (visit a budget).1, (visit a budget).2)) :
    let visited := visitBounded visit as limit budget
    nodesOfItems (visited.1.map shapeOf) + visited.2.remainingNodes = budget.remainingNodes ∧
      visited.1.length ≤ as.length ∧
      (visited.2.truncated = true ∨ visited.1.length < as.length ↔
        budget.truncated = true ∨ ¬ CoversAll (visited.1.map shapeOf) (as.map elementOf)) := by
  induction as generalizing limit budget with
  | nil =>
    refine ⟨?_, Nat.le_refl _, ?_⟩
    · simp [visitBounded, nodesOfItems]
    · simp [visitBounded, coversAll_nil]
  | cons a as ih =>
    cases limit with
    | zero =>
      refine ⟨?_, Nat.zero_le _, ?_⟩
      · simp [visitBounded, nodesOfItems]
      · simp [visitBounded, not_coversAll_nil_cons]
    | succ limit =>
      by_cases hempty : budget.remainingNodes = 0
      · -- Nothing is left for the next element, so it is left out.
        refine ⟨?_, ?_, ?_⟩
        · simp [visitBounded, hempty, nodesOfItems, BodyShapeBudget.markTruncated]
        · simp [visitBounded, hempty]
        · simp [visitBounded, hempty, not_coversAll_nil_cons]
      · have hfirst := hvisit a mem_cons_self budget (Nat.pos_of_ne_zero hempty)
        have hothers := fun b hb => hvisit b (mem_cons_of_mem a hb)
        obtain ⟨hcost, hlen, hmarked⟩ := @ih limit (visit a budget).2 hothers
        have hpaid : nodes (shapeOf (visit a budget).1) + (visit a budget).2.remainingNodes =
            budget.remainingNodes := hfirst.cost
        simp only [visitBounded, hempty, if_false]
        refine ⟨?_, ?_, ?_⟩
        · rw [map_cons, nodesOfItems]
          omega
        · exact Nat.succ_le_succ hlen
        · rw [map_cons, map_cons, coversAll_cons, length_cons, length_cons,
            Nat.succ_lt_succ_iff, hmarked, hfirst.marked]
          tauto

end Loop

section Visit

variable {containsCredentialLikeToken : String → Bool} {fieldName : Option String} {depth : Nat}
  {budget : BodyShapeBudget}

theorem consume_of_pos (h : 0 < budget.remainingNodes) :
    budget.consume = (true, { budget with remainingNodes := budget.remainingNodes - 1 }) := by
  unfold BodyShapeBudget.consume
  cases hremaining : budget.remainingNodes with
  | zero => omega
  | succ remaining => rfl

/-- While nodes are left, a visit ends at a redacted field or at the depth limit, and else goes on
    with one node less. -/
theorem enterValue_of_pos (h : 0 < budget.remainingNodes) :
    enterValue fieldName depth budget =
      (let spent : BodyShapeBudget := { budget with remainingNodes := budget.remainingNodes - 1 }
      if fieldName.any bodyFieldRequiresRedaction = true then .error (.redacted, spent)
      else if maxPreviewBodyDepth ≤ depth then .error (.truncated, spent.markTruncated)
      else .ok spent) := by
  rw [enterValue, consume_of_pos h]
  simp

theorem nodesOfFields_eq :
    nodesOfFields fields = nodesOfItems (fields.map Prod.snd) := by
  induction fields with
  | nil => rfl
  | cons field fields ih => rw [nodesOfFields, map_cons, nodesOfItems, ih]

/-- **One visit**: it pays for its nodes, and marks the budget iff the shape leaves out an element
    that is not inside a redacted field. -/
theorem requestBodyShape_spec (value : Json) :
    ∀ (fieldName : Option String) (depth : Nat) (budget : BodyShapeBudget),
      0 < budget.remainingNodes →
      Visited budget ⟨fieldName, value⟩
        (requestBodyShape containsCredentialLikeToken value fieldName depth budget) := by
  induction value using json_induction with
  | step value ih =>
  intro fieldName depth budget hpos
  rw [requestBodyShape, enterValue_of_pos hpos]
  by_cases hred : fieldName.any bodyFieldRequiresRedaction = true
  · -- A redacted field costs one node, whatever is in it.
    simp only [hred, if_true]
    refine ⟨?_, ?_⟩
    · simp [nodes]
      omega
    · have hmarker : Element.isRedacted ⟨fieldName, value⟩ = true := hred
      simp [(covers_redacted hmarker).mpr rfl]
  · have hvisible : Element.isRedacted ⟨fieldName, value⟩ = false := by
      simpa [Element.isRedacted] using hred
    by_cases hdeep : maxPreviewBodyDepth ≤ depth
    · simp only [hred, hdeep, if_true, Bool.false_eq_true, if_false]
      refine ⟨?_, ?_⟩
      · simp [nodes, BodyShapeBudget.markTruncated]
        omega
      · have hcovers : ¬ Covers .truncated ⟨fieldName, value⟩ := by
          rw [covers_iff hvisible]
          rintro ⟨htype, _⟩
          cases value <;> exact htype
        simp [hcovers, BodyShapeBudget.markTruncated]
    · simp only [hred, hdeep, Bool.false_eq_true, if_false]
      cases value with
      | null | bool | number | string =>
        refine ⟨?_, ?_⟩
        · simp only [nodes]
          omega
        · simp [covers_iff hvisible, RequestBodyShape.HasType, Element.children, coversAll_nil]
      | array items =>
        have hvisit : ∀ item ∈ items, ∀ budget : BodyShapeBudget, 0 < budget.remainingNodes →
            Visited budget ⟨none, item⟩
              (requestBodyShape containsCredentialLikeToken item none (depth + 1) budget) :=
          fun item hitem => ih item hitem none (depth + 1)
        have hloop := @visitBounded_spec _ _ _ (fun item => ⟨none, item⟩) id items
          maxPreviewArrayItems { budget with remainingNodes := budget.remainingNodes - 1 } hvisit
        simp only [← itemShapes_eq, List.map_id] at hloop
        obtain ⟨hcost, _, hmarked⟩ := hloop
        refine ⟨?_, ?_⟩
        · simp only [nodes, remainingNodes_markIf]
          omega
        · rw [truncated_markIf, Bool.or_eq_true, decide_eq_true_eq, hmarked, covers_iff hvisible]
          simp [RequestBodyShape.HasType, Element.children, RequestBodyShape.children]
      | object fields =>
        have hvisit : ∀ field ∈ fields, ∀ budget : BodyShapeBudget, 0 < budget.remainingNodes →
            Visited budget ⟨some field.1, field.2⟩
              ((visitField containsCredentialLikeToken depth field budget).1.2,
                (visitField containsCredentialLikeToken depth field budget).2) :=
          fun field hfield => ih field.2 (mem_map_of_mem hfield) (some field.1) (depth + 1)
        have hloop := @visitBounded_spec _ _ _ (fun field => ⟨some field.1, field.2⟩) Prod.snd
          fields maxPreviewObjectFields
          { budget with remainingNodes := budget.remainingNodes - 1 } hvisit
        simp only [← fieldShapes_eq, ← nodesOfFields_eq] at hloop
        obtain ⟨hcost, _, hmarked⟩ := hloop
        refine ⟨?_, ?_⟩
        · simp only [nodes, remainingNodes_markIf]
          omega
        · rw [truncated_markIf, Bool.or_eq_true, decide_eq_true_eq, hmarked, covers_iff hvisible]
          simp [RequestBodyShape.HasType, Element.children, RequestBodyShape.children]

end Visit

/-! ### Bodies that look alike -/

mutual
/-- The same types, lengths and keys.  The values of scalars may differ, and so may everything in a
    redacted field. -/
def Alike : Json → Json → Prop
  | .null, .null => True
  | .bool _, .bool _ => True
  | .number _, .number _ => True
  | .string _, .string _ => True
  | .array left, .array right => AlikeItems left right
  | .object left, .object right => AlikeFields left right
  | _, _ => False

def AlikeItems : List Json → List Json → Prop
  | [], [] => True
  | left :: lefts, right :: rights => Alike left right ∧ AlikeItems lefts rights
  | _, _ => False

def AlikeFields : List (String × Json) → List (String × Json) → Prop
  | [], [] => True
  | (name, left) :: lefts, (other, right) :: rights =>
    name = other ∧ (bodyFieldRequiresRedaction name = true ∨ Alike left right) ∧
      AlikeFields lefts rights
  | _, _ => False
end

section Alike

variable {containsCredentialLikeToken : String → Bool}

theorem forall₂_of_alikeItems (h : AlikeItems lefts rights) :
    List.Forall₂ Alike lefts rights := by
  induction lefts generalizing rights with
  | nil =>
    cases rights with
    | nil => exact .nil
    | cons right rights => exact h.elim
  | cons left lefts ih =>
    cases rights with
    | nil => exact h.elim
    | cons right rights => exact .cons h.1 (ih h.2)

theorem forall₂_of_alikeFields (h : AlikeFields lefts rights) :
    List.Forall₂ (fun left right => left.1 = right.1 ∧
      (bodyFieldRequiresRedaction left.1 = true ∨ Alike left.2 right.2)) lefts rights := by
  induction lefts generalizing rights with
  | nil =>
    cases rights with
    | nil => exact .nil
    | cons right rights => exact h.elim
  | cons left lefts ih =>
    cases rights with
    | nil => exact h.elim
    | cons right rights => exact .cons ⟨h.1, h.2.1⟩ (ih h.2.2)

theorem forall₂_imp_of_mem {α β : Type} {R S : α → β → Prop} {as : List α} {bs : List β}
    (h : List.Forall₂ R as bs) (himp : ∀ a ∈ as, ∀ b, R a b → S a b) : List.Forall₂ S as bs := by
  induction h with
  | nil => exact .nil
  | cons hfirst _ ih =>
    have hrest := ih fun a ha => himp a (mem_cons_of_mem _ ha)
    exact .cons (himp _ mem_cons_self _ hfirst) hrest

/-- The loop makes the same of lists whose elements are visited alike. -/
theorem visitBounded_congr {α β : Type} {visit : α → BodyShapeBudget → β × BodyShapeBudget}
    {lefts rights : List α}
    (h : List.Forall₂ (fun left right => ∀ budget, visit left budget = visit right budget)
      lefts rights) :
    visitBounded visit lefts limit budget = visitBounded visit rights limit budget := by
  induction h generalizing limit budget with
  | nil => rfl
  | cons hfirst _ ih =>
    cases limit with
    | zero => rfl
    | succ limit => simp only [visitBounded, hfirst, ih]

/-- Nothing of a redacted field reaches its shape or the budget. -/
theorem requestBodyShape_of_redacted (h : fieldName.any bodyFieldRequiresRedaction = true) :
    requestBodyShape containsCredentialLikeToken left fieldName depth budget =
      requestBodyShape containsCredentialLikeToken right fieldName depth budget := by
  have hends : ∃ visited, enterValue fieldName depth budget = .error visited := by
    by_cases hspent : budget.consume.1 = false
    · exact ⟨_, if_pos hspent⟩
    · exact ⟨_, (if_neg hspent).trans (if_pos h)⟩
  obtain ⟨visited, hvisited⟩ := hends
  rw [requestBodyShape, requestBodyShape, hvisited]

/-- **Bodies that look alike have the same shape**, wherever they stand and whatever is left of the
    budget. -/
theorem requestBodyShape_congr (left : Json) :
    ∀ right, Alike left right → ∀ (fieldName : Option String) (depth : Nat)
      (budget : BodyShapeBudget),
      requestBodyShape containsCredentialLikeToken left fieldName depth budget =
        requestBodyShape containsCredentialLikeToken right fieldName depth budget := by
  induction left using json_induction with
  | step left ih =>
  intro right halike fieldName depth budget
  rw [requestBodyShape, requestBodyShape]
  cases enterValue fieldName depth budget with
  | error visited => rfl
  | ok budget =>
    cases left <;> cases right <;> try exact halike.elim
    case null.null => rfl
    case bool.bool => rfl
    case number.number => rfl
    case string.string => rfl
    case array.array lefts rights =>
      have hitems := forall₂_of_alikeItems halike
      have hvisits : List.Forall₂ (fun left right => ∀ budget,
          requestBodyShape containsCredentialLikeToken left none (depth + 1) budget =
            requestBodyShape containsCredentialLikeToken right none (depth + 1) budget)
          lefts rights :=
        forall₂_imp_of_mem hitems fun item hitem other hoth =>
          ih item hitem other hoth none (depth + 1)
      simp only [itemShapes_eq, visitBounded_congr hvisits, hitems.length_eq]
    case object.object lefts rights =>
      have hfields := forall₂_of_alikeFields halike
      have hvisits : List.Forall₂ (fun left right => ∀ budget,
          visitField containsCredentialLikeToken depth left budget =
            visitField containsCredentialLikeToken depth right budget) lefts rights := by
        refine forall₂_imp_of_mem hfields fun field hfield other hoth budget => ?_
        obtain ⟨hname, hvalue⟩ := hoth
        have hshape : requestBodyShape containsCredentialLikeToken field.2 (some field.1)
            (depth + 1) budget =
              requestBodyShape containsCredentialLikeToken other.2 (some field.1) (depth + 1)
                budget := by
          rcases hvalue with hred | hvalue
          · exact requestBodyShape_of_redacted hred
          · exact ih field.2 (mem_map_of_mem hfield) other.2 hvalue _ _ budget
        rw [hname] at hshape
        simp only [visitField, hname, hshape]
      simp only [fieldShapes_eq, visitBounded_congr hvisits, hfields.length_eq]

end Alike

end LorePia.Providers.RequestPlan
