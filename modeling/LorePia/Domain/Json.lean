import Mathlib.Tactic.Common

namespace LorePia

/-!
# JSON values

The value tree of `serde_json`.  Numbers keep the three representations the crate tells
apart; an object is the list of its entries in the order the crate iterates them.  Parsing
and printing belong to the crate and are parameters wherever the core calls them.
-/

/-- `serde_json::Number`; a float is its bit pattern, which the core never computes with. -/
inductive JsonNumber
  | posInt (value : Nat)
  | negInt (value : Int)
  | float (bits : UInt64)
deriving DecidableEq

/-- `serde_json::Value`. -/
inductive Json
  | null
  | bool (value : Bool)
  | number (value : JsonNumber)
  | string (value : String)
  | array (items : List Json)
  | object (fields : List (String × Json))

namespace Json

/-- `Value::as_object`. -/
def asObject? : Json → Option (List (String × Json))
  | .object fields => some fields
  | _ => none

/-- `Value::as_array`. -/
def asArray? : Json → Option (List Json)
  | .array items => some items
  | _ => none

/-- `Value::as_str`. -/
def asStr? : Json → Option String
  | .string value => some value
  | _ => none

/-- `Value::as_u64`. -/
def asU64? : Json → Option Nat
  | .number (.posInt value) => some value
  | _ => none

/-- `Value::as_bool`. -/
def asBool? : Json → Option Bool
  | .bool value => some value
  | _ => none

def isObject (value : Json) : Bool := value.asObject?.isSome

def isNull : Json → Bool
  | .null => true
  | _ => false

/-- `Value::get` with a key: absent on anything but an object. -/
def get? (value : Json) (key : String) : Option Json :=
  value.asObject?.bind fun fields => (fields.find? fun entry => entry.1 = key).map Prod.snd

/-- `Map::insert`: the entries are kept in the order of their keys. -/
def insertEntry (key : String) (value : Json) : List (String × Json) → List (String × Json)
  | [] => [(key, value)]
  | entry :: entries =>
    if key = entry.1 then (key, value) :: entries
    else if key < entry.1 then (key, value) :: entry :: entries
    else entry :: insertEntry key value entries

mutual
/-- Every string and every key of the tree. -/
def texts : Json → List String
  | .null | .bool _ | .number _ => []
  | .string value => [value]
  | .array items => itemTexts items
  | .object fields => fieldTexts fields

def itemTexts : List Json → List String
  | [] => []
  | item :: items => item.texts ++ itemTexts items

def fieldTexts : List (String × Json) → List String
  | [] => []
  | (key, value) :: fields => key :: (value.texts ++ fieldTexts fields)
end

/-! ### Equality

The tree nests lists of pairs, for which no instance is derived; the comparison is written
over the tree and its two kinds of children. -/

mutual
/-- `Value::eq`. -/
def same : Json → Json → Bool
  | .null, .null => true
  | .bool a, .bool b => a == b
  | .number a, .number b => a == b
  | .string a, .string b => a == b
  | .array as, .array bs => sameItems as bs
  | .object as, .object bs => sameFields as bs
  | _, _ => false

def sameItems : List Json → List Json → Bool
  | [], [] => true
  | a :: as, b :: bs => same a b && sameItems as bs
  | _, _ => false

def sameFields : List (String × Json) → List (String × Json) → Bool
  | [], [] => true
  | (k, a) :: as, (l, b) :: bs => k == l && same a b && sameFields as bs
  | _, _ => false
end

mutual
theorem same_iff : ∀ a b : Json, same a b = true ↔ a = b
  | .null, b => by cases b <;> simp [same]
  | .bool _, b => by cases b <;> simp [same]
  | .number _, b => by cases b <;> simp [same]
  | .string _, b => by cases b <;> simp [same]
  | .array as, b => by cases b <;> simp [same, sameItems_iff as]
  | .object as, b => by cases b <;> simp [same, sameFields_iff as]

theorem sameItems_iff : ∀ as bs : List Json, sameItems as bs = true ↔ as = bs
  | [], bs => by cases bs <;> simp [sameItems]
  | a :: as, bs => by cases bs <;> simp [sameItems, same_iff a, sameItems_iff as]

theorem sameFields_iff : ∀ as bs : List (String × Json), sameFields as bs = true ↔ as = bs
  | [], bs => by cases bs <;> simp [sameFields]
  | (k, a) :: as, bs => by
    cases bs <;> simp [sameFields, same_iff a, sameFields_iff as, Prod.ext_iff]
end

instance : DecidableEq Json := fun a b => decidable_of_iff (same a b = true) (same_iff a b)

end Json

end LorePia
