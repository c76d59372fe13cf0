import SchemaForms.OrderedMap.Basic
import SchemaForms.Binary64.Basic
/-! Values of a document: scalars, lists and objects whose members keep their order. One document is
laid over another. -/
namespace SchemaForms

/-- Whole numbers between `-2 ^ 63` and `2 ^ 64` stay exact; every other number is rounded. -/
inductive Number where
  | int (value : Int)
  | float (value : Binary64)
deriving DecidableEq, Inhabited

def Number.toBinary64 : Number → Binary64
  | .int value => .ofInt value
  | .float value => value

def Number.ofInt (value : Int) : Number :=
  if -Int.pow 2 63 ≤ value ∧ value < Int.pow 2 64 then .int value else .float (.ofInt value)

inductive Json where
  | null
  | bool (value : Bool)
  | number (value : Number)
  | string (value : String)
  | array (items : List Json)
  | object (members : List (String × Json))
deriving Inhabited

namespace Json

mutual
def decEq : (a b : Json) → Decidable (a = b)
  | .null, b => match b with
    | .null => isTrue rfl
    | .bool _ | .number _ | .string _ | .array _ | .object _ => isFalse nofun
  | .bool x, b => match b with
    | .bool y => if h : x = y then isTrue (h ▸ rfl) else isFalse (fun e => h (by cases e; rfl))
    | .null | .number _ | .string _ | .array _ | .object _ => isFalse nofun
  | .number x, b => match b with
    | .number y => if h : x = y then isTrue (h ▸ rfl) else isFalse (fun e => h (by cases e; rfl))
    | .null | .bool _ | .string _ | .array _ | .object _ => isFalse nofun
  | .string x, b => match b with
    | .string y => if h : x = y then isTrue (h ▸ rfl) else isFalse (fun e => h (by cases e; rfl))
    | .null | .bool _ | .number _ | .array _ | .object _ => isFalse nofun
  | .array xs, b => match b with
    | .array ys => match decEqItems xs ys with
      | isTrue h => isTrue (h ▸ rfl)
      | isFalse h => isFalse (fun e => h (by cases e; rfl))
    | .null | .bool _ | .number _ | .string _ | .object _ => isFalse nofun
  | .object xs, b => match b with
    | .object ys => match decEqMembers xs ys with
      | isTrue h => isTrue (h ▸ rfl)
      | isFalse h => isFalse (fun e => h (by cases e; rfl))
    | .null | .bool _ | .number _ | .string _ | .array _ => isFalse nofun

def decEqItems : (xs ys : List Json) → Decidable (xs = ys)
  | [], [] => isTrue rfl
  | [], _ :: _ | _ :: _, [] => isFalse nofun
  | x :: xs, y :: ys => match decEq x y, decEqItems xs ys with
    | isTrue h, isTrue hs => isTrue (by rw [h, hs])
    | isFalse h, _ => isFalse (fun e => h (by cases e; rfl))
    | _, isFalse h => isFalse (fun e => h (by cases e; rfl))

def decEqMembers : (xs ys : List (String × Json)) → Decidable (xs = ys)
  | [], [] => isTrue rfl
  | [], _ :: _ | _ :: _, [] => isFalse nofun
  | (k, x) :: xs, (l, y) :: ys =>
    if hk : k = l then match decEq x y, decEqMembers xs ys with
      | isTrue h, isTrue hs => isTrue (by rw [hk, h, hs])
      | isFalse h, _ => isFalse (fun e => h (by cases e; rfl))
      | _, isFalse h => isFalse (fun e => h (by cases e; rfl))
    else isFalse (fun e => hk (by cases e; rfl))
end

instance : DecidableEq Json := decEq

mutual
/-- No object has two members of one name, at any depth. -/
def WellFormed : Json → Prop
  | .array items => WellFormedItems items
  | .object members => (Entries.keys members).Nodup ∧ WellFormedMembers members
  | _ => True

def WellFormedItems : List Json → Prop
  | [] => True
  | item :: rest => WellFormed item ∧ WellFormedItems rest

def WellFormedMembers : List (String × Json) → Prop
  | [] => True
  | (_, value) :: rest => WellFormed value ∧ WellFormedMembers rest
end

def members? : Json → Option (Entries Json)
  | .object members => some members
  | _ => none

def isObject (value : Json) : Bool := value.members?.isSome

def bool? : Json → Option Bool
  | .bool value => some value
  | _ => none

def number? : Json → Option Number
  | .number value => some value
  | _ => none

/-- The member of an object; other values have none. -/
def get? (value : Json) (key : String) : Option Json :=
  value.members?.bind (Entries.get? · key)

def ofMap (map : OrderedMap Json) : Json := .object map.entries

def strings (texts : List String) : Json := .array (texts.map .string)

mutual
/-- Objects merge member by member; anything else replaces what was there. -/
def merge (base : Json) : Json → Json
  | .object overlay =>
    match base with
    | .object members => .object (mergeMembers members overlay)
    | _ => .object overlay
  | overlay => overlay

def mergeMembers (base : List (String × Json)) : List (String × Json) → List (String × Json)
  | [] => base
  | (key, value) :: rest =>
    mergeMembers
      (Entries.upsert key (fun | none => value | some existing => merge existing value) base) rest
end

/-- Layers come from lowest to highest precedence; missing ones are passed over. -/
def mergeLayers (layers : List (Option Json)) : Json :=
  (layers.filterMap id).foldl merge (.object [])

end Json

end SchemaForms
