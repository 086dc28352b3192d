import DocSearch.Decimal.Double
import DocSearch.KeyMap

/- Literal values as index files hold them, and the two dialects in which they are written. -/
namespace DocSearch

structure Integer where
  val : Int
  inRange : -0x8000000000000000 ≤ val ∧ val < 0x10000000000000000
deriving DecidableEq

namespace Integer

def ofInt? (n : Int) : Option Integer :=
  if inRange : -0x8000000000000000 ≤ n ∧ n < 0x10000000000000000 then some ⟨n, inRange⟩ else none

def ofUInt64 (n : UInt64) : Integer :=
  ⟨(n.toNat : Int), by have := n.toNat_lt; omega⟩

def ofInt64 (n : Int64) : Integer :=
  ⟨n.toInt, by have := n.le_toInt; have := n.toInt_lt; omega⟩

def toUInt64? (n : Integer) : Option UInt64 :=
  if 0 ≤ n.val then some (UInt64.ofNat n.val.toNat) else none

def toInt64? (n : Integer) : Option Int64 :=
  if n.val < 0x8000000000000000 then some (Int64.ofInt n.val) else none

end Integer

/-- Whole numbers are exact; every other number is a finite double. -/
inductive Number
  | integer (n : Integer)
  | real (x : Double)
deriving DecidableEq

/-- The members of an object are listed in the ascending order of their keys: see `Ordered`. -/
inductive Value
  | null
  | bool (b : Bool)
  | number (n : Number)
  | string (s : String)
  | array (items : List Value)
  | object (members : List (String × Value))

namespace Value

mutual

def decEq : (a b : Value) → Decidable (a = b)
  | .null, .null => isTrue rfl
  | .bool a, .bool b => if h : a = b then isTrue (by rw [h]) else isFalse (by simpa using h)
  | .number a, .number b => if h : a = b then isTrue (by rw [h]) else isFalse (by simpa using h)
  | .string a, .string b => if h : a = b then isTrue (by rw [h]) else isFalse (by simpa using h)
  | .array a, .array b =>
    match decEqItems a b with
    | isTrue h => isTrue (by rw [h])
    | isFalse h => isFalse (by simpa using h)
  | .object a, .object b =>
    match decEqMembers a b with
    | isTrue h => isTrue (by rw [h])
    | isFalse h => isFalse (by simpa using h)
  | .null, .bool _ | .null, .number _ | .null, .string _ | .null, .array _ | .null, .object _
  | .bool _, .null | .bool _, .number _ | .bool _, .string _ | .bool _, .array _
  | .bool _, .object _ | .number _, .null | .number _, .bool _ | .number _, .string _
  | .number _, .array _ | .number _, .object _ | .string _, .null | .string _, .bool _
  | .string _, .number _ | .string _, .array _ | .string _, .object _ | .array _, .null
  | .array _, .bool _ | .array _, .number _ | .array _, .string _ | .array _, .object _
  | .object _, .null | .object _, .bool _ | .object _, .number _ | .object _, .string _
  | .object _, .array _ => isFalse (by simp)

def decEqItems : (a b : List Value) → Decidable (a = b)
  | [], [] => isTrue rfl
  | [], _ :: _ => isFalse (by simp)
  | _ :: _, [] => isFalse (by simp)
  | a :: as, b :: bs =>
    match decEq a b, decEqItems as bs with
    | isTrue h, isTrue hs => isTrue (by rw [h, hs])
    | isFalse h, _ => isFalse (by simp [h])
    | _, isFalse hs => isFalse (by simp [hs])

def decEqMembers : (a b : List (String × Value)) → Decidable (a = b)
  | [], [] => isTrue rfl
  | [], _ :: _ => isFalse (by simp)
  | _ :: _, [] => isFalse (by simp)
  | (k, a) :: as, (l, b) :: bs =>
    if hk : k = l then
      match decEq a b, decEqMembers as bs with
      | isTrue h, isTrue hs => isTrue (by rw [hk, h, hs])
      | isFalse h, _ => isFalse (by simp [h])
      | _, isFalse hs => isFalse (by simp [hs])
    else isFalse (by simp [hk])

end

instance : DecidableEq Value := decEq

mutual

/-- Every object inside lists its keys in strictly ascending order. -/
def Ordered : Value → Prop
  | .null | .bool _ | .number _ | .string _ => True
  | .array items => OrderedItems items
  | .object members => Ascending members ∧ OrderedMembers members

def OrderedItems : List Value → Prop
  | [] => True
  | item :: items => Ordered item ∧ OrderedItems items

def OrderedMembers : List (String × Value) → Prop
  | [] => True
  | (_, value) :: members => Ordered value ∧ OrderedMembers members

end

def isArray : Value → Bool
  | .array _ => true
  | _ => false

def toString? : Value → Option String
  | .string s => some s
  | _ => none

def toUInt64? : Value → Option UInt64
  | .number (.integer n) => n.toUInt64?
  | _ => none

def toInt64? : Value → Option Int64
  | .number (.integer n) => n.toInt64?
  | _ => none

def ofUInt64 (n : UInt64) : Value := .number (.integer (.ofUInt64 n))

def ofInt64 (n : Int64) : Value := .number (.integer (.ofInt64 n))

def ofStrings (texts : List String) : Value := .array (texts.map .string)

end Value

inductive Dialect
  /-- Keys that are plain names stand without quotes. -/
  | legacy
  /-- All keys stand in quotes. -/
  | json
deriving DecidableEq, Repr, Inhabited

namespace Dialect

def name : Dialect → String
  | .legacy => "legacy"
  | .json => "json"

def ofName? (name : String) : Option Dialect :=
  match String.ofList (name.toList.map Char.toLower) with
  | "legacy" | "js" | "jsdump" => some .legacy
  | "json" => some .json
  | _ => none

def unknownMessage (name : String) : String :=
  s!"unknown dialect '{String.ofList (name.toList.map Char.toLower)}' (expected 'legacy' or 'json')"

end Dialect
end DocSearch
