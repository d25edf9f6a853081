import CppAdvice.Json.Number

/-!
# Values read from a text

What a text says up to its first fault. A reader of a text may pass over parts of it, so some faults
only matter where a value is looked at: a string with half of a surrogate pair, a number beyond the
range of a double. A text that stops being well formed leaves a `broken` value at that point, and
nothing after it.
-/

namespace CppAdvice

namespace Json

/-- What stands before the colon of a member. -/
inductive Key where
  | name (s : String)
  /-- A string with half of a surrogate pair. -/
  | garbled
  /-- No string: the text is no longer well formed here, and the object is cut. -/
  | missing
deriving Repr, DecidableEq

end Json

/-- A value as far as it could be read. -/
inductive Json where
  | null
  | bool (b : Bool)
  | number (n : Json.Number)
  /-- A string; there is no text when it has half of a surrogate pair. -/
  | string (s : Option String)
  | array (items : List Json)
  | object (members : List (Json.Key × Json))
  /-- The text is no longer well formed here. -/
  | broken

namespace Json

mutual

/-- Whether the value is well formed throughout, whatever its strings and numbers hold. -/
def whole : Json → Bool
  | .broken => false
  | .array items => wholeItems items
  | .object members => wholeMembers members
  | _ => true

/-- Whether every item is well formed. -/
def wholeItems : List Json → Bool
  | [] => true
  | v :: items => v.whole && wholeItems items

/-- Whether every member has a key and a well formed value. -/
def wholeMembers : List (Key × Json) → Bool
  | [] => true
  | (.missing, _) :: _ => false
  | (.name _, v) :: members => v.whole && wholeMembers members
  | (.garbled, v) :: members => v.whole && wholeMembers members

end

mutual

/-- Whether the value can be read in full when `room` more arrays and objects may be opened: it is
well formed, its strings have text and its numbers are in range. -/
def readable (room : Nat) : Json → Bool
  | .null | .bool _ => true
  | .number n => n.inRange
  | .string s => s.isSome
  | .array items => 0 < room && readableItems (room - 1) items
  | .object members => 0 < room && readableMembers (room - 1) members
  | .broken => false

/-- Whether every item can be read in full. -/
def readableItems (room : Nat) : List Json → Bool
  | [] => true
  | v :: items => v.readable room && readableItems room items

/-- Whether every member has a key with text and a value that can be read in full. -/
def readableMembers (room : Nat) : List (Key × Json) → Bool
  | [] => true
  | (.name _, v) :: members => v.readable room && readableMembers room members
  | _ :: _ => false

end

/-- A string value with the given text. -/
def ofString (s : String) : Json :=
  .string (some s)

/-- A number value. Only numbers below `2^64` are meant. -/
def ofNat (n : Nat) : Json :=
  .number (.natural n.toUInt64)

/-- An object with the given members. -/
def ofMembers (members : List (String × Json)) : Json :=
  .object (members.map fun (k, v) => (.name k, v))

/-- The value of the first member with the given name. -/
def get? (v : Json) (name : String) : Option Json :=
  match v with
  | .object members =>
    members.findSome? fun (k, member) => if k = .name name then some member else none
  | _ => none

end Json

end CppAdvice
