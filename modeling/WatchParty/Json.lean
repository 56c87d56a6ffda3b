/-
# JSON values

The values that requests and messages are made of. Fields of an object keep their order, and may
repeat while nobody has looked at them: what a repeated field means is for the reader of a
particular message to decide. Whole numbers and decimal numbers are told apart.
-/

import WatchParty.Binary64

namespace WatchParty

/-- A JSON value. -/
inductive Json where
  | null
  | bool (value : Bool)
  /-- A number written as an integer. -/
  | integer (value : Int)
  /-- A number with a fraction or an exponent, or too large to be an integer. -/
  | decimal (value : Binary64)
  | string (text : String)
  | array (items : List Json)
  | object (fields : List (String × Json))
deriving Repr

namespace Json

/-- A binary64 number; JSON has none for infinities and NaN, which become null. -/
def ofBinary64 (value : Binary64) : Json :=
  if value.isFinite then .decimal value else .null

/-- A value that may be missing. -/
def ofOption {α : Type} (encode : α → Json) : Option α → Json
  | none => .null
  | some value => encode value

/-- A list of values. -/
def ofList {α : Type} (encode : α → Json) (items : List α) : Json := .array (items.map encode)

/-- A number that counts something. -/
def ofNat (count : Nat) : Json := .integer count

/-- A list of texts. -/
def strings (texts : List String) : Json := ofList .string texts

/-- The values of all fields with a name, in order. -/
def fieldsNamed (name : String) (fields : List (String × Json)) : List Json :=
  (fields.filter (·.1 = name)).map (·.2)

/-- The value of a field that may be missing but not repeated: nothing if it is repeated, and
otherwise the value, if there is one. -/
def fieldAtMostOnce? (name : String) (fields : List (String × Json)) : Option (Option Json) :=
  match fieldsNamed name fields with
  | [] => some none
  | [value] => some (some value)
  | _ => none

end Json

end WatchParty
