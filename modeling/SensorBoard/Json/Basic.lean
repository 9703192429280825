import SensorBoard.Keyed

/-!
# JSON values

The values of JSON texts. A number is an integer of 64 bits, with or without sign, or a double: the
two are told apart because they are written differently.
-/

namespace SensorBoard

inductive JsonNumber where
  | int (value : Int)
  | float (value : Float)

/-- A number as a double; an integer is rounded to the nearest one. -/
def JsonNumber.toFloat : JsonNumber → Float
  | .int i => if i < 0 then -Float.ofNat i.natAbs else Float.ofNat i.natAbs
  | .float x => x

/-- A JSON value. The members of an object stand in the order in which they are written. -/
inductive Json where
  | null
  | bool (value : Bool)
  | number (value : JsonNumber)
  | text (value : String)
  | list (items : List Json)
  | object (members : List (String × Json))

namespace Json

def nat (n : Nat) : Json := .number (.int n)

/-- A double as a value; what is no finite number is `null`. -/
def double (x : Float) : Json := if x.isFinite then .number (.float x) else .null

/-- A text if there is one, else `null`. -/
def optionalText : Option String → Json
  | some s => .text s
  | none => .null

/-- The member of an object, if the value is one that has it. -/
def member? (key : String) : Json → Option Json
  | .object members => Keyed.find? key members
  | _ => none

/-- The text, if the value is one. -/
def text? : Json → Option String
  | .text s => some s
  | _ => none

/-- The items, if the value is a list. -/
def items? : Json → Option (List Json)
  | .list items => some items
  | _ => none

/-- The texts of a list of texts. -/
def texts? (j : Json) : Option (List String) := do (← j.items?).mapM text?

end Json

end SensorBoard
