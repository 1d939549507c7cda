/-
# JSON values

A JSON document as a value.  Objects keep their members in order, also when a key comes twice,
because readers of configurations look at that.  Of numbers only whole ones are kept; and of a
text that is not well formed (half of a surrogate pair) only that it is not.
-/

namespace QueueClient

/-- A JSON value. -/
inductive Json where
  | null
  | bool (b : Bool)
  /-- A number without fraction and exponent. -/
  | int (n : Int)
  /-- Any other number. -/
  | real
  /-- A text, if it is well formed. -/
  | text (s : Option String)
  | array (items : List Json)
  | object (members : List (Option String × Json))
deriving Inhabited

namespace Json

/-- A text. -/
def ofString (s : String) : Json := text (some s)

/-- A natural number. -/
def ofNat (n : Nat) : Json := int n

/-- An object with well-formed keys. -/
def ofMembers (ms : List (String × Json)) : Json := object (ms.map fun m => (some m.1, m.2))

/-- A value or null. -/
def ofOption : Option Json → Json
  | some v => v
  | none => null

end Json

end QueueClient
