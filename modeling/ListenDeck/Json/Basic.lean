/-!
# JSON values

The value a JSON text stands for, with exact whole numbers. Fields keep their order and may repeat;
what a repeated field means is decided where the value is read.

* `Json.unreadable`: a piece of a text that is well formed and denotes no value.
* `Json.readable`: no piece of the value is unreadable.
* `Json.lastWins`: the value with every repeated field reduced to its last appearance.
-/

namespace ListenDeck

/-- A JSON value. -/
inductive Json where
  | null
  | bool (b : Bool)
  /-- A whole number of 64 bits, with or without sign. -/
  | int (n : Int)
  /-- Any other number, as it is written. -/
  | decimal (literal : String)
  | string (s : String)
  | array (items : List Json)
  | object (fields : List (String × Json))
  /-- A well formed piece without a value: half of a surrogate pair in a string, a number no double
  can hold, or a container nested too deep. It may stand where nothing is read. -/
  | unreadable
  deriving Inhabited, Repr

namespace Json

/-! ## Readable values -/

mutual

/-- No piece of the value is unreadable. -/
def readable : Json → Bool
  | .unreadable => false
  | .array items => readableItems items
  | .object fields => readableFields fields
  | _ => true

/-- Every item is readable. -/
def readableItems : List Json → Bool
  | [] => true
  | j :: rest => readable j && readableItems rest

/-- Every field's value is readable. -/
def readableFields : List (String × Json) → Bool
  | [] => true
  | (_, j) :: rest => readable j && readableFields rest

end

/-! ## Repeated fields -/

mutual

/-- The value in which each object keeps only the last of equal fields. -/
def lastWins : Json → Json
  | .array items => .array (lastWinsItems items)
  | .object fields => .object (lastWinsFields fields)
  | j => j

/-- The items, each with the last of equal fields only. -/
def lastWinsItems : List Json → List Json
  | [] => []
  | j :: rest => lastWins j :: lastWinsItems rest

/-- The fields that no later field repeats. -/
def lastWinsFields : List (String × Json) → List (String × Json)
  | [] => []
  | (k, j) :: rest =>
    if rest.any (·.1 == k) then lastWinsFields rest else (k, lastWins j) :: lastWinsFields rest

end

/-! ## Access -/

/-- The first field of that name. -/
def get? (j : Json) (name : String) : Option Json :=
  match j with
  | .object fields => (fields.find? (·.1 == name)).map (·.2)
  | _ => none

/-- The text of a string. -/
def string? : Json → Option String
  | .string s => some s
  | _ => none

end Json

end ListenDeck
