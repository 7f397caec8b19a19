import ListenDeck.Json.Basic
import ListenDeck.Text.Numeral

/-!
# Reading records

How a record of named fields is read from a JSON value. The value is an object that gives no known
field twice, or an array with the fields in order, of which the last ones may be missing. Unknown
fields of an object are skipped. A field is required, has a default for when it is missing, or is
optional; only an optional field may be `null`.

* `Json.isRecord`: the value is a record of the named fields.
* `Json.slot`: the value given for a field, if any.
* `required`, `withDefault`, `optional`: the three kinds of fields.
-/

namespace ListenDeck.Json

/-- The value can be a record of the named fields. -/
def isRecord (names : List String) : Json → Bool
  | .object fields => names.all fun n => (fields.filter (·.1 == n)).length ≤ 1
  | .array items => items.length ≤ names.length
  | _ => false

/-- What a record gives for the field at a place of its declaration. -/
def slot (j : Json) (place : Nat) (name : String) : Option Json :=
  match j with
  | .array items => items[place]?
  | j => j.get? name

/-! ## Kinds of fields -/

/-- A field that must be given. -/
def required {α : Type} (read : Json → Option α) : Option Json → Option α
  | some j => read j
  | none => none

/-- A field that has a default when it is not given. -/
def withDefault {α : Type} (default : α) (read : Json → Option α) : Option Json → Option α
  | some j => read j
  | none => some default

/-- A field that may be missing or `null`. -/
def optional {α : Type} (read : Json → Option α) : Option Json → Option (Option α)
  | none => some none
  | some .null => some none
  | some j => (read j).map some

/-! ## Plain values -/

/-- The truth value of `true` and `false`. -/
def bool? : Json → Option Bool
  | .bool b => some b
  | _ => none

/-- The whole number, if it is one. -/
def int? : Json → Option Int
  | .int n => some n
  | _ => none

/-- A whole number from zero up to, and without, a bound. -/
def below? (bound : Nat) (j : Json) : Option Nat :=
  match j with
  | .int (.ofNat n) => if n < bound then some n else none
  | _ => none

/-- A whole number of 32 bits without sign. -/
def uint32? (j : Json) : Option UInt32 := (j.below? UInt32.size).map UInt32.ofNat

/-- A whole number of 64 bits without sign. -/
def uint64? (j : Json) : Option UInt64 := (j.below? UInt64.size).map UInt64.ofNat

/-- A signed whole number of 64 bits. -/
def int64? (j : Json) : Option Int64 :=
  (j.int?.filter fun n => decide (Text.InInt64 n)).map Int64.ofInt

/-- The values of an array, each read in the same way. -/
def list? {α : Type} (read : Json → Option α) : Json → Option (List α)
  | .array items => items.mapM read
  | _ => none

/-! ## Writing -/

/-- A field that is left out when it has no value. -/
def fieldIfSome {α : Type} (name : String) (write : α → Json) : Option α → List (String × Json)
  | some a => [(name, write a)]
  | none => []

/-- A value, or `null` without one. -/
def ofOption {α : Type} (write : α → Json) : Option α → Json
  | some a => write a
  | none => .null

/-- The number of a signed word. -/
def ofInt64 (n : Int64) : Json := .int n.toInt

/-- The number of a word without sign. -/
def ofUInt64 (n : UInt64) : Json := .int n.toNat

/-- The number of a word without sign. -/
def ofUInt32 (n : UInt32) : Json := .int n.toNat

end ListenDeck.Json
