import ListenDeck.Proofs.Json.RoundTrip
import Mathlib.Data.List.Nodup

/-!
# The fields of a written record

A record is written as a list of fields, some of which are left out.

* `get?_append`, `get?_cons`, `get?_fieldIfSome`: the value of a field.
* `isRecord_of_nodup`: an object that names no field twice is a record.
* `optional_map`: an optional field that was written reads back.
* `readableFields_append`, `readableFields_fieldIfSome`: nothing that is written is unreadable.
-/

namespace ListenDeck.Json

/-! ## Values of fields -/

section Get
variable (name : String)

theorem get?_nil : (object []).get? name = none := rfl

theorem get?_cons (key : String) (j : Json) (rest : List (String × Json)) :
    (object ((key, j) :: rest)).get? name =
      if key = name then some j else (object rest).get? name := by
  simp only [get?, List.find?_cons]
  by_cases h : key = name
  · simp [h]
  · have hne : (key == name) = false := by simpa using h
    rw [hne, if_neg h]

theorem get?_append (fields rest : List (String × Json)) :
    (object (fields ++ rest)).get? name =
      ((object fields).get? name).or ((object rest).get? name) := by
  simp only [get?, List.find?_append]
  cases fields.find? (·.1 == name) <;> rfl

theorem get?_fieldIfSome {α : Type} (key : String) (write : α → Json) (o : Option α) :
    (object (fieldIfSome key write o)).get? name = if key = name then o.map write else none := by
  cases o with
  | none => rw [fieldIfSome, get?_nil]; split_ifs <;> rfl
  | some a => rw [fieldIfSome, get?_cons, get?_nil, Option.map_some]

end Get

/-! ## Names of fields -/

theorem names_fieldIfSome {α : Type} (key : String) (write : α → Json) (o : Option α) :
    ((fieldIfSome key write o).map (·.1)).Sublist [key] := by
  cases o with
  | none => exact List.nil_sublist _
  | some a => exact List.Sublist.refl _

/-- **An object that names no field twice is a record.** -/
theorem isRecord_of_nodup {fields : List (String × Json)} (h : (fields.map (·.1)).Nodup)
    (names : List String) : (object fields).isRecord names = true := by
  simp only [isRecord, List.all_eq_true, decide_eq_true_eq]
  intro n _
  have hcount := List.nodup_iff_count_le_one.mp h n
  rwa [List.count, List.countP_map, List.countP_eq_length_filter] at hcount

/-! ## Optional fields -/

/-- **An optional field that was written reads back.** -/
theorem optional_map {α : Type} {read : Json → Option α} {write : α → Json}
    (h : ∀ a, read (write a) = some a) (hnull : ∀ a, write a ≠ .null) (o : Option α) :
    optional read (o.map write) = some o := by
  cases o with
  | none => rfl
  | some a => exact optional_ofOption h hnull (some a)

theorem int64?_ofInt64 (n : Int64) : int64? (ofInt64 n) = some n := by
  have h : Text.InInt64 n.toInt := ⟨n.le_toInt, n.toInt_lt⟩
  simp [int64?, ofInt64, int?, h]

/-! ## Readable fields -/

theorem readableFields_append (fields rest : List (String × Json)) :
    readableFields (fields ++ rest) = (readableFields fields && readableFields rest) := by
  induction fields with
  | nil => rfl
  | cons f fields ih => rw [List.cons_append, readableFields, readableFields, ih, Bool.and_assoc]

theorem readableFields_fieldIfSome {α : Type} (key : String) {write : α → Json}
    (h : ∀ a, (write a).readable = true) (o : Option α) :
    readableFields (fieldIfSome key write o) = true := by
  cases o with
  | none => rfl
  | some a => rw [fieldIfSome, readableFields, h]; rfl

end ListenDeck.Json
