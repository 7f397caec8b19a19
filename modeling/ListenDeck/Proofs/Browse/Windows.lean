import ListenDeck.Browse.Page
import Mathlib.Algebra.Order.Floor.Div
import Mathlib.Data.List.Basic
import Mathlib.Tactic.Common

/-!
# Windows of a list

A page of a list is a window: so many items from an offset on.

* `flatMap_window`: windows of one size next to each other are the beginning of the list.
* `pageCount_eq_ceilDiv`: the number of pages is the length over the page size, rounded up.
* `flatMap_window_pageCount`: the windows of all pages are the list.
* `start_lt_of_le_pageCount`: every page but the first begins inside the list.
-/

namespace ListenDeck

/-- `count` items of a list from `offset` on, fewer at the end. -/
def window {α : Type*} (l : List α) (offset count : Nat) : List α := (l.drop offset).take count

section Window
variable {α : Type*} (l : List α)

theorem take_window (offset count : Nat) : (window l offset count).take count =
    window l offset count := by
  unfold window
  rw [List.take_take, Nat.min_self]

theorem window_isEmpty {offset count : Nat} (hc : 1 ≤ count) (ho : offset < l.length) :
    (window l offset count).isEmpty = false := by
  have hl : 0 < (window l offset count).length := by
    unfold window
    rw [List.length_take, List.length_drop]
    omega
  rw [List.isEmpty_eq_false_iff]
  exact List.ne_nil_of_length_pos hl

/-- **Windows next to each other** are the beginning of the list. -/
theorem flatMap_window (size n : Nat) :
    (List.range n).flatMap (fun k => window l (k * size) size) = l.take (n * size) := by
  induction n with
  | zero => simp
  | succ n ih =>
    have hnext : [n].flatMap (fun k => window l (k * size) size) = window l (n * size) size := by
      rw [List.flatMap_singleton]
    rw [List.range_succ, List.flatMap_append, ih, hnext, Nat.succ_mul, List.take_add]
    rfl

end Window

/-! ## How many pages there are -/

section Count
variable {total size : Nat}

/-- **The number of pages** is the length over the page size, rounded up, and at least one. -/
theorem pageCount_eq_ceilDiv (ht : total ≤ maxPageNumber) (hs : 1 ≤ size) :
    pageCount total size = max 1 (total ⌈/⌉ size) := by
  have hle : (total + size - 1) / size ≤ max 1 total := by
    rw [Nat.div_le_iff_le_mul_add_pred hs]
    rcases Nat.eq_zero_or_pos total with h0 | h0
    · rw [h0]; omega
    · rw [Nat.max_eq_right h0]
      have := Nat.le_mul_of_pos_left total hs
      omega
  have hone : 1 ≤ maxPageNumber := by decide
  unfold pageCount
  simp only [Nat.max_eq_right hs, Nat.ceilDiv_eq_add_pred_div]
  omega

theorem le_pageCount_mul (ht : total ≤ maxPageNumber) (hs : 1 ≤ size) :
    total ≤ pageCount total size * size := by
  rw [pageCount_eq_ceilDiv ht hs]
  calc total ≤ (total ⌈/⌉ size) * size := by
        rw [Nat.mul_comm]
        exact (ceilDiv_le_iff_le_mul hs).mp (Nat.le_refl _)
    _ ≤ max 1 (total ⌈/⌉ size) * size := Nat.mul_le_mul_right _ (Nat.le_max_right _ _)

theorem start_lt_of_le_pageCount {t : Nat} (hs : 1 ≤ size) (h1 : 1 < t)
    (ht : t ≤ pageCount total size) : (t - 1) * size < total := by
  have hle : t ≤ (total + size - 1) / size := by
    unfold pageCount at ht
    rw [Nat.max_eq_right hs] at ht
    simp only at ht
    omega
  rw [Nat.le_div_iff_mul_le hs] at hle
  rw [Nat.sub_one_mul]
  have := Nat.le_mul_of_pos_left size (Nat.lt_trans Nat.zero_lt_one h1)
  omega

/-- **The windows of all pages are the list.** -/
theorem flatMap_window_pageCount {α : Type*} (l : List α) (hl : l.length ≤ maxPageNumber)
    (hs : 1 ≤ size) :
    (List.range (pageCount l.length size)).flatMap (fun k => window l (k * size) size) = l := by
  rw [flatMap_window]
  exact List.take_of_length_le (le_pageCount_mul hl hs)

end Count

end ListenDeck
