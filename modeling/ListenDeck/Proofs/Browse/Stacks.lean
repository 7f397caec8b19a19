import ListenDeck.Browse.AddressBar
import Mathlib.Tactic.Common

/-!
# The address bar as two stacks

A history is the current entry between two stacks: the entries behind it and those ahead of it, the
nearest on top. The address bar keeps them in one list with a place in it.

* `History`: the two stacks, and what the moves do to them.
* `AddressBar.Lays`: the list is made of the two stacks and the current entry.
* `AddressBar.step_lays`: every move keeps that, with the same answer.
* `AddressBar.lays_two_stacks`: the same for every sequence of moves.
-/

namespace ListenDeck

/-- A history as two stacks, the nearest entry on top, and the current entry between them. -/
structure History where
  behind : List (Option Nat)
  current : Option Nat
  ahead : List (Option Nat)
  deriving DecidableEq, Repr

namespace History

/-- A history of one entry. -/
def start (page : Option Nat) : History := ⟨[], page, []⟩

/-- One move, and what back and forward answer: whether the stack they need had an entry. -/
def step (h : History) : AddressBar.Move → History × Option Bool
  | .push page => (⟨h.current :: h.behind, some page, []⟩, none)
  | .back =>
    match h.behind with
    | [] => (h, some false)
    | entry :: rest => (⟨rest, entry, h.current :: h.ahead⟩, some true)
  | .forward =>
    match h.ahead with
    | [] => (h, some false)
    | entry :: rest => (⟨h.current :: h.behind, entry, rest⟩, some true)

/-- A list of moves, and what they answer. -/
def run (h : History) : List AddressBar.Move → History × List (Option Bool)
  | [] => (h, [])
  | m :: rest => (((h.step m).1.run rest).1, (h.step m).2 :: ((h.step m).1.run rest).2)

end History

namespace AddressBar

/-- A list of moves, and what they answer. -/
def run (b : AddressBar) : List Move → AddressBar × List (Option Bool)
  | [] => (b, [])
  | m :: rest => (((b.step m).1.run rest).1, (b.step m).2 :: ((b.step m).1.run rest).2)

/-- **The address bar lays the two stacks out** in one list, with the current entry at its place. -/
structure Lays (b : AddressBar) (h : History) : Prop where
  entries : b.entries = h.behind.reverse ++ h.current :: h.ahead
  cursor : b.cursor = h.behind.length

section Lays
variable {b : AddressBar} {h : History}

theorem Lays.length (hl : b.Lays h) : b.length = h.behind.length + h.ahead.length + 1 := by
  unfold AddressBar.length
  rw [hl.entries, List.length_append, List.length_reverse, List.length_cons]
  omega

theorem Lays.cursor_lt (hl : b.Lays h) : b.cursor < b.entries.length := by
  have hlength : b.entries.length = h.behind.length + h.ahead.length + 1 := hl.length
  have hcursor := hl.cursor
  omega

theorem Lays.current (hl : b.Lays h) : b.current = h.current := by
  have hplace : b.entries[b.cursor]? = some h.current := by
    rw [hl.entries, hl.cursor, ← List.length_reverse, List.getElem?_append_right (Nat.le_refl _),
      Nat.sub_self]
    rfl
  unfold AddressBar.current
  rw [hplace]
  rfl

/-- Up to its place the list is made of the entries behind and the current one. -/
theorem Lays.take (hl : b.Lays h) :
    b.entries.take (b.cursor + 1) = h.behind.reverse ++ [h.current] := by
  have hsplit : b.entries = (h.behind.reverse ++ [h.current]) ++ h.ahead := by
    rw [hl.entries, List.append_assoc]
    rfl
  have hlength : b.cursor + 1 = (h.behind.reverse ++ [h.current]).length := by
    rw [List.length_append, List.length_reverse, List.length_singleton, hl.cursor]
  rw [hsplit, hlength, List.take_left]

/-! ## One move -/

theorem Lays.push (hl : b.Lays h) (page : Nat) :
    (b.push page).Lays ⟨h.current :: h.behind, some page, []⟩ := by
  have htake := hl.take
  constructor
  · show b.entries.take (b.cursor + 1) ++ [some page] =
      (h.current :: h.behind).reverse ++ some page :: []
    rw [htake, List.reverse_cons]
  · show (b.entries.take (b.cursor + 1)).length = (h.current :: h.behind).length
    rw [htake, List.length_append, List.length_reverse, List.length_singleton, List.length_cons]

theorem Lays.back_nil (hl : b.Lays h) (hb : h.behind = []) : b.back = (b, false) := by
  have hcursor : b.cursor = 0 := by rw [hl.cursor, hb]; rfl
  unfold AddressBar.back
  rw [if_pos hcursor]

theorem Lays.back_cons (hl : b.Lays h) {entry : Option Nat} {rest : List (Option Nat)}
    (hb : h.behind = entry :: rest) :
    b.back.2 = true ∧ b.back.1.Lays ⟨rest, entry, h.current :: h.ahead⟩ := by
  have hcursor : b.cursor = rest.length + 1 := by rw [hl.cursor, hb]; rfl
  have hne : b.cursor ≠ 0 := by omega
  unfold AddressBar.back
  rw [if_neg hne]
  refine ⟨rfl, ?_, ?_⟩
  · show b.entries = rest.reverse ++ entry :: h.current :: h.ahead
    rw [hl.entries, hb, List.reverse_cons, List.append_assoc]
    rfl
  · show b.cursor - 1 = rest.length
    omega

theorem Lays.forward_nil (hl : b.Lays h) (ha : h.ahead = []) : b.forward = (b, false) := by
  have hlength : b.entries.length = h.behind.length + h.ahead.length + 1 := hl.length
  have hcursor := hl.cursor
  rw [ha, List.length_nil] at hlength
  unfold AddressBar.forward
  rw [if_neg (by omega)]

theorem Lays.forward_cons (hl : b.Lays h) {entry : Option Nat} {rest : List (Option Nat)}
    (ha : h.ahead = entry :: rest) :
    b.forward.2 = true ∧ b.forward.1.Lays ⟨h.current :: h.behind, entry, rest⟩ := by
  have hlength : b.entries.length = h.behind.length + h.ahead.length + 1 := hl.length
  have hcursor := hl.cursor
  rw [ha, List.length_cons] at hlength
  unfold AddressBar.forward
  rw [if_pos (by omega)]
  refine ⟨rfl, ?_, ?_⟩
  · show b.entries = (h.current :: h.behind).reverse ++ entry :: rest
    rw [hl.entries, ha, List.reverse_cons, List.append_assoc]
    rfl
  · show b.cursor + 1 = (h.current :: h.behind).length
    rw [List.length_cons]
    omega

/-- **Every move** is the same on the list and on the stacks, and has the same answer. -/
theorem step_lays (hl : b.Lays h) (m : Move) :
    (b.step m).2 = (h.step m).2 ∧ (b.step m).1.Lays (h.step m).1 := by
  cases m with
  | push page => exact ⟨rfl, hl.push page⟩
  | back =>
    simp only [step, History.step]
    cases hb : h.behind with
    | nil =>
      rw [hl.back_nil hb]
      exact ⟨rfl, hl⟩
    | cons entry rest =>
      obtain ⟨hmoved, hlays⟩ := hl.back_cons hb
      exact ⟨congrArg some hmoved, hlays⟩
  | forward =>
    simp only [step, History.step]
    cases ha : h.ahead with
    | nil =>
      rw [hl.forward_nil ha]
      exact ⟨rfl, hl⟩
    | cons entry rest =>
      obtain ⟨hmoved, hlays⟩ := hl.forward_cons ha
      exact ⟨congrArg some hmoved, hlays⟩

/-! ## Whole runs -/

theorem run_lays (hl : b.Lays h) (moves : List Move) :
    (b.run moves).2 = (h.run moves).2 ∧ (b.run moves).1.Lays (h.run moves).1 := by
  induction moves generalizing b h with
  | nil => exact ⟨rfl, hl⟩
  | cons m moves ih =>
    obtain ⟨hanswer, hstep⟩ := step_lays hl m
    obtain ⟨hanswers, hrun⟩ := ih hstep
    refine ⟨?_, hrun⟩
    show (b.step m).2 :: ((b.step m).1.run moves).2 = (h.step m).2 :: ((h.step m).1.run moves).2
    rw [hanswer, hanswers]

end Lays

theorem start_lays (page : Option Nat) : (start page).Lays (History.start page) := ⟨rfl, rfl⟩

/-- **The address bar is two stacks.** After every sequence of moves from every first entry it lays
out the two stacks that the same moves lead to, and gave the same answers. Its place lies within the
list; there are as many entries as in the two stacks, and one more; and the page parameter is the
numeral of the current entry, if it has a page. Back and forward answer that they did not move, and
change nothing, exactly if the stack they need is empty; otherwise, and with a new entry, they lay
out the stacks after the move. -/
theorem lays_two_stacks (page : Option Nat) (moves : List Move) :
    let b := ((start page).run moves).1
    let h := ((History.start page).run moves).1
    ((start page).run moves).2 = ((History.start page).run moves).2 ∧
    (b.entries = h.behind.reverse ++ h.current :: h.ahead ∧ b.cursor = h.behind.length) ∧
    b.cursor < b.entries.length ∧
    b.length = h.behind.length + h.ahead.length + 1 ∧
    b.pageText = h.current.map Text.decimal ∧
    (b.back = (b, false) ↔ h.behind = []) ∧ (b.forward = (b, false) ↔ h.ahead = []) ∧
    ∀ m, (b.step m).2 = (h.step m).2 ∧ (b.step m).1.Lays (h.step m).1 := by
  intro b h
  obtain ⟨hanswers, hl⟩ := run_lays (start_lays page) moves
  refine ⟨hanswers, ⟨hl.entries, hl.cursor⟩, hl.cursor_lt, hl.length, ?_, ?_, ?_,
    fun m => step_lays hl m⟩
  · show b.current.map Text.decimal = h.current.map Text.decimal
    rw [hl.current]
  · constructor
    · intro hback
      cases hb : h.behind with
      | nil => rfl
      | cons entry rest =>
        have hmoved := (hl.back_cons hb).1
        rw [hback] at hmoved
        cases hmoved
    · exact hl.back_nil
  · constructor
    · intro hforward
      cases ha : h.ahead with
      | nil => rfl
      | cons entry rest =>
        have hmoved := (hl.forward_cons ha).1
        rw [hforward] at hmoved
        cases hmoved
    · exact hl.forward_nil

/-- Two pages are entered and left again; a new entry takes the place of both. -/
example : (start none).run [.push 2, .push 3, .back, .back, .back, .push 5, .forward] =
    (⟨[none, some 5], 1⟩, [none, none, some true, some true, some false, none, some false]) := by
  decide

end AddressBar

end ListenDeck
